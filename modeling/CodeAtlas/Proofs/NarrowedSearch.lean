import CodeAtlas.Proofs.ViewLaws
import Mathlib.Data.List.DropRight

/-!
Search terms that are typed on. With more typed behind it a term should find fewer nodes, and it
does where its lower case is still the beginning of the longer lower case. There is one exception: a
capital sigma at the end of a word has a form of its own, and letters that carry the word on take
that form away from it.
-/
namespace CodeAtlas

namespace Text

/-- Whether the last word of some characters, which come after `before` (nearest first), ends in a
capital sigma. Characters that a word may hold can still follow the sigma. -/
def leavesSigma (before : List Char) : List Char → Bool
  | [] => false
  | c :: cs =>
    (c == 'Σ' && meetsCased before && cs.all isCaseIgnorable) || leavesSigma (c :: before) cs

/-- Whether `t` goes on with a word of `s` that ends in a capital sigma. -/
def carriesSigmaOn (s t : String) : Bool := leavesSigma [] s.toList && meetsCased t.toList

theorem meetsCased_append (cs ds : List Char) :
    meetsCased (cs ++ ds) = if cs.all isCaseIgnorable then meetsCased ds else meetsCased cs := by
  unfold meetsCased
  rw [List.dropWhile_append]
  by_cases skipped : cs.dropWhile isCaseIgnorable = []
  · have all : cs.all isCaseIgnorable = true := by
      simpa using List.dropWhile_eq_nil_iff.mp skipped
    simp [skipped, all]
  · have some : ¬ cs.all isCaseIgnorable = true := by
      intro all
      exact skipped (List.dropWhile_eq_nil_iff.mpr (by simpa using all))
    obtain ⟨c, rest, left⟩ := List.exists_cons_of_ne_nil skipped
    simp [left, some]

theorem meetsCased_of_ignorable {cs : List Char} (all : cs.all isCaseIgnorable = true) :
    meetsCased cs = false := by
  have skipped : cs.dropWhile isCaseIgnorable = [] :=
    List.dropWhile_eq_nil_iff.mpr (by simpa using all)
  simp [meetsCased, skipped]

/-! ### Lower case of a longer text -/

/-- What follows a sigma decides its form only if it follows the word. -/
theorem lowerSigma_append {before cs ds : List Char}
    (kept : (meetsCased before && cs.all isCaseIgnorable && meetsCased ds) = false) :
    lowerSigma before (cs ++ ds) = lowerSigma before cs := by
  unfold lowerSigma
  rw [meetsCased_append]
  by_cases all : cs.all isCaseIgnorable = true
  · rw [if_pos all, meetsCased_of_ignorable all]
    cases inWord : meetsCased before with
    | false => rfl
    | true =>
      have quiet : meetsCased ds = false := by simpa [inWord, all] using kept
      rw [quiet]
  · rw [if_neg all]

theorem lowerAfter_append {before cs ds : List Char}
    (kept : (leavesSigma before cs && meetsCased ds) = false) :
    lowerAfter before (cs ++ ds) =
      lowerAfter before cs ++ lowerAfter (cs.reverse ++ before) ds := by
  induction cs generalizing before with
  | nil => simp [lowerAfter]
  | cons c cs ih =>
    rw [leavesSigma, Bool.and_or_distrib_right, Bool.or_eq_false_iff] at kept
    obtain ⟨here, later⟩ := kept
    have head : (if c == 'Σ' then [lowerSigma before (cs ++ ds)] else lowerChar c) =
        if c == 'Σ' then [lowerSigma before cs] else lowerChar c := by
      split
      · rename_i sigma
        rw [sigma, Bool.true_and] at here
        rw [lowerSigma_append here]
      · rfl
    simp only [List.cons_append, lowerAfter]
    rw [head, ih later]
    simp

theorem not_prefix_of_carried {before cs ds : List Char} (leaves : leavesSigma before cs = true)
    (goesOn : meetsCased ds = true) : ¬ lowerAfter before cs <+: lowerAfter before (cs ++ ds) := by
  induction cs generalizing before with
  | nil => simp [leavesSigma] at leaves
  | cons c cs ih =>
    simp only [leavesSigma, Bool.or_eq_true, Bool.and_eq_true, beq_iff_eq] at leaves
    intro front
    simp only [List.cons_append, lowerAfter] at front
    rcases leaves with ⟨⟨sigma, inWord⟩, all⟩ | later
    · have final : lowerSigma before cs = 'ς' := by
        simp [lowerSigma, inWord, meetsCased_of_ignorable all]
      have inner : lowerSigma before (cs ++ ds) = 'σ' := by
        simp [lowerSigma, meetsCased_append, all, goesOn]
      simp [sigma, final, inner] at front
    · by_cases sigma : c = 'Σ'
      · simp only [sigma, BEq.rfl, ↓reduceIte, List.singleton_append, List.cons_prefix_cons] at front
        exact ih (sigma ▸ later) front.2
      · simp only [beq_iff_eq, sigma, ↓reduceIte, List.prefix_append_right_inj] at front
        exact ih later front

theorem lowerAfter_prefix_iff {before cs ds : List Char} :
    lowerAfter before cs <+: lowerAfter before (cs ++ ds) ↔
      (leavesSigma before cs && meetsCased ds) = false := by
  constructor
  · intro front
    by_contra carried
    simp only [Bool.not_eq_false, Bool.and_eq_true] at carried
    exact not_prefix_of_carried carried.1 carried.2 front
  · intro kept
    rw [lowerAfter_append kept]
    exact List.prefix_append _ _

/-! ### Blanks at the ends -/

def blankPoints : List Nat :=
  List.range' 9 5 ++ [32, 133, 160, 0x1680] ++ List.range' 0x2000 11 ++
    [0x2028, 0x2029, 0x202f, 0x205f, 0x3000]

theorem blankPoints_end_words : ∀ n ∈ blankPoints,
    caseIgnorableRanges.any (·.contains n) = false ∧ casedRanges.any (·.contains n) = false := by
  decide +kernel

theorem mem_blankPoints {c : Char} (blank : isBlank c = true) : c.toNat ∈ blankPoints := by
  simp only [isBlank, Bool.or_eq_true, Bool.and_eq_true, decide_eq_true_eq, beq_iff_eq] at blank
  simp only [blankPoints, List.mem_append, List.mem_range'_1, List.mem_cons, List.not_mem_nil,
    or_false]
  omega

theorem meetsCased_blank {c : Char} (blank : isBlank c = true) (cs : List Char) :
    isCaseIgnorable c = false ∧ meetsCased (c :: cs) = false := by
  obtain ⟨ends, plain⟩ := blankPoints_end_words c.toNat (mem_blankPoints blank)
  have ends : isCaseIgnorable c = false := ends
  have plain : isCased c = false := plain
  exact ⟨ends, by simp [meetsCased, ends, plain]⟩

theorem meetsCased_blanks {bs : List Char} (blank : ∀ c ∈ bs, isBlank c = true) (cs : List Char)
    (some : bs ≠ []) : meetsCased (bs ++ cs) = false := by
  obtain ⟨b, rest, rfl⟩ := List.exists_cons_of_ne_nil some
  exact (meetsCased_blank (blank b List.mem_cons_self) (rest ++ cs)).2

theorem meetsCased_before_blanks {bs : List Char} (blank : ∀ c ∈ bs, isBlank c = true)
    (cs : List Char) : meetsCased (cs ++ bs) = meetsCased cs := by
  by_cases none : bs = []
  · simp [none]
  · have quiet : meetsCased bs = false := by simpa using meetsCased_blanks blank [] none
    rw [meetsCased_append]
    split
    · rename_i all
      rw [quiet, meetsCased_of_ignorable all]
    · rfl

theorem leavesSigma_after_blanks {bs : List Char} (blank : ∀ c ∈ bs, isBlank c = true)
    (before cs : List Char) : leavesSigma (before ++ bs) cs = leavesSigma before cs := by
  induction cs generalizing before with
  | nil => rfl
  | cons c cs ih =>
    simp only [leavesSigma, meetsCased_before_blanks blank before, ← List.cons_append, ih]

theorem leavesSigma_of_blanks {bs : List Char} (blank : ∀ c ∈ bs, isBlank c = true)
    (before cs : List Char) :
    leavesSigma before (bs ++ cs) = leavesSigma (bs.reverse ++ before) cs := by
  induction bs generalizing before with
  | nil => rfl
  | cons b bs ih =>
    have other : (b == 'Σ') = false := by
      rw [beq_eq_false_iff_ne]
      rintro rfl
      exact absurd (blank 'Σ' List.mem_cons_self) (by decide)
    have tail := ih (fun c member => blank c (List.mem_cons_of_mem b member)) (b :: before)
    simp [leavesSigma, other, tail]

theorem leavesSigma_before_blanks {bs : List Char} (blank : ∀ c ∈ bs, isBlank c = true)
    (some : bs ≠ []) (before cs : List Char) : leavesSigma before (cs ++ bs) = false := by
  induction cs generalizing before with
  | nil =>
    have alone := leavesSigma_of_blanks blank before []
    simpa [leavesSigma] using alone
  | cons c cs ih =>
    obtain ⟨b, rest, rfl⟩ := List.exists_cons_of_ne_nil some
    have ends := (meetsCased_blank (blank b List.mem_cons_self) []).1
    have tail := ih (c :: before)
    simp [leavesSigma, ends, tail]

theorem trimEnd_append (cs ds : List Char) :
    trimEnd (cs ++ ds) = if trimEnd ds = [] then trimEnd cs else cs ++ trimEnd ds := by
  unfold trimEnd
  rw [List.reverse_append, List.dropWhile_append]
  by_cases gone : ds.reverse.dropWhile isBlank = []
  · simp [gone]
  · simp [gone]

theorem trimEnd_split (cs : List Char) :
    ∃ trail, cs = trimEnd cs ++ trail ∧ ∀ c ∈ trail, isBlank c = true := by
  refine ⟨(cs.reverse.takeWhile isBlank).reverse, ?_, ?_⟩
  · rw [trimEnd, ← List.reverse_append, List.takeWhile_append_dropWhile, List.reverse_reverse]
  · intro c member
    exact List.mem_takeWhile_imp (List.mem_reverse.mp member)

theorem trimmed_split (cs : List Char) : ∃ lead trail, cs = lead ++ (trimmed cs ++ trail) ∧
    (∀ c ∈ lead, isBlank c = true) ∧ (∀ c ∈ trail, isBlank c = true) ∧
      trimStart cs = trimmed cs ++ trail := by
  obtain ⟨trail, split, blank⟩ := trimEnd_split (trimStart cs)
  refine ⟨cs.takeWhile isBlank, trail, ?_, ?_, blank, split⟩
  · rw [trimmed, ← split, trimStart, List.takeWhile_append_dropWhile]
  · intro c member
    exact List.mem_takeWhile_imp member

theorem trimEnd_trimmed (cs : List Char) : trimEnd (trimmed cs) = trimmed cs :=
  List.rdropWhile_idempotent isBlank (trimStart cs)

theorem trimmed_append {cs : List Char} (some : trimmed cs ≠ []) (ds : List Char) :
    ∃ rest, trimmed (cs ++ ds) = trimmed cs ++ rest ∧
      (leavesSigma [] (trimmed cs) && meetsCased rest) =
        (leavesSigma [] cs && meetsCased ds) := by
  obtain ⟨lead, trail, split, leadBlank, trailBlank, started⟩ := trimmed_split cs
  refine ⟨trimEnd (trail ++ ds), ?_, ?_⟩
  · have whole : trimStart (cs ++ ds) = trimmed cs ++ (trail ++ ds) := by
      have left : cs.dropWhile isBlank ≠ [] := by
        have start : cs.dropWhile isBlank = trimmed cs ++ trail := started
        simp [start, some]
      have cut : trimStart (cs ++ ds) = trimStart cs ++ ds := by
        simp [trimStart, List.dropWhile_append, left]
      rw [cut, started, List.append_assoc]
    rw [trimmed, whole, trimEnd_append, trimEnd_trimmed]
    split
    · rename_i gone
      simp [gone]
    · rfl
  · obtain ⟨cut, behind, cutBlank⟩ := trimEnd_split (trail ++ ds)
    have heard : meetsCased (trimEnd (trail ++ ds)) = meetsCased (trail ++ ds) := by
      rw [← meetsCased_before_blanks cutBlank, ← behind]
    have opened : leavesSigma [] cs = leavesSigma [] (trimmed cs ++ trail) := by
      rw [split, leavesSigma_of_blanks leadBlank, List.append_nil]
      have reversed : ∀ c ∈ lead.reverse, isBlank c = true := by
        intro c member
        exact leadBlank c (List.mem_reverse.mp member)
      rw [← split, ← List.nil_append lead.reverse, leavesSigma_after_blanks reversed]
    rw [heard, opened]
    by_cases none : trail = []
    · simp [none]
    · rw [meetsCased_blanks trailBlank ds none, leavesSigma_before_blanks trailBlank none]
      simp

theorem leavesSigma_of_trimmed_nil {cs : List Char} (none : trimmed cs = []) :
    leavesSigma [] cs = false := by
  obtain ⟨lead, trail, split, leadBlank, trailBlank, _⟩ := trimmed_split cs
  have blank : ∀ c ∈ cs, isBlank c = true := by
    intro c member
    rw [split, none, List.nil_append, List.mem_append] at member
    exact member.elim (leadBlank c) (trailBlank c)
  simpa [leavesSigma] using leavesSigma_of_blanks blank [] []

end Text

namespace Criteria

def narrowed (c : Criteria) (t : String) : Criteria := { c with term := c.term ++ t }

def needle (c : Criteria) : List Char := Text.lowerAfter [] (Text.trimmed c.term.toList)

theorem occursIn_iff {needle text : List Char} : occursIn needle text = true ↔ needle <:+: text := by
  induction text with
  | nil => simp [occursIn]
  | cons c cs ih => simp [occursIn, List.infix_cons_iff, ih]

theorem termPasses_iff {c : Criteria} {n : Node} : c.termPasses n = true ↔
    Text.trimmed c.term.toList = [] ∨
      ∃ text ∈ searched n, c.needle <:+: Text.lowerAfter [] text.toList := by
  simp [termPasses, needle, Text.trim, Text.lowercase, occursIn_iff]

theorem needle_prefix_iff (c : Criteria) (t : String) :
    c.needle <+: (c.narrowed t).needle ↔ Text.carriesSigmaOn c.term t = false := by
  unfold needle narrowed Text.carriesSigmaOn
  rw [String.toList_append]
  by_cases none : Text.trimmed c.term.toList = []
  · simp [none, Text.lowerAfter, Text.leavesSigma_of_trimmed_nil none]
  · obtain ⟨rest, longer, same⟩ := Text.trimmed_append none t.toList
    rw [longer, Text.lowerAfter_prefix_iff, same]

theorem termPasses_of_narrowed {c : Criteria} {t : String} {n : Node}
    (part : c.needle <:+: (c.narrowed t).needle) (passes : (c.narrowed t).termPasses n = true) :
    c.termPasses n = true := by
  rw [termPasses_iff] at passes ⊢
  by_cases none : Text.trimmed c.term.toList = []
  · exact Or.inl none
  · obtain ⟨rest, longer, _⟩ := Text.trimmed_append none t.toList
    rcases passes with blank | ⟨text, member, found⟩
    · rw [narrowed, String.toList_append, longer] at blank
      exact absurd (List.append_eq_nil_iff.mp blank).1 none
    · exact Or.inr ⟨text, member, part.trans found⟩

theorem nodePasses_of_narrowed {c : Criteria} {t : String} {n : Node}
    (part : c.needle <:+: (c.narrowed t).needle) (passes : (c.narrowed t).nodePasses n = true) :
    c.nodePasses n = true := by
  obtain ⟨shows, found⟩ := nodePasses_iff.mp passes
  exact nodePasses_iff.mpr ⟨shows, termPasses_of_narrowed part found⟩

end Criteria

namespace View

def titled (kind : NodeKind) (name : String) : Node :=
  { id := "a", kind, properties := [("name", .str name)] }

theorem mem_of_titled {kind : NodeKind} {name : String} {c : Criteria} {n : Node} :
    n ∈ (View.of (.ofPayload ⟨[titled kind name], []⟩) c).nodes ↔
      n = titled kind name ∧ c.showsKind kind = true ∧
        (Text.trimmed c.term.toList = [] ∨ c.needle <:+: Text.lowerAfter [] name.toList) := by
  have alone : (Snapshot.ofPayload ⟨[titled kind name], []⟩).nodes.values = [titled kind name] := rfl
  have texts : Criteria.searched (titled kind name) = [name] := rfl
  have found := Criteria.termPasses_iff (c := c) (n := titled kind name)
  simp only [texts, List.mem_singleton, exists_eq_left] at found
  rw [mem_nodes, alone, List.mem_singleton]
  refine and_congr_right ?_
  rintro rfl
  rw [Criteria.nodePasses_iff, found]
  rfl

/-- With more typed behind the search term no node comes to any view, unless the term ends in a
capital sigma and what is typed goes on with its word. More exactly, there is a document of which
the longer term shows a node that the shorter one does not if and only if nodes of some kind are
shown at all and the lower case of the shorter term stands nowhere in that of the longer one. -/
theorem typing_on_adds_nodes_only_past_final_sigma (c : Criteria) (t : String) :
    (Text.carriesSigmaOn c.term t = false →
      ∀ g, (View.of g (c.narrowed t)).nodes ⊆ (View.of g c).nodes) ∧
      ((∃ p n, n ∈ (View.of (.ofPayload p) (c.narrowed t)).nodes ∧
          n ∉ (View.of (.ofPayload p) c).nodes) ↔
        (∃ kind, c.showsKind kind = true) ∧ ¬ c.needle <:+: (c.narrowed t).needle) := by
  have within (part : c.needle <:+: (c.narrowed t).needle) (g : Snapshot) :
      (View.of g (c.narrowed t)).nodes ⊆ (View.of g c).nodes := by
    intro n shown
    obtain ⟨member, passes⟩ := mem_nodes.mp shown
    exact mem_nodes.mpr ⟨member, Criteria.nodePasses_of_narrowed part passes⟩
  refine ⟨?_, ?_, ?_⟩
  · intro whole
    exact within ((c.needle_prefix_iff t).mpr whole).isInfix
  · rintro ⟨p, n, shown, hidden⟩
    obtain ⟨_, passes⟩ := mem_nodes.mp shown
    refine ⟨⟨n.kind, (Criteria.nodePasses_iff.mp passes).1⟩, ?_⟩
    intro part
    exact hidden (within part _ shown)
  · rintro ⟨⟨kind, shows⟩, apart⟩
    -- the longer term itself is the name of a node that only the longer term finds
    let name := Text.trim (c.narrowed t).term
    have letters : Text.lowerAfter [] name.toList = (c.narrowed t).needle := by
      simp [name, Text.trim, Criteria.needle]
    refine ⟨⟨[titled kind name], []⟩, _, mem_of_titled.mpr ⟨rfl, shows, Or.inr ?_⟩, ?_⟩
    · exact letters.symm ▸ List.infix_rfl
    · intro shown
      obtain ⟨_, _, found⟩ := mem_of_titled.mp shown
      rw [letters] at found
      rcases found with blank | part
      · exact apart (by simp [Criteria.needle, blank, Text.lowerAfter])
      · exact apart part

/-- A blank has ended the word before the next one is typed. -/
theorem next_word_typed_behind_final_sigma :
    let c : Criteria := { term := "ΟΔΟΣ " }
    let g := Snapshot.ofPayload ⟨[titled .file "ΟΔΟΣ ΑΒ"], []⟩
    Text.carriesSigmaOn c.term "Α" = false ∧
      (View.of g (c.narrowed "Α")).nodes.map (·.id) = ["a"] ∧
      (View.of g (c.narrowed "Α")).nodes ⊆ (View.of g c).nodes :=
  ⟨by decide +kernel, by decide +kernel,
    (typing_on_adds_nodes_only_past_final_sigma _ _).1 (by decide +kernel) _⟩

/-- The term ends in a final sigma, which the name does not have; one letter more, and it is found. -/
theorem letter_typed_behind_final_sigma_finds_node :
    let c : Criteria := { term := "ΑΣ" }
    let g := Snapshot.ofPayload ⟨[titled .file "ΑΣΑ"], []⟩
    ¬ (View.of g (c.narrowed "Α")).nodes ⊆ (View.of g c).nodes := by
  intro c g within
  have longer : (View.of g (c.narrowed "Α")).nodes.map (·.id) = ["a"] := by decide +kernel
  have shorter : (View.of g c).nodes.map (·.id) = [] := by decide +kernel
  have shown := List.map_subset (·.id) within
  rw [longer, shorter] at shown
  exact absurd (shown List.mem_cons_self) List.not_mem_nil

end View

end CodeAtlas

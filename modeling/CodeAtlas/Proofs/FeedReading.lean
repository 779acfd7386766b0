import CodeAtlas.Graph.Fingerprint
import CodeAtlas.Proofs.TextBytes
import CodeAtlas.Proofs.ViewLaws

/-!
The bytes by which a view enters its fingerprint can be read again: each count has eight bytes, each
text ends in a byte that no text contains, and the rank of a kind tells whether a tag follows. So
two views feed the same bytes only if they show the same structure, and a fingerprint that two
structures share is a collision of the hash.
-/
namespace CodeAtlas

namespace Text

theorem utf8EncodeChar_ne {c : Char} {b : UInt8} (member : b ∈ String.utf8EncodeChar c) :
    b ≠ 0xff := by
  have low {n : Nat} (small : n < 255) : UInt8.ofNat n ≠ 0xff := by
    intro same
    have number := congrArg UInt8.toNat same
    rw [UInt8.toNat_ofNat', Nat.mod_eq_of_lt (by omega)] at number
    have top : UInt8.toNat 0xff = 255 := rfl
    omega
  unfold String.utf8EncodeChar at member
  dsimp only at member
  split at member
  · simp only [List.mem_singleton] at member
    subst member
    exact low (by omega)
  · split at member
    · simp only [List.mem_cons, List.not_mem_nil, or_false] at member
      rcases member with rfl | rfl <;> exact low (by omega)
    · split at member
      · simp only [List.mem_cons, List.not_mem_nil, or_false] at member
        rcases member with rfl | rfl | rfl <;> exact low (by omega)
      · simp only [List.mem_cons, List.not_mem_nil, or_false] at member
        rcases member with rfl | rfl | rfl | rfl <;> exact low (by omega)

theorem endMark_not_mem (s : String) : 0xff ∉ utf8 s := by
  intro member
  rw [utf8_flatMap, List.mem_flatMap] at member
  obtain ⟨c, _, inside⟩ := member
  exact utf8EncodeChar_ne inside rfl

end Text

namespace Hash

variable {α : Type}

/-- Codes that can be read off the front of any bytes: neither the value nor the end of its code is
in doubt. -/
def SelfDelimiting (code : α → List UInt8) : Prop :=
  ∀ a b rest others, code a ++ rest = code b ++ others → a = b ∧ rest = others

theorem SelfDelimiting.list {code : α → List UInt8} (reads : SelfDelimiting code) {as bs : List α}
    (count : as.length = bs.length) {rest others : List UInt8}
    (same : as.flatMap code ++ rest = bs.flatMap code ++ others) : as = bs ∧ rest = others := by
  induction as generalizing bs with
  | nil =>
    obtain rfl := List.eq_nil_of_length_eq_zero count.symm
    exact ⟨rfl, same⟩
  | cons a as ih =>
    cases bs with
    | nil => simp at count
    | cons b bs =>
      simp only [List.flatMap_cons, List.append_assoc] at same
      obtain ⟨head, tail⟩ := reads a b _ _ same
      obtain ⟨rest, behind⟩ := ih (by simpa using count) tail
      exact ⟨by rw [head, rest], behind⟩

theorem mod_eq_of_digits {base m n : Nat} (count : Nat) (digits : ∀ i < count,
      m / Nat.pow base i % base = n / Nat.pow base i % base) :
    m % Nat.pow base count = n % Nat.pow base count := by
  induction count with
  | zero => simp [Nat.mod_one]
  | succ count ih =>
    have lower := ih fun i inside => digits i (Nat.lt_succ_of_lt inside)
    have next := digits count (Nat.lt_succ_self count)
    simp only [Nat.pow_eq] at lower next ⊢
    rw [Nat.mod_pow_succ, Nat.mod_pow_succ, lower, next]

theorem feedNat_reads {m n : Nat} (fits : m < UInt64.size) (others : n < UInt64.size)
    {rest behind : List UInt8} (same : feedNat m ++ rest = feedNat n ++ behind) :
    m = n ∧ rest = behind := by
  obtain ⟨bytes, tail⟩ := List.append_inj same (by simp [feedNat])
  refine ⟨?_, tail⟩
  have digit (i : Nat) (inside : i < 8) :
      m / Nat.pow 256 i % 256 = n / Nat.pow 256 i % 256 := by
    have byte := congrArg (fun bs => bs[i]?.map UInt8.toNat) bytes
    simpa [feedNat, inside] using byte
  have same := mod_eq_of_digits 8 digit
  have whole : Nat.pow 256 8 = UInt64.size := rfl
  rwa [whole, Nat.mod_eq_of_lt fits, Nat.mod_eq_of_lt others] at same

theorem split_at_mark {mark : UInt8} {text other rest others : List UInt8} (clear : mark ∉ text)
    (clear' : mark ∉ other) (same : text ++ mark :: rest = other ++ mark :: others) :
    text = other ∧ rest = others := by
  induction text generalizing other with
  | nil =>
    cases other with
    | nil => exact ⟨rfl, (List.cons.inj same).2⟩
    | cons b other =>
      have first : mark = b := (List.cons.inj same).1
      simp [first] at clear'
  | cons a text ih =>
    cases other with
    | nil =>
      have first : a = mark := (List.cons.inj same).1
      simp [first] at clear
    | cons b other =>
      obtain ⟨first, tail⟩ := List.cons.inj same
      simp only [List.mem_cons, not_or] at clear clear'
      obtain ⟨texts, behind⟩ := ih clear.2 clear'.2 tail
      exact ⟨by rw [first, texts], behind⟩

theorem feedText_reads : SelfDelimiting feedText := by
  intro s t rest others same
  simp only [feedText, List.append_assoc, List.singleton_append] at same
  obtain ⟨text, behind⟩ := split_at_mark (Text.endMark_not_mem s) (Text.endMark_not_mem t) same
  exact ⟨Text.utf8_injective text, behind⟩

/-- Kinds are fed by their rank in eight bytes. Two of one rank are the same, or are told apart by the
texts that follow. -/
theorem SelfDelimiting.ranked {rank : α → Nat} {tail : α → List UInt8}
    (small : ∀ a, rank a < UInt64.size)
    (told : ∀ a b, rank a = rank b → (a = b ∧ tail a = []) ∨
      ∃ s t, tail a = feedText s ∧ tail b = feedText t ∧ (s = t → a = b)) :
    SelfDelimiting fun a => feedNat (rank a) ++ tail a := by
  intro a b rest others same
  simp only [List.append_assoc] at same
  obtain ⟨ranks, tails⟩ := feedNat_reads (small a) (small b) same
  rcases told a b ranks with ⟨rfl, none⟩ | ⟨s, t, first, second, named⟩
  · rw [none] at tails
    exact ⟨rfl, tails⟩
  · rw [first, second] at tails
    obtain ⟨texts, behind⟩ := feedText_reads s t rest others tails
    exact ⟨named texts, behind⟩

end Hash

open Hash

theorem NodeKind.feed_reads : SelfDelimiting NodeKind.feed := by
  apply SelfDelimiting.ranked
  · intro k
    cases k <;> simp [rank, UInt64.size]
  · intro a b ranks
    cases a <;> cases b <;> simp [rank] at ranks
    case other.other s t => exact Or.inr ⟨s, t, rfl, rfl, congrArg other⟩
    all_goals exact Or.inl ⟨rfl, rfl⟩

theorem LinkKind.feed_reads : SelfDelimiting LinkKind.feed := by
  apply SelfDelimiting.ranked
  · intro k
    cases k <;> simp [rank, UInt64.size]
  · intro a b ranks
    cases a <;> cases b <;> simp [rank] at ranks
    case other.other s t => exact Or.inr ⟨s, t, rfl, rfl, congrArg other⟩
    all_goals exact Or.inl ⟨rfl, rfl⟩

theorem LinkKey.feed_reads : SelfDelimiting LinkKey.feed := by
  intro a b rest others same
  simp only [LinkKey.feed, List.append_assoc] at same
  obtain ⟨source, same⟩ := feedText_reads _ _ _ _ same
  obtain ⟨target, same⟩ := feedText_reads _ _ _ _ same
  obtain ⟨kind, behind⟩ := LinkKind.feed_reads _ _ _ _ same
  refine ⟨?_, behind⟩
  cases a
  cases b
  simp_all

namespace View

def nodeFeed (node : String × NodeKind) : List UInt8 := feedText node.1 ++ node.2.feed

theorem nodeFeed_reads : SelfDelimiting nodeFeed := by
  intro a b rest others same
  simp only [nodeFeed, List.append_assoc] at same
  obtain ⟨id, same⟩ := feedText_reads _ _ _ _ same
  obtain ⟨kind, behind⟩ := NodeKind.feed_reads _ _ _ _ same
  exact ⟨Prod.ext id kind, behind⟩

theorem feed_eq (v : View) : v.feed =
    feedNat v.shape.1.length ++ (v.shape.1.flatMap nodeFeed ++
      (feedNat v.shape.2.length ++ v.shape.2.flatMap LinkKey.feed)) := by
  simp [feed, shape, nodeFeed, List.flatMap_map]

def CountsFit (v : View) : Prop := v.nodes.length < UInt64.size ∧ v.links.length < UInt64.size

/-- Two views, as large as eight bytes can count, feed the same bytes to the hash if and only if they
show the same nodes, by identity and kind, and the same links, by their ends and kinds, in the same
order. So if two of them with one fingerprint show different structures, the hash itself takes two
different inputs to one number. -/
theorem feed_tells_structure {v w : View} (fits : v.CountsFit) (others : w.CountsFit) :
    (v.feed = w.feed ↔ v.shape = w.shape) ∧
      (v.fingerprint = w.fingerprint ↔
        v.shape = w.shape ∨ v.feed ≠ w.feed ∧ Hash.sip v.feed = Hash.sip w.feed) := by
  have tells : v.feed = w.feed ↔ v.shape = w.shape := by
    constructor
    · intro same
      rw [feed_eq, feed_eq] at same
      obtain ⟨nodeCount, same⟩ := feedNat_reads (by simpa [shape] using fits.1)
        (by simpa [shape] using others.1) same
      obtain ⟨nodes, same⟩ := nodeFeed_reads.list nodeCount same
      obtain ⟨linkCount, same⟩ := feedNat_reads (by simpa [shape] using fits.2)
        (by simpa [shape] using others.2) same
      obtain ⟨links, _⟩ := LinkKey.feed_reads.list linkCount (congrArg (· ++ []) same)
      exact Prod.ext nodes links
    · intro same
      rw [feed_eq, feed_eq, same]
  refine ⟨tells, ?_⟩
  rw [← tells, fingerprint, fingerprint]
  by_cases same : v.feed = w.feed
  · simp [same]
  · simp [same]

/-- The two ends of a link are the same letters with another boundary between them. -/
theorem moved_boundary_feeds_other_bytes :
    let link (source target : String) : Link := ⟨.bare source, .bare target, .calls⟩
    let v : View := ⟨[], [link "a" "bc"]⟩
    let w : View := ⟨[], [link "ab" "c"]⟩
    v.CountsFit ∧ w.CountsFit ∧ v.feed ≠ w.feed := by
  intro link v w
  have fits : v.CountsFit := ⟨by decide, by decide⟩
  have others : w.CountsFit := ⟨by decide, by decide⟩
  refine ⟨fits, others, ?_⟩
  intro same
  have shapes := (feed_tells_structure fits others).1.mp same
  exact absurd shapes (by decide)

end View

end CodeAtlas

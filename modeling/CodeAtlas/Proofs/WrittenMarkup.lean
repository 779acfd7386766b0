import CodeAtlas.Proofs.TextParts
import CodeAtlas.Xml.Document
import Mathlib.Tactic.ByContra

/-!
Markup that is written out reads back. A tree of elements and texts is written with plain names,
with values between quotes and texts between tags that hold no mark of their own; then the reader
finds exactly its tags and texts, each element closed by its own tag.
-/
namespace CodeAtlas.Xml

inductive Markup where
  | text (content : String)
  /-- `<name attrs/>` -/
  | void (name : String) (attrs : List (String × String))
  | element (name : String) (attrs : List (String × String)) (children : List Markup)

def attributeWritten (a : String × String) : List Char :=
  ' ' :: (a.1.toList ++ '=' :: '"' :: (a.2.toList ++ ['"']))

def tagWritten (name : String) (attrs : List (String × String)) (ending : List Char) : List Char :=
  name.toList ++ (attrs.flatMap attributeWritten ++ ending)

def attributesOf (attrs : List (String × String)) : List (Name × List Char) :=
  attrs.map fun a => (⟨"", a.1⟩, a.2.toList)

mutual

def Markup.written : Markup → List Char
  | .text content => content.toList
  | .void name attrs => '<' :: tagWritten name attrs ['/', '>']
  | .element name attrs children =>
    '<' :: (tagWritten name attrs ['>'] ++
      (writtenAll children ++ '<' :: '/' :: (name.toList ++ ['>'])))

def writtenAll : List Markup → List Char
  | [] => []
  | m :: rest => m.written ++ writtenAll rest

end

mutual

/-- The tags and texts of markup. A text without characters is none. -/
def Markup.tokens : Markup → List Token
  | .text content => if content = "" then [] else [.text content.toList]
  | .void name attrs => [.start ⟨"", name⟩ (attributesOf attrs) .empty]
  | .element name attrs children =>
    .start ⟨"", name⟩ (attributesOf attrs) .opened :: (tokensAll children ++ [.stop ⟨"", name⟩])

def tokensAll : List Markup → List Token
  | [] => []
  | m :: rest => m.tokens ++ tokensAll rest

end

mutual

def Markup.map (f : String → String) : Markup → Markup
  | .text content => .text (f content)
  | .void name attrs => .void name (attrs.map fun a => (a.1, f a.2))
  | .element name attrs children =>
    .element name (attrs.map fun a => (a.1, f a.2)) (mapAll f children)

def mapAll (f : String → String) : List Markup → List Markup
  | [] => []
  | m :: rest => m.map f :: mapAll f rest

end

theorem mapAll_eq_map (f : String → String) (ms : List Markup) :
    mapAll f ms = ms.map (Markup.map f) := by
  induction ms with
  | nil => rfl
  | cons m ms ih => rw [mapAll, ih, List.map_cons]

/-! ### Names -/

def isPlainName (name : String) : Bool :=
  startsName name.toList && name.toList.all fun c => isNameChar c && c ≠ ':'

theorem name_written {name : String} (plain : isPlainName name = true) (rest : List Char)
    (stop : ∀ c ∈ rest.head?, isNameChar c = false) :
    name? (name.toList ++ rest) = some (⟨"", name⟩, rest) := by
  obtain ⟨starts, inner⟩ := Bool.and_eq_true_iff.mp plain
  simp only [List.all_eq_true, Bool.and_eq_true, decide_eq_true_eq] at inner
  obtain ⟨word, left⟩ := Text.stretch_ends (fun c member => (inner c member).1) rest stop
  have one : Text.parts (· = ':') name.toList = [name.toList] :=
    Text.parts_of_plain fun c member => by simpa using (inner c member).2
  simp only [name?, word, left, one, starts, ↓reduceIte, String.ofList_toList]

theorem head_of_plain {name : String} (plain : isPlainName name = true) :
    ∃ c cs, name.toList = c :: cs ∧ isNameStart c = true := by
  have starts := (Bool.and_eq_true_iff.mp plain).1
  cases chars : name.toList with
  | nil => simp [startsName, chars] at starts
  | cons c cs => exact ⟨c, cs, rfl, by simpa [startsName, chars] using starts⟩

/-! ### Attributes -/

def isInert (c : Char) : Bool := isChar c && c ≠ '<' && c ≠ '>' && c ≠ '"'

def Inert (s : String) : Prop := ∀ c ∈ s.toList, isInert c = true

theorem skipSpace_of_mark {c : Char} (mark : isSpace c = false) (cs : List Char) :
    skipSpace (c :: cs) = c :: cs := by
  simp [skipSpace, mark]

theorem quoted_written {value : String} (inert : Inert value) (rest : List Char) :
    quoted? (fun c => c = '<' || !isChar c) ('"' :: (value.toList ++ '"' :: rest)) =
      some (value.toList, rest) := by
  have inside : ∀ c ∈ value.toList, (c ≠ '"' && !(c = '<' || !isChar c)) = true := by
    intro c member
    have here := inert c member
    simp only [isInert, Bool.and_eq_true, decide_eq_true_eq] at here
    simp [here.1.1.1, here.1.1.2, here.2]
  obtain ⟨word, left⟩ := Text.stretch_ends inside ('"' :: rest) (by simp)
  rw [quoted?, if_pos (by decide), left, word]
  exact if_pos rfl

theorem after_written (opening : String) (rest : List Char) :
    after? opening (opening.toList ++ rest) = some rest := by
  simp [after?]

theorem attribute_written {a : String × String} (plain : isPlainName a.1 = true)
    (inert : Inert a.2) (rest : List Char) :
    attribute? (a.1.toList ++ '=' :: '"' :: (a.2.toList ++ '"' :: rest)) =
      some ((⟨"", a.1⟩, a.2.toList), rest) := by
  have named := name_written plain ('=' :: '"' :: (a.2.toList ++ '"' :: rest)) (by
    intro c first
    cases first
    decide)
  have equals : after? "=" (skipSpace ('=' :: '"' :: (a.2.toList ++ '"' :: rest))) =
      some ('"' :: (a.2.toList ++ '"' :: rest)) := by
    rw [skipSpace_of_mark (by decide)]
    exact after_written "=" _
  have quoted := quoted_written inert rest
  rw [← skipSpace_of_mark (c := '"') (by decide)] at quoted
  simp only [attribute?, named, equals, quoted, Option.bind_eq_bind, Option.bind_some, pure]

def Attributes (attrs : List (String × String)) : Prop :=
  ∀ a ∈ attrs, isPlainName a.1 = true ∧ Inert a.2

theorem mark_of_start {c : Char} (starts : isNameStart c = true) :
    isSpace c = false ∧ c ≠ '>' ∧ c ≠ '/' ∧ c ≠ '!' ∧ c ≠ '?' := by
  refine ⟨?_, ?_, ?_, ?_, ?_⟩
  · by_contra space
    simp only [isSpace, Bool.not_eq_false, Bool.or_eq_true, beq_iff_eq] at space
    rcases space with ((rfl | rfl) | rfl) | rfl <;> revert starts <;> decide
  all_goals
    rintro rfl
    revert starts
    decide

theorem attributesFrom_cons {a : String × String} (plain : isPlainName a.1 = true)
    (inert : Inert a.2) (fuel : Nat) (rest : List Char) :
    attributesFrom (fuel + 1) (attributeWritten a ++ rest) =
      (attributesFrom fuel rest).map fun r => ((⟨"", a.1⟩, a.2.toList) :: r.1, r.2) := by
  obtain ⟨c, cs, chars, starts⟩ := head_of_plain plain
  obtain ⟨apart, notOpened, notEmpty, -⟩ := mark_of_start starts
  let here := a.1.toList ++ '=' :: '"' :: (a.2.toList ++ '"' :: rest)
  have read : attribute? here = some ((⟨"", a.1⟩, a.2.toList), rest) :=
    attribute_written plain inert rest
  have written : attributeWritten a ++ rest = ' ' :: here := by
    simp [attributeWritten, here]
  have first : here = c :: (cs ++ '=' :: '"' :: (a.2.toList ++ '"' :: rest)) := by
    simp only [here, chars, List.cons_append]
  have skipped : skipSpace (' ' :: here) = here := by
    rw [first]
    exact skipSpace_of_mark apart _
  clear_value here
  rw [written, attributesFrom, skipped]
  · split
    · exact absurd (List.cons.inj first).1.symm notOpened
    · exact absurd (List.cons.inj first).1.symm notEmpty
    · rw [if_neg (by simp [isSpace])]
      simp only [read, Option.bind_eq_bind, Option.bind_some]
      cases attributesFrom fuel rest <;> rfl
  · exact List.cons_ne_nil _ _

theorem attributesFrom_written {attrs : List (String × String)} (sound : Attributes attrs)
    {fuel : Nat} (enough : attrs.length < fuel) {ending : List Char} {how : Ending}
    {rest : List Char}
    (ends : ∀ n, attributesFrom (n + 1) (ending ++ rest) = some ([], how, rest)) :
    attributesFrom fuel (attrs.flatMap attributeWritten ++ (ending ++ rest)) =
      some (attributesOf attrs, how, rest) := by
  induction attrs generalizing fuel with
  | nil =>
    obtain ⟨n, rfl⟩ := Nat.exists_eq_add_of_lt enough
    simpa [attributesOf] using ends n
  | cons a more ih =>
    obtain ⟨⟨plain, inert⟩, others⟩ := List.forall_mem_cons.mp sound
    obtain ⟨n, rfl⟩ : ∃ n, fuel = n + 1 := ⟨fuel - 1, by omega⟩
    have room : more.length < n := Nat.lt_of_succ_lt_succ enough
    have later := ih others room
    rw [List.flatMap_cons, List.append_assoc, attributesFrom_cons plain inert, later]
    rfl

/-! ### Tags and texts -/

theorem tag_written {name : String} (plain : isPlainName name = true)
    {attrs : List (String × String)} (sound : Attributes attrs) {fuel : Nat}
    (enough : attrs.length ≤ fuel) {ending : List Char} {how : Ending} {rest : List Char}
    (apart : ∀ c ∈ (ending ++ rest).head?, isNameChar c = false)
    (ends : ∀ n, attributesFrom (n + 1) (ending ++ rest) = some ([], how, rest)) :
    tagFrom fuel (tagWritten name attrs ending ++ rest) =
      some (.start ⟨"", name⟩ (attributesOf attrs) how, rest) := by
  have stop : ∀ c ∈ (attrs.flatMap attributeWritten ++ (ending ++ rest)).head?,
      isNameChar c = false := by
    cases attrs with
    | nil => exact apart
    | cons a more =>
      intro c first
      cases first
      decide
  have split : tagWritten name attrs ending ++ rest =
      name.toList ++ (attrs.flatMap attributeWritten ++ (ending ++ rest)) := by
    simp [tagWritten]
  have attributes := attributesFrom_written sound (Nat.lt_succ_of_le enough) ends
  rw [split]
  simp only [tagFrom, name_written plain _ stop, attributes, Option.bind_eq_bind, Option.bind_some]
  rfl

theorem opened_ends (n : Nat) (rest : List Char) :
    attributesFrom (n + 1) (['>'] ++ rest) = some ([], .opened, rest) := by
  rfl

theorem empty_ends (n : Nat) (rest : List Char) :
    attributesFrom (n + 1) (['/', '>'] ++ rest) = some ([], .empty, rest) := by
  rfl

theorem next_start {name : String} (plain : isPlainName name = true) (fuel : Nat)
    (cs : List Char) :
    nextFrom fuel ('<' :: (name.toList ++ cs)) = tagFrom fuel (name.toList ++ cs) := by
  obtain ⟨c, tail, chars, starts⟩ := head_of_plain plain
  obtain ⟨-, -, notStop, notBang, notAsk⟩ := mark_of_start starts
  rw [chars, List.cons_append]
  unfold nextFrom
  split
  · rename_i bang
    exact absurd (List.cons.inj (List.cons.inj bang).2).1 notBang
  · rename_i ask
    exact absurd (List.cons.inj (List.cons.inj ask).2).1 notAsk
  · rename_i stop
    exact absurd (List.cons.inj (List.cons.inj stop).2).1 notStop
  · rename_i start
    rw [(List.cons.inj start).2]
  · rename_i text
    exact absurd rfl (text _)

theorem next_stop {name : String} (plain : isPlainName name = true) (fuel : Nat)
    (rest : List Char) :
    nextFrom fuel ('<' :: '/' :: (name.toList ++ '>' :: rest)) = some (.stop ⟨"", name⟩, rest) := by
  have named := name_written plain ('>' :: rest) (by
    intro c first
    cases first
    decide)
  have closed : after? ">" (skipSpace ('>' :: rest)) = some rest := by
    rw [skipSpace_of_mark (by decide)]
    exact after_written ">" rest
  simp only [nextFrom, named, closed, Option.bind_eq_bind, Option.bind_some, pure]

theorem holds_eq_false {mark cs : List Char} {c : Char} (part : c ∈ mark) (absent : c ∉ cs) :
    holds mark cs = false := by
  have nowhere : divide? mark cs = none := by
    induction cs with
    | nil => rfl
    | cons d cs ih =>
      have other : ¬mark.isPrefixOf (d :: cs) = true := fun starts =>
        absent ((List.isPrefixOf_iff_prefix.mp starts).subset part)
      rw [divide?, if_neg other, ih fun later => absent (List.mem_cons_of_mem d later)]
      rfl
  rw [holds, nowhere]
  rfl

theorem next_text {content : String} (inert : Inert content) (filled : content ≠ "") (fuel : Nat)
    {rest : List Char} (tag : rest.head? = some '<') :
    nextFrom fuel (content.toList ++ rest) = some (.text content.toList, rest) := by
  have inside (c : Char) (member : c ∈ content.toList) : isChar c = true ∧ c ≠ '<' ∧ c ≠ '>' := by
    have here := inert c member
    simp only [isInert, Bool.and_eq_true, decide_eq_true_eq] at here
    exact ⟨here.1.1.1, here.1.1.2, here.1.2⟩
  have stop : ∀ c ∈ rest.head?, decide (c ≠ '<') = false := by
    intro c first
    rw [tag] at first
    cases first
    rfl
  obtain ⟨word, left⟩ :=
    Text.stretch_ends (fun c member => decide_eq_true (inside c member).2.1) rest stop
  obtain ⟨c, cs, chars⟩ : ∃ c cs, content.toList = c :: cs := by
    cases chars : content.toList with
    | nil => exact absurd (String.toList_eq_nil_iff.mp chars) filled
    | cons c cs => exact ⟨c, cs, rfl⟩
  have plain : c ≠ '<' := (inside c (chars ▸ List.mem_cons_self)).2.1
  have accepted : (content.toList.all isChar && !holds "]]>".toList content.toList) = true := by
    rw [holds_eq_false (c := '>') (by decide) fun member => (inside _ member).2.2 rfl]
    simpa using fun c member => (inside c member).1
  have untagged (tail : List Char) : content.toList ++ rest ≠ '<' :: tail := by
    rw [chars]
    exact fun same => plain (List.cons.inj same).1
  unfold nextFrom
  split
  · rename_i bang
    exact absurd bang (untagged _)
  · rename_i ask
    exact absurd ask (untagged _)
  · rename_i stop
    exact absurd stop (untagged _)
  · rename_i start
    exact absurd start (untagged _)
  · rw [word, left]
    exact if_pos accepted

/-! ### Content -/

def prepend (tokens : List Token) (read : Option (List Token × List Char)) :
    Option (List Token × List Char) :=
  read.map fun r => (tokens ++ r.1, r.2)

theorem prepend_nil (read : Option (List Token × List Char)) : prepend [] read = read := by
  cases read <;> rfl

theorem prepend_append (first second : List Token) (read : Option (List Token × List Char)) :
    prepend (first ++ second) read = prepend first (prepend second read) := by
  cases read <;> simp [prepend]

/-- How many elements are open after a token, where so many are open before it. Where none is, no
token can close one. -/
def Token.levelAfter (depth : Nat) : Token → Option Nat
  | .start _ _ .opened => some (depth + 1)
  | .stop _ => if depth = 0 then none else some (depth - 1)
  | _ => some depth

theorem content_next {fuel depth inner : Nat} {cs rest : List Char} {token : Token}
    (next : nextFrom fuel cs = some (token, rest)) (filled : cs ≠ [])
    (level : token.levelAfter depth = some inner) :
    contentFrom (fuel + 1) depth cs = prepend [token] (contentFrom fuel inner rest) := by
  have step : contentFrom (fuel + 1) depth cs =
      (contentFrom fuel inner rest).bind fun r => some (r.map (token :: ·) id) := by
    rw [contentFrom, next]
    · cases token with
      | start name attrs ending => cases ending <;> cases level <;> rfl
      | stop name =>
        cases depth with
        | zero => cases level
        | succ depth =>
          cases level
          rfl
      | text | data | remark =>
        cases level
        rfl
    · exact filled
  rw [step]
  cases contentFrom fuel inner rest <;> rfl

theorem content_end {fuel : Nat} {cs rest : List Char} {name : Name}
    (next : nextFrom fuel cs = some (.stop name, rest)) (filled : cs ≠ []) :
    contentFrom (fuel + 1) 0 cs = some ([.stop name], rest) := by
  rw [contentFrom, next]
  · rfl
  · exact filled

/-- From so many open elements to so many, the reader takes a text for these tokens and goes on with
the rest. Fuel for every character suffices, and fuel for the rest is left. -/
def Reads (depth inner : Nat) (cs : List Char) (tokens : List Token) (rest : List Char) : Prop :=
  ∀ fuel, (cs ++ rest).length ≤ fuel → ∃ left, rest.length ≤ left ∧
    contentFrom fuel depth (cs ++ rest) = prepend tokens (contentFrom left inner rest)

theorem reads_nil (depth : Nat) (rest : List Char) : Reads depth depth [] [] rest := by
  intro fuel enough
  exact ⟨fuel, enough, (prepend_nil _).symm⟩

theorem Reads.append {depth middle inner : Nat} {first second rest : List Char}
    {tokens more : List Token} (one : Reads depth middle first tokens (second ++ rest))
    (other : Reads middle inner second more rest) :
    Reads depth inner (first ++ second) (tokens ++ more) rest := by
  intro fuel enough
  rw [List.append_assoc] at enough ⊢
  obtain ⟨between, room, firstRead⟩ := one fuel enough
  obtain ⟨left, remains, secondRead⟩ := other between room
  exact ⟨left, remains, by rw [firstRead, secondRead, prepend_append]⟩

theorem reads_token {depth inner : Nat} {cs rest : List Char} {token : Token} (filled : cs ≠ [])
    (next : ∀ fuel, cs.length ≤ fuel + 1 → nextFrom fuel (cs ++ rest) = some (token, rest))
    (level : token.levelAfter depth = some inner) : Reads depth inner cs [token] rest := by
  intro fuel enough
  have some : 0 < cs.length := List.length_pos_iff.mpr filled
  rw [List.length_append] at enough
  obtain ⟨left, rfl⟩ : ∃ left, fuel = left + 1 := ⟨fuel - 1, by omega⟩
  refine ⟨left, by omega, ?_⟩
  exact content_next (next left (by omega)) (by simp [filled]) level

/-! ### Trees -/

def Markup.isText : Markup → Bool
  | .text _ => true
  | .void .. | .element .. => false

mutual

/-- Names are plain, values and texts hold no marks, and no text follows another one. -/
def Markup.Sound : Markup → Prop
  | .text content => Inert content
  | .void name attrs => isPlainName name = true ∧ Attributes attrs
  | .element name attrs children =>
    isPlainName name = true ∧ Attributes attrs ∧ SoundAll children

def SoundAll : List Markup → Prop
  | [] => True
  | m :: rest =>
    m.Sound ∧ (m.isText = true → ∀ next ∈ rest.head?, next.isText = false) ∧ SoundAll rest

end

theorem length_le_tagWritten (name : String) (attrs : List (String × String))
    (ending : List Char) : attrs.length ≤ (tagWritten name attrs ending).length := by
  have each : attrs.length ≤ (attrs.flatMap attributeWritten).length := by
    induction attrs with
    | nil => exact Nat.le_refl _
    | cons a more ih =>
      simp only [List.length_cons, List.flatMap_cons, List.length_append, attributeWritten]
      omega
  simp only [tagWritten, List.length_append]
  omega

theorem tag_reads {name : String} (plain : isPlainName name = true)
    {attrs : List (String × String)} (sound : Attributes attrs) {ending rest : List Char}
    {how : Ending} (apart : ∀ c ∈ (ending ++ rest).head?, isNameChar c = false)
    (ends : ∀ n, attributesFrom (n + 1) (ending ++ rest) = some ([], how, rest))
    {depth inner : Nat}
    (level : (Token.start ⟨"", name⟩ (attributesOf attrs) how).levelAfter depth = some inner) :
    Reads depth inner ('<' :: tagWritten name attrs ending)
      [.start ⟨"", name⟩ (attributesOf attrs) how] rest := by
  refine reads_token (List.cons_ne_nil _ _) ?_ level
  intro fuel enough
  have room : attrs.length ≤ fuel := by
    have := length_le_tagWritten name attrs ending
    simp only [List.length_cons] at enough
    omega
  rw [List.cons_append, ← tag_written plain sound room apart ends]
  simp only [tagWritten, List.append_assoc]
  exact next_start plain fuel _

theorem opened_reads {name : String} (plain : isPlainName name = true)
    {attrs : List (String × String)} (sound : Attributes attrs) (depth : Nat) (rest : List Char) :
    Reads depth (depth + 1) ('<' :: tagWritten name attrs ['>'])
      [.start ⟨"", name⟩ (attributesOf attrs) .opened] rest := by
  refine tag_reads plain sound ?_ (fun n => opened_ends n rest) rfl
  intro c first
  cases first
  decide

theorem empty_reads {name : String} (plain : isPlainName name = true)
    {attrs : List (String × String)} (sound : Attributes attrs) (depth : Nat) (rest : List Char) :
    Reads depth depth ('<' :: tagWritten name attrs ['/', '>'])
      [.start ⟨"", name⟩ (attributesOf attrs) .empty] rest := by
  refine tag_reads plain sound ?_ (fun n => empty_ends n rest) rfl
  intro c first
  cases first
  decide

theorem stop_reads {name : String} (plain : isPlainName name = true) (depth : Nat)
    (rest : List Char) : Reads (depth + 1) depth ('<' :: '/' :: (name.toList ++ ['>']))
      [.stop ⟨"", name⟩] rest := by
  refine reads_token (List.cons_ne_nil _ _) ?_ rfl
  intro fuel _
  simpa using next_stop plain fuel rest

theorem text_reads {content : String} (inert : Inert content) (depth : Nat) {rest : List Char}
    (tag : rest.head? = some '<') :
    Reads depth depth content.toList (Markup.text content).tokens rest := by
  by_cases filled : content = ""
  · subst filled
    exact reads_nil depth rest
  · simp only [Markup.tokens, filled, ↓reduceIte]
    refine reads_token (by simpa using filled) ?_ rfl
    intro fuel _
    exact next_text inert filled fuel tag

theorem tag_of_written {m : Markup} (tagged : m.isText = false) (rest : List Char) :
    (m.written ++ rest).head? = some '<' := by
  cases m with
  | text => cases tagged
  | void | element => rfl

theorem tag_of_writtenAll {ms : List Markup} (tagged : ∀ m ∈ ms.head?, m.isText = false)
    {rest : List Char} (tag : rest.head? = some '<') :
    (writtenAll ms ++ rest).head? = some '<' := by
  cases ms with
  | nil => exact tag
  | cons m ms =>
    rw [writtenAll, List.append_assoc]
    exact tag_of_written (tagged m rfl) _

mutual

theorem Markup.reads : (m : Markup) → m.Sound → ∀ depth (rest : List Char),
    (m.isText = true → rest.head? = some '<') → Reads depth depth m.written m.tokens rest
  | .text content, sound, depth, rest, tag => text_reads sound depth (tag rfl)
  | .void name attrs, sound, depth, rest, _ => empty_reads sound.1 sound.2 depth rest
  | .element name attrs children, sound, depth, rest, _ => by
    have inside := readsAll children sound.2.2 (depth + 1)
      ('<' :: '/' :: (name.toList ++ ['>']) ++ rest) rfl
    have closed := inside.append (stop_reads sound.1 depth rest)
    exact (opened_reads sound.1 sound.2.1 depth _).append closed

theorem readsAll : (ms : List Markup) → SoundAll ms → ∀ depth (rest : List Char),
    rest.head? = some '<' → Reads depth depth (writtenAll ms) (tokensAll ms) rest
  | [], _, depth, rest, _ => reads_nil depth rest
  | m :: ms, sound, depth, rest, tag =>
    (m.reads sound.1 depth (writtenAll ms ++ rest) fun text =>
      tag_of_writtenAll (sound.2.1 text) tag).append (readsAll ms sound.2.2 depth rest tag)

end

/-! ### Characters -/

theorem char_of_code {c : Char} (shown : 0x20 ≤ c.toNat)
    (apart : c.toNat < 0xFFFE ∨ 0xFFFF < c.toNat) : isChar c = true := by
  simp only [isChar, Bool.or_eq_true, Bool.and_eq_true, decide_eq_true_eq, bne_iff_ne]
  omega

theorem char_of_ranges {ranges : List Text.CodeRange}
    (apart : ∀ r ∈ ranges, 0x20 ≤ r.first ∧ (r.last < 0xFFFE ∨ 0xFFFF < r.first)) {c : Char}
    (inside : Text.inRanges ranges c = true) : isChar c = true := by
  obtain ⟨r, listed, inside⟩ := List.any_eq_true.mp inside
  simp only [Text.CodeRange.contains, Bool.and_eq_true, decide_eq_true_eq] at inside
  have := apart r listed
  exact char_of_code (by omega) (by omega)

theorem char_of_ascii {c : Char} (word : c.isAlphanum = true) : isChar c = true := by
  have range : 48 ≤ c.toNat ∧ c.toNat ≤ 122 := by
    delta Char.isAlphanum Char.isAlpha Char.isUpper Char.isLower Char.isDigit at word
    simp only [Bool.or_eq_true, Bool.and_eq_true, decide_eq_true_eq, ge_iff_le,
      UInt32.le_iff_toNat_le, Char.toNat_val, Char.reduceToNat] at word
    omega
  exact char_of_code (by omega) (by omega)

theorem char_of_name {c : Char} (named : isNameChar c = true) : isChar c = true := by
  simp only [isNameChar, isNameStart, Bool.or_eq_true, beq_iff_eq] at named
  rcases named with ((((((letter | rfl) | rfl) | letter) | digit) | rfl) | rfl) | inner
  · exact char_of_ascii (by simp [Char.isAlphanum, letter])
  · decide
  · decide
  · exact char_of_ranges (by decide) letter
  · exact char_of_ascii (by simp [Char.isAlphanum, digit])
  · decide
  · decide
  · exact char_of_ranges (by decide) inner

theorem char_of_inert {c : Char} (inert : isInert c = true) : isChar c = true := by
  simp only [isInert, Bool.and_eq_true] at inert
  exact inert.1.1.1

theorem char_of_plain {name : String} (plain : isPlainName name = true) :
    ∀ c ∈ name.toList, isChar c = true := by
  intro c member
  have inner := List.all_eq_true.mp (Bool.and_eq_true_iff.mp plain).2 c member
  exact char_of_name (Bool.and_eq_true_iff.mp inner).1

theorem chars_of_attributes {attrs : List (String × String)} (sound : Attributes attrs) :
    ∀ c ∈ attrs.flatMap attributeWritten, isChar c = true := by
  intro c member
  obtain ⟨a, listed, member⟩ := List.mem_flatMap.mp member
  obtain ⟨plain, inert⟩ := sound a listed
  simp only [attributeWritten, List.mem_cons, List.mem_append, List.not_mem_nil, or_false] at member
  rcases member with rfl | member | rfl | rfl | member | rfl
  · decide
  · exact char_of_plain plain c member
  · decide
  · decide
  · exact char_of_inert (inert c member)
  · decide

theorem chars_of_tag {name : String} (plain : isPlainName name = true)
    {attrs : List (String × String)} (sound : Attributes attrs) {ending : List Char}
    (ended : ending.all isChar = true) :
    ∀ c ∈ tagWritten name attrs ending, isChar c = true :=
  List.forall_mem_append.mpr ⟨char_of_plain plain,
    List.forall_mem_append.mpr ⟨chars_of_attributes sound, List.all_eq_true.mp ended⟩⟩

mutual

theorem Markup.chars : (m : Markup) → m.Sound → ∀ c ∈ m.written, isChar c = true
  | .text content, sound => fun c member => char_of_inert (sound c member)
  | .void name attrs, sound =>
    List.forall_mem_cons.mpr ⟨by decide, chars_of_tag sound.1 sound.2 (by decide)⟩
  | .element name attrs children, sound => by
    have opened := chars_of_tag sound.1 sound.2.1 (show ['>'].all isChar = true by decide)
    have closed : ∀ c ∈ ['<', '/'] ++ (name.toList ++ ['>']), isChar c = true :=
      List.forall_mem_append.mpr ⟨List.all_eq_true.mp (by decide),
        List.forall_mem_append.mpr ⟨char_of_plain sound.1, List.all_eq_true.mp (by decide)⟩⟩
    refine List.forall_mem_cons.mpr ⟨by decide, List.forall_mem_append.mpr ⟨opened, ?_⟩⟩
    exact List.forall_mem_append.mpr ⟨charsAll children sound.2.2, closed⟩

theorem charsAll : (ms : List Markup) → SoundAll ms → ∀ c ∈ writtenAll ms, isChar c = true
  | [], _ => by simp [writtenAll]
  | m :: ms, sound => List.forall_mem_append.mpr ⟨m.chars sound.1, charsAll ms sound.2.2⟩

end

/-! ### Documents -/

theorem content_written {children : List Markup} (sound : SoundAll children) {name : String}
    (plain : isPlainName name = true) (rest : List Char) :
    content? (writtenAll children ++ '<' :: '/' :: (name.toList ++ '>' :: rest)) =
      some (tokensAll children ++ [.stop ⟨"", name⟩], rest) := by
  obtain ⟨left, room, read⟩ := readsAll children sound 0
    ('<' :: '/' :: (name.toList ++ '>' :: rest)) rfl _ (Nat.le_refl _)
  obtain ⟨fuel, rfl⟩ : ∃ fuel, left = fuel + 1 :=
    ⟨left - 1, by simp only [List.length_cons] at room; omega⟩
  rw [content?, read, content_end (next_stop plain fuel rest) (List.cons_ne_nil _ _)]
  rfl

theorem after_other (opening : String) {a b : Char} {more : List Char}
    (chars : opening.toList = '<' :: a :: more) (differ : b ≠ a) (cs : List Char) :
    after? opening ('<' :: b :: cs) = none := by
  simp [after?, chars, differ.symm]

theorem skipRemarks_of_tag {c : Char} (starts : isNameStart c = true) (cs : List Char) :
    skipRemarks ('<' :: c :: cs) = some ('<' :: c :: cs) := by
  obtain ⟨-, -, -, notBang, notAsk⟩ := mark_of_start starts
  simp only [skipRemarks, skipRemarksFrom, skipSpace_of_mark (c := '<') (by decide),
    after_other "<!--" rfl notBang, after_other "<?" rfl notAsk,
    Option.isSome_none, Bool.false_eq_true, ↓reduceIte]

theorem source_of_tag {c : Char} (starts : isNameStart c = true) {cs rest : List Char}
    {tokens : List Token} (read : element? ('<' :: c :: cs) = some (tokens, rest))
    (ended : skipRemarks rest = some []) : source? ('<' :: c :: cs) = some ([], tokens) := by
  obtain ⟨-, -, -, notBang, notAsk⟩ := mark_of_start starts
  have unmarked : ¬('<' :: c :: cs).head? = some '\uFEFF' := by
    simp
  have declared : skipDeclaration ('<' :: c :: cs) = some ('<' :: c :: cs) := by
    rw [skipDeclaration, after_other "<?xml " rfl notAsk]
  simp only [source?, unmarked, ↓reduceIte, declared, skipRemarks_of_tag starts,
    after_other "<!DOCTYPE" rfl notBang, read, ended, Option.bind_eq_bind, Option.bind_some, pure,
    List.isEmpty_nil]

theorem element_written {name : String} {attrs : List (String × String)} {children : List Markup}
    (sound : (Markup.element name attrs children).Sound) (rest : List Char) :
    element? ((Markup.element name attrs children).written ++ rest) =
      some ((Markup.element name attrs children).tokens, rest) := by
  obtain ⟨plain, attributes, inner⟩ := sound
  let content := writtenAll children ++ '<' :: '/' :: (name.toList ++ '>' :: rest)
  let tag := tagWritten name attrs ['>'] ++ content
  have whole : (Markup.element name attrs children).written ++ rest = '<' :: tag := by
    simp [Markup.written, tag, content]
  have marked : after? "<" ('<' :: tag) = some tag := after_written "<" tag
  have room : attrs.length ≤ ('<' :: tag).length := by
    have := length_le_tagWritten name attrs ['>']
    simp only [tag, List.length_cons, List.length_append]
    omega
  have opened : tagFrom ('<' :: tag).length tag =
      some (.start ⟨"", name⟩ (attributesOf attrs) .opened, content) := by
    refine tag_written plain attributes room ?_ fun n => opened_ends n content
    intro c first
    cases first
    decide
  have closed : content? content = some (tokensAll children ++ [.stop ⟨"", name⟩], rest) :=
    content_written inner plain rest
  rw [whole]
  simp only [element?, marked, opened, closed, Option.bind_eq_bind, Option.bind_some]
  rfl

theorem source_written {name : String} {attrs : List (String × String)} {children : List Markup}
    (sound : (Markup.element name attrs children).Sound) :
    source? ((Markup.element name attrs children).written ++ ['\n']) =
      some ([], (Markup.element name attrs children).tokens) := by
  obtain ⟨c, cs, chars, starts⟩ := head_of_plain sound.1
  obtain ⟨tail, whole⟩ : ∃ tail,
      (Markup.element name attrs children).written ++ ['\n'] = '<' :: c :: tail := by
    simp [Markup.written, tagWritten, chars]
  have read := element_written sound ['\n']
  rw [whole] at read ⊢
  exact source_of_tag starts read (by decide)

end CodeAtlas.Xml

import CodeAtlas.Net.Url
import CodeAtlas.Proofs.TextBytes
import Mathlib.Data.List.Flatten

/-!
Percent escapes in addresses. Writing a path escapes some characters and leaves every percent sign
as it is, so that it changes nothing of what the path stands for. What a text stands for is the
text itself if no escape is in it, and is shorter than the text otherwise.
-/
namespace CodeAtlas.Net

/-! ### Reading escapes -/

def byteOf? : List Char → Option (UInt8 × List Char)
  | a :: b :: rest =>
    match Text.hexValue? a, Text.hexValue? b with
    | some x, some y => some (UInt8.ofNat (x * 16 + y), rest)
    | _, _ => none
  | _ => none

def holdsEscape : List Char → Bool
  | [] => false
  | c :: cs => (c == '%' && (byteOf? cs).isSome) || holdsEscape cs

theorem byteOf_eq_some {cs rest : List Char} {byte : UInt8} (read : byteOf? cs = some (byte, rest)) :
    ∃ a b x y, cs = a :: b :: rest ∧ Text.hexValue? a = some x ∧ Text.hexValue? b = some y ∧
      byte = UInt8.ofNat (x * 16 + y) := by
  rcases cs with _ | ⟨a, _ | ⟨b, more⟩⟩
  · cases read
  · cases read
  · rw [byteOf?] at read
    cases first : Text.hexValue? a with
    | none =>
      rw [first] at read
      cases read
    | some x =>
      cases second : Text.hexValue? b with
      | none =>
        rw [first, second] at read
        cases read
      | some y =>
        rw [first, second] at read
        obtain ⟨rfl, rfl⟩ := Prod.mk.inj (Option.some.inj read)
        exact ⟨a, b, x, y, rfl, first, second, rfl⟩

theorem byteOf_digits {a b : Char} {x y : Nat} (first : Text.hexValue? a = some x)
    (second : Text.hexValue? b = some y) (rest : List Char) :
    byteOf? (a :: b :: rest) = some (UInt8.ofNat (x * 16 + y), rest) := by
  simp only [byteOf?, first, second]

theorem byteOf_of_first {a : Char} (other : Text.hexValue? a = none) (cs : List Char) :
    byteOf? (a :: cs) = none := by
  cases cs with
  | nil => rfl
  | cons b rest => simp only [byteOf?, other]

theorem byteOf_of_second {b : Char} (other : Text.hexValue? b = none) (a : Char)
    (cs : List Char) : byteOf? (a :: b :: cs) = none := by
  cases first : Text.hexValue? a <;> simp only [byteOf?, first, other]

theorem unescapeFrom_escape {cs rest : List Char} {byte : UInt8}
    (read : byteOf? cs = some (byte, rest)) (fuel : Nat) :
    unescapeFrom (fuel + 1) ('%' :: cs) = byte :: unescapeFrom fuel rest := by
  obtain ⟨a, b, x, y, rfl, first, second, rfl⟩ := byteOf_eq_some read
  simp only [unescapeFrom, first, second]

theorem unescapeFrom_other {c : Char} {cs : List Char} (other : c = '%' → byteOf? cs = none)
    (fuel : Nat) :
    unescapeFrom (fuel + 1) (c :: cs) = String.utf8EncodeChar c ++ unescapeFrom fuel cs := by
  rw [← Text.utf8_single, unescapeFrom.eq_def (fuel + 1) (c :: cs)]
  dsimp only
  split
  · rename_i a b rest
    split
    · rename_i x y first second
      rw [byteOf_digits first second] at other
      cases other rfl
    · rfl
  · rfl

theorem length_of_byteOf {cs rest : List Char} {byte : UInt8}
    (read : byteOf? cs = some (byte, rest)) : cs.length = rest.length + 2 := by
  obtain ⟨a, b, _, _, rfl, _⟩ := byteOf_eq_some read
  rfl

theorem escapes_induction {P : List Char → Prop} (nil : P [])
    (escape : ∀ cs byte rest, byteOf? cs = some (byte, rest) → P rest → P ('%' :: cs))
    (other : ∀ c cs, (c = '%' → byteOf? cs = none) → P cs → P (c :: cs)) (cs : List Char) :
    P cs := by
  induction size : cs.length using Nat.strongRecOn generalizing cs with
  | ind n ih =>
    cases cs with
    | nil => exact nil
    | cons c cs =>
      rw [List.length_cons] at size
      have later : P cs := ih cs.length (by omega) cs rfl
      by_cases sign : c = '%'
      · cases read : byteOf? cs with
        | none => exact other c cs (fun _ => read) later
        | some found =>
          obtain ⟨byte, rest⟩ := found
          have fewer := length_of_byteOf read
          rw [sign]
          exact escape cs byte rest read (ih rest.length (by omega) rest rfl)
      · exact other c cs (fun same => absurd same sign) later

theorem unescapeFrom_enough {fuel : Nat} {cs : List Char} (enough : cs.length ≤ fuel) :
    unescapeFrom fuel cs = unescape cs := by
  unfold unescape
  -- any two amounts that are enough give the same
  suffices both : ∀ m n, cs.length ≤ m → cs.length ≤ n → unescapeFrom m cs = unescapeFrom n cs from
    both fuel cs.length enough (Nat.le_refl _)
  clear enough
  induction cs using escapes_induction with
  | nil =>
    intro m n _ _
    rw [unescapeFrom, unescapeFrom]
  | escape cs byte rest read ih =>
    intro m n first second
    have fewer := length_of_byteOf read
    rw [List.length_cons] at first second
    obtain ⟨m, rfl⟩ : ∃ k, m = k + 1 := ⟨m - 1, by omega⟩
    obtain ⟨n, rfl⟩ : ∃ k, n = k + 1 := ⟨n - 1, by omega⟩
    rw [unescapeFrom_escape read, unescapeFrom_escape read, ih m n (by omega) (by omega)]
  | other c cs apart ih =>
    intro m n first second
    rw [List.length_cons] at first second
    obtain ⟨m, rfl⟩ : ∃ k, m = k + 1 := ⟨m - 1, by omega⟩
    obtain ⟨n, rfl⟩ : ∃ k, n = k + 1 := ⟨n - 1, by omega⟩
    rw [unescapeFrom_other apart, unescapeFrom_other apart, ih m n (by omega) (by omega)]

theorem unescape_escape {cs rest : List Char} {byte : UInt8}
    (read : byteOf? cs = some (byte, rest)) : unescape ('%' :: cs) = byte :: unescape rest := by
  have fewer := length_of_byteOf read
  rw [unescape, List.length_cons, unescapeFrom_escape read, unescapeFrom_enough (by omega)]

theorem unescape_other {c : Char} {cs : List Char} (other : c = '%' → byteOf? cs = none) :
    unescape (c :: cs) = String.utf8EncodeChar c ++ unescape cs := by
  rw [unescape, List.length_cons, unescapeFrom_other other, unescapeFrom_enough (Nat.le_refl _)]

/-! ### Texts with and without escapes -/

theorem unescape_of_none {cs : List Char} (none : holdsEscape cs = false) :
    unescape cs = Text.utf8 (String.ofList cs) := by
  induction cs with
  | nil => exact Text.utf8_nil.symm
  | cons c cs ih =>
    rw [holdsEscape, Bool.or_eq_false_iff] at none
    obtain ⟨here, later⟩ := none
    have other : c = '%' → byteOf? cs = Option.none := by
      intro sign
      simpa [sign] using here
    rw [unescape_other other, Text.utf8_cons, ih later]

theorem length_unescape (cs : List Char) :
    (unescape cs).length ≤ (Text.utf8 (String.ofList cs)).length ∧
      (holdsEscape cs = true →
        (unescape cs).length < (Text.utf8 (String.ofList cs)).length) := by
  induction cs using escapes_induction with
  | nil => exact ⟨Nat.zero_le _, fun holds => by cases holds⟩
  | escape cs byte rest read ih =>
    obtain ⟨a, b, _, _, rfl, _⟩ := byteOf_eq_some read
    have first := Text.length_utf8EncodeChar_pos a
    have second := Text.length_utf8EncodeChar_pos b
    rw [unescape_escape read, Text.utf8_cons, Text.utf8_cons, Text.utf8_cons]
    simp only [List.length_cons, List.length_append]
    refine ⟨by omega, fun _ => by omega⟩
  | other c cs apart ih =>
    obtain ⟨atMost, less⟩ := ih
    rw [unescape_other apart, Text.utf8_cons, List.length_append, List.length_append]
    refine ⟨by omega, ?_⟩
    intro holds
    have later : holdsEscape cs = true := by
      rw [holdsEscape, Bool.or_eq_true] at holds
      rcases holds with here | later
      · rw [Bool.and_eq_true, beq_iff_eq] at here
        rw [apart here.1] at here
        cases here.2
      · exact later
    have := less later
    omega

theorem eq_of_unescape {cs : List Char} {text : String} (part : cs.Sublist text.toList)
    (stands : unescape cs = Text.utf8 text) :
    cs = text.toList ∧ holdsEscape text.toList = false := by
  obtain ⟨atMost, less⟩ := length_unescape cs
  have bytes : (Text.utf8 (String.ofList cs)).Sublist (Text.utf8 text) := by
    rw [Text.utf8_flatMap, Text.utf8_flatMap, String.toList_ofList]
    exact part.flatMap _
  have size := bytes.length_le
  rw [stands] at atMost less
  have same : String.ofList cs = text :=
    Text.utf8_injective (bytes.eq_of_length (by omega))
  have whole : cs = text.toList := by rw [← same, String.toList_ofList]
  refine ⟨whole, ?_⟩
  rw [← whole]
  cases holds : holdsEscape cs with
  | false => rfl
  | true =>
    have := less holds
    omega

/-! ### Writing escapes -/

theorem hexValue_upper : ∀ n < 16, Text.hexValue? (Text.hexDigit n).toUpper = some n := by decide

theorem byteOf_hexByte (byte : UInt8) (rest : List Char) :
    byteOf? ((Text.hexByte byte).map Char.toUpper ++ rest) = some (byte, rest) := by
  have small : byte.toNat < 256 := byte.toNat_lt
  have whole : UInt8.ofNat (byte.toNat / 16 * 16 + byte.toNat % 16) = byte := by
    rw [Nat.div_add_mod']
    exact UInt8.ofNat_toNat
  rw [Text.hexByte, List.map_cons, List.map_cons, List.map_nil, List.cons_append, List.cons_append,
    List.nil_append, byteOf_digits (hexValue_upper _ (by omega)) (hexValue_upper _ (by omega)),
    whole]

namespace Url

theorem unescape_escapeByte (byte : UInt8) (rest : List Char) :
    unescape (escapeByte byte ++ rest) = byte :: unescape rest := by
  rw [escapeByte, List.cons_append, unescape_escape (byteOf_hexByte byte rest)]

theorem unescape_escapeBytes (bytes : Text.Bytes) (rest : List Char) :
    unescape (bytes.flatMap escapeByte ++ rest) = bytes ++ unescape rest := by
  induction bytes with
  | nil => rfl
  | cons byte bytes ih =>
    rw [List.flatMap_cons, List.append_assoc, unescape_escapeByte, ih, List.cons_append]

def escapedChar (more : String) (c : Char) : List Char :=
  if isControlOrWide c || more.toList.contains c then (String.utf8EncodeChar c).flatMap escapeByte
  else [c]

theorem escapeWith_toList (more : String) (cs : List Char) :
    (escapeWith more cs).toList = cs.flatMap (escapedChar more) := by
  rw [escapeWith, String.toList_ofList]
  congr
  funext c
  rw [escapedChar, Text.utf8_single]

def pathChar (c : Char) : List Char := (escapePath [c]).toList

theorem escapePath_toList (cs : List Char) : (escapePath cs).toList = cs.flatMap pathChar := by
  rw [escapePath, escapeWith_toList]
  congr
  funext c
  rw [pathChar, escapePath, escapeWith_toList, List.flatMap_singleton]

theorem above_ascii {c : Char} (wide : ¬ c.toNat < 128) (d : Char) (low : d.toNat < 128) :
    decide (c ≤ d) = false := by
  rw [decide_eq_false_iff_not, Char.le_def, UInt32.le_iff_toNat_le]
  change ¬ c.toNat ≤ d.toNat
  omega

theorem pathChar_of_digit {c : Char} {x : Nat} (digit : Text.hexValue? c = some x) :
    pathChar c = [c] := by
  have table : ∀ n < 128, Text.hexValue? (Char.ofNat n) ≠ none →
      pathChar (Char.ofNat n) = [Char.ofNat n] := by decide
  by_cases ascii : c.toNat < 128
  · have here := table c.toNat ascii
    rw [Char.ofNat_toNat] at here
    exact here (by simp [digit])
  · simp [Text.hexValue?, above_ascii ascii '9' (by decide), above_ascii ascii 'f' (by decide),
      above_ascii ascii 'F' (by decide)] at digit

theorem pathChar_cases (c : Char) : pathChar c = [c] ∨
    (c ≠ '%' ∧ Text.hexValue? c = none ∧
      pathChar c = (String.utf8EncodeChar c).flatMap escapeByte) := by
  by_cases same : pathChar c = [c]
  · exact Or.inl same
  · refine Or.inr ⟨?_, ?_, ?_⟩
    · rintro rfl
      exact same (by decide)
    · cases digit : Text.hexValue? c with
      | none => rfl
      | some x => exact absurd (pathChar_of_digit digit) same
    · rw [pathChar, escapePath, escapeWith_toList, List.flatMap_singleton, escapedChar] at same ⊢
      split
      · rfl
      · rename_i kept
        exact absurd (if_neg kept) same

theorem pathChar_of_other {c : Char} (other : Text.hexValue? c = none) :
    ∃ d ds, pathChar c = d :: ds ∧ Text.hexValue? d = none := by
  rcases pathChar_cases c with kept | ⟨_, _, escaped⟩
  · exact ⟨c, [], kept, other⟩
  · cases bytes : String.utf8EncodeChar c with
    | nil =>
      have some := Text.length_utf8EncodeChar_pos c
      rw [bytes] at some
      cases some
    | cons byte rest =>
      rw [escaped, bytes, List.flatMap_cons, escapeByte, List.cons_append]
      exact ⟨'%', _, rfl, by decide⟩

theorem byteOf_written (cs : List Char) :
    byteOf? (cs.flatMap pathChar) = (byteOf? cs).map fun p => (p.1, p.2.flatMap pathChar) := by
  cases cs with
  | nil => rfl
  | cons a cs =>
    rw [List.flatMap_cons]
    cases first : Text.hexValue? a with
    | none =>
      obtain ⟨d, ds, written, other⟩ := pathChar_of_other first
      rw [written, List.cons_append, byteOf_of_first other, byteOf_of_first first, Option.map_none]
    | some x =>
      rw [pathChar_of_digit first, List.singleton_append]
      cases cs with
      | nil => rfl
      | cons b rest =>
        rw [List.flatMap_cons]
        cases second : Text.hexValue? b with
        | none =>
          obtain ⟨d, ds, written, other⟩ := pathChar_of_other second
          rw [written, List.cons_append, byteOf_of_second other, byteOf_of_second second,
            Option.map_none]
        | some y =>
          rw [pathChar_of_digit second, List.singleton_append, byteOf_digits first second,
            byteOf_digits first second, Option.map_some]

theorem unescape_written (cs : List Char) : unescape (cs.flatMap pathChar) = unescape cs := by
  induction cs using escapes_induction with
  | nil => rfl
  | escape cs byte rest read ih =>
    have written : byteOf? (cs.flatMap pathChar) = some (byte, rest.flatMap pathChar) := by
      rw [byteOf_written, read, Option.map_some]
    have sign : pathChar '%' = ['%'] := by decide
    rw [List.flatMap_cons, sign, List.singleton_append, unescape_escape written,
      unescape_escape read, ih]
  | other c cs apart ih =>
    rw [List.flatMap_cons, unescape_other apart]
    rcases pathChar_cases c with kept | ⟨_, _, escaped⟩
    · have still : c = '%' → byteOf? (cs.flatMap pathChar) = none := by
        intro sign
        rw [byteOf_written, apart sign, Option.map_none]
      rw [kept, List.singleton_append, unescape_other still, ih]
    · rw [escaped, unescape_escapeBytes, ih]

theorem unescape_escapePath (cs : List Char) : unescape (escapePath cs).toList = unescape cs := by
  rw [escapePath_toList, unescape_written]

theorem slash_not_mem_escapePath {cs : List Char} (none : '/' ∉ cs) :
    '/' ∉ (escapePath cs).toList := by
  have digits : ∀ n < 16, (Text.hexDigit n).toUpper ≠ '/' := by decide
  rw [escapePath_toList]
  intro member
  obtain ⟨c, inside, written⟩ := List.mem_flatMap.mp member
  rcases pathChar_cases c with kept | ⟨_, _, escaped⟩
  · rw [kept, List.mem_singleton] at written
    exact none (written ▸ inside)
  · rw [escaped] at written
    obtain ⟨byte, _, digit⟩ := List.mem_flatMap.mp written
    have small : byte.toNat < 256 := byte.toNat_lt
    rw [escapeByte, Text.hexByte] at digit
    simp only [List.map_cons, List.map_nil, List.mem_cons, List.not_mem_nil, or_false] at digit
    rcases digit with sign | high | low
    · revert sign
      decide
    · exact digits _ (by omega) high.symm
    · exact digits _ (by omega) low.symm

end Url

end CodeAtlas.Net

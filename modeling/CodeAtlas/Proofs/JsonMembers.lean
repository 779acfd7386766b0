import CodeAtlas.Json.Reader
import CodeAtlas.Proofs.Dict

/-!
The members of an object, whatever they are. The reader keeps a document only if it is not too deep,
its numbers are in range and its surrogates are paired; here an object has to be well formed and no
more. Of a document that the reader keeps, the members are its fields, as far as their names and
nulls go.
-/
namespace CodeAtlas

theorem bind_eq_ok {ε α β : Type} {x : Except ε α} {f : α → Except ε β} {b : β} :
    x >>= f = .ok b ↔ ∃ a, x = .ok a ∧ f a = .ok b := by
  cases x <;> simp [bind, Except.bind]

namespace Json

/-! ### What can be kept can be skipped -/

theorem hexQuad_shorter {cs rest : List Char} {n : Nat} (read : hexQuad cs = .ok (n, rest)) :
    rest.length < cs.length := by
  unfold hexQuad at read
  split at read
  · cases read
  · split at read
    · split at read
      · cases read
        simp only [List.length_cons]
        omega
      · cases read
    · cases read

theorem escape_shorter {cs rest : List Char} {c : Char} (read : escape .skip cs = .ok (c, rest)) :
    rest.length < cs.length := by
  unfold escape at read
  split at read
  case h_10 =>
    obtain ⟨⟨n, after⟩, quad, read⟩ := bind_eq_ok.mp read
    cases read
    have shorter := hexQuad_shorter quad
    simp only [List.length_cons]
    omega
  all_goals
    cases read
    try simp

theorem trailingHalf_skip {lead : Nat} {cs rest : List Char} {c : Char}
    (read : trailingHalf lead cs = .ok (c, rest)) :
    ∃ second, cs = '\\' :: second ∧ escape .skip second = .ok (' ', rest) := by
  unfold trailingHalf at read
  split at read
  case h_3 digits =>
    obtain ⟨⟨trail, after⟩, quad, read⟩ := bind_eq_ok.mp read
    dsimp only at read
    split at read
    · obtain ⟨_, rfl⟩ := Prod.mk.inj (Except.ok.inj read)
      exact ⟨'u' :: digits, rfl, bind_eq_ok.mpr ⟨_, quad, rfl⟩⟩
    · cases read
  all_goals cases read

/-- A pair of escapes is kept as one character, and skipped as two. -/
theorem escape_skip {cs rest : List Char} {c : Char} (read : escape .keep cs = .ok (c, rest)) :
    ∃ d next, escape .skip cs = .ok (d, next) ∧
      (next = rest ∨ ∃ second e, next = '\\' :: second ∧ escape .skip second = .ok (e, rest)) := by
  unfold escape at read
  split at read
  case h_10 digits =>
    obtain ⟨⟨n, after⟩, quad, read⟩ := bind_eq_ok.mp read
    refine ⟨' ', after, bind_eq_ok.mpr ⟨_, quad, rfl⟩, ?_⟩
    dsimp only at read
    split at read
    · cases read
    · split at read
      · obtain ⟨second, eq, skipped⟩ := trailingHalf_skip read
        exact Or.inr ⟨second, ' ', eq, skipped⟩
      · cases read
        exact Or.inl rfl
  all_goals
    cases read
    try exact ⟨_, _, rfl, Or.inl rfl⟩

theorem textFrom_skip {fuel more : Nat} {cs text rest : List Char}
    (read : textFrom .keep fuel cs = .ok (text, rest)) (enough : cs.length < more) :
    ∃ skipped, textFrom .skip more cs = .ok (skipped, rest) := by
  induction fuel generalizing cs text more with
  | zero => cases read
  | succ fuel ih =>
    obtain _ | more := more
    · omega
    unfold textFrom at read
    split at read
    · cases read
    · cases read
    · cases read
      exact ⟨[], rfl⟩
    · rename_i steps after shorter
      cases shorter
      rw [List.length_cons] at enough
      obtain ⟨⟨c, behind⟩, escaped, read⟩ := bind_eq_ok.mp read
      obtain ⟨⟨others, last⟩, othersRead, read⟩ := bind_eq_ok.mp read
      cases read
      obtain ⟨d, next, skipped, ahead⟩ := escape_skip escaped
      have fewer := escape_shorter skipped
      obtain ⟨s, passed⟩ : ∃ s, textFrom .skip more next = .ok (s, rest) := by
        rcases ahead with rfl | ⟨second, e, rfl, again⟩
        · exact ih othersRead (by omega)
        · -- the second half is skipped in a step of its own
          obtain _ | more := more
          · omega
          have shorter := escape_shorter again
          rw [List.length_cons] at fewer
          have few : behind.length < more := by omega
          obtain ⟨s, passed⟩ := ih othersRead few
          exact ⟨e :: s, bind_eq_ok.mpr ⟨_, again, bind_eq_ok.mpr ⟨_, passed, rfl⟩⟩⟩
      exact ⟨d :: s, bind_eq_ok.mpr ⟨_, skipped, bind_eq_ok.mpr ⟨_, passed, rfl⟩⟩⟩
    · rename_i steps c after quote slash shorter
      cases shorter
      split at read
      · cases read
      · rename_i plain
        obtain ⟨⟨others, last⟩, othersRead, read⟩ := bind_eq_ok.mp read
        cases read
        obtain ⟨s, passed⟩ := ih othersRead (Nat.lt_of_succ_lt_succ enough)
        refine ⟨c :: s, ?_⟩
        rw [textFrom.eq_5 _ _ _ _ quote slash, if_neg plain]
        exact bind_eq_ok.mpr ⟨_, passed, rfl⟩

theorem readText_skip {mode : Mode} {cs rest : List Char} {s : String}
    (read : readText mode cs = .ok (s, rest)) :
    ∃ skipped, readText .skip cs = .ok (skipped, rest) := by
  cases mode with
  | skip => exact ⟨s, read⟩
  | keep =>
    obtain ⟨⟨text, after⟩, textRead, read⟩ := bind_eq_ok.mp read
    cases read
    obtain ⟨skipped, passed⟩ := textFrom_skip textRead (Nat.lt_succ_self _)
    exact ⟨_, bind_eq_ok.mpr ⟨_, passed, rfl⟩⟩

theorem realOf_rest {negative : Bool} {significand : Nat} {exponent : Int} {cs rest : List Char}
    {n : Number} (read : realOf negative significand exponent cs = .ok (n, rest)) : rest = cs := by
  unfold realOf at read
  split at read
  · cases read
    rfl
  · cases read

theorem exponentPart_skip {mode : Mode} {negative : Bool} {significand : Nat} {start : Int}
    {cs rest : List Char} {n : Number}
    (read : exponentPart mode negative significand start cs = .ok (n, rest)) :
    ∃ skipped, exponentPart .skip negative significand start cs = .ok (skipped, rest) := by
  unfold exponentPart at read ⊢
  generalize exponentSign cs = signed at read ⊢
  obtain ⟨down, digits⟩ := signed
  dsimp only at read ⊢
  cases digits with
  | nil => cases read
  | cons c digits =>
    dsimp only at read ⊢
    split at read
    · cases read
    · rename_i digit
      rw [if_neg digit, if_pos rfl]
      split at read
      · cases read
        exact ⟨_, rfl⟩
      · split at read
        · rw [realOf_rest read]
          exact ⟨_, rfl⟩
        · split at read
          · cases read
          · cases read
            exact ⟨_, rfl⟩

theorem numberTail_skip {mode : Mode} {negative : Bool} {g : Gathered} {cs rest : List Char}
    {n : Number} (read : numberTail mode negative g cs = .ok (n, rest)) :
    ∃ skipped, numberTail .skip negative g cs = .ok (skipped, rest) := by
  unfold numberTail at read ⊢
  split at read
  · dsimp only at read ⊢
    split at read
    · cases read
    · rename_i some
      rw [if_neg some]
      split at read
      · exact exponentPart_skip read
      · exact exponentPart_skip read
      · rw [if_pos rfl]
        split at read
        · cases read
          exact ⟨_, rfl⟩
        · rw [realOf_rest read]
          exact ⟨_, rfl⟩
  · exact exponentPart_skip read
  · exact exponentPart_skip read
  · rw [if_pos rfl]
    split at read
    · cases read
      exact ⟨_, rfl⟩
    · split at read
      · rw [realOf_rest read]
        exact ⟨_, rfl⟩
      · split at read
        · cases read
          exact ⟨_, rfl⟩
        · split at read <;>
          · cases read
            exact ⟨_, rfl⟩

theorem readNumber_skip {mode : Mode} {negative : Bool} {cs rest : List Char} {n : Number}
    (read : readNumber mode negative cs = .ok (n, rest)) :
    ∃ skipped, readNumber .skip negative cs = .ok (skipped, rest) := by
  unfold readNumber at read ⊢
  split at read
  · cases read
  · dsimp only at read ⊢
    split at read
    · cases read
    · rename_i digit
      rw [if_neg digit]
      split at read
      · cases read
      · rename_i single
        rw [if_neg single]
        exact numberTail_skip read

def isNull : Json → Bool
  | .null => true
  | _ => false

mutual

/-- What is read can be skipped, and whether it is null stays. More steps do no harm. -/
theorem valueFrom_skip {mode : Mode} {fuel more room : Nat} {cs rest : List Char} {j : Json}
    (read : valueFrom mode fuel room cs = .ok (j, rest)) (enough : fuel ≤ more) (anyRoom : Nat) :
    ∃ skipped, valueFrom .skip more anyRoom cs = .ok (skipped, rest) ∧
      skipped.isNull = j.isNull := by
  cases fuel with
  | zero => cases read
  | succ fuel =>
    obtain _ | more := more
    · omega
    have fewer : fuel ≤ more := by omega
    unfold valueFrom at read ⊢
    generalize skipSpace cs = start at read ⊢
    split at read
    · cases read
    · exact ⟨j, read, rfl⟩
    · exact ⟨j, read, rfl⟩
    · exact ⟨j, read, rfl⟩
    · obtain ⟨⟨s, after⟩, textRead, read⟩ := bind_eq_ok.mp read
      cases read
      obtain ⟨skipped, passed⟩ := readText_skip textRead
      exact ⟨.str skipped, bind_eq_ok.mpr ⟨_, passed, rfl⟩, rfl⟩
    · obtain ⟨⟨n, after⟩, numberRead, read⟩ := bind_eq_ok.mp read
      cases read
      obtain ⟨skipped, passed⟩ := readNumber_skip numberRead
      exact ⟨.num skipped, bind_eq_ok.mpr ⟨_, passed, rfl⟩, rfl⟩
    · split at read
      · cases read
      · obtain ⟨⟨items, after⟩, itemsRead, read⟩ := bind_eq_ok.mp read
        cases read
        obtain ⟨skipped, passed⟩ := itemsFrom_skip itemsRead fewer (anyRoom - 1)
        exact ⟨.arr skipped, bind_eq_ok.mpr ⟨_, passed, rfl⟩, rfl⟩
    · split at read
      · cases read
      · obtain ⟨⟨fields, after⟩, fieldsRead, read⟩ := bind_eq_ok.mp read
        cases read
        obtain ⟨skipped, passed⟩ := fieldsFrom_skip fieldsRead fewer (anyRoom - 1) []
        exact ⟨.obj skipped, bind_eq_ok.mpr ⟨_, passed, rfl⟩, rfl⟩
    · split at read
      · rename_i digit
        obtain ⟨⟨n, after⟩, numberRead, read⟩ := bind_eq_ok.mp read
        cases read
        obtain ⟨skipped, passed⟩ := readNumber_skip numberRead
        refine ⟨.num skipped, ?_, rfl⟩
        rw [if_pos digit]
        exact bind_eq_ok.mpr ⟨_, passed, rfl⟩
      · cases read

theorem itemsFrom_skip {mode : Mode} {fuel more room : Nat} {first : Bool} {cs rest : List Char}
    {items : List Json} (read : itemsFrom mode fuel room first cs = .ok (items, rest))
    (enough : fuel ≤ more) (anyRoom : Nat) :
    ∃ skipped, itemsFrom .skip more anyRoom first cs = .ok (skipped, rest) := by
  cases fuel with
  | zero => cases read
  | succ fuel =>
    obtain _ | more := more
    · omega
    have fewer : fuel ≤ more := by omega
    unfold itemsFrom at read ⊢
    obtain ⟨⟨start, after⟩, nextRead, read⟩ := bind_eq_ok.mp read
    cases start with
    | none => exact ⟨items, bind_eq_ok.mpr ⟨_, nextRead, read⟩⟩
    | some start =>
      obtain ⟨⟨item, behind⟩, itemRead, read⟩ := bind_eq_ok.mp read
      obtain ⟨⟨others, last⟩, othersRead, read⟩ := bind_eq_ok.mp read
      cases read
      obtain ⟨one, passed, _⟩ := valueFrom_skip itemRead fewer anyRoom
      obtain ⟨rest, passedAll⟩ := itemsFrom_skip othersRead fewer anyRoom
      exact ⟨one :: rest, bind_eq_ok.mpr ⟨_, nextRead, bind_eq_ok.mpr ⟨_, passed,
        bind_eq_ok.mpr ⟨_, passedAll, rfl⟩⟩⟩⟩

theorem fieldsFrom_skip {mode : Mode} {fuel more room : Nat} {first : Bool} {seen : Dict Json}
    {cs rest : List Char} {fields : Dict Json}
    (read : fieldsFrom mode fuel room first seen cs = .ok (fields, rest)) (enough : fuel ≤ more)
    (anyRoom : Nat) (anySeen : Dict Json) :
    ∃ skipped, fieldsFrom .skip more anyRoom first anySeen cs = .ok (skipped, rest) := by
  cases fuel with
  | zero => cases read
  | succ fuel =>
    obtain _ | more := more
    · omega
    have fewer : fuel ≤ more := by omega
    unfold fieldsFrom at read ⊢
    obtain ⟨⟨start, after⟩, nextRead, read⟩ := bind_eq_ok.mp read
    cases start with
    | none =>
      cases read
      exact ⟨anySeen, bind_eq_ok.mpr ⟨_, nextRead, rfl⟩⟩
    | some start =>
      dsimp only at read
      split at read
      · obtain ⟨⟨name, behind⟩, nameRead, read⟩ := bind_eq_ok.mp read
        obtain ⟨colon, colonRead, read⟩ := bind_eq_ok.mp read
        obtain ⟨⟨value, last⟩, valueRead, read⟩ := bind_eq_ok.mp read
        obtain ⟨skippedName, passedName⟩ := readText_skip nameRead
        obtain ⟨skippedValue, passedValue, _⟩ := valueFrom_skip valueRead fewer anyRoom
        obtain ⟨skipped, passed⟩ :=
          fieldsFrom_skip read fewer anyRoom (anySeen.insert skippedName skippedValue)
        exact ⟨skipped, bind_eq_ok.mpr ⟨_, nextRead, bind_eq_ok.mpr ⟨_, passedName,
          bind_eq_ok.mpr ⟨_, colonRead, bind_eq_ok.mpr ⟨_, passedValue, passed⟩⟩⟩⟩⟩
      · cases read

end

/-! ### Members -/

/-- The members of an object from behind its opening bracket on, with whether they are null. Their
values may be anything that can be skipped. A name that is no text is none that can be asked for. -/
def membersFrom : Nat → Bool → Dict Bool → List Char → Except Fault (Dict Bool × List Char)
  | 0, _, _, _ => .error .ended
  | fuel + 1, first, seen, cs => do
    match ← nextItem '\x7d' first cs with
    | (none, rest) => return (seen, rest)
    | (some start, _) =>
      match start with
      | '"' :: name =>
        let (_, rest) ← readText .skip name
        let (_, rest) ← readColon rest
        let (value, rest) ← valueFrom .skip fuel 0 rest
        let seen := match readText .keep name with
          | .ok (text, _) => seen.insert text value.isNull
          | .error _ => seen
        membersFrom fuel false seen rest
      | _ => .error .malformed

/-- The text is a well-formed object with these members, with whether they are null. -/
def Members (text : String) (members : Dict Bool) : Prop :=
  ∃ fuel start rest, skipSpace text.toList = '\x7b' :: start ∧
    membersFrom fuel true [] start = .ok (members, rest) ∧ atEnd rest = .ok ()

theorem membersFrom_more {fuel more : Nat} {first : Bool} {seen members : Dict Bool}
    {cs rest : List Char} (read : membersFrom fuel first seen cs = .ok (members, rest))
    (enough : fuel ≤ more) : membersFrom more first seen cs = .ok (members, rest) := by
  induction fuel generalizing more first seen cs with
  | zero => cases read
  | succ fuel ih =>
    obtain _ | more := more
    · omega
    have fewer : fuel ≤ more := by omega
    unfold membersFrom at read ⊢
    obtain ⟨⟨start, after⟩, nextRead, read⟩ := bind_eq_ok.mp read
    refine bind_eq_ok.mpr ⟨_, nextRead, ?_⟩
    cases start with
    | none => exact read
    | some start =>
      dsimp only at read ⊢
      split at read
      · obtain ⟨name, nameRead, read⟩ := bind_eq_ok.mp read
        obtain ⟨colon, colonRead, read⟩ := bind_eq_ok.mp read
        obtain ⟨⟨value, last⟩, valueRead, read⟩ := bind_eq_ok.mp read
        obtain ⟨skipped, passed, same⟩ := valueFrom_skip valueRead fewer 0
        refine bind_eq_ok.mpr ⟨name, nameRead, bind_eq_ok.mpr ⟨colon, colonRead,
          bind_eq_ok.mpr ⟨_, passed, ?_⟩⟩⟩
        simp only [same]
        exact ih read fewer
      · cases read

def nulls (fields : Dict Json) : Dict Bool := fields.map fun f => (f.1, f.2.isNull)

theorem nulls_insert (name : String) (value : Json) (fields : Dict Json) :
    nulls (fields.insert name value) = (nulls fields).insert name value.isNull := by
  induction fields with
  | nil => rfl
  | cons f rest ih =>
    simp only [Dict.insert, nulls, List.map_cons] at ih ⊢
    split
    · rfl
    · split
      · rfl
      · rw [List.map_cons, ih]

theorem find_nulls (name : String) (fields : Dict Json) :
    (nulls fields).find? name = (Dict.find? name fields).map isNull := by
  induction fields with
  | nil => rfl
  | cons f rest ih =>
    simp only [Dict.find?, nulls, List.map_cons] at ih ⊢
    split
    · rfl
    · exact ih

theorem membersFrom_of_kept {fuel more room : Nat} {first : Bool} {seen fields : Dict Json}
    {cs rest : List Char} (read : fieldsFrom .keep fuel room first seen cs = .ok (fields, rest))
    (enough : fuel ≤ more) : membersFrom more first (nulls seen) cs = .ok (nulls fields, rest) := by
  induction fuel generalizing more first seen cs with
  | zero => cases read
  | succ fuel ih =>
    obtain _ | more := more
    · omega
    have fewer : fuel ≤ more := by omega
    unfold fieldsFrom at read
    unfold membersFrom
    obtain ⟨⟨start, after⟩, nextRead, read⟩ := bind_eq_ok.mp read
    refine bind_eq_ok.mpr ⟨_, nextRead, ?_⟩
    cases start with
    | none =>
      cases read
      rfl
    | some start =>
      dsimp only at read ⊢
      split at read
      · obtain ⟨⟨name, behind⟩, nameRead, read⟩ := bind_eq_ok.mp read
        obtain ⟨colon, colonRead, read⟩ := bind_eq_ok.mp read
        obtain ⟨⟨value, last⟩, valueRead, read⟩ := bind_eq_ok.mp read
        obtain ⟨skippedName, passedName⟩ := readText_skip nameRead
        obtain ⟨skipped, passed, same⟩ := valueFrom_skip valueRead fewer 0
        refine bind_eq_ok.mpr ⟨_, passedName, bind_eq_ok.mpr ⟨colon, colonRead,
          bind_eq_ok.mpr ⟨_, passed, ?_⟩⟩⟩
        simp only [nameRead, same, ← nulls_insert]
        exact ih read fewer
      · cases read

theorem parse_eq_ok {text : String} {j : Json} : parse text = .ok j ↔
    ∃ rest, readValue .keep documentRoom text.toList = .ok (j, rest) ∧ atEnd rest = .ok () := by
  unfold parse
  constructor
  · intro parsed
    obtain ⟨⟨value, rest⟩, read, parsed⟩ := bind_eq_ok.mp parsed
    obtain ⟨_, ended, parsed⟩ := bind_eq_ok.mp parsed
    cases parsed
    exact ⟨rest, read, ended⟩
  · rintro ⟨rest, read, ended⟩
    exact bind_eq_ok.mpr ⟨_, read, bind_eq_ok.mpr ⟨_, ended, rfl⟩⟩

theorem valueFrom_object {fuel room : Nat} {cs start rest : List Char} {j : Json}
    (opened : skipSpace cs = '\x7b' :: start)
    (read : valueFrom .keep (fuel + 1) room cs = .ok (j, rest)) :
    ∃ fields, j = .obj fields ∧
      fieldsFrom .keep fuel (room - 1) true [] start = .ok (fields, rest) := by
  have entered : (if (Mode.keep = .keep && room ≤ 1) = true then .error .malformed else do
      let made ← fieldsFrom .keep fuel (room - 1) true [] start
      return (.obj made.1, made.2)) = Except.ok (j, rest) := by
    unfold valueFrom at read
    rw [opened] at read
    exact read
  split at entered
  · cases entered
  · obtain ⟨⟨fields, after⟩, fieldsRead, entered⟩ := bind_eq_ok.mp entered
    cases entered
    exact ⟨fields, rfl, fieldsRead⟩

/-- The members of a document that is kept are its fields. -/
theorem Members.field {text : String} {members : Dict Bool} (object : Members text members)
    {j : Json} (parsed : parse text = .ok j) (name : String) :
    (j.field? name).map isNull = members.find? name := by
  obtain ⟨fuel, start, rest, opened, read, _⟩ := object
  obtain ⟨after, valueRead, _⟩ := parse_eq_ok.mp parsed
  obtain ⟨fields, rfl, fieldsRead⟩ := valueFrom_object opened valueRead
  have kept := membersFrom_of_kept fieldsRead (Nat.le_max_left _ fuel)
  have skipped := membersFrom_more read (Nat.le_max_right (2 * text.toList.length + 1) fuel)
  have same : nulls fields = members :=
    congrArg Prod.fst (Except.ok.inj (kept.symm.trans skipped))
  rw [← same, find_nulls]
  rfl

end Json
end CodeAtlas

import CodeAtlas.Net.Url
import CodeAtlas.Proofs.TextParts
import Mathlib.Data.List.TakeWhile

/-!
How an address of the web falls into its site and its path. The site is the scheme, the host and the
port; all of them stand in front of the first slash, query or fragment behind the scheme. What is
added to an address behind a slash leaves its site as it is, and goes to the end of its path or, if
the address has a query or a fragment, there.
-/
namespace CodeAtlas.Net.Url

/-! ### Schemes -/

theorem splitScheme_iff {cs rest : List Char} {scheme : String} :
    splitScheme? cs = some (scheme, rest) ↔
      ∃ name : List Char, cs = name ++ ':' :: rest ∧ (∃ a ∈ name.head?, a.isAlpha = true) ∧
        (∀ c ∈ name, isSchemeChar c = true) ∧
        scheme = String.ofList (name.map Text.lowerAscii) := by
  constructor
  · intro read
    have whole : cs.takeWhile isSchemeChar ++ cs.dropWhile isSchemeChar = cs :=
      List.takeWhile_append_dropWhile
    have named : ∀ c ∈ cs.takeWhile isSchemeChar, isSchemeChar c = true :=
      List.all_eq_true.mp List.all_takeWhile
    cases cs with
    | nil => cases read
    | cons a more =>
      cases behind : (a :: more).dropWhile isSchemeChar with
      | nil => simp [splitScheme?, behind] at read
      | cons d left =>
        by_cases colon : d = ':'
        · subst colon
          by_cases letter : a.isAlpha = true
          · simp only [splitScheme?, behind, letter, ↓reduceIte, Option.some.injEq,
              Prod.mk.injEq] at read
            obtain ⟨rfl, rfl⟩ := read
            rw [behind] at whole
            refine ⟨_, whole.symm, ⟨a, ?_, letter⟩, named, rfl⟩
            have alnum : a.isAlphanum = true := Bool.or_eq_true_iff.mpr (Or.inl letter)
            have first : isSchemeChar a = true := by simp [isSchemeChar, alnum]
            simp [first]
          · simp [splitScheme?, behind, letter] at read
        · simp [splitScheme?, behind, colon] at read
  · rintro ⟨name, rfl, ⟨a, first, letter⟩, inside, rfl⟩
    obtain ⟨word, left⟩ := Text.stretch_ends inside (':' :: rest) (by simp [isSchemeChar])
    cases name with
    | nil => cases first
    | cons b name =>
      obtain rfl : b = a := by simpa using first
      rw [List.cons_append] at word left
      simp only [splitScheme?, List.cons_append, left, word, letter, ↓reduceIte]

theorem splitScheme_append {c : Char} (ends : isSchemeChar c = false) (noColon : c ≠ ':')
    {cs rest left : List Char} {scheme : String} :
    splitScheme? (cs ++ c :: rest) = some (scheme, left) ↔
      ∃ before, splitScheme? cs = some (scheme, before) ∧ left = before ++ c :: rest := by
  constructor
  · intro read
    obtain ⟨name, eq, first, inside, same⟩ := splitScheme_iff.mp read
    rcases List.append_eq_append_iff.mp eq with ⟨as, front, behind⟩ | ⟨bs, front, behind⟩
    · -- the name would reach beyond the end of its scheme
      cases as with
      | nil => exact absurd (List.cons.inj behind).1 noColon
      | cons d as =>
        obtain ⟨rfl, _⟩ := List.cons.inj behind
        have wrong := inside c (by simp [front])
        rw [ends] at wrong
        cases wrong
    · cases bs with
      | nil => exact absurd (List.cons.inj behind).1.symm noColon
      | cons d bs =>
        obtain ⟨rfl, rest⟩ := List.cons.inj behind
        exact ⟨bs, splitScheme_iff.mpr ⟨name, front, first, inside, same⟩, rest⟩
  · rintro ⟨before, read, rfl⟩
    obtain ⟨name, rfl, first, inside, same⟩ := splitScheme_iff.mp read
    exact splitScheme_iff.mpr ⟨name, by simp, first, inside, same⟩

/-! ### Hosts and ports -/

def isInner (c : Char) : Bool := !SchemeKind.web.isBreak c

def hostPort? (scheme : String) (place : List Char) : Option (String × Option Nat) := do
  let cs := (splitUser .web place).2
  let size := hostLength .web false cs
  if size = 0 then none
  else
    let host ← host? (cs.take size)
    let (port, _) ← splitPort? scheme (cs.drop size)
    return (host, port)

theorem break_iff {c : Char} :
    isInner c = false ↔ c = '/' ∨ c = '\\' ∨ c = '?' ∨ c = '#' := by
  rw [isInner, Bool.not_eq_false']
  simp [SchemeKind.isBreak, SchemeKind.isSlash, or_assoc]

variable {place rest : List Char}

theorem splitUser_append (inner : ∀ c ∈ place, isInner c = true)
    (stop : ∀ c ∈ rest.head?, isInner c = false) :
    splitUser .web (place ++ rest) =
      ((splitUser .web place).1, (splitUser .web place).2 ++ rest) := by
  have taken : (place ++ rest).takeWhile (fun c => !SchemeKind.web.isBreak c) = place :=
    (Text.stretch_ends inner rest stop).1
  have all : place.takeWhile (fun c => !SchemeKind.web.isBreak c) = place :=
    List.takeWhile_eq_self_iff.mpr inner
  simp only [splitUser, taken, all]
  split
  · rfl
  · rename_i shorter
    rw [List.drop_append_of_le_length]
    have most := (List.takeWhile_sublist (· ≠ '@') (l := place.reverse)).length_le
    simp only [List.length_reverse, List.length_dropLast, List.length_take] at most shorter ⊢
    omega

theorem splitUser_inner (inner : ∀ c ∈ place, isInner c = true) :
    ∀ c ∈ (splitUser .web place).2, isInner c = true := by
  intro c member
  unfold splitUser at member
  dsimp only at member
  split at member
  · exact inner c member
  · exact inner c (List.mem_of_mem_drop member)

theorem hostLength_le (inside : Bool) (cs : List Char) :
    hostLength .web inside cs ≤ cs.length := by
  induction cs generalizing inside with
  | nil => simp [hostLength]
  | cons c cs ih =>
    rw [hostLength]
    split
    · omega
    · have := ih (c == '[' || (inside && c != ']'))
      rw [List.length_cons]
      omega

theorem hostLength_append (inner : ∀ c ∈ place, isInner c = true)
    (stop : ∀ c ∈ rest.head?, isInner c = false) (inside : Bool) :
    hostLength .web inside (place ++ rest) = hostLength .web inside place := by
  induction place generalizing inside with
  | nil =>
    cases rest with
    | nil => rfl
    | cons c rest =>
      have ends : SchemeKind.web.isBreak c = true := by simpa [isInner] using stop c rfl
      simp [hostLength, ends]
  | cons c place ih =>
    obtain ⟨_, later⟩ := List.forall_mem_cons.mp inner
    rw [List.cons_append, hostLength, hostLength, ih later]

theorem head_behind_host (inner : ∀ c ∈ place, isInner c = true) (inside : Bool) :
    ∀ c ∈ (place.drop (hostLength .web inside place)).head?, c = ':' := by
  induction place generalizing inside with
  | nil => simp
  | cons c place ih =>
    obtain ⟨here, later⟩ := List.forall_mem_cons.mp inner
    have noBreak : SchemeKind.web.isBreak c = false := by simpa [isInner] using here
    rw [hostLength, noBreak, Bool.false_or]
    split
    · rename_i colon
      simp only [Bool.and_eq_true, beq_iff_eq] at colon
      simp [colon.1]
    · simpa using ih later _

theorem splitPort_append {scheme : String} (inner : ∀ c ∈ place, isInner c = true)
    (stop : ∀ c ∈ rest.head?, isInner c = false) (colon : ∀ c ∈ place.head?, c = ':') :
    splitPort? scheme (place ++ rest) = (splitPort? scheme place).map fun p => (p.1, rest) := by
  cases place with
  | nil =>
    cases rest with
    | nil => rfl
    | cons c rest =>
      have noColon : c ≠ ':' := by
        rcases break_iff.mp (stop c rfl) with rfl | rfl | rfl | rfl <;> decide
      simp [splitPort?, noColon]
  | cons d ds =>
    obtain rfl : d = ':' := colon d rfl
    obtain ⟨_, later⟩ := List.forall_mem_cons.mp inner
    have split : (ds ++ rest).takeWhile Char.isDigit = ds.takeWhile Char.isDigit ∧
        (ds ++ rest).dropWhile Char.isDigit = ds.dropWhile Char.isDigit ++ rest := by
      cases rest with
      | nil => simp
      | cons c rest =>
        have noDigit : c.isDigit = false := by
          rcases break_iff.mp (stop c rfl) with rfl | rfl | rfl | rfl <;> decide
        exact ⟨Text.takeWhile_before noDigit ds rest, Text.dropWhile_before noDigit ds rest⟩
    obtain ⟨digits, behind⟩ := split
    rw [List.cons_append, splitPort?, splitPort?, digits, behind]
    cases port? scheme (ds.takeWhile Char.isDigit) with
    | none => rfl
    | some port =>
      cases left : ds.dropWhile Char.isDigit with
      | nil =>
        cases rest with
        | nil => rfl
        | cons c rest =>
          have ends : SchemeKind.web.isBreak c = true := by simpa [isInner] using stop c rfl
          simp [ends]
      | cons e es =>
        have noBreak : SchemeKind.web.isBreak e = false := by
          have inside : e ∈ ds := (List.dropWhile_sublist _).subset (by rw [left]; simp)
          simpa [isInner] using later e inside
        simp [noBreak]

theorem withHost_eq {scheme : String} (web : kindOf scheme = .web) (cs : List Char) :
    withHost? scheme cs = (hostPort? scheme (cs.takeWhile isInner)).map fun p =>
      withPath scheme (some p.1) p.2 (cs.dropWhile isInner) := by
  have whole : cs.takeWhile isInner ++ cs.dropWhile isInner = cs :=
    List.takeWhile_append_dropWhile
  have inner : ∀ c ∈ cs.takeWhile isInner, isInner c = true :=
    List.all_eq_true.mp List.all_takeWhile
  have stop : ∀ c ∈ (cs.dropWhile isInner).head?, isInner c = false := Text.head_dropWhile cs
  generalize cs.takeWhile isInner = place at whole inner ⊢
  generalize cs.dropWhile isInner = rest at whole stop ⊢
  subst whole
  have named := splitUser_inner inner
  have lacks (user : Option (List Char)) (left : List Char) :
      mayLackHost .web user left = false := by simp [mayLackHost]
  rw [withHost?, hostPort?, web, splitUser_append inner stop]
  dsimp only
  generalize (splitUser .web place).2 = cs at named ⊢
  have most := hostLength_le false cs
  rw [hostLength_append named stop, lacks, List.take_append_of_le_length most,
    List.drop_append_of_le_length most, splitPort_append
      (fun c member => named c (List.mem_of_mem_drop member)) stop (head_behind_host named false)]
  by_cases none : hostLength .web false cs = 0
  · simp [none]
  · cases host? (cs.take (hostLength .web false cs)) with
    | none => simp [none]
    | some host =>
      cases splitPort? scheme (cs.drop (hostLength .web false cs)) with
      | none => simp [none]
      | some port => simp [none]

/-! ### Sites -/

structure Site where
  scheme : String
  host : String
  port : Option Nat

def site? (cs : List Char) : Option (Site × List Char) := do
  let (scheme, rest) ← splitScheme? cs
  let rest := rest.dropWhile SchemeKind.web.isSlash
  let (host, port) ← hostPort? scheme (rest.takeWhile isInner)
  return (⟨scheme, host, port⟩, rest.dropWhile isInner)

def Site.url (site : Site) (rest : List Char) : Url :=
  withPath site.scheme (some site.host) site.port rest

theorem site_iff {cs left : List Char} {site : Site} :
    site? cs = some (site, left) ↔ ∃ rest, splitScheme? cs = some (site.scheme, rest) ∧
      hostPort? site.scheme ((rest.dropWhile SchemeKind.web.isSlash).takeWhile isInner) =
        some (site.host, site.port) ∧
      left = (rest.dropWhile SchemeKind.web.isSlash).dropWhile isInner := by
  obtain ⟨scheme, host, port⟩ := site
  cases read : splitScheme? cs with
  | none => simp [site?, read]
  | some found =>
    obtain ⟨name, rest⟩ := found
    cases place : hostPort? name ((rest.dropWhile SchemeKind.web.isSlash).takeWhile isInner) with
    | none =>
      simp only [site?, read, place, Option.bind_eq_bind, Option.bind_some, Option.bind_none,
        reduceCtorEq, Option.some.injEq, Prod.mk.injEq, false_iff]
      rintro ⟨_, ⟨rfl, rfl⟩, named, _⟩
      rw [place] at named
      cases named
    | some both =>
      obtain ⟨h, p⟩ := both
      simp only [site?, read, place, Option.bind_eq_bind, Option.bind_some, Option.pure_def,
        Option.some.injEq, Prod.mk.injEq, Site.mk.injEq]
      constructor
      · rintro ⟨⟨rfl, rfl, rfl⟩, rfl⟩
        exact ⟨rest, ⟨rfl, rfl⟩, place, rfl⟩
      · rintro ⟨_, ⟨rfl, rfl⟩, named, rfl⟩
        rw [place, Option.some.injEq, Prod.mk.injEq] at named
        obtain ⟨rfl, rfl⟩ := named
        exact ⟨⟨rfl, rfl, rfl⟩, rfl⟩

theorem withHost_scheme {scheme : String} {cs : List Char} {u : Url}
    (read : withHost? scheme cs = some u) : u.scheme = scheme := by
  rw [withHost?] at read
  dsimp only at read
  split at read
  · cases read
  · split at read
    all_goals
      simp only [Option.bind_eq_bind, Option.bind_eq_some_iff, Option.pure_def,
        Option.some.injEq] at read
      obtain ⟨host, _, port, _, rfl⟩ := read
      rfl

theorem file_scheme {cs : List Char} {u : Url} (read : file? cs = some u) :
    u.scheme = "file" := by
  rw [file?.eq_def] at read
  dsimp only [Option.pure_def] at read
  split at read
  · split at read
    · split at read
      · exact Option.some.inj read ▸ rfl
      · split at read
        · exact Option.some.inj read ▸ rfl
        · obtain ⟨host, _, named⟩ := Option.bind_eq_some_iff.mp read
          exact Option.some.inj named ▸ rfl
    · exact Option.some.inj read ▸ rfl
  · exact Option.some.inj read ▸ rfl

theorem bare_scheme (scheme : String) (cs : List Char) : (bare scheme cs).scheme = scheme := by
  rw [bare.eq_def]
  split <;> rfl

theorem kindOf_http {u : Url} (http : u.isHttp = true) : kindOf u.scheme = .web := by
  rcases Bool.or_eq_true_iff.mp http with plain | secure
  · rw [of_decide_eq_true plain]
    decide
  · rw [of_decide_eq_true secure]
    decide

theorem parse_scheme {s : String} {u : Url} (read : parse? s = some u) :
    ∃ rest, splitScheme? (cleaned s) = some (u.scheme, rest) := by
  rw [parse?, Option.bind_eq_bind, Option.bind_eq_some_iff] at read
  obtain ⟨⟨scheme, rest⟩, start, read⟩ := read
  have same : u.scheme = scheme := by
    dsimp only at read
    split at read
    · exact withHost_scheme read
    · rename_i file
      rw [file_scheme read]
      unfold kindOf at file
      split at file
      · rename_i name
        exact name.symm
      · split at file <;> cases file
    · exact withHost_scheme read
    · exact Option.some.inj read ▸ bare_scheme scheme _
  exact ⟨rest, same ▸ start⟩

theorem parse_web {s scheme : String} {rest : List Char}
    (start : splitScheme? (cleaned s) = some (scheme, rest)) (web : kindOf scheme = .web) :
    parse? s = withHost? scheme (rest.dropWhile SchemeKind.web.isSlash) := by
  simp only [parse?, start, Option.bind_eq_bind, Option.bind_some, web]

/-- The addresses that requests are sent to are those at sites. -/
theorem parse_http {s : String} {u : Url} (http : u.isHttp = true) :
    parse? s = some u ↔ ∃ site rest, site? (cleaned s) = some (site, rest) ∧ u = site.url rest := by
  have web := kindOf_http http
  constructor
  · intro read
    obtain ⟨rest, start⟩ := parse_scheme read
    rw [parse_web start web, withHost_eq web, Option.map_eq_some_iff] at read
    obtain ⟨⟨host, port⟩, place, eq⟩ := read
    exact ⟨⟨u.scheme, host, port⟩, _, site_iff.mpr ⟨rest, start, place, rfl⟩, eq.symm⟩
  · rintro ⟨site, left, found, rfl⟩
    obtain ⟨rest, start, place, rfl⟩ := site_iff.mp found
    have same : kindOf site.scheme = .web := web
    rw [parse_web start same, withHost_eq same]
    exact Option.map_eq_some_iff.mpr ⟨_, place, rfl⟩

/-! ### Longer addresses -/

/-- Something else than slashes stands behind the scheme of an address, if it has one. -/
def NamesHost (cs : List Char) : Prop :=
  ∀ scheme rest, splitScheme? cs = some (scheme, rest) →
    rest.dropWhile SchemeKind.web.isSlash ≠ []

theorem namesHost_of_last {w : Char} (solid : SchemeKind.web.isSlash w = false) (noColon : w ≠ ':')
    (front : List Char) : NamesHost (front ++ [w]) := by
  intro scheme rest start none
  obtain ⟨name, eq, _⟩ := splitScheme_iff.mp start
  -- the last character is no colon, so that it stands behind the scheme
  have last : (':' :: rest).getLast? = some w := by
    have both := congrArg List.getLast? eq
    simpa using both.symm
  have behind : w ∈ rest := by
    rcases List.mem_cons.mp (List.mem_of_getLast? last) with colon | behind
    · exact absurd colon noColon
    · exact behind
  rw [← Text.mem_dropWhile solid, none] at behind
  cases behind

theorem namesHost_append {cs rest : List Char} {scheme : String}
    (start : splitScheme? cs = some (scheme, rest))
    (more : rest.dropWhile SchemeKind.web.isSlash ≠ []) (behind : List Char) :
    NamesHost (cs ++ behind) := by
  intro other left longer
  obtain ⟨name, rfl, first, inside, same⟩ := splitScheme_iff.mp start
  have known : splitScheme? (name ++ ':' :: rest ++ behind) = some (scheme, rest ++ behind) :=
    splitScheme_iff.mpr ⟨name, by simp, first, inside, same⟩
  rw [known, Option.some.injEq, Prod.mk.injEq] at longer
  rw [← longer.2, List.dropWhile_append]
  simp [more]

theorem hostPort_nil (scheme : String) : hostPort? scheme [] = none := rfl

theorem Site.behind_slashes {cs left : List Char} {site : Site}
    (found : site? cs = some (site, left)) :
    ∃ rest, splitScheme? cs = some (site.scheme, rest) ∧
      rest.dropWhile SchemeKind.web.isSlash ≠ [] := by
  obtain ⟨rest, start, place, _⟩ := site_iff.mp found
  refine ⟨rest, start, ?_⟩
  intro none
  rw [none, List.takeWhile_nil, hostPort_nil] at place
  cases place

theorem site_append {cs : List Char} (named : NamesHost cs) {more left : List Char} {site : Site} :
    site? (cs ++ '/' :: more) = some (site, left) ↔
      ∃ before, site? cs = some (site, before) ∧ left = before ++ '/' :: more := by
  have longer {rest : List Char} (start : splitScheme? cs = some (site.scheme, rest)) :
      (rest ++ '/' :: more).dropWhile SchemeKind.web.isSlash =
        rest.dropWhile SchemeKind.web.isSlash ++ '/' :: more := by
    rw [List.dropWhile_append]
    simp [named _ _ start]
  have stop : isInner '/' = false := by decide
  rw [site_iff]
  constructor
  · rintro ⟨rest, whole, place, rfl⟩
    obtain ⟨before, start, rfl⟩ := (splitScheme_append (by decide) (by decide)).mp whole
    rw [longer start, Text.takeWhile_before stop] at place
    rw [longer start, Text.dropWhile_before stop]
    exact ⟨_, site_iff.mpr ⟨before, start, place, rfl⟩, rfl⟩
  · rintro ⟨left, found, rfl⟩
    obtain ⟨before, start, place, rfl⟩ := site_iff.mp found
    refine ⟨_, (splitScheme_append (by decide) (by decide)).mpr ⟨before, start, rfl⟩, ?_, ?_⟩
    · rw [longer start, Text.takeWhile_before stop]
      exact place
    · rw [longer start, Text.dropWhile_before stop]

theorem site_rest_start {cs left : List Char} {site : Site} (found : site? cs = some (site, left)) :
    ∀ c ∈ left.head?, isInner c = false := by
  obtain ⟨rest, _, _, rfl⟩ := site_iff.mp found
  exact Text.head_dropWhile _

theorem tail_of_site {cs left : List Char} {site : Site} (found : site? cs = some (site, left))
    {c : Char} (tail : isTail c = true) : c ∈ cs ↔ c ∈ left := by
  have mark : c = '?' ∨ c = '#' := by simpa [isTail] using tail
  have other : isSchemeChar c = false ∧ c ≠ ':' ∧ SchemeKind.web.isSlash c = false ∧
      isInner c = false := by
    rcases mark with rfl | rfl <;> decide
  obtain ⟨noName, noColon, noSlash, noPlace⟩ := other
  obtain ⟨rest, start, _, rfl⟩ := site_iff.mp found
  obtain ⟨name, rfl, _, inside, _⟩ := splitScheme_iff.mp start
  rw [Text.mem_dropWhile noPlace, Text.mem_dropWhile noSlash, List.mem_append, List.mem_cons]
  constructor
  · rintro (named | colon | later)
    · have wrong := inside c named
      rw [noName] at wrong
      cases wrong
    · exact absurd colon noColon
    · exact later
  · intro later
    exact Or.inr (Or.inr later)

end CodeAtlas.Net.Url

import CodeAtlas.Proofs.AddressSites
import CodeAtlas.Proofs.PercentEscapes
import Mathlib.Data.List.Basic
import Mathlib.Data.List.TakeWhile

/-!
Entries of a collection: addresses whose path has one segment more than that of the collection. A
name that is put behind the address of a collection as it is becomes the entry of that name exactly
if it is plain: if it has no mark that divides an address, no escape, nothing that a reader of
addresses drops, and is not one of the two names that stand for folders.
-/
namespace CodeAtlas.Net.Url

/-! ### Cleaning -/

def isOuter (c : Char) : Bool := c.toNat ≤ 0x20

def isKept (c : Char) : Bool := c != '\t' && c != '\n' && c != '\r'

def cleanedStart (cs : List Char) : List Char := (cs.dropWhile isOuter).filter isKept

def trimmedEnd (cs : List Char) : List Char := (cs.reverse.dropWhile isOuter).reverse

def cleanedEnd (cs : List Char) : List Char := (trimmedEnd cs).filter isKept

theorem isKept_of_solid {c : Char} (solid : isOuter c = false) : isKept c = true := by
  have code : 0x20 < c.toNat := by simpa [isOuter] using solid
  simp only [isKept, Bool.and_eq_true, bne_iff_ne]
  refine ⟨⟨?_, ?_⟩, ?_⟩ <;> rintro rfl <;> revert code <;> decide

theorem cleanedEnd_append {c : Char} (solid : isOuter c = false) (front rest : List Char) :
    cleanedEnd (front ++ c :: rest) = front.filter isKept ++ c :: cleanedEnd rest := by
  rw [cleanedEnd, trimmedEnd, List.reverse_append, List.reverse_cons, List.append_assoc,
    List.singleton_append, Text.dropWhile_before solid, List.reverse_append, List.reverse_cons,
    List.reverse_reverse, List.append_assoc, List.singleton_append, List.filter_append,
    List.filter_cons_of_pos (isKept_of_solid solid), cleanedEnd, trimmedEnd]

theorem cleaned_append {s : String} {c : Char} {front rest : List Char}
    (chars : s.toList = front ++ c :: rest) (solid : isOuter c = false) :
    cleaned s = cleanedStart front ++ c :: cleanedEnd rest := by
  have ends : cleaned s = cleanedEnd (s.toList.dropWhile isOuter) := rfl
  rw [ends, chars, Text.dropWhile_before solid, cleanedEnd_append solid, cleanedStart]

theorem cleanedStart_eq (s : String) : ∃ behind, cleanedStart s.toList = cleaned s ++ behind := by
  have ends : cleaned s = cleanedEnd (s.toList.dropWhile isOuter) := rfl
  rw [ends, cleanedStart, cleanedEnd, trimmedEnd]
  generalize s.toList.dropWhile isOuter = cs
  have whole : (cs.reverse.dropWhile isOuter).reverse ++ (cs.reverse.takeWhile isOuter).reverse =
      cs := by
    rw [← List.reverse_append, List.takeWhile_append_dropWhile, List.reverse_reverse]
  refine ⟨((cs.reverse.takeWhile isOuter).reverse).filter isKept, ?_⟩
  rw [← List.filter_append, whole]

theorem mem_cleanedStart {c : Char} (solid : isOuter c = false) {cs : List Char} :
    c ∈ cleanedStart cs ↔ c ∈ cs := by
  rw [cleanedStart, List.mem_filter, Text.mem_dropWhile solid]
  simp [isKept_of_solid solid]

theorem trimmedEnd_sublist (cs : List Char) : (trimmedEnd cs).Sublist cs := by
  have dropped := (List.dropWhile_sublist isOuter (l := cs.reverse)).reverse
  rwa [List.reverse_reverse] at dropped

theorem cleanedEnd_sublist (cs : List Char) : (cleanedEnd cs).Sublist cs :=
  List.filter_sublist.trans (trimmedEnd_sublist cs)

theorem cleanedEnd_eq_self {cs : List Char} :
    cleanedEnd cs = cs ↔
      (∀ c ∈ cs, isKept c = true) ∧ ∀ c ∈ cs.getLast?, isOuter c = false := by
  constructor
  · intro same
    have whole : trimmedEnd cs = cs := by
      have filtered : (cleanedEnd cs).Sublist (trimmedEnd cs) := List.filter_sublist
      rw [same] at filtered
      exact (trimmedEnd_sublist cs).antisymm filtered
    rw [cleanedEnd, whole, List.filter_eq_self] at same
    refine ⟨same, ?_⟩
    have first := Text.head_dropWhile (p := isOuter) cs.reverse
    rwa [← List.reverse_reverse (cs.reverse.dropWhile isOuter), ← trimmedEnd, whole,
      List.head?_reverse] at first
  · rintro ⟨kept, last⟩
    have still : cs.reverse.dropWhile isOuter = cs.reverse := by
      rw [← List.head?_reverse] at last
      cases back : cs.reverse with
      | nil => rfl
      | cons c rest =>
        rw [back] at last
        simp [last c rfl]
    rw [cleanedEnd, trimmedEnd, still, List.reverse_reverse, List.filter_eq_self]
    exact kept

/-! ### Segments -/

theorem segment_web (done : List String) (s : List Char) : segment .web done s = escapePath s := by
  rw [segment.eq_def]
  split <;> simp

theorem resolve_front (k : SchemeKind) (front : List (List Char)) (done : List String) :
    ∃ settled, ∀ rest, rest ≠ [] → resolve k done (front ++ rest) = resolve k settled rest := by
  induction front generalizing done with
  | nil => exact ⟨done, fun rest _ => rfl⟩
  | cons s front ih =>
    have goesOn {rest : List (List Char)} (more : rest ≠ []) : (front ++ rest).isEmpty = false := by
      simp [more]
    by_cases double : isDoubleDot s = true
    · obtain ⟨settled, same⟩ := ih (parent done)
      refine ⟨settled, ?_⟩
      intro rest more
      rw [← same rest more]
      simp [resolve, double, goesOn more]
    · by_cases single : isDot s = true
      · obtain ⟨settled, same⟩ := ih done
        refine ⟨settled, ?_⟩
        intro rest more
        rw [← same rest more]
        simp [resolve, double, single, goesOn more]
      · obtain ⟨settled, same⟩ := ih (done ++ [segment k done s])
        refine ⟨settled, ?_⟩
        intro rest more
        rw [← same rest more]
        simp [resolve, double, single]

theorem resolve_cons {s : List Char} (noDots : isDoubleDot s = false) (noDot : isDot s = false)
    (done : List String) (rest : List (List Char)) :
    resolve .web done (s :: rest) = resolve .web (done ++ [escapePath s]) rest := by
  simp [resolve, noDots, noDot, segment_web]

theorem last_of_resolve {parts : List (List Char)} (some : parts ≠ []) (done : List String) :
    ∃ init last, resolve .web done parts = init ++ [last] ∧
      (last = "" ∨ ∃ s ∈ parts, isDoubleDot s = false ∧ isDot s = false ∧ last = escapePath s) := by
  induction parts generalizing done with
  | nil => exact absurd rfl some
  | cons s rest ih =>
    cases rest with
    | nil =>
      by_cases double : isDoubleDot s = true
      · exact ⟨parent done, "", by simp [resolve, double], Or.inl rfl⟩
      · by_cases single : isDot s = true
        · exact ⟨done, "", by simp [resolve, double, single], Or.inl rfl⟩
        · rw [Bool.not_eq_true] at double single
          exact ⟨done, escapePath s, resolve_cons double single done [],
            Or.inr ⟨s, by simp, double, single, rfl⟩⟩
    | cons t rest =>
      have later (more : List String) :
          ∃ init last, resolve .web more (t :: rest) = init ++ [last] ∧
            (last = "" ∨ ∃ u ∈ s :: t :: rest, isDoubleDot u = false ∧ isDot u = false ∧
              last = escapePath u) := by
        obtain ⟨init, last, eq, ending⟩ := ih (by simp) more
        refine ⟨init, last, eq, ?_⟩
        rcases ending with empty | ⟨u, member, plain⟩
        · exact Or.inl empty
        · exact Or.inr ⟨u, List.mem_cons_of_mem s member, plain⟩
      rw [resolve]
      simp only [List.isEmpty_cons, Bool.false_eq_true, ↓reduceIte, List.append_nil]
      split
      · exact later _
      · split
        · exact later _
        · exact later _

/-! ### Paths at a site -/

abbrev isSlash : Char → Bool := SchemeKind.web.isSlash

theorem url_eq {site : Site} (web : kindOf site.scheme = .web) (rest : List Char) :
    (site.url rest).scheme = site.scheme ∧ (site.url rest).host = some site.host ∧
      (site.url rest).port = site.port ∧
      (site.url rest).path = .segments (segmentsOf .web (rest.takeWhile (!isTail ·))) := by
  simp [Site.url, withPath, web]

theorem segmentsOf_behind {before : List Char} (start : ∀ c ∈ before.head?, isSlash c = true) :
    ∃ settled, ∀ rest,
      segmentsOf .web (before ++ '/' :: rest) = resolve .web settled (Text.parts isSlash rest) := by
  have slash : isSlash '/' = true := by decide
  cases before with
  | nil => exact ⟨[], fun rest => by simp [segmentsOf, slash]⟩
  | cons b before =>
    have first : isSlash b = true := start b rfl
    obtain ⟨settled, same⟩ := resolve_front .web (Text.parts isSlash before) []
    refine ⟨settled, ?_⟩
    intro rest
    rw [← same _ (Text.parts_ne_nil rest), ← Text.parts_append slash]
    simp [segmentsOf, first]

theorem segmentsOf_append {before name : List Char} (start : ∀ c ∈ before.head?, isSlash c = true)
    (single : ∀ c ∈ name, isSlash c = false) (noDots : isDoubleDot name = false)
    (noDot : isDot name = false) :
    ∃ front, segmentsOf .web (before ++ '/' :: name) = front ++ [escapePath name] ∧
      ∀ rest, segmentsOf .web (before ++ '/' :: (name ++ '/' :: rest)) =
        resolve .web (front ++ [escapePath name]) (Text.parts isSlash rest) := by
  obtain ⟨settled, segments⟩ := segmentsOf_behind start
  have one := Text.parts_of_plain single
  refine ⟨settled, ?_, ?_⟩
  · rw [segments, one, resolve_cons noDots noDot, resolve]
  · intro rest
    rw [segments, Text.parts_append (by decide), one, List.singleton_append,
      resolve_cons noDots noDot]

/-! ### Plain names -/

def isPlain (name : String) : Bool :=
  name.toList.all (fun c => !isSlash c && !isTail c && isKept c) &&
    name.toList.getLast?.all (fun c => !isOuter c) &&
    !holdsEscape name.toList && name ≠ "." && name ≠ ".."

theorem isPlain_iff {name : String} :
    isPlain name = true ↔
      (∀ c ∈ name.toList, isSlash c = false) ∧ (∀ c ∈ name.toList, isTail c = false) ∧
        cleanedEnd name.toList = name.toList ∧ holdsEscape name.toList = false ∧
        name ≠ "." ∧ name ≠ ".." := by
  rw [cleanedEnd_eq_self]
  simp only [isPlain, Bool.and_eq_true, List.all_eq_true, Bool.not_eq_true', Option.all_eq_true,
    decide_eq_true_eq]
  constructor
  · rintro ⟨⟨⟨⟨clear, last⟩, none⟩, one⟩, two⟩
    exact ⟨fun c member => (clear c member).1.1, fun c member => (clear c member).1.2,
      ⟨fun c member => (clear c member).2, last⟩, none, one, two⟩
  · rintro ⟨slash, tail, ⟨kept, last⟩, none, one, two⟩
    exact ⟨⟨⟨⟨fun c member => ⟨⟨slash c member, tail c member⟩, kept c member⟩, last⟩, none⟩, one⟩,
      two⟩

theorem lowerAscii_marks (c : Char) :
    Text.hexValue? (Text.lowerAscii c) = Text.hexValue? c ∧
      (Text.lowerAscii c = '%' ↔ c = '%') ∧ (Text.lowerAscii c = '.' ↔ c = '.') := by
  have table : ∀ n < 128, Text.hexValue? (Text.lowerAscii (Char.ofNat n)) =
        Text.hexValue? (Char.ofNat n) ∧
      (Text.lowerAscii (Char.ofNat n) = '%' ↔ Char.ofNat n = '%') ∧
      (Text.lowerAscii (Char.ofNat n) = '.' ↔ Char.ofNat n = '.') := by decide
  by_cases ascii : c.toNat < 128
  · have here := table c.toNat ascii
    rwa [Char.ofNat_toNat] at here
  · have same : Text.lowerAscii c = c := by
      simp [Text.lowerAscii, above_ascii ascii 'Z' (by decide)]
    rw [same]
    exact ⟨rfl, Iff.rfl, Iff.rfl⟩

theorem holdsEscape_lower (cs : List Char) :
    holdsEscape (cs.map Text.lowerAscii) = holdsEscape cs := by
  have byte (cs : List Char) :
      (byteOf? (cs.map Text.lowerAscii)).isSome = (byteOf? cs).isSome := by
    rcases cs with _ | ⟨a, _ | ⟨b, rest⟩⟩
    · rfl
    · rfl
    · simp only [List.map_cons, byteOf?, (lowerAscii_marks a).1, (lowerAscii_marks b).1]
      cases Text.hexValue? a <;> cases Text.hexValue? b <;> rfl
  induction cs with
  | nil => rfl
  | cons c cs ih =>
    have sign : (Text.lowerAscii c == '%') = (c == '%') :=
      Bool.eq_iff_iff.mpr (by simpa using (lowerAscii_marks c).2.1)
    rw [List.map_cons, holdsEscape, holdsEscape, ih, byte, sign]

theorem lower_eq_dots {cs : List Char} {n : Nat}
    (dots : cs.map Text.lowerAscii = List.replicate n '.') : cs = List.replicate n '.' := by
  rw [List.eq_replicate_iff] at dots ⊢
  refine ⟨by simpa using dots.1, ?_⟩
  intro c member
  exact (lowerAscii_marks c).2.2.mp (dots.2 _ (List.mem_map_of_mem member))

theorem no_dots_of_plain {name : String} (none : holdsEscape name.toList = false)
    (one : name ≠ ".") (two : name ≠ "..") :
    isDoubleDot name.toList = false ∧ isDot name.toList = false := by
  -- a spelling with an escape would hold one in lower case too
  have spelled {t : String} (escape : holdsEscape t.toList = true) :
      String.ofList (name.toList.map Text.lowerAscii) ≠ t := by
    rintro rfl
    rw [String.toList_ofList, holdsEscape_lower, none] at escape
    cases escape
  have dotted {n : Nat} (other : name ≠ String.ofList (List.replicate n '.')) :
      String.ofList (name.toList.map Text.lowerAscii) ≠ String.ofList (List.replicate n '.') := by
    intro same
    have chars := congrArg String.toList same
    rw [String.toList_ofList, String.toList_ofList] at chars
    exact other (by rw [← lower_eq_dots chars, String.ofList_toList])
  constructor
  · simp only [isDoubleDot, List.contains_eq_mem, decide_eq_false_iff_not, List.mem_cons,
      List.not_mem_nil, or_false, not_or]
    exact ⟨dotted (n := 2) two, spelled (by decide), spelled (by decide), spelled (by decide)⟩
  · simp only [isDot, List.contains_eq_mem, decide_eq_false_iff_not, List.mem_cons,
      List.not_mem_nil, or_false, not_or]
    exact ⟨dotted (n := 1) one, spelled (by decide)⟩

/-! ### Entries -/

/-- Whether an address is that of an entry of a collection: at the same site, with one segment more,
which stands for the name of the entry. What is cut off as query or fragment does not count. -/
def Entry (collection : Url) (name : String) (u : Url) : Prop :=
  u.scheme = collection.scheme ∧ u.host = collection.host ∧ u.port = collection.port ∧
    ∃ front last, collection.path = .segments front ∧ u.path = .segments (front ++ [last]) ∧
      '/' ∉ last.toList ∧ unescape last.toList = Text.utf8 name

theorem Entry.unique {collection u : Url} {name other : String}
    (first : collection.Entry name u) (second : collection.Entry other u) : name = other := by
  obtain ⟨_, _, _, front, last, base, path, _, bytes⟩ := first
  obtain ⟨_, _, _, front', last', base', path', _, bytes'⟩ := second
  rw [base, UrlPath.segments.injEq] at base'
  subst base'
  rw [path, UrlPath.segments.injEq] at path'
  obtain rfl : last = last' := by simpa using path'
  exact Text.utf8_injective (bytes.symm.trans bytes')

theorem unescape_plain {name : String} (plain : isPlain name = true) :
    unescape (escapePath name.toList).toList = Text.utf8 name := by
  obtain ⟨_, _, _, none, _, _⟩ := isPlain_iff.mp plain
  rw [unescape_escapePath, unescape_of_none none, String.ofList_toList]

theorem resolve_plain {name : String} (plain : isPlain name = true) (front : List String) :
    resolve .web front (Text.parts isSlash ((cleanedEnd name.toList).takeWhile (!isTail ·))) =
      front ++ [escapePath name.toList] := by
  obtain ⟨slash, tail, whole, none, one, two⟩ := isPlain_iff.mp plain
  obtain ⟨noDots, noDot⟩ := no_dots_of_plain none one two
  have uncut : name.toList.takeWhile (!isTail ·) = name.toList :=
    List.takeWhile_eq_self_iff.mpr (by simpa using tail)
  rw [whole, uncut, Text.parts_of_plain slash, resolve_cons noDots noDot, resolve]

/-- What is behind the path of a collection comes out as one segment that stands for it exactly if
it is plain. -/
theorem resolves_to_name_iff (front : List String) (name : String) :
    (∃ last, resolve .web front
          (Text.parts isSlash ((cleanedEnd name.toList).takeWhile (!isTail ·))) = front ++ [last] ∧
        '/' ∉ last.toList ∧ unescape last.toList = Text.utf8 name) ↔
      isPlain name = true := by
  constructor
  · rintro ⟨last, path, _, stands⟩
    obtain ⟨init, found, eq, ending⟩ := last_of_resolve
      (Text.parts_ne_nil (p := isSlash) ((cleanedEnd name.toList).takeWhile (!isTail ·))) front
    obtain rfl : found = last := by
      rw [eq] at path
      simpa using (List.append_inj' path rfl).2
    rcases ending with rfl | ⟨s, member, noDots, noDot, rfl⟩
    · obtain rfl : "" = name := Text.utf8_injective (Text.utf8_nil.trans stands)
      decide
    · -- the part that is kept is shorter than the name, unless it is all of it
      obtain ⟨sub, clear⟩ := Text.mem_parts member
      have cut := List.takeWhile_sublist (!isTail ·) (l := cleanedEnd name.toList)
      have cleaned := cleanedEnd_sublist name.toList
      rw [unescape_escapePath] at stands
      obtain ⟨rfl, none⟩ := eq_of_unescape ((sub.trans cut).trans cleaned) stands
      have whole : cleanedEnd name.toList = name.toList := cleaned.antisymm (sub.trans cut)
      rw [whole] at sub cut
      have uncut : name.toList.takeWhile (!isTail ·) = name.toList := cut.antisymm sub
      refine isPlain_iff.mpr ⟨clear, ?_, whole, none, ?_, ?_⟩
      · simpa using List.takeWhile_eq_self_iff.mp uncut
      · rintro rfl
        revert noDot
        decide
      · rintro rfl
        revert noDots
        decide
  · intro plain
    obtain ⟨slash, _⟩ := isPlain_iff.mp plain
    refine ⟨_, resolve_plain plain front, ?_, ?_⟩
    · refine slash_not_mem_escapePath ?_
      intro member
      have wrong := slash '/' member
      revert wrong
      decide
    · exact unescape_plain plain

theorem path_of_tail {site : Site} (web : kindOf site.scheme = .web) {before : List Char}
    (tail : ∃ c ∈ before, isTail c = true) (rest other : List Char) :
    (site.url (before ++ rest)).path = (site.url (before ++ other)).path := by
  obtain ⟨c, inside, mark⟩ := tail
  obtain ⟨front, back, rfl⟩ := List.append_of_mem inside
  have stop : (!isTail c) = false := by rw [mark, Bool.not_true]
  rw [(url_eq web _).2.2.2, (url_eq web _).2.2.2, List.append_assoc, List.cons_append,
    Text.takeWhile_before stop, List.append_assoc, List.cons_append, Text.takeWhile_before stop]

theorem path_without_tail {site : Site} (web : kindOf site.scheme = .web) {front : List Char}
    (clear : ∀ c ∈ front, isTail c = false) (rest : List Char) :
    (site.url (front ++ rest)).path =
      .segments (segmentsOf .web (front ++ rest.takeWhile (!isTail ·))) := by
  rw [(url_eq web _).2.2.2, List.takeWhile_append_of_pos (by simpa using clear)]

theorem query_without_tail {site : Site} (web : kindOf site.scheme = .web) {rest : List Char}
    (clear : ∀ c ∈ rest, isTail c = false) : (site.url rest).query = none := by
  have all : rest.dropWhile (!isTail ·) = [] := List.dropWhile_eq_nil_iff.mpr (by simpa using clear)
  simp [Site.url, withPath, web, all, splitTail]

theorem text_append (front : List String) (last : String) :
    (UrlPath.segments (front ++ [last])).text = (UrlPath.segments front).text ++ ("/" ++ last) := by
  simp [UrlPath.text, String.join_append]

theorem inner_marks {c : Char} (inner : isInner c = true) :
    isSlash c = false ∧ isTail c = false := by
  simpa [isInner, SchemeKind.isBreak, isTail, and_assoc] using inner

theorem clear_behind {before last : List Char} (clear : ∀ c ∈ before, isTail c = false)
    (later : ∀ c ∈ last, isTail c = false) : ∀ c ∈ before ++ '/' :: last, isTail c = false := by
  intro c member
  rcases List.mem_append.mp member with inside | behind
  · exact clear c inside
  · rcases List.mem_cons.mp behind with rfl | inside
    · decide
    · exact later c inside

theorem slash_of_start {before : List Char} (start : ∀ c ∈ before.head?, isInner c = false)
    (clear : ∀ c ∈ before, isTail c = false) : ∀ c ∈ before.head?, isSlash c = true := by
  intro c head
  have noTail := clear c (List.mem_of_mem_head? head)
  rcases break_iff.mp (start c head) with rfl | rfl | rfl | rfl
  · decide
  · decide
  · cases noTail
  · cases noTail

section Collection

variable {site : Site} (web : kindOf site.scheme = .web) {before last : List Char}
  (start : ∀ c ∈ before.head?, isInner c = false) (single : ∀ c ∈ last, isInner c = true)
  (noDots : isDoubleDot last = false) (noDot : isDot last = false)

include web start single noDots noDot

theorem paths_behind (clear : ∀ c ∈ before, isTail c = false) :
    ∃ front, (site.url (before ++ '/' :: last)).path = .segments front ∧
      ∀ rest, (site.url (before ++ '/' :: (last ++ '/' :: rest))).path =
        .segments (resolve .web front (Text.parts isSlash (rest.takeWhile (!isTail ·)))) := by
  have first := slash_of_start start clear
  have all := clear_behind clear fun c inside => (inner_marks (single c inside)).2
  obtain ⟨front, own, longer⟩ :=
    segmentsOf_append first (fun c inside => (inner_marks (single c inside)).1) noDots noDot
  refine ⟨front ++ [escapePath last], ?_, ?_⟩
  · have path := path_without_tail web all []
    rwa [List.takeWhile_nil, List.append_nil, own] at path
  · intro rest
    have path := path_without_tail web all ('/' :: rest)
    rw [List.takeWhile_cons_of_pos (by decide), List.append_assoc, List.append_assoc,
      List.cons_append, List.cons_append] at path
    rw [path, longer]

/-- A name behind a collection is the entry of that name exactly if the collection has no query and
no fragment and the name is plain. -/
theorem entry_iff (name : String) :
    (site.url (before ++ '/' :: last)).Entry name
        (site.url (before ++ '/' :: (last ++ '/' :: cleanedEnd name.toList))) ↔
      (∀ c ∈ before, isTail c = false) ∧ isPlain name = true := by
  by_cases clear : ∀ c ∈ before, isTail c = false
  · obtain ⟨front, base, longer⟩ := paths_behind web start single noDots noDot clear
    have path := longer (cleanedEnd name.toList)
    rw [← resolves_to_name_iff front]
    constructor
    · rintro ⟨_, _, _, known, seg, same, found, stands⟩
      rw [base, UrlPath.segments.injEq] at same
      rw [path, UrlPath.segments.injEq, ← same] at found
      exact ⟨clear, seg, found, stands⟩
    · rintro ⟨_, seg, found, stands⟩
      obtain ⟨scheme, host, port, _⟩ := url_eq web (before ++ '/' :: last)
      obtain ⟨scheme', host', port', _⟩ :=
        url_eq web (before ++ '/' :: (last ++ '/' :: cleanedEnd name.toList))
      exact ⟨scheme'.trans scheme.symm, host'.trans host.symm, port'.trans port.symm, front, seg,
        base, by rw [path, found], stands⟩
  · refine iff_of_false ?_ fun both => clear both.1
    rintro ⟨_, _, _, front, seg, known, longer, _⟩
    have tail : ∃ c ∈ before, isTail c = true := by simpa using clear
    rw [path_of_tail web tail _ ('/' :: last), known, UrlPath.segments.injEq] at longer
    simp at longer

theorem target_of_plain (clear : ∀ c ∈ before, isTail c = false) {name : String}
    (plain : isPlain name = true) :
    (site.url (before ++ '/' :: (last ++ '/' :: cleanedEnd name.toList))).target =
      (site.url (before ++ '/' :: last)).target ++ ("/" ++ escapePath name.toList) := by
  obtain ⟨front, base, longer⟩ := paths_behind web start single noDots noDot clear
  obtain ⟨_, tail, whole, _⟩ := isPlain_iff.mp plain
  have own : ∀ c ∈ last, isTail c = false := fun c inside => (inner_marks (single c inside)).2
  have shorter := query_without_tail web (clear_behind clear own)
  have query := query_without_tail web (clear_behind clear (clear_behind own tail))
  have path := longer (cleanedEnd name.toList)
  rw [resolve_plain plain] at path
  rw [← whole] at query
  rw [target, target, base, path, shorter, query, text_append]
  simp

end Collection

end CodeAtlas.Net.Url

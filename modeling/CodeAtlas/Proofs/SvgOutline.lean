import CodeAtlas.Picture.Svg
import CodeAtlas.Proofs.WrittenMarkup

/-!
What an SVG document of a scene says to a reader. Its tags and texts are those of an outline with
one line for each stroke and a circle with a label for each dot, whatever the dots are called; and a
reader who undoes the five entities finds their identities and labels, without the characters that
no document can hold.
-/
namespace CodeAtlas.Svg

open Xml

/-! ### Escaped texts -/

/-- Undoes the five entities. -/
def unescapeChars : List Char → List Char
  | [] => []
  | '&' :: 'a' :: 'm' :: 'p' :: ';' :: rest => '&' :: unescapeChars rest
  | '&' :: 'l' :: 't' :: ';' :: rest => '<' :: unescapeChars rest
  | '&' :: 'g' :: 't' :: ';' :: rest => '>' :: unescapeChars rest
  | '&' :: 'q' :: 'u' :: 'o' :: 't' :: ';' :: rest => '"' :: unescapeChars rest
  | '&' :: 'a' :: 'p' :: 'o' :: 's' :: ';' :: rest => '\x27' :: unescapeChars rest
  | c :: rest => c :: unescapeChars rest

def unescape (s : String) : String := String.ofList (unescapeChars s.toList)

/-- A text without the characters that no document can hold. -/
def purge (s : String) : String := String.ofList (s.toList.filter isChar)

theorem isForbidden_eq (c : Char) : isForbidden c = !isChar c := by
  by_cases space : isSpace c = true
  · simp only [isSpace, Bool.or_eq_true, beq_iff_eq] at space
    rcases space with ((rfl | rfl) | rfl) | rfl <;> decide
  · have printed : isSpace c = false := Bool.eq_false_iff.mpr space
    simp only [isSpace, Bool.or_eq_true, beq_iff_eq, not_or] at space
    simp only [isForbidden, isChar, printed]
    grind

theorem unescapeChars_cons {c : Char} (bare : c ≠ '&') (rest : List Char) :
    unescapeChars (c :: rest) = c :: unescapeChars rest := by
  simp [unescapeChars, bare]

theorem unescapeChars_escapeChar (c : Char) (rest : List Char) :
    unescapeChars (escapeChar c ++ rest) = [c].filter isChar ++ unescapeChars rest := by
  unfold escapeChar
  split
  iterate 5 exact rfl
  · rename_i bare _ _ _ _
    rw [isForbidden_eq]
    cases allowed : isChar c
    · simp [allowed]
    · simpa [allowed] using unescapeChars_cons bare rest

theorem unescape_escape (s : String) : unescape (escape s) = purge s := by
  have chars (cs : List Char) : unescapeChars (cs.flatMap escapeChar) = cs.filter isChar := by
    induction cs with
    | nil => rfl
    | cons c cs ih =>
      rw [List.flatMap_cons, unescapeChars_escapeChar, ih, ← List.filter_append,
        List.singleton_append]
  simp [unescape, escape, purge, chars]

theorem inert_escape (s : String) : Inert (escape s) := by
  intro c member
  simp only [escape, String.toList_ofList, List.mem_flatMap] at member
  obtain ⟨d, -, member⟩ := member
  unfold escapeChar at member
  split at member
  iterate 5 exact List.all_eq_true.mp (by decide) c member
  · rename_i _ notLess notGreater notQuote _
    rw [isForbidden_eq] at member
    cases allowed : isChar d
    · simp [allowed] at member
    · obtain rfl : c = d := by simpa [allowed] using member
      simpa [isInert, allowed] using And.intro (And.intro notLess notGreater) notQuote

/-! ### Values that need no escaping -/

def isBare (c : Char) : Bool := isInert c && c ≠ '&'

def Bare (s : String) : Prop := ∀ c ∈ s.toList, isBare c = true

instance (s : String) : Decidable (Bare s) :=
  decidable_of_iff (s.toList.all isBare = true) List.all_eq_true

theorem Bare.inert {s : String} (bare : Bare s) : Inert s := by
  intro c member
  exact (Bool.and_eq_true_iff.mp (bare c member)).1

theorem Bare.unescape {s : String} (bare : Bare s) : unescape s = s := by
  have chars (cs : List Char) (bare : ∀ c ∈ cs, isBare c = true) : unescapeChars cs = cs := by
    induction cs with
    | nil => rfl
    | cons c cs ih =>
      obtain ⟨here, later⟩ := List.forall_mem_cons.mp bare
      have notAnd : c ≠ '&' := of_decide_eq_true (Bool.and_eq_true_iff.mp here).2
      rw [unescapeChars_cons notAnd, ih later]
  rw [Svg.unescape, chars s.toList bare, String.ofList_toList]

theorem Bare.append {s t : String} (first : Bare s) (second : Bare t) : Bare (s ++ t) := by
  intro c member
  rw [String.toList_append, List.mem_append] at member
  exact member.elim (first c) (second c)

theorem bare_digit {c : Char} (digit : c.isDigit = true) : isBare c = true := by
  have allowed : isChar c = true := char_of_ascii (by simp [Char.isAlphanum, digit])
  have unmarked (mark : Char) (other : mark.isDigit = false) : c ≠ mark := by
    rintro rfl
    exact Bool.noConfusion (other.symm.trans digit)
  simp [isBare, isInert, allowed, unmarked]

theorem bare_repr (n : Nat) : Bare n.repr := by
  intro c member
  rw [Nat.repr_eq_ofList_toDigits, String.toList_ofList] at member
  exact bare_digit (Nat.isDigit_of_mem_toDigits (by decide) (by decide) member)

theorem bare_padded {width n : Nat} {c : Char} (member : c ∈ Decimal.padded width n) :
    isBare c = true := by
  simp only [Decimal.padded, List.mem_append, List.mem_replicate] at member
  rcases member with ⟨-, rfl⟩ | member
  · decide
  · exact bare_digit (Nat.isDigit_of_mem_toDigits (by decide) (by decide) member)

theorem bare_number (x : Float32) : Bare (number x) := by
  unfold number Decimal.fixed32
  cases Decimal.ofFloat32 x with
  | nan => exact (by decide : Bare "NaN")
  | infinite negative =>
    cases negative with
    | false => exact (by decide : Bare "inf")
    | true => exact (by decide : Bare "-inf")
  | finite d =>
    have text {n : Nat} {c : Char} (member : c ∈ Decimal.withPoint 2 n) : isBare c = true := by
      simp only [Decimal.withPoint, Nat.reduceBEq, Bool.false_eq_true, ↓reduceIte, List.mem_append,
        List.mem_cons] at member
      rcases member with member | rfl | member
      · exact bare_padded (List.mem_of_mem_take member)
      · decide
      · exact bare_padded (List.mem_of_mem_drop member)
    intro c member
    simp only [Decimal.Reading.fixed, Decimal.Dyadic.fixed, String.toList_ofList] at member
    split at member
    · rcases List.mem_cons.mp member with rfl | member
      · decide
      · exact text member
    · exact text member

theorem bare_hexDigit {n : Nat} (small : n < 16) : isBare (Text.hexDigit n) = true := by
  revert n
  decide

theorem bare_hex (c : Color) : Bare c.hex := by
  refine Bare.append (by decide) ?_
  intro d member
  simp only [Text.hexBytes, String.toList_ofList, List.mem_flatMap] at member
  obtain ⟨byte, -, member⟩ := member
  have high : byte.toNat / 16 < 16 := Nat.div_lt_of_lt_mul byte.toNat_lt
  simp only [Text.hexByte, List.mem_cons, List.not_mem_nil, or_false] at member
  rcases member with rfl | rfl
  · exact bare_hexDigit high
  · exact bare_hexDigit (Nat.mod_lt _ (by decide))

/-! ### The outline -/

def lines : List Markup → List Markup
  | [] => [.text "\n"]
  | m :: ms => .text "\n" :: m :: lines ms

def group (name : String) (members : List Markup) : Markup :=
  .element "g" [("class", name)] (lines members)

def strokeAttributes (s : Stroke) : List (String × String) :=
  [("x1", number s.start.x), ("y1", number s.start.y), ("x2", number s.stop.x),
    ("y2", number s.stop.y), ("stroke", s.kind.color.hex),
    ("stroke-width", number s.emphasis.width), ("stroke-opacity", number s.emphasis.opacity)]

def circleAttributes (d : Dot) : List (String × String) :=
  [("cx", number d.center.x), ("cy", number d.center.y), ("r", number d.radius),
    ("fill", (fill d).hex), ("fill-opacity", number d.emphasis.opacity),
    ("stroke", Color.nodeOutline.hex), ("stroke-width", "1")]

def labelAttributes (d : Dot) : List (String × String) :=
  [("x", number (d.center.x + d.radius + 4.0)), ("y", number d.center.y),
    ("font-family", "sans-serif"), ("font-size", "11"), ("fill", Color.label.hex),
    ("fill-opacity", number d.emphasis.opacity), ("dominant-baseline", "middle")]

def groundAttributes : List (String × String) :=
  [("width", "100%"), ("height", "100%"), ("fill", Color.background.hex)]

def rootAttributes (s : Scene) : List (String × String) :=
  let width := toString (max s.width 1)
  let height := toString (max s.height 1)
  [("xmlns", "http://www.w3.org/2000/svg"), ("width", width), ("height", height),
    ("viewBox", "0 0 " ++ width ++ " " ++ height)]

def strokeMarkup (s : Stroke) : Markup := .void "line" (strokeAttributes s)

def dotMarkup (write : String → String) (d : Dot) : List Markup :=
  [.void "circle" (("data-id", write d.id) :: circleAttributes d),
    .element "text" (labelAttributes d) [.text (write d.label)]]

def outline (write : String → String) (s : Scene) : Markup :=
  .element "svg" (rootAttributes s) <| lines
    [.void "rect" groundAttributes,
      group "links" (s.strokes.map strokeMarkup),
      group "nodes" (s.dots.flatMap (dotMarkup write))]

/-! ### The document is the outline, written -/

theorem attr_written (a : String × String) : (attr a.1 a.2).toList = attributeWritten a := by
  simp [attr, attributeWritten]

theorem attrs_written (attrs : List (String × String)) :
    (String.join (attrs.map fun a => attr a.1 a.2)).toList = attrs.flatMap attributeWritten := by
  simp only [String.toList_join, List.flatMap_map, attr_written]

theorem void_written (name : String) (attrs : List (String × String)) :
    (void name attrs).toList = (Markup.void name attrs).written ++ ['\n'] := by
  simp only [void, String.toList_append, attrs_written, Markup.written, tagWritten]
  simp

def onLines (ms : List Markup) : List Char := ms.flatMap fun m => m.written ++ ['\n']

theorem writtenAll_lines (ms : List Markup) : writtenAll (lines ms) = '\n' :: onLines ms := by
  induction ms with
  | nil => rfl
  | cons m ms ih => simp [lines, writtenAll, Markup.written, ih, onLines]

theorem label_written (d : Dot) : (label d).toList =
    (Markup.element "text" (labelAttributes d) [.text (escape d.label)]).written ++ ['\n'] := by
  simp only [label, String.toList_append, attrs_written, Markup.written, tagWritten, writtenAll,
    labelAttributes]
  simp

theorem dot_written (d : Dot) : (circle d ++ label d).toList = onLines (dotMarkup escape d) := by
  rw [String.toList_append, circle, void_written, label_written]
  simp [onLines, dotMarkup, circleAttributes]

theorem group_written (name : String) (members : List Markup) :
    (group name members).written = '<' :: (tagWritten "g" [("class", name)] ['>'] ++
      ('\n' :: onLines members ++ ['<', '/', 'g', '>'])) := by
  rw [group, Markup.written, writtenAll_lines]
  rfl

def inner (s : Scene) : String :=
  void "rect" groundAttributes ++ "<g class=\"links\">\n" ++ String.join (s.strokes.map stroke) ++
    "</g>\n<g class=\"nodes\">\n" ++ String.join (s.dots.map fun d => circle d ++ label d) ++
    "</g>\n"

theorem inner_written (s : Scene) : (inner s).toList = onLines
    [.void "rect" groundAttributes, group "links" (s.strokes.map strokeMarkup),
      group "nodes" (s.dots.flatMap (dotMarkup escape))] := by
  have strokes : (String.join (s.strokes.map stroke)).toList =
      onLines (s.strokes.map strokeMarkup) := by
    simp only [String.toList_join, List.flatMap_map, stroke, void_written, onLines, strokeMarkup,
      strokeAttributes]
  have dots : (String.join (s.dots.map fun d => circle d ++ label d)).toList =
      onLines (s.dots.flatMap (dotMarkup escape)) := by
    simp only [String.toList_join, List.flatMap_map, dot_written, onLines, List.flatMap_assoc]
  simp only [inner, String.toList_append, strokes, dots, void_written]
  simp [onLines, group_written, tagWritten, attributeWritten]

theorem render_eq (s : Scene) : render s =
    "<svg" ++ String.join ((rootAttributes s).map fun a => attr a.1 a.2) ++ ">\n" ++ inner s ++
      "</svg>\n" := by
  -- `simp` would first make the equation of `render`, which takes it long.
  delta render
  simp only [inner, rootAttributes, groundAttributes, List.map_cons, List.map_nil, String.join,
    List.foldl_cons, List.foldl_nil, String.empty_append, String.append_assoc]
  rfl

theorem render_written (s : Scene) :
    (render s).toList = (outline escape s).written ++ ['\n'] := by
  rw [render_eq]
  simp only [String.toList_append, attrs_written, inner_written, outline, Markup.written,
    writtenAll_lines, tagWritten]
  simp

/-! ### The outline can be read -/

def attributeNames : List String :=
  ["xmlns", "width", "height", "viewBox", "class", "x1", "y1", "x2", "y2", "x", "y", "data-id",
    "cx", "cy", "r", "fill", "fill-opacity", "stroke", "stroke-width", "stroke-opacity", "font-family",
    "font-size", "dominant-baseline"]

theorem plain_attributeNames : ∀ name ∈ attributeNames, isPlainName name = true := by
  decide

def BareAttributes (attrs : List (String × String)) : Prop :=
  ∀ a ∈ attrs, a.1 ∈ attributeNames ∧ Bare a.2

theorem BareAttributes.sound {attrs : List (String × String)} (bare : BareAttributes attrs) :
    Attributes attrs := by
  intro a listed
  obtain ⟨named, value⟩ := bare a listed
  exact ⟨plain_attributeNames a.1 named, value.inert⟩

theorem BareAttributes.unescaped {attrs : List (String × String)} (bare : BareAttributes attrs) :
    attrs.map (fun a => (a.1, unescape a.2)) = attrs := by
  rw [List.map_congr_left fun a listed => by rw [(bare a listed).2.unescape], List.map_id'']
  exact fun _ => rfl

theorem bare_stroke (k : Stroke) : BareAttributes (strokeAttributes k) := by
  simp [BareAttributes, strokeAttributes, attributeNames, bare_number, bare_hex]

theorem bare_circle (d : Dot) : BareAttributes (circleAttributes d) := by
  simp [BareAttributes, circleAttributes, attributeNames, bare_number, bare_hex,
    show Bare "1" by decide]

theorem bare_label (d : Dot) : BareAttributes (labelAttributes d) := by
  simp [BareAttributes, labelAttributes, attributeNames, bare_number, bare_hex,
    show Bare "11" by decide, show Bare "sans-serif" by decide, show Bare "middle" by decide]

theorem bare_ground : BareAttributes groundAttributes := by
  simp [BareAttributes, groundAttributes, attributeNames, bare_hex, show Bare "100%" by decide]

theorem bare_root (s : Scene) : BareAttributes (rootAttributes s) := by
  have corners (n m : Nat) : Bare ("0 0 " ++ n.repr ++ " " ++ m.repr) :=
    (((show Bare "0 0 " by decide).append (bare_repr n)).append (by decide)).append (bare_repr m)
  simp [BareAttributes, rootAttributes, attributeNames, bare_repr, corners,
    show Bare "http://www.w3.org/2000/svg" by decide]

theorem bare_break : Bare "\n" := by
  decide

theorem soundAll_lines {ms : List Markup} (sound : ∀ m ∈ ms, m.Sound ∧ m.isText = false) :
    SoundAll (lines ms) := by
  induction ms with
  | nil => exact ⟨bare_break.inert, by simp, trivial⟩
  | cons m ms ih =>
    obtain ⟨⟨here, tagged⟩, later⟩ := List.forall_mem_cons.mp sound
    refine ⟨bare_break.inert, ?_, here, ?_, ih later⟩
    · simp [tagged]
    · simp [tagged]

theorem group_sound {name : String} (bare : Bare name) {members : List Markup}
    (sound : ∀ m ∈ members, m.Sound ∧ m.isText = false) : (group name members).Sound := by
  have attributes : BareAttributes [("class", name)] := by
    simpa [BareAttributes, attributeNames] using bare
  exact ⟨by decide, attributes.sound, soundAll_lines sound⟩

theorem stroke_sound (k : Stroke) : (strokeMarkup k).Sound :=
  ⟨by decide, (bare_stroke k).sound⟩

theorem dot_sound (d : Dot) : ∀ m ∈ dotMarkup escape d, m.Sound ∧ m.isText = false := by
  have named : Attributes (("data-id", escape d.id) :: circleAttributes d) :=
    List.forall_mem_cons.mpr
      ⟨⟨plain_attributeNames "data-id" (by decide), inert_escape d.id⟩, (bare_circle d).sound⟩
  have labelled : SoundAll [.text (escape d.label)] := ⟨inert_escape d.label, by simp, trivial⟩
  intro m member
  simp only [dotMarkup, List.mem_cons, List.not_mem_nil, or_false] at member
  rcases member with rfl | rfl
  · exact ⟨⟨by decide, named⟩, rfl⟩
  · exact ⟨⟨by decide, (bare_label d).sound, labelled⟩, rfl⟩

theorem outline_sound (s : Scene) : (outline escape s).Sound := by
  have links : (group "links" (s.strokes.map strokeMarkup)).Sound := by
    refine group_sound (by decide) fun m member => ?_
    obtain ⟨k, -, rfl⟩ := List.mem_map.mp member
    exact ⟨stroke_sound k, rfl⟩
  have nodes : (group "nodes" (s.dots.flatMap (dotMarkup escape))).Sound := by
    refine group_sound (by decide) fun m member => ?_
    obtain ⟨d, -, member⟩ := List.mem_flatMap.mp member
    exact dot_sound d m member
  refine ⟨by decide, (bare_root s).sound, soundAll_lines fun m member => ?_⟩
  simp only [List.mem_cons, List.not_mem_nil, or_false] at member
  rcases member with rfl | rfl | rfl
  · exact ⟨⟨by decide, bare_ground.sound⟩, rfl⟩
  · exact ⟨links, rfl⟩
  · exact ⟨nodes, rfl⟩

/-! ### What the entities stand for -/

theorem mapAll_lines (ms : List Markup) :
    mapAll unescape (lines ms) = lines (mapAll unescape ms) := by
  induction ms with
  | nil => simp [lines, mapAll, Markup.map, bare_break.unescape]
  | cons m ms ih => simp [lines, mapAll, Markup.map, bare_break.unescape, ih]

theorem group_unescaped {name : String} (bare : Bare name) (members : List Markup) :
    (group name members).map unescape = group name (mapAll unescape members) := by
  simp [group, Markup.map, mapAll_lines, bare.unescape]

theorem stroke_unescaped (k : Stroke) : (strokeMarkup k).map unescape = strokeMarkup k := by
  rw [strokeMarkup, Markup.map, (bare_stroke k).unescaped]

theorem dot_unescaped (d : Dot) :
    (dotMarkup escape d).map (Markup.map unescape) = dotMarkup purge d := by
  simp [dotMarkup, Markup.map, mapAll, unescape_escape, (bare_circle d).unescaped,
    (bare_label d).unescaped]

theorem outline_unescaped (s : Scene) : (outline escape s).map unescape = outline purge s := by
  have links : mapAll unescape (s.strokes.map strokeMarkup) = s.strokes.map strokeMarkup := by
    simp [mapAll_eq_map, stroke_unescaped]
  have nodes : mapAll unescape (s.dots.flatMap (dotMarkup escape)) =
      s.dots.flatMap (dotMarkup purge) := by
    simp only [mapAll_eq_map, List.map_flatMap, dot_unescaped]
  simp only [outline, Markup.map, mapAll_lines, mapAll, (bare_root s).unescaped,
    bare_ground.unescaped, group_unescaped (show Bare "links" by decide),
    group_unescaped (show Bare "nodes" by decide), links, nodes]

/-- Whatever a scene's dots are called, its document is read as the outline: its tags and texts are
those of some markup that is the outline of the scene once the five entities are undone, with the
identities and labels as they are but for the characters that no document can hold. -/
theorem document_reads_as_outline (s : Scene) :
    (∃ raw : Markup, source? (render s).toList = some ([], raw.tokens) ∧
      raw.map unescape = outline purge s) ∧ ∀ c ∈ (render s).toList, isChar c = true := by
  have sound := outline_sound s
  rw [render_written]
  refine ⟨⟨outline escape s, source_written sound, outline_unescaped s⟩, ?_⟩
  exact List.forall_mem_append.mpr ⟨Markup.chars _ sound, List.all_eq_true.mp (by decide)⟩

end CodeAtlas.Svg

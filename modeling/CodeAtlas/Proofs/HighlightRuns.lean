import CodeAtlas.Proofs.Neighbors
import Mathlib.Data.List.Infix

/-!
Emphasis after any changes of focus and path. Focus, neighbours and path are kept apart and set by
different changes, but no change leaves anything of an earlier one of its kind. So what is dimmed
and what stands out can be told from the last focus, the links that it was set with, and the last
path.
-/
namespace CodeAtlas.Highlight

/-- A change of what is emphasised. -/
inductive Change where
  | focusOn (focus : Option String) (links : List Link)
  | focusInView (focus : Option String) (view : View)
  | clearFocus
  | follow (path : Option (List String))

def perform (h : Highlight) : Change → Highlight
  | .focusOn focus links => h.setFocus focus links
  | .focusInView focus view => h.focusInView focus view
  | .clearFocus => h.clearFocus
  | .follow path => h.setPath path

def run (changes : List Change) : Highlight := changes.foldl perform {}

def Change.focus? : Change → Option (Option String × List Link)
  | .focusOn focus links => some (focus, links)
  | .focusInView focus view => some (focus, view.links)
  | .clearFocus => some (none, [])
  | .follow _ => none

def Change.path? : Change → Option (List String)
  | .follow path => some (path.getD [])
  | .focusOn .. | .focusInView .. | .clearFocus => none

def lastFocus (changes : List Change) : Option String × List Link :=
  (changes.filterMap Change.focus?).getLastD (none, [])

def lastPath (changes : List Change) : List String :=
  (changes.filterMap Change.path?).getLastD []

def made (focus : Option String × List Link) (path : List String) : Highlight :=
  (setFocus focus.1 focus.2 {}).setPath (some path)

theorem perform_made (focus : Option String × List Link) (path : List String) (c : Change) :
    (made focus path).perform c = made (c.focus?.getD focus) (c.path?.getD path) := by
  cases c <;> rfl

/-- Each change takes the place of the last one of its kind, so the induction goes from the end. -/
theorem run_eq_made (changes : List Change) :
    run changes = made (lastFocus changes) (lastPath changes) := by
  induction changes using List.reverseRecOn with
  | nil => rfl
  | append_singleton earlier c ih =>
    have focus : lastFocus (earlier ++ [c]) = c.focus?.getD (lastFocus earlier) := by
      cases set : c.focus? <;> simp [lastFocus, set]
    have path : lastPath (earlier ++ [c]) = c.path?.getD (lastPath earlier) := by
      cases set : c.path? <;> simp [lastPath, set]
    have step : run (earlier ++ [c]) = (run earlier).perform c :=
      List.foldl_concat perform {} c earlier
    rw [step, ih, perform_made, focus, path]

/-! ### What is dimmed and what stands out -/

theorem dimmed_lt_full : dimmedOpacity < 1.0 := by decide +kernel

theorem full_not_lt : ¬(1.0 : Float32) < 1.0 := by decide +kernel

theorem nodeEmphasis_undimmed {h : Highlight} {id : String} :
    (h.nodeEmphasis id).isDimmed = false ↔
      h.isActive = false ∨ h.focus = some id ∨ id ∈ h.path ∨ id ∈ h.neighbors := by
  unfold nodeEmphasis
  cases active : h.isActive with
  | false => simp [NodeEmphasis.isDimmed, NodeEmphasis.plain, full_not_lt]
  | true =>
    by_cases near : h.focus = some id ∨ id ∈ h.path ∨ id ∈ h.neighbors
    · simp [NodeEmphasis.isDimmed, full_not_lt, near, or_assoc]
    · simp [NodeEmphasis.isDimmed, dimmed_lt_full, near, or_assoc]

theorem plain_highlighted (kind : LinkKind) : (LinkEmphasis.plain kind).highlighted = false := by
  cases kind <;> rfl

theorem consecutive_iff {a b : String} {path : List String} :
    consecutive a b path = true ↔ [a, b] <:+: path ∨ [b, a] <:+: path := by
  induction path with
  | nil => simp [consecutive]
  | cons p rest ih =>
    cases rest with
    | nil => simp [consecutive, List.infix_cons_iff]
    | cons q rest =>
      have here (x y : String) :
          [x, y] <:+: p :: q :: rest ↔ (p = x ∧ q = y) ∨ [x, y] <:+: q :: rest := by
        rw [List.infix_cons_iff]
        simp [List.cons_prefix_cons, eq_comm]
      rw [here, here]
      simp only [consecutive, Bool.or_eq_true, Bool.and_eq_true, decide_eq_true_eq, ih]
      tauto

theorem linkEmphasis_highlighted {h : Highlight} {l : Link} :
    (h.linkEmphasis l).highlighted = true ↔ h.isActive = true ∧
      ((∃ focus, h.focus = some focus ∧ l.touches focus = true) ∨
        ∃ a b, [a, b] <:+: h.path ∧ Joins a b l) := by
  have touches : (h.focus = some l.source.id ∨ h.focus = some l.target.id) ↔
      ∃ focus, h.focus = some focus ∧ l.touches focus = true := by
    simp only [Link.touches, Bool.or_eq_true, decide_eq_true_eq]
    constructor
    · rintro (source | target)
      · exact ⟨_, source, Or.inl rfl⟩
      · exact ⟨_, target, Or.inr rfl⟩
    · rintro ⟨focus, set, rfl | rfl⟩
      · exact Or.inl set
      · exact Or.inr set
  have joins : consecutive l.source.id l.target.id h.path = true ↔
      ∃ a b, [a, b] <:+: h.path ∧ Joins a b l := by
    rw [consecutive_iff]
    constructor
    · rintro (onward | back)
      · exact ⟨_, _, onward, Or.inl ⟨rfl, rfl⟩⟩
      · exact ⟨_, _, back, Or.inr ⟨rfl, rfl⟩⟩
    · rintro ⟨a, b, follow, ⟨rfl, rfl⟩ | ⟨rfl, rfl⟩⟩
      · exact Or.inl follow
      · exact Or.inr follow
  rw [← touches, ← joins]
  unfold linkEmphasis emphasisBetween
  cases active : h.isActive with
  | false => simp [plain_highlighted]
  | true =>
    simp only [Bool.not_true, Bool.false_eq_true, ↓reduceIte, Bool.or_eq_true, decide_eq_true_eq,
      true_and]
    split
    · rename_i shown
      exact iff_of_true rfl shown
    · rename_i hidden
      exact iff_of_false (by simp [LinkEmphasis.dimmed, plain_highlighted]) hidden

/-! ### Told from the last changes -/

theorem made_isActive {focus : Option String × List Link} {path : List String} :
    (made focus path).isActive = false ↔ focus.1 = none ∧ path = [] := by
  simp [made, isActive, setFocus, setPath]

theorem mem_made_neighbors {focus : Option String × List Link} {path : List String} {id : String} :
    id ∈ (made focus path).neighbors ↔
      ∃ center, focus.1 = some center ∧ id ≠ center ∧ ∃ l ∈ focus.2, Joins center id l := by
  obtain ⟨center, links⟩ := focus
  cases center with
  | none => simp [made, setFocus, setPath]
  | some center => simp [made, setFocus, setPath, mem_neighborsOf]

theorem made_undimmed {focus : Option String × List Link} {path : List String} {id : String} :
    ((made focus path).nodeEmphasis id).isDimmed = false ↔
      (focus.1 = none ∧ path = []) ∨ focus.1 = some id ∨ id ∈ path ∨
        ∃ center, focus.1 = some center ∧ ∃ l ∈ focus.2, Joins center id l := by
  rw [nodeEmphasis_undimmed, made_isActive, mem_made_neighbors]
  have own : (made focus path).focus = focus.1 := rfl
  have along : (made focus path).path = path := rfl
  rw [own, along]
  constructor
  · rintro (idle | center | onPath | ⟨center, set, -, near⟩)
    · exact Or.inl idle
    · exact Or.inr (Or.inl center)
    · exact Or.inr (Or.inr (Or.inl onPath))
    · exact Or.inr (Or.inr (Or.inr ⟨center, set, near⟩))
  · rintro (idle | center | onPath | ⟨center, set, near⟩)
    · exact Or.inl idle
    · exact Or.inr (Or.inl center)
    · exact Or.inr (Or.inr (Or.inl onPath))
    · -- a loop at the focus joins it to no other node, but then the node is the focus
      by_cases same : id = center
      · exact Or.inr (Or.inl (same ▸ set))
      · exact Or.inr (Or.inr (Or.inr ⟨center, set, same, near⟩))

theorem made_highlighted {focus : Option String × List Link} {path : List String} {l : Link} :
    ((made focus path).linkEmphasis l).highlighted = true ↔ (focus.1 ≠ none ∨ path ≠ []) ∧
      ((∃ center, focus.1 = some center ∧ l.touches center = true) ∨
        ∃ a b, [a, b] <:+: path ∧ Joins a b l) := by
  have active : (made focus path).isActive = true ↔ focus.1 ≠ none ∨ path ≠ [] := by
    rw [← Bool.not_eq_false, made_isActive, not_and_or]
  rw [linkEmphasis_highlighted, active]
  rfl

theorem made_ends_undimmed {focus : Option String × List Link} {path : List String} {l : Link}
    (member : l ∈ focus.2) (shown : ((made focus path).linkEmphasis l).highlighted = true) :
    ((made focus path).nodeEmphasis l.source.id).isDimmed = false ∧
      ((made focus path).nodeEmphasis l.target.id).isDimmed = false := by
  rw [made_undimmed, made_undimmed]
  rcases (made_highlighted.mp shown).2 with ⟨center, set, touches⟩ | ⟨a, b, follow, joins⟩
  · have ends : l.source.id = center ∨ l.target.id = center := by
      simpa [Link.touches] using touches
    rcases ends with rfl | rfl
    · exact ⟨Or.inr (Or.inl set),
        Or.inr (Or.inr (Or.inr ⟨_, set, l, member, Or.inl ⟨rfl, rfl⟩⟩))⟩
    · exact ⟨Or.inr (Or.inr (Or.inr ⟨_, set, l, member, Or.inr ⟨rfl, rfl⟩⟩)),
        Or.inr (Or.inl set)⟩
  · have first : a ∈ path := follow.subset List.mem_cons_self
    have second : b ∈ path := follow.subset (List.mem_cons_of_mem _ List.mem_cons_self)
    rcases joins with ⟨rfl, rfl⟩ | ⟨rfl, rfl⟩
    · exact ⟨Or.inr (Or.inr (Or.inl first)), Or.inr (Or.inr (Or.inl second))⟩
    · exact ⟨Or.inr (Or.inr (Or.inl second)), Or.inr (Or.inr (Or.inl first))⟩

/-- After any changes the emphasis is that of the last focus among its links and of the last path. A
node is not dimmed exactly if there is neither, or it is the focus, or on the path, or a link joins
it to the focus. A link stands out exactly if there is a focus or a path, and it touches the focus or
joins two nodes that follow each other on the path. If such a link is among those of the focus then
neither of its ends is dimmed. With no focus and no path everything has its plain look. -/
theorem emphasis_follows_last_focus_and_path (changes : List Change) :
    let h := run changes
    let focus := (lastFocus changes).1
    let links := (lastFocus changes).2
    let path := lastPath changes
    h = (setFocus focus links {}).setPath (some path) ∧
      (∀ id, (h.nodeEmphasis id).isDimmed = false ↔
        (focus = none ∧ path = []) ∨ focus = some id ∨ id ∈ path ∨
          ∃ center, focus = some center ∧ ∃ l ∈ links, Joins center id l) ∧
      (∀ l, (h.linkEmphasis l).highlighted = true ↔ (focus ≠ none ∨ path ≠ []) ∧
        ((∃ center, focus = some center ∧ l.touches center = true) ∨
          ∃ a b, [a, b] <:+: path ∧ Joins a b l)) ∧
      (∀ l ∈ links, (h.linkEmphasis l).highlighted = true →
        (h.nodeEmphasis l.source.id).isDimmed = false ∧
          (h.nodeEmphasis l.target.id).isDimmed = false) ∧
      (focus = none → path = [] →
        (∀ id, h.nodeEmphasis id = .plain) ∧ ∀ l, h.linkEmphasis l = .plain l.kind) := by
  intro h focus links path
  have told : h = made (focus, links) path := run_eq_made changes
  rw [told]
  refine ⟨rfl, fun id => made_undimmed, fun l => made_highlighted,
    fun l member => made_ends_undimmed member, ?_⟩
  intro unfocused pathless
  have idle : (made (focus, links) path).isActive = false :=
    made_isActive.mpr ⟨unfocused, pathless⟩
  exact ⟨fun id => by simp [nodeEmphasis, idle],
    fun l => by simp [linkEmphasis, emphasisBetween, idle]⟩

/-- A second focus with a loop at it, beside a path that comes back to its start: the link to an
embedded node stands out between nodes that are not dimmed, and the first focus leaves nothing. -/
theorem first_focus_dimmed_beside_second :
    let loop : Link := ⟨.bare "a", .bare "a", .calls⟩
    let call : Link := ⟨.embedded "b" [], .bare "a", .calls⟩
    let changes : List Change := [.focusOn (some "d") [⟨.bare "d", .bare "e", .contains⟩],
      .follow (some ["d", "e"]), .focusOn (some "a") [loop, call], .follow (some ["f", "c", "f"])]
    let h := run changes
    (h.linkEmphasis call).highlighted = true ∧ (h.nodeEmphasis "b").isDimmed = false ∧
      (h.nodeEmphasis "c").isDimmed = false ∧ (h.nodeEmphasis "d").isDimmed = true := by
  intro loop call changes h
  obtain ⟨-, nodes, links, ends, -⟩ := emphasis_follows_last_focus_and_path changes
  have shown : (h.linkEmphasis call).highlighted = true :=
    (links call).mpr ⟨Or.inl (by decide), Or.inl ⟨"a", rfl, by decide⟩⟩
  refine ⟨shown, (ends call (List.mem_cons_of_mem _ List.mem_cons_self) shown).1,
    (nodes "c").mpr (Or.inr (Or.inr (Or.inl (by decide)))), ?_⟩
  have focus : lastFocus changes = (some "a", [loop, call]) := rfl
  have path : lastPath changes = ["f", "c", "f"] := rfl
  rw [← Bool.not_eq_false, nodes "d", focus, path]
  simp [loop, call, Joins, Endpoint.id]

end CodeAtlas.Highlight

import CodeAtlas.Layout.Forces
import CodeAtlas.Proofs.GrownTrees
import Mathlib.Data.List.ProdSigma
import Mathlib.Data.List.Perm.Subperm
import Mathlib.Data.List.Nodup
import Mathlib.Data.List.Pairwise

/-!
Which pairs of bodies the search through a tree meets. It goes from visit to visit: a visit is to
one cell by itself or to two cells, it is passed over if they are too far apart, and else it leads
on to visits of their children. Between them the visits that one leads to share out its pairs, each
to one of them. So the way to a pair is a single chain of visits, and the pair is met once if none
of them is passed over, and else not at all.
-/
namespace CodeAtlas.Layout.Quadtree

variable {α : Type}

/-! ### Pairs of a list -/

theorem pairsOf_append (xs ys : List Nat) :
    (pairsOf (xs ++ ys)).Perm (pairsOf xs ++ xs ×ˢ ys ++ pairsOf ys) := by
  induction xs with
  | nil => simp [pairsOf]
  | cons x rest ih =>
    simp only [List.cons_append, pairsOf, List.map_append, List.product_cons, List.append_assoc]
      at ih ⊢
    refine List.Perm.append_left _ ((ih.append_left _).trans ?_)
    rw [← List.append_assoc, ← List.append_assoc (pairsOf rest)]
    exact List.perm_append_comm.append_right _

theorem product_append (xs ys zs : List Nat) :
    (xs ×ˢ (ys ++ zs)).Perm (xs ×ˢ ys ++ xs ×ˢ zs) := by
  simp only [SProd.sprod, List.product, List.map_append]
  exact (List.flatMap_append_perm xs _ _).symm

theorem mem_pairsOf_or {is : List Nat} {i j : Nat} (first : i ∈ is) (second : j ∈ is)
    (different : i ≠ j) : (i, j) ∈ pairsOf is ∨ (j, i) ∈ pairsOf is := by
  induction is with
  | nil => cases first
  | cons k rest ih =>
    simp only [pairsOf, List.mem_append, List.mem_map, Prod.mk.injEq]
    rcases List.mem_cons.mp first with rfl | later
    · rcases List.mem_cons.mp second with rfl | second
      · exact absurd rfl different
      · exact Or.inl (Or.inl ⟨j, second, rfl, rfl⟩)
    · rcases List.mem_cons.mp second with rfl | second
      · exact Or.inr (Or.inl ⟨i, later, rfl, rfl⟩)
      · rcases ih later second with there | there
        · exact Or.inl (Or.inr there)
        · exact Or.inr (Or.inr there)

theorem pairsOf_nodup {is : List Nat} (distinct : is.Nodup) : (pairsOf is).Nodup := by
  induction is with
  | nil => exact List.nodup_nil
  | cons k rest ih =>
    obtain ⟨new, distinct⟩ := List.nodup_cons.mp distinct
    refine List.nodup_append.mpr ⟨?_, ih distinct, ?_⟩
    · exact distinct.map fun _ _ same => (Prod.mk.inj same).2
    · rintro p mapped _ later rfl
      obtain ⟨j, _, rfl⟩ := List.mem_map.mp mapped
      exact new (pairsOf_members later).1

theorem pairsOf_one_order {is : List Nat} (distinct : is.Nodup) {i j : Nat}
    (met : (i, j) ∈ pairsOf is) : i ≠ j ∧ (j, i) ∉ pairsOf is := by
  induction is with
  | nil => cases met
  | cons k rest ih =>
    obtain ⟨new, distinct⟩ := List.nodup_cons.mp distinct
    simp only [pairsOf, List.mem_append, List.mem_map, Prod.mk.injEq] at met ⊢
    rcases met with ⟨_, later, rfl, rfl⟩ | met
    · refine ⟨fun same => new (same ▸ later), ?_⟩
      rintro (⟨_, _, rfl, _⟩ | met)
      · exact new later
      · exact new (pairsOf_members met).2
    · obtain ⟨different, other⟩ := ih distinct met
      refine ⟨different, ?_⟩
      rintro (⟨_, _, rfl, _⟩ | met')
      · exact new (pairsOf_members met).2
      · exact other met'

theorem length_pairsOf (is : List Nat) :
    (pairsOf is).length = is.length * (is.length - 1) / 2 := by
  have twice : (pairsOf is).length * 2 = is.length * (is.length - 1) := by
    induction is with
    | nil => rfl
    | cons k rest ih =>
      simp only [pairsOf, List.length_append, List.length_map, List.length_cons, Nat.add_mul, ih]
      cases rest.length with
      | zero => rfl
      | succ n => grind
  omega

def timesMet (pairs : List (Nat × Nat)) (i j : Nat) : Nat := pairs.count (i, j) + pairs.count (j, i)

section

variable {pairs : List (Nat × Nat)} {is : List Nat} {i j : Nat}

theorem timesMet_eq_zero : timesMet pairs i j = 0 ↔ (i, j) ∉ pairs ∧ (j, i) ∉ pairs := by
  simp [timesMet, List.count_eq_zero]

theorem met_different (distinct : is.Nodup) (among : pairs.Subperm (pairsOf is))
    (met : (i, j) ∈ pairs ∨ (j, i) ∈ pairs) : i ≠ j ∧ i ∈ is ∧ j ∈ is := by
  rcases met with met | met
  · exact ⟨(pairsOf_one_order distinct (among.subset met)).1, pairsOf_members (among.subset met)⟩
  · exact ⟨(pairsOf_one_order distinct (among.subset met)).1.symm,
      (pairsOf_members (among.subset met)).symm⟩

theorem mem_pairsOf_iff (distinct : is.Nodup) :
    ((i, j) ∈ pairsOf is ∨ (j, i) ∈ pairsOf is) ↔ i ≠ j ∧ i ∈ is ∧ j ∈ is := by
  refine ⟨met_different distinct (List.Subperm.refl _), ?_⟩
  rintro ⟨different, first, second⟩
  exact mem_pairsOf_or first second different

theorem timesMet_of_met (distinct : is.Nodup) (among : pairs.Subperm (pairsOf is))
    (met : (i, j) ∈ pairs) : timesMet pairs i j = 1 := by
  have once : pairs.Nodup := by
    obtain ⟨some, perm, part⟩ := among
    exact perm.nodup_iff.mp ((pairsOf_nodup distinct).sublist part)
  have other : (j, i) ∉ pairs := fun both =>
    (pairsOf_one_order distinct (among.subset met)).2 (among.subset both)
  rw [timesMet, List.count_eq_one_of_mem once met, List.count_eq_zero_of_not_mem other]

theorem timesMet_cases (distinct : is.Nodup) (among : pairs.Subperm (pairsOf is)) (i j : Nat) :
    (((i, j) ∈ pairs ∨ (j, i) ∈ pairs) ∧ timesMet pairs i j = 1) ∨
      (¬ ((i, j) ∈ pairs ∨ (j, i) ∈ pairs) ∧ timesMet pairs i j = 0) := by
  by_cases met : (i, j) ∈ pairs ∨ (j, i) ∈ pairs
  · refine Or.inl ⟨met, ?_⟩
    rcases met with met | met
    · exact timesMet_of_met distinct among met
    · rw [timesMet, Nat.add_comm]
      exact timesMet_of_met distinct among met
  · exact Or.inr ⟨met, timesMet_eq_zero.mpr (not_or.mp met)⟩

theorem timesMet_congr (distinct : is.Nodup) (among : pairs.Subperm (pairsOf is))
    {others : List (Nat × Nat)} {js : List Nat} (distinctOthers : js.Nodup)
    (amongOthers : others.Subperm (pairsOf js))
    (same : (i, j) ∈ pairs ∨ (j, i) ∈ pairs ↔ (i, j) ∈ others ∨ (j, i) ∈ others) :
    timesMet pairs i j = timesMet others i j := by
  rcases timesMet_cases distinct among i j with ⟨met, once⟩ | ⟨unmet, never⟩
  · rcases timesMet_cases distinctOthers amongOthers i j with ⟨_, onceToo⟩ | ⟨unmet, _⟩
    · rw [once, onceToo]
    · exact absurd (same.mp met) unmet
  · rcases timesMet_cases distinctOthers amongOthers i j with ⟨met, _⟩ | ⟨_, neverToo⟩
    · exact absurd (same.mpr met) unmet
    · rw [never, neverToo]

end

/-! ### Visits -/

/-- The cells that are looked at together: one with itself, or two. -/
inductive Visit (α : Type) where
  | one (t : Quadtree α)
  | two (s t : Quadtree α)

namespace Visit

/-- The pairs that a visit is responsible for: those of bodies below its cell, or with one body
below each of its two cells. -/
def candidates : Visit α → List (Nat × Nat)
  | one t => pairsOf t.members
  | two s t => s.members ×ˢ t.members

def Holds : Visit α → Nat → Nat → Prop
  | one t, i, j => i ∈ t.members ∧ j ∈ t.members
  | two s t, i, j => i ∈ s.members ∧ j ∈ t.members ∨ j ∈ s.members ∧ i ∈ t.members

theorem holds_of_candidate {v : Visit α} {i j : Nat}
    (held : (i, j) ∈ v.candidates ∨ (j, i) ∈ v.candidates) : v.Holds i j := by
  cases v with
  | one t =>
    rcases held with held | held
    · exact pairsOf_members held
    · exact (pairsOf_members held).symm
  | two s t => exact held.imp List.mem_product.mp List.mem_product.mp

theorem candidate_of_holds {v : Visit α} {i j : Nat} (different : i ≠ j) (holds : v.Holds i j) :
    (i, j) ∈ v.candidates ∨ (j, i) ∈ v.candidates := by
  cases v with
  | one t => exact mem_pairsOf_or holds.1 holds.2 different
  | two s t => exact holds.imp List.mem_product.mpr List.mem_product.mpr

def settled : Visit α → List (Nat × Nat)
  | one (.leaf _ is) => pairsOf is
  | two (.leaf _ is) (.leaf _ js) => is ×ˢ js
  | _ => []

def among : List (Quadtree α) → List (Visit α)
  | [] => []
  | t :: ts => one t :: ts.map (two t) ++ among ts

variable [Scalar α]

/-- The visits that a visit leads to. Of two cells with children the larger is opened. -/
def opened : Visit α → List (Visit α)
  | one (.leaf _ _) => []
  | one (.fork _ _ ts) => among ts
  | two (.leaf _ _) (.leaf _ _) => []
  | two (.leaf c is) (.fork _ _ us) => us.map (two (.leaf c is))
  | two (.fork _ _ ss) (.leaf c js) => ss.map (two · (.leaf c js))
  | two (.fork c is ss) (.fork d js us) =>
    if Scalar.le d.bounds.half c.bounds.half then ss.map (two · (.fork d js us))
    else us.map (two (.fork c is ss))

inductive Leads : Visit α → Visit α → Prop
  | here (v : Visit α) : Leads v v
  | on {v w u : Visit α} (next : w ∈ v.opened) (rest : Leads w u) : Leads v u

/-! ### Each visit leads to smaller ones -/

omit [Scalar α] in
theorem mem_among {ts : List (Quadtree α)} {v : Visit α} (member : v ∈ among ts) :
    (∃ t ∈ ts, v = one t) ∨ ∃ s ∈ ts, ∃ t ∈ ts, v = two s t := by
  induction ts with
  | nil => cases member
  | cons t rest ih =>
    simp only [among, List.cons_append, List.mem_cons, List.mem_append, List.mem_map] at member ⊢
    rcases member with rfl | ⟨u, later, rfl⟩ | member
    · exact Or.inl ⟨t, Or.inl rfl, rfl⟩
    · exact Or.inr ⟨t, Or.inl rfl, u, Or.inr later, rfl⟩
    · rcases ih member with ⟨u, there, eq⟩ | ⟨u, first, w, second, eq⟩
      · exact Or.inl ⟨u, Or.inr there, eq⟩
      · exact Or.inr ⟨u, Or.inr first, w, Or.inr second, eq⟩

/-- From one cell the search goes to its children, each with itself or with another one; from two
cells it goes on with a child in place of one of them. -/
theorem opened_cases {v w : Visit α} (next : w ∈ v.opened) :
    (∃ c is ts, v = one (.fork c is ts) ∧
      ((∃ t ∈ ts, w = one t) ∨ ∃ s ∈ ts, ∃ t ∈ ts, w = two s t)) ∨
    (∃ c is ss t, v = two (.fork c is ss) t ∧ ∃ s ∈ ss, w = two s t) ∨
    ∃ s d js us, v = two s (.fork d js us) ∧ ∃ u ∈ us, w = two s u := by
  have first {c : Cell α} {is : List Nat} {ss : List (Quadtree α)} {t : Quadtree α}
      (next : w ∈ ss.map (two · t)) : ∃ c' is' ss' t',
        two (.fork c is ss) t = two (.fork c' is' ss') t' ∧ ∃ s ∈ ss', w = two s t' := by
    obtain ⟨s, there, rfl⟩ := List.mem_map.mp next
    exact ⟨c, is, ss, t, rfl, s, there, rfl⟩
  have second {s : Quadtree α} {d : Cell α} {js : List Nat} {us : List (Quadtree α)}
      (next : w ∈ us.map (two s)) : ∃ s' d' js' us',
        two s (.fork d js us) = two s' (.fork d' js' us') ∧ ∃ u ∈ us', w = two s' u := by
    obtain ⟨u, there, rfl⟩ := List.mem_map.mp next
    exact ⟨s, d, js, us, rfl, u, there, rfl⟩
  match v with
  | one (.leaf c is) => cases next
  | one (.fork c is ts) => exact Or.inl ⟨c, is, ts, rfl, mem_among next⟩
  | two (.leaf c is) (.leaf d js) => cases next
  | two (.leaf c is) (.fork d js us) => exact Or.inr (Or.inr (second next))
  | two (.fork c is ss) (.leaf d js) => exact Or.inr (Or.inl (first next))
  | two (.fork c is ss) (.fork d js us) =>
    simp only [opened] at next
    split at next
    · exact Or.inr (Or.inl (first next))
    · exact Or.inr (Or.inr (second next))

noncomputable def size : Visit α → Nat
  | one t => 2 * sizeOf t
  | two s t => sizeOf s + sizeOf t

theorem size_lt_of_opened {v w : Visit α} (next : w ∈ v.opened) : w.size < v.size := by
  have smaller (c : Cell α) (is : List Nat) {ts : List (Quadtree α)} {t : Quadtree α}
      (member : t ∈ ts) : sizeOf t < sizeOf (Quadtree.fork c is ts) := by
    have := List.sizeOf_lt_of_mem member
    simp only [Quadtree.fork.sizeOf_spec]
    omega
  rcases opened_cases next with ⟨c, is, ts, rfl, ⟨t, there, rfl⟩ | ⟨s, first, t, second, rfl⟩⟩ |
    ⟨c, is, ss, t, rfl, s, there, rfl⟩ | ⟨s, d, js, us, rfl, u, there, rfl⟩
  · have := smaller c is there
    simp only [size]
    omega
  · have := smaller c is first
    have := smaller c is second
    simp only [size]
    omega
  · have := smaller c is there
    simp only [size]
    omega
  · have := smaller d js there
    simp only [size]
    omega

theorem induction {P : Visit α → Prop} (step : ∀ v, (∀ w ∈ v.opened, P w) → P v) (v : Visit α) :
    P v := by
  induction h : v.size using Nat.strongRecOn generalizing v with
  | ind n ih =>
    refine step v fun w next => ih w.size ?_ w rfl
    exact h ▸ size_lt_of_opened next

/-! ### The cells of a visit -/

def cells : Visit α → List (Quadtree α)
  | one t => [t]
  | two s t => [s, t]

theorem cells_of_opened {v w : Visit α} (next : w ∈ v.opened) :
    ∀ t ∈ w.cells, ∃ s ∈ v.cells, s.Has t := by
  rcases opened_cases next with ⟨c, is, ts, rfl, ⟨t, there, rfl⟩ | ⟨s, first, t, second, rfl⟩⟩ |
    ⟨c, is, ss, t, rfl, s, there, rfl⟩ | ⟨s, d, js, us, rfl, u, there, rfl⟩
  · simpa [cells] using has_child there
  · simpa [cells] using ⟨has_child first, has_child second⟩
  · simpa [cells] using ⟨Or.inl (has_child there), Or.inr (.self _)⟩
  · simpa [cells] using ⟨Or.inl (.self _), Or.inr (has_child there)⟩

theorem Leads.cells {v w : Visit α} (leads : v.Leads w) :
    ∀ t ∈ w.cells, ∃ s ∈ v.cells, s.Has t := by
  induction leads with
  | here => exact fun t member => ⟨t, member, .self t⟩
  | on next _ ih =>
    intro t member
    obtain ⟨u, between, below⟩ := ih t member
    obtain ⟨s, above, has⟩ := cells_of_opened next u between
    exact ⟨s, above, has.trans below⟩

/-! ### The pairs of a visit are shared out -/

omit [Scalar α] in
theorem membersAll_product (ss : List (Quadtree α)) (t : Quadtree α) :
    membersAll ss ×ˢ t.members = (ss.map (two · t)).flatMap candidates := by
  rw [List.flatMap_map, membersAll_eq]
  exact List.flatMap_assoc

omit [Scalar α] in
theorem product_membersAll (s : Quadtree α) (us : List (Quadtree α)) :
    (s.members ×ˢ membersAll us).Perm ((us.map (two s)).flatMap candidates) := by
  induction us with
  | nil => simp [membersAll]
  | cons u rest ih =>
    rw [membersAll, List.map_cons, List.flatMap_cons]
    exact (product_append _ _ _).trans (ih.append_left _)

omit [Scalar α] in
theorem among_perm (ts : List (Quadtree α)) :
    (pairsOf (membersAll ts)).Perm ((among ts).flatMap candidates) := by
  induction ts with
  | nil => exact List.Perm.refl _
  | cons t rest ih =>
    rw [membersAll, among, List.cons_append, List.flatMap_cons, List.flatMap_append,
      ← List.append_assoc]
    exact (pairsOf_append _ _).trans (((product_membersAll t rest).append_left _).append ih)

theorem candidates_shared (v : Visit α) :
    v.candidates.Perm (v.settled ++ v.opened.flatMap candidates) := by
  match v with
  | one (.leaf c is) => simp [candidates, settled, opened, members]
  | one (.fork c is ts) => exact among_perm ts
  | two (.leaf c is) (.leaf d js) => simp [candidates, settled, opened, members]
  | two (.leaf c is) (.fork d js us) => exact product_membersAll (.leaf c is) us
  | two (.fork c is ss) (.leaf d js) => exact .of_eq (membersAll_product ss (.leaf d js))
  | two (.fork c is ss) (.fork d js us) =>
    simp only [settled, opened, List.nil_append]
    split
    · exact .of_eq (membersAll_product ss (.fork d js us))
    · exact product_membersAll (.fork c is ss) us

theorem candidates_of_opened {v w : Visit α} (next : w ∈ v.opened) :
    w.candidates ⊆ v.candidates := by
  intro p held
  refine v.candidates_shared.mem_iff.mpr (List.mem_append_right _ ?_)
  exact List.mem_flatMap.mpr ⟨w, next, held⟩

theorem Leads.candidates {v w : Visit α} (leads : v.Leads w) : w.candidates ⊆ v.candidates := by
  induction leads with
  | here => exact List.Subset.refl _
  | on next _ ih =>
    intro p held
    exact candidates_of_opened next (ih held)

theorem opened_eq {v u w : Visit α} (once : v.candidates.Nodup) {p : Nat × Nat}
    (first : u ∈ v.opened) (inFirst : p ∈ u.candidates)
    (second : w ∈ v.opened) (inSecond : p ∈ w.candidates) : u = w := by
  have shared := (v.candidates_shared.nodup_iff.mp once).of_append_right
  have : Std.Symm (Function.onFun List.Disjoint (candidates : Visit α → _)) :=
    ⟨fun _ _ disjoint _ there here => disjoint here there⟩
  by_contra different
  exact (List.nodup_flatMap.mp shared).2.forall first second different inFirst inSecond

/-! ### What the search meets -/

variable (apart : Bounds α → Bounds α → Bool)

def isPassedOver : Visit α → Bool
  | one t => apart t.bounds t.bounds
  | two s t => apart s.bounds t.bounds

def pairs : Visit α → List (Nat × Nat)
  | one t => t.within apart
  | two s t => across apart s t

theorem withinAll_eq (ts : List (Quadtree α)) :
    withinAll apart ts = (among ts).flatMap (pairs apart) := by
  induction ts with
  | nil => rfl
  | cons t rest ih =>
    rw [withinAll, among, List.cons_append, List.flatMap_cons, List.flatMap_append,
      List.flatMap_map, ih, ← List.append_assoc]
    rfl

theorem pairs_eq (v : Visit α) : v.pairs apart =
    if v.isPassedOver apart then [] else v.settled ++ v.opened.flatMap (pairs apart) := by
  split
  · rename_i far
    match v with
    | one (.leaf c is) => exact if_pos far
    | one (.fork c is ts) => exact if_pos far
    | two s t => exact (across.eq_def apart s t).trans (if_pos far)
  · rename_i near
    match v with
    | one (.leaf c is) => exact (if_neg near).trans (List.append_nil _).symm
    | one (.fork c is ts) => exact (if_neg near).trans (withinAll_eq apart ts)
    | two s t =>
      refine (across.eq_def apart s t).trans ((if_neg near).trans ?_)
      match s, t with
      | .leaf c is, .leaf d js => exact (List.append_nil _).symm
      | .leaf c is, .fork d js us => simp [settled, opened, pairs, List.flatMap_map]
      | .fork c is ss, .leaf d js => simp [settled, opened, pairs, List.flatMap_map]
      | .fork c is ss, .fork d js us =>
        dsimp only [settled, opened]
        split <;> simp [pairs, List.flatMap_map]

variable {apart} {v : Visit α}

theorem pairs_subperm : (v.pairs apart).Subperm v.candidates := by
  induction v using induction with
  | step v ih =>
    rw [pairs_eq, v.candidates_shared.subperm_left]
    split
    · exact List.nil_subperm
    · apply List.Subperm.append (List.Subperm.refl _)
      generalize v.opened = next at ih
      induction next with
      | nil => exact List.nil_subperm
      | cons w rest more =>
        rw [List.flatMap_cons, List.flatMap_cons]
        exact (ih w List.mem_cons_self).append
          (more fun u member => ih u (List.mem_cons_of_mem w member))

/-- A pair of a visit is met just if no visit on the way to it is passed over. -/
theorem mem_pairs_iff (once : v.candidates.Nodup) {p : Nat × Nat} (held : p ∈ v.candidates) :
    p ∈ v.pairs apart ↔
      ∀ w, v.Leads w → p ∈ w.candidates → w.isPassedOver apart = false := by
  induction v using induction with
  | step v ih =>
    have shared := v.candidates_shared
    have apartNext := shared.nodup_iff.mp once
    have onceNext {u : Visit α} (next : u ∈ v.opened) : u.candidates.Nodup :=
      (List.nodup_flatMap.mp apartNext.of_append_right).1 u next
    rw [pairs_eq]
    constructor
    · intro met w leads inside
      split at met
      · cases met
      rename_i near
      cases leads with
      | here => exact Bool.eq_false_iff.mpr near
      | on next rest =>
        rename_i u
        have inNext : p ∈ u.candidates := rest.candidates inside
        rcases List.mem_append.mp met with early | later
        · -- a pair that is met at once belongs to no further visit
          have elsewhere : p ∈ v.opened.flatMap candidates := List.mem_flatMap.mpr ⟨u, next, inNext⟩
          exact absurd rfl ((List.nodup_append.mp apartNext).2.2 p early p elsewhere)
        · obtain ⟨x, first, met⟩ := List.mem_flatMap.mp later
          obtain rfl := opened_eq once first (pairs_subperm.subset met) next inNext
          exact (ih x next (onceNext next) inNext).mp met w rest inside
    · intro clear
      rw [if_neg (Bool.eq_false_iff.mp (clear v (.here v) held))]
      rcases List.mem_append.mp (shared.mem_iff.mp held) with early | later
      · exact List.mem_append_left _ early
      · obtain ⟨u, next, inNext⟩ := List.mem_flatMap.mp later
        refine List.mem_append_right _ (List.mem_flatMap.mpr ⟨u, next, ?_⟩)
        refine (ih u next (onceNext next) inNext).mpr fun w leads inside => ?_
        exact clear w (.on next leads) inside

theorem pairs_perm (clear : ∀ w, v.Leads w → w.isPassedOver apart = false) :
    (v.pairs apart).Perm v.candidates := by
  induction v using induction with
  | step v ih =>
    rw [pairs_eq, if_neg (Bool.eq_false_iff.mp (clear v (.here v)))]
    refine List.Perm.trans (List.Perm.append_left _ ?_) v.candidates_shared.symm
    exact List.Perm.flatMap_left _ fun w next => ih w next fun u leads => clear u (.on next leads)

end Visit

/-! ### All pairs of a tree -/

variable [Scalar α]

/-- On the way to two bodies two cells are passed over, or one with itself. -/
def Separates (apart : Bounds α → Bounds α → Bool) (t : Quadtree α) (i j : Nat) : Prop :=
  ∃ w, (Visit.one t).Leads w ∧ w.Holds i j ∧ w.isPassedOver apart = true

theorem within_met_iff (apart : Bounds α → Bounds α → Bool) {t : Quadtree α}
    (distinct : t.members.Nodup) {i j : Nat} (first : i ∈ t.members) (second : j ∈ t.members)
    (different : i ≠ j) :
    ((i, j) ∈ t.within apart ∨ (j, i) ∈ t.within apart) ↔ ¬ t.Separates apart i j := by
  have once : (Visit.one t).candidates.Nodup := pairsOf_nodup distinct
  -- of the two orders only that of the leaves is among the pairs, at the tree and so all the way
  have ordered : ∀ {i j : Nat}, (i, j) ∈ (Visit.one t).candidates →
      (((i, j) ∈ t.within apart ∨ (j, i) ∈ t.within apart) ↔ ¬ t.Separates apart i j) := by
    intro i j held
    obtain ⟨different, other⟩ := pairsOf_one_order distinct held
    have unmet : (j, i) ∉ t.within apart := fun met =>
      other (Visit.pairs_subperm (v := .one t).subset met)
    rw [or_iff_left unmet]
    refine (Visit.mem_pairs_iff once held).trans ?_
    constructor
    · rintro clear ⟨w, leads, holds, passed⟩
      rcases Visit.candidate_of_holds different holds with here | turned
      · rw [clear w leads here] at passed
        cases passed
      · exact other (leads.candidates turned)
    · intro joined w leads here
      refine Bool.eq_false_iff.mpr fun passed => joined ⟨w, leads, ?_, passed⟩
      exact Visit.holds_of_candidate (Or.inl here)
  have turn : t.Separates apart j i ↔ t.Separates apart i j := by
    have holds {w : Visit α} {i j : Nat} (holds : w.Holds i j) : w.Holds j i := by
      cases w with
      | one u => exact holds.symm
      | two u v => exact holds.symm
    constructor
    · rintro ⟨w, leads, there, passed⟩
      exact ⟨w, leads, holds there, passed⟩
    · rintro ⟨w, leads, there, passed⟩
      exact ⟨w, leads, holds there, passed⟩
  rcases mem_pairsOf_or first second different with held | held
  · exact ordered held
  · rw [or_comm, ordered held, turn]

/-- The search through the tree of some bodies, whatever it passes over, meets two different bodies
at most once, in one of the two orders, and no body with itself. It misses just those that are
separated on the way to them; if nothing is passed over, it meets all pairs. The collision force
looks at the pairs met and at no others, in the order of the search. -/
theorem search_meets_pairs_once {b : Bodies α} {tree : Quadtree α} (built : build b = some tree)
    (apart : Bounds α → Bounds α → Bool) :
    let n := b.positions.size
    let pairs := tree.within apart
    (∀ p ∈ pairs, p.1 < n ∧ p.2 < n ∧ p.1 ≠ p.2) ∧
      (∀ i j, timesMet pairs i j ≤ 1) ∧
      (∀ i j, i < n → j < n → i ≠ j →
        (timesMet pairs i j = 1 ↔ ¬ tree.Separates apart i j)) ∧
      ((∀ w, (Visit.one tree).Leads w → w.isPassedOver apart = false) →
        (∀ i j, i < n → j < n → i ≠ j → timesMet pairs i j = 1) ∧
          pairs.length = n * (n - 1) / 2) ∧
      ∀ c : Collision α, c.apart = apart → ∀ radii forces,
        c.partAll b radii tree forces = pairs.foldl (c.partPair b radii) forces := by
  intro n pairs
  have all : tree.members.Perm (List.range n) := build_perm built
  have distinct : tree.members.Nodup := all.nodup_iff.mpr List.nodup_range
  have inTree {i : Nat} (inside : i < n) : i ∈ tree.members :=
    all.mem_iff.mpr (List.mem_range.mpr inside)
  have among : pairs.Subperm (pairsOf tree.members) := Visit.pairs_subperm (v := .one tree)
  have exact_once : ∀ i j, i < n → j < n → i ≠ j →
      (timesMet pairs i j = 1 ↔ ¬ tree.Separates apart i j) := by
    intro i j first second different
    have way := within_met_iff apart distinct (inTree first) (inTree second) different
    rcases timesMet_cases distinct among i j with ⟨met, once⟩ | ⟨unmet, never⟩
    · exact iff_of_true once (way.mp met)
    · exact iff_of_false (by omega) fun joined => unmet (way.mpr joined)
  refine ⟨?_, ?_, exact_once, ?_, ?_⟩
  · rintro ⟨i, j⟩ met
    obtain ⟨different, first, second⟩ := met_different distinct among (Or.inl met)
    exact ⟨build_members built i first, build_members built j second, different⟩
  · intro i j
    rcases timesMet_cases distinct among i j with ⟨_, once⟩ | ⟨_, never⟩ <;> omega
  · intro clear
    refine ⟨?_, ?_⟩
    · intro i j first second different
      refine (exact_once i j first second different).mpr ?_
      rintro ⟨w, leads, _, passed⟩
      rw [clear w leads] at passed
      cases passed
    · have complete : pairs.Perm (pairsOf tree.members) := Visit.pairs_perm (v := .one tree) clear
      rw [complete.length_eq, length_pairsOf, all.length_eq, List.length_range]
  · rintro c rfl radii forces
    rfl

/-- Twenty bodies stand in a line and one is nowhere; all their 210 pairs are met. -/
theorem line_and_stray_body_meet :
    let points : List (Vec Float32) := (List.range 20).map fun i => ⟨.ofNat i, -.ofNat i⟩
    let b : Bodies Float32 := ⟨(⟨0.0 / 0.0, 1⟩ :: points).toArray, #[]⟩
    ∃ tree, build b = some tree ∧ (tree.within fun _ _ => false).length = 210 ∧
      ∀ i j, i < 21 → j < 21 → i ≠ j → timesMet (tree.within fun _ _ => false) i j = 1 := by
  intro points b
  have some : (build b).isSome = true := by decide +kernel
  obtain ⟨tree, built⟩ := Option.isSome_iff_exists.mp some
  have clear : ∀ w, (Visit.one tree).Leads w → w.isPassedOver (fun _ _ => false) = false := by
    intro w _
    cases w <;> rfl
  have size : b.positions.size = 21 := rfl
  obtain ⟨all, number⟩ := (search_meets_pairs_once built fun _ _ => false).2.2.2.1 clear
  rw [size] at all number
  exact ⟨tree, built, number, all⟩

end CodeAtlas.Layout.Quadtree

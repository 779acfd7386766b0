import CodeAtlas.Layout.Quadtree

/-!
The bodies below a cell, and that a tree deals out only bodies that it was given: in the pairs that
may touch and in what a body feels from the others.
-/
namespace CodeAtlas.Layout.Quadtree

variable {α : Type}

mutual

def members : Quadtree α → List Nat
  | .leaf _ is => is
  | .fork _ _ ts => membersAll ts

def membersAll : List (Quadtree α) → List Nat
  | [] => []
  | t :: ts => members t ++ membersAll ts

end

theorem mem_membersAll {i : Nat} {ts : List (Quadtree α)} :
    i ∈ membersAll ts ↔ ∃ t ∈ ts, i ∈ members t := by
  induction ts with
  | nil => simp [membersAll]
  | cons t rest ih => simp [membersAll, ih]

theorem opened_first {ss : List (Quadtree α)} {js : List Nat}
    {pairs : { u // u ∈ ss } → List (Nat × Nat)}
    (each : ∀ u, ∀ p ∈ pairs u, p.1 ∈ u.1.members ∧ p.2 ∈ js) :
    ∀ p ∈ ss.attach.flatMap pairs, p.1 ∈ membersAll ss ∧ p.2 ∈ js := by
  intro p member
  obtain ⟨u, _, inside⟩ := List.mem_flatMap.mp member
  obtain ⟨first, second⟩ := each u p inside
  exact ⟨mem_membersAll.mpr ⟨u.1, u.2, first⟩, second⟩

theorem opened_second {us : List (Quadtree α)} {is : List Nat}
    {pairs : { u // u ∈ us } → List (Nat × Nat)}
    (each : ∀ u, ∀ p ∈ pairs u, p.1 ∈ is ∧ p.2 ∈ u.1.members) :
    ∀ p ∈ us.attach.flatMap pairs, p.1 ∈ is ∧ p.2 ∈ membersAll us := by
  intro p member
  obtain ⟨u, _, inside⟩ := List.mem_flatMap.mp member
  obtain ⟨first, second⟩ := each u p inside
  exact ⟨first, mem_membersAll.mpr ⟨u.1, u.2, second⟩⟩

variable [Scalar α]

theorem mem_bucket {b : Bodies α} {bounds : Bounds α} {indices : List Nat}
    {part : Bounds α × List Nat} (member : part ∈ buckets b bounds indices) :
    part.2 ⊆ indices := by
  simp only [buckets, List.mem_filterMap, Option.ite_none_left_eq_some, Option.some.injEq]
    at member
  obtain ⟨q, _, _, eq⟩ := member
  subst eq
  exact List.filter_sublist.subset

theorem grow_members (b : Bodies α) (splits : Nat) (bounds : Bounds α) (indices : List Nat) :
    (grow b splits bounds indices).members ⊆ indices := by
  -- each split hands its parts to smaller trees, so the bodies given vary with the depth
  induction splits generalizing bounds indices with
  | zero => simp [grow, members]
  | succ splits ih =>
    simp only [grow]
    split
    · simp [members]
    · split
      · simp [members]
      · intro i member
        simp only [clear, members, mem_membersAll, List.mem_map] at member
        obtain ⟨t, ⟨part, inBuckets, eq⟩, below⟩ := member
        subst eq
        exact mem_bucket inBuckets (ih part.1 part.2 below)

theorem build_members {b : Bodies α} {t : Quadtree α} (built : build b = some t) :
    ∀ i ∈ t.members, i < b.positions.size := by
  obtain ⟨bounds, _, eq⟩ := Option.map_eq_some_iff.mp built
  subst eq
  intro i member
  exact List.mem_range.mp (grow_members b _ bounds _ member)

theorem pairsOf_members {is : List Nat} {p : Nat × Nat} (member : p ∈ pairsOf is) :
    p.1 ∈ is ∧ p.2 ∈ is := by
  induction is with
  | nil => simp [pairsOf] at member
  | cons i rest ih =>
    simp only [pairsOf, List.mem_append, List.mem_map] at member
    rcases member with ⟨j, later, eq⟩ | inRest
    · subst eq
      exact ⟨List.mem_cons_self, List.mem_cons_of_mem i later⟩
    · obtain ⟨first, second⟩ := ih inRest
      exact ⟨List.mem_cons_of_mem i first, List.mem_cons_of_mem i second⟩

theorem across_members (apart : Bounds α → Bounds α → Bool) (s t : Quadtree α) :
    ∀ p ∈ across apart s t, p.1 ∈ s.members ∧ p.2 ∈ t.members := by
  fun_induction across apart s t with
  | case1 => simp
  | case2 c is d js =>
    intro p member
    simp only [List.mem_flatMap, List.mem_map] at member
    obtain ⟨i, first, j, second, eq⟩ := member
    subst eq
    exact ⟨first, second⟩
  | case3 c is d js us near ih => exact opened_second ih
  | case4 c is ss d js near ih => exact opened_first ih
  | case5 c is ss d js us near larger ih => exact opened_first ih
  | case6 c is ss d js us near smaller ih => exact opened_second ih

mutual

theorem within_members (apart : Bounds α → Bounds α → Bool) (t : Quadtree α) {p : Nat × Nat}
    (member : p ∈ within apart t) : p.1 ∈ t.members ∧ p.2 ∈ t.members := by
  cases t with
  | leaf c is =>
    simp only [within] at member
    split at member
    · cases member
    · exact pairsOf_members member
  | fork c is ts =>
    simp only [within] at member
    split at member
    · cases member
    · exact withinAll_members apart ts member

theorem withinAll_members (apart : Bounds α → Bounds α → Bool) (ts : List (Quadtree α))
    {p : Nat × Nat} (member : p ∈ withinAll apart ts) :
    p.1 ∈ membersAll ts ∧ p.2 ∈ membersAll ts := by
  cases ts with
  | nil => simp [withinAll] at member
  | cons t rest =>
    simp only [withinAll, List.mem_append, List.mem_flatMap] at member
    simp only [membersAll, List.mem_append]
    rcases member with (inFirst | ⟨u, later, between⟩) | inRest
    · obtain ⟨first, second⟩ := within_members apart t inFirst
      exact ⟨Or.inl first, Or.inl second⟩
    · obtain ⟨first, second⟩ := across_members apart t u p between
      exact ⟨Or.inl first, Or.inr (mem_membersAll.mpr ⟨u, later, second⟩)⟩
    · obtain ⟨first, second⟩ := withinAll_members apart rest inRest
      exact ⟨Or.inr first, Or.inr second⟩

end

mutual

theorem influences_members (theta : α) (index : Nat) (point : Vec α) (t : Quadtree α) {j : Nat}
    (felt : .body j ∈ influences theta index point t) : j ∈ t.members := by
  cases t with
  | leaf c is =>
    simp only [influences] at felt
    split at felt
    · cases felt
    · simp only [List.mem_map, List.mem_filter, Influence.body.injEq] at felt
      obtain ⟨i, ⟨member, _⟩, eq⟩ := felt
      exact eq ▸ member
  | fork c is ts =>
    simp only [influences] at felt
    split at felt
    · cases felt
    · split at felt
      · simp at felt
      · exact influencesAll_members theta index point ts felt

theorem influencesAll_members (theta : α) (index : Nat) (point : Vec α)
    (ts : List (Quadtree α)) {j : Nat} (felt : .body j ∈ influencesAll theta index point ts) :
    j ∈ membersAll ts := by
  cases ts with
  | nil => simp [influencesAll] at felt
  | cons t rest =>
    simp only [influencesAll, List.mem_append] at felt
    simp only [membersAll, List.mem_append]
    rcases felt with first | later
    · exact Or.inl (influences_members theta index point t first)
    · exact Or.inr (influencesAll_members theta index point rest later)

end

end CodeAtlas.Layout.Quadtree

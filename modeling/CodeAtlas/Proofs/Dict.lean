import CodeAtlas.Dict
import Mathlib.Data.List.Sort
import Mathlib.Data.String.Basic

/-!
What a dictionary holds after an insertion or a removal, and that its keys stay in strictly
ascending order. Look-ups do not need the order; that no key stands twice does.
-/
namespace CodeAtlas.Dict

variable {β : Type}

theorem find_insert (key wanted : String) (value : β) (d : Dict β) :
    (d.insert key value).find? wanted = if wanted = key then some value else d.find? wanted := by
  induction d with
  | nil => rfl
  | cons e rest ih =>
    obtain ⟨k, v⟩ := e
    simp only [insert]
    split
    · rfl
    · split
      · rename_i same
        subst same
        by_cases hit : wanted = key <;> simp [find?, hit]
      · rename_i other
        by_cases head : wanted = k
        · subst head
          simp [find?, Ne.symm other]
        · simp only [find?, head, ↓reduceIte]
          exact ih

theorem mem_of_find {key : String} {value : β} {d : Dict β} (found : d.find? key = some value) :
    (key, value) ∈ d := by
  induction d with
  | nil => simp [find?] at found
  | cons e rest ih =>
    obtain ⟨k, v⟩ := e
    simp only [find?] at found
    split at found
    · rename_i same
      cases found
      simp [same]
    · exact List.mem_cons_of_mem _ (ih found)

theorem mem_keys {key : String} {d : Dict β} : key ∈ d.keys ↔ ∃ value, (key, value) ∈ d := by
  simp [keys]

theorem contains_iff {key : String} {d : Dict β} : d.contains key = true ↔ key ∈ d.keys := by
  induction d with
  | nil => simp [contains, find?, keys]
  | cons e rest ih =>
    obtain ⟨k, v⟩ := e
    by_cases same : key = k
    · simp [contains, find?, keys, same]
    · simpa [contains, find?, keys, same] using ih

theorem mem_insert {key : String} {value : β} {d : Dict β} {e : String × β}
    (member : e ∈ d.insert key value) : e = (key, value) ∨ e ∈ d := by
  induction d with
  | nil => simpa [insert] using member
  | cons f rest ih =>
    obtain ⟨k, v⟩ := f
    simp only [insert] at member
    split at member
    · simpa using member
    · split at member
      · rcases List.mem_cons.mp member with first | later
        · exact Or.inl first
        · exact Or.inr (List.mem_cons_of_mem _ later)
      · rcases List.mem_cons.mp member with first | later
        · exact Or.inr (by simp [first])
        · exact (ih later).imp_right (List.mem_cons_of_mem _)

theorem mem_keys_insert {key wanted : String} {value : β} {d : Dict β} :
    wanted ∈ (d.insert key value).keys ↔ wanted = key ∨ wanted ∈ d.keys := by
  rw [← contains_iff, ← contains_iff, contains, find_insert]
  by_cases same : wanted = key <;> simp [same, contains]

theorem mem_keys_erase {key wanted : String} {d : Dict β} :
    wanted ∈ (d.erase key).keys ↔ wanted ≠ key ∧ wanted ∈ d.keys := by
  simp only [mem_keys, erase, List.mem_filter, decide_eq_true_eq]
  constructor
  · rintro ⟨value, member, other⟩
    exact ⟨other, value, member⟩
  · rintro ⟨other, value, member⟩
    exact ⟨value, member, other⟩

theorem find_erase (key wanted : String) (d : Dict β) :
    (d.erase key).find? wanted = if wanted = key then none else d.find? wanted := by
  induction d with
  | nil => simp [erase, find?]
  | cons e rest ih =>
    obtain ⟨k, v⟩ := e
    unfold erase at ih ⊢
    by_cases gone : k = key
    · rw [List.filter_cons_of_neg (by simp [gone]), ih]
      by_cases hit : wanted = key <;> simp [find?, hit, gone]
    · rw [List.filter_cons_of_pos (by simp [gone])]
      by_cases hit : wanted = k
      · simp [find?, hit, gone]
      · simp only [find?, hit, ↓reduceIte]
        exact ih

theorem erase_of_absent {key : String} {d : Dict β} (absent : key ∉ d.keys) : d.erase key = d := by
  apply List.filter_eq_self.mpr
  rintro ⟨k, v⟩ member
  have other : k ≠ key := by
    rintro rfl
    exact absent (mem_keys.mpr ⟨v, member⟩)
  simpa using other

theorem erase_insert {key : String} {d : Dict β} (absent : key ∉ d.keys) (value : β) :
    (d.insert key value).erase key = d := by
  induction d with
  | nil => simp [insert, erase]
  | cons e rest ih =>
    obtain ⟨k, v⟩ := e
    obtain ⟨other, later⟩ : key ≠ k ∧ key ∉ keys rest := by simpa [keys] using absent
    have whole := erase_of_absent absent
    have tail := ih later
    unfold erase at whole tail ⊢
    simp only [insert, other, ↓reduceIte]
    split
    · rw [List.filter_cons_of_neg (by simp), whole]
    · rw [List.filter_cons_of_pos (by simpa using Ne.symm other), tail]

theorem insert_of_above {key : String} {d : Dict β} (above : ∀ k ∈ d.keys, k < key) (value : β) :
    d.insert key value = d ++ [(key, value)] := by
  induction d with
  | nil => rfl
  | cons e rest ih =>
    obtain ⟨k, v⟩ := e
    have less : k < key := above k List.mem_cons_self
    have tail := ih fun k' member => above k' (List.mem_cons_of_mem _ member)
    simp only [insert, less.asymm, less.ne', ↓reduceIte, tail, List.cons_append]

theorem sorted_insert {d : Dict β} (sorted : d.Sorted) (key : String) (value : β) :
    (d.insert key value).Sorted := by
  induction d with
  | nil => simp [insert, Sorted, keys]
  | cons e rest ih =>
    obtain ⟨k, v⟩ := e
    obtain ⟨below, tail⟩ := List.pairwise_cons.mp sorted
    simp only [insert]
    split
    · rename_i less
      refine List.pairwise_cons.mpr ⟨?_, sorted⟩
      intro other member
      rcases List.mem_cons.mp member with first | later
      · exact first ▸ less
      · exact less.trans (below other later)
    · split
      · rename_i same
        subst same
        exact sorted
      · rename_i notLess other
        refine List.pairwise_cons.mpr ⟨?_, ih tail⟩
        intro k' member
        rcases mem_keys_insert.mp member with first | later
        · exact first ▸ lt_of_le_of_ne (not_lt.mp notLess) (Ne.symm other)
        · exact below k' later

theorem sorted_erase {d : Dict β} (sorted : d.Sorted) (key : String) : (d.erase key).Sorted :=
  List.Pairwise.sublist (List.filter_sublist.map _) sorted

theorem find_iff_mem {d : Dict β} (sorted : d.Sorted) {key : String} {value : β} :
    d.find? key = some value ↔ (key, value) ∈ d := by
  refine ⟨mem_of_find, ?_⟩
  intro member
  induction d with
  | nil => cases member
  | cons e rest ih =>
    obtain ⟨k, v⟩ := e
    obtain ⟨below, tail⟩ := List.pairwise_cons.mp sorted
    rcases List.mem_cons.mp member with first | later
    · cases first
      simp [find?]
    · have less : k < key := below key (mem_keys.mpr ⟨value, later⟩)
      simp only [find?, less.ne', ↓reduceIte]
      exact ih tail later

theorem find_insertAll {entries : List (String × β)} (distinct : (entries.map (·.1)).Nodup)
    (d : Dict β) (key : String) (value : β) :
    (entries.foldl (fun d e => d.insert e.1 e.2) d).find? key = some value ↔
      (key, value) ∈ entries ∨ key ∉ entries.map (·.1) ∧ d.find? key = some value := by
  induction entries generalizing d with
  | nil => simp
  | cons e rest ih =>
    obtain ⟨k, v⟩ := e
    obtain ⟨fresh, tail⟩ := List.nodup_cons.mp distinct
    rw [List.foldl_cons, ih tail, find_insert]
    by_cases same : key = k
    · subst same
      have absent : (key, value) ∉ rest := by
        intro member
        exact fresh (List.mem_map.mpr ⟨(key, value), member, rfl⟩)
      simp [absent, fresh, eq_comm]
    · simp [same]

theorem find_ofList {entries : List (String × β)} (distinct : (entries.map (·.1)).Nodup)
    {key : String} {value : β} :
    (ofList entries).find? key = some value ↔ (key, value) ∈ entries := by
  simp [ofList, find_insertAll distinct, find?]

theorem eq_of_find {d e : Dict β} (first : d.Sorted) (second : e.Sorted)
    (same : ∀ key, d.find? key = e.find? key) : d = e := by
  have members : ∀ x, x ∈ d ↔ x ∈ e := by
    rintro ⟨key, value⟩
    rw [← find_iff_mem first, ← find_iff_mem second, same]
  have ascends : Std.Asymm fun x y : String × β => x.1 < y.1 := ⟨fun _ _ => lt_asymm⟩
  exact (List.pairwise_map.mp first).eq_of_mem_iff (List.pairwise_map.mp second) members

end CodeAtlas.Dict

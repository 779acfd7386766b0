import CodeAtlas.Graph.Highlight
import Mathlib.Data.String.Basic
import Mathlib.Tactic.Tauto

/-!
The neighbours of the node in focus: the other nodes that a link joins to it. A loop joins a node to
no other. They are kept in order, so that none is there twice.
-/
namespace CodeAtlas

theorem TextSet.mem_insert {s id : String} {texts : TextSet} :
    id ∈ TextSet.insert s texts ↔ id = s ∨ id ∈ texts := by
  induction texts with
  | nil => simp [TextSet.insert]
  | cons t rest ih =>
    unfold TextSet.insert
    split
    · simp
    · split
      · rename_i same
        simp [same]
      · simp only [List.mem_cons, ih]
        exact or_left_comm

theorem TextSet.sorted_insert {texts : TextSet} (sorted : texts.Pairwise (· < ·)) (s : String) :
    (TextSet.insert s texts).Pairwise (· < ·) := by
  induction texts with
  | nil => exact List.pairwise_singleton _ s
  | cons t rest ih =>
    obtain ⟨above, tail⟩ := List.pairwise_cons.mp sorted
    unfold TextSet.insert
    split
    · rename_i below
      refine List.pairwise_cons.mpr ⟨?_, sorted⟩
      intro u member
      rcases List.mem_cons.mp member with rfl | later
      · exact below
      · exact lt_trans below (above u later)
    · rename_i reached
      split
      · exact sorted
      · rename_i other
        refine List.pairwise_cons.mpr ⟨?_, ih tail⟩
        intro u member
        rcases TextSet.mem_insert.mp member with rfl | later
        · exact lt_of_le_of_ne (not_lt.mp reached) (Ne.symm other)
        · exact above u later

namespace Highlight

theorem mem_gathered {id : String} (ids : List String) (found : TextSet) :
    id ∈ ids.foldl (fun s id => TextSet.insert id s) found ↔ id ∈ ids ∨ id ∈ found := by
  induction ids generalizing found with
  | nil => simp
  | cons first rest ih =>
    rw [List.foldl_cons, ih, TextSet.mem_insert, List.mem_cons]
    tauto

theorem gathered_sorted (ids : List String) {found : TextSet} (sorted : found.Pairwise (· < ·)) :
    (ids.foldl (fun s id => TextSet.insert id s) found).Pairwise (· < ·) := by
  induction ids generalizing found with
  | nil => exact sorted
  | cons id rest ih => exact ih (TextSet.sorted_insert sorted id)

/-- A link between two nodes, in either direction. -/
def Joins (a b : String) (l : Link) : Prop :=
  l.source.id = a ∧ l.target.id = b ∨ l.source.id = b ∧ l.target.id = a

theorem acrossFrom_iff {focus id : String} {l : Link} :
    acrossFrom focus l = some id ↔ id ≠ focus ∧ Joins focus id l := by
  simp only [acrossFrom, Option.filter_eq_some_iff, decide_eq_true_eq, Joins]
  split
  · grind
  · split <;> grind

theorem mem_neighborsOf {focus id : String} {links : List Link} :
    id ∈ neighborsOf focus links ↔ id ≠ focus ∧ ∃ l ∈ links, Joins focus id l := by
  simp only [neighborsOf, mem_gathered, List.mem_filterMap, acrossFrom_iff, List.not_mem_nil,
    or_false]
  constructor
  · rintro ⟨l, member, other, joined⟩
    exact ⟨other, l, member, joined⟩
  · rintro ⟨other, l, member, joined⟩
    exact ⟨l, member, other, joined⟩

def Fits (h : Highlight) (v : View) : Prop := h.neighbors = (h.focusInView h.focus v).neighbors

theorem Fits.mem_iff {h : Highlight} {v : View} (fits : h.Fits v) (id : String) :
    id ∈ h.neighbors ↔
      ∃ focus, h.focus = some focus ∧ id ≠ focus ∧ ∃ l ∈ v.links, Joins focus id l := by
  rw [fits]
  simp only [focusInView, setFocus]
  cases h.focus with
  | none => simp
  | some focus => simp [mem_neighborsOf]

theorem Fits.nodup {h : Highlight} {v : View} (fits : h.Fits v) : h.neighbors.Nodup := by
  rw [fits]
  simp only [focusInView, setFocus]
  cases h.focus with
  | none => exact List.nodup_nil
  | some focus => exact (gathered_sorted _ List.Pairwise.nil).imp ne_of_lt

end Highlight

end CodeAtlas

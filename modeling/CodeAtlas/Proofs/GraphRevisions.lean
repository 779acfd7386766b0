import CodeAtlas.Proofs.Arrivals
import CodeAtlas.Proofs.StoreRuns

/-!
The revision of the graph in a session. Actions leave graph and revision alone. Each message that
gives the store another graph advances the revision by one, so that a revision seen again after
fewer than 2 ^ 64 changes means the same graph.
-/
namespace CodeAtlas

structure Store.Revised (n : Nat) (s t : Store) : Prop where
  revision : t.revision = s.revision + .ofNat n
  snapshot : n = 0 → t.snapshot = s.snapshot
  wellFormed : s.snapshot.WellFormed → t.snapshot.WellFormed

namespace Store

theorem revised_of_same {s t : Store} (snapshot : t.snapshot = s.snapshot)
    (revision : t.revision = s.revision) : Revised 0 s t where
  revision := by simp [revision]
  snapshot := fun _ => snapshot
  wellFormed := fun wf => snapshot ▸ wf

theorem revised_of_replaced {s t : Store}
    (wf : s.snapshot.WellFormed → t.snapshot.WellFormed)
    (revision : t.revision = s.revision + 1) : Revised 1 s t where
  revision := revision
  snapshot := fun none => absurd none Nat.one_ne_zero
  wellFormed := wf

theorem Revised.trans {m n : Nat} {s t u : Store} (first : Revised m s t) (second : Revised n t u) :
    Revised (m + n) s u where
  revision := by rw [second.revision, first.revision, UInt64.ofNat_add, UInt64.add_assoc]
  snapshot := by
    intro none
    obtain ⟨noneFirst, noneThen⟩ := Nat.add_eq_zero_iff.mp none
    rw [second.snapshot noneThen, first.snapshot noneFirst]
  wellFormed := fun wf => second.wellFormed (first.wellFormed wf)

theorem apply_revised (s : Store) (d : Delta) :
    Revised (decide ((s.apply d).2 = .applied)).toNat s (s.apply d).1 := by
  have kept (wf : s.snapshot.WellFormed) := apply_wellFormed wf d
  unfold apply at kept ⊢
  split
  · exact revised_of_same rfl rfl
  · rename_i accepted
    rw [if_neg accepted] at kept
    split
    · rename_i g change
      rw [change] at kept
      exact revised_of_replaced kept rfl
    · exact revised_of_same rfl rfl

end Store

namespace Session

def revises (s : Session) : Message → Bool
  | .completed (.graph _ (.ok _)) | .completed (.cleared (.ok true)) => !s.tornDown
  | .connection (.push (.delta d)) => !s.tornDown && (s.store.apply d).2 = .applied
  | _ => false

def revisions (s : Session) : List Message → Nat
  | [] => 0
  | m :: rest => (s.revises m).toNat + revisions (s.receive m).1 rest

theorem perform_revised (s : Session) (a : Action) : Store.Revised 0 s.store (s.perform a).1.store :=
  Store.revised_of_same (perform_store s a).1 (perform_store s a).2

theorem complete_revised {s : Session} (live : s.tornDown = false) (c : Completion) :
    Store.Revised (s.revises (.completed c)).toNat s.store (s.complete c).store := by
  cases c with
  | graph r result =>
    cases result with
    | error why => exact Store.revised_of_same rfl rfl
    | ok p =>
      simp only [revises, live, complete, (forgetMissing_keeps _).1]
      exact Store.revised_of_replaced (fun _ => Snapshot.ofPayload_wellFormed p) rfl
  | cleared result =>
    cases result with
    | error why => exact Store.revised_of_same rfl rfl
    | ok done =>
      cases done with
      | false => exact Store.revised_of_same rfl rfl
      | true =>
        simp only [revises, live, complete]
        exact Store.revised_of_replaced (fun _ => Snapshot.empty_wellFormed) rfl
  | stats result => exact Store.revised_of_same rfl rfl
  | details id result =>
    simp only [complete]
    split <;> exact Store.revised_of_same rfl rfl
  | paths result | search query result | artifact format result =>
    cases result <;> exact Store.revised_of_same rfl rfl

theorem receive_revised (s : Session) (m : Message) :
    Store.Revised (s.revises m).toNat s.store (s.receive m).1.store := by
  cases ended : s.tornDown with
  | true =>
    have unrevised : s.revises m = false := by
      unfold revises
      split <;> simp [ended]
    rw [receive_over ended, unrevised]
    exact Store.revised_of_same rfl rfl
  | false =>
    unfold receive
    rw [if_neg (by simp [ended])]
    cases m with
    | completed c => exact complete_revised ended c
    | connection e =>
      cases e with
      | state state => exact Store.revised_of_same rfl rfl
      | push e =>
        cases e with
        | graphUpdated =>
          obtain ⟨snapshot, revision⟩ := requestGraph_store .refresh s
          exact Store.revised_of_same snapshot revision
        | ignored kind => exact Store.revised_of_same rfl rfl
        | delta d =>
          have applied := s.store.apply_revised d
          simp only [revises, ended, quiet, Bool.not_false, Bool.true_and]
          split
          · rwa [(forgetMissing_keeps _).1]
          · exact applied

theorem receiveAll_revised (s : Session) (messages : List Message) :
    Store.Revised (s.revisions messages) s.store (s.receiveAll messages).1.store := by
  rw [receiveAll_session]
  induction messages generalizing s with
  | nil => exact Store.revised_of_same rfl rfl
  | cons m rest ih => exact (receive_revised s m).trans (ih (s.receive m).1)

end Session

end CodeAtlas

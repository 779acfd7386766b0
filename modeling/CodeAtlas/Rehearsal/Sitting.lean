import CodeAtlas.Rehearsal.World

/-!
A session in its world. The session acts and takes what has arrived; the world carries out what it
asks for.
-/
namespace CodeAtlas.Rehearsal

structure Sitting (σ : Type) where
  world : World σ
  session : Session := {}

namespace Sitting

variable {σ : Type}

def after (b : Backend σ) (t : Sitting σ) (r : Session.Result) : Sitting σ :=
  ⟨t.world.carryOutAll b r.2, r.1⟩

def perform (b : Backend σ) (action : Session → Session.Result) (t : Sitting σ) : Sitting σ :=
  t.after b (action t.session)

def pump (b : Backend σ) (t : Sitting σ) : Sitting σ × Bool :=
  let (world, arrived) := t.world.takeInbox
  ({ t with world }.after b (t.session.receiveAll arrived), !arrived.isEmpty)

def patience : Nat := 60000

def pumpNext (b : Backend σ) (t : Sitting σ) : Sitting σ × Bool :=
  let world := t.world.advanceUntil (fun w => !w.inbox.isEmpty) patience
  match world.inbox with
  | [] => ({ t with world }, false)
  | m :: rest => ({ t with world := { world with inbox := rest } }.after b (t.session.receive m), true)

end Sitting

end CodeAtlas.Rehearsal

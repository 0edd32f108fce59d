/-
This file gives synchronization jobs that run one after another without a failure.
-/
import OsuPlayerRole.Construction.Tasks.PlayerRuns

namespace OsuPlayerRole.Sync

open Resumption

/-- The operation of one thread is served, and it succeeds. -/
def System.serve (engines : Engines) (system : System) (index : Nat) : Option System :=
  if system.threads[index]?.any (PlayerSystem.succeeds engines system.world) then
    system.step engines (.advance index .served)
  else none

/-- One job begins while no other job is under way. -/
def System.alone (engines : Engines) (world : World) (dispatch : Dispatch) : System where
  traced := ⟨world, fun _ => []⟩
  threads := (⟨0, dispatch.program engines⟩ : SyncThread).settled
  jobs := 1

/-- The job runs to its end, in any order of its threads. -/
def Completes (engines : Engines) (dispatch : Dispatch) (world after : World) : Prop :=
  ∃ indices last, EventRun.run (System.serve engines) (System.alone engines world dispatch) indices =
    some last ∧ last.quiet = true ∧ last.world = after

/-- The jobs complete one after another. -/
def Completed (engines : Engines) : List Dispatch → World → World → Prop
  | [], world, last => last = world
  | dispatch :: rest, world, last =>
      ∃ after, Completes engines dispatch world after ∧ Completed engines rest after last

/-- The link whose list in RoleLogic the operation writes. -/
def SyncOp.written? (operation : SyncOp) : Option Link :=
  match operation.part with
  | .roleLogic link (some _) => some link
  | _ => none

/-- The next operation of this thread leaves the list of the link in RoleLogic alone. -/
def Spares (link : Link) (system : System) (index : Nat) : Prop :=
  ∀ operation ∈ system.waiting index, operation.written? ≠ some link

end OsuPlayerRole.Sync

/-
This file gives runs in which the synchronization jobs are executed one at a time.
-/
import OsuPlayerRole.Construction.Tasks.SyncSystem

namespace OsuPlayerRole.Sync

open Resumption

/-- Before the operation with this number, other parties change the surroundings. -/
abbrev Shifts := Nat → World → World

/-- Each operation of a job is served in the surroundings of its moment. -/
def servedAmid (engines : Engines) (shifts : Shifts) (moment : World × Nat) (operation : SyncOp) :
    Except AppError operation.Value × World × Nat :=
  let answered := perform engines (shifts moment.2 moment.1) operation
  (answered.1, answered.2, moment.2 + 1)

def syncAmid (engines : Engines) (shifts : Shifts) (world : World) (link : Link) :
    Except AppError Unit × World × Nat :=
  Program.run (servedAmid engines shifts) (world, 0) (syncForRoleLink link)

/-- The surroundings at the first reads of a job, before any effect of its own. -/
def moment (shifts : Shifts) (world : World) : Nat → World
  | 0 => shifts 0 world
  | index + 1 => shifts (index + 1) (moment shifts world index)

inductive SerialEvent where
  /-- The moves of one job, which may be refused at any operation. The job is stopped after them. -/
  | job (dispatch : Dispatch) (moves : List Event)
  | change (world : World)
  /-- A whole run of `sync_for_role_link` without a failure of its own. -/
  | reconcile (link : Link) (shifts : Shifts)

/-- While one job runs, no other job begins. -/
def Event.within : Event → Bool
  | .begin _ => false
  | _ => true

def serialStep (engines : Engines) (world : World) : SerialEvent → Option World
  | .job dispatch moves =>
      if moves.all Event.within then
        (EventRun.run (System.step engines) (System.start world) (.begin dispatch :: moves)).map
          System.world
      else none
  | .change after => some after
  | .reconcile link shifts => some (syncAmid engines shifts world link).2.1

end OsuPlayerRole.Sync

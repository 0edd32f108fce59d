/-
This file gives the synchronization system with the trail of what its jobs have done.
-/
import OsuPlayerRole.Construction.Tasks.SyncSystem

namespace OsuPlayerRole.Sync

open Resumption

/-- A job performs an operation in the surroundings of its moment. -/
structure Moment where
  job : Nat
  world : World
  outcome : Outcome
  operation : SyncOp

def Moment.performed (engines : Engines) (moment : Moment) :
    Program.Performed SyncOp SyncOp.Value AppError :=
  ⟨moment.operation, (answer engines moment.outcome moment.world moment.operation).1⟩

/-- The operation that the event performs. -/
def System.moment? (system : System) : Event → Option Moment
  | .advance index outcome => system.threads[index]?.bind fun thread =>
      thread.program.head?.map fun operation => ⟨thread.job, system.world, outcome, operation⟩
  | _ => none

/-- The moments of all jobs stand in their order. -/
structure Trail where
  system : System
  moments : List Moment

def Trail.step (engines : Engines) (trail : Trail) (event : Event) : Option Trail :=
  (trail.system.step engines event).map fun after =>
    ⟨after, trail.moments ++ (trail.system.moment? event).toList⟩

def Trail.start (world : World) : Trail := ⟨System.start world, []⟩

/-- The moments of one job. -/
def Trail.ofJob (trail : Trail) (job : Nat) : List Moment :=
  trail.moments.filter fun moment => moment.job = job

end OsuPlayerRole.Sync

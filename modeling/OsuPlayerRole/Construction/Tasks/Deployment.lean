/-
This file gives all tasks of all processes over one database.
-/
import OsuPlayerRole.Construction.Tasks.JobWorker
import OsuPlayerRole.Construction.Tasks.Reconcile
import OsuPlayerRole.Construction.Tasks.Refresh

namespace OsuPlayerRole

open Web Serving Resumption

/-- The tasks share the database and the clock of the world. There may be any number of each. -/
structure Deployment where
  world : Sync.World
  handlings : List Handling
  refreshes : List (Thread WebOp WebOp.Value AppError)
  syncs : List Sync.SyncThread
  workers : List JobWorker.Worker
  passes : List (Reconcile.ReconcileProgram Unit)
  /-- The next number of a task. -/
  begun : Nat

namespace Deployment

inductive Event where
  | tick (elapsed : Nat)
  /-- The gateway and RoleLogic change by themselves. -/
  | surround (remote : Link → Finset DiscordId) (guildsOf : DiscordId → List GuildId)
      (membersOf : GuildId → List DiscordId) (userLimit : Link → Nat)
  | arrive (headers : Headers) (request : Request)
  | serve (index : Nat) (outside : Outside)
  | beginRefresh
  | refresh (index : Nat) (outside : Outside)
  | startWorker (workerId : String)
  | trigger (index : Nat)
  | work (index : Nat) (input : JobWorker.Input)
  /-- The worker at the index is dispatching a job, and the synchronization of the job begins. -/
  | dispatch (index : Nat)
  | sync (index : Nat) (outcome : Sync.Outcome)
  | beginPass
  | reconcile (index : Nat) (refused : Option AppError)
  /-- The processes end at once, and the database stays. -/
  | crash

/-- No process runs. -/
def start (world : Sync.World) : Deployment := ⟨world, [], [], [], [], [], 0⟩

def tables (deployment : Deployment) : Tables := deployment.world.tables

def store (deployment : Deployment) (tables : Tables) : Deployment :=
  { deployment with world := { deployment.world with tables } }

/-- The tasks read the same clock. -/
def clocked (deployment : Deployment) (outside : Outside) : Outside :=
  { outside with now := deployment.world.now }

/-- The job that a worker is dispatching. -/
def dispatching (deployment : Deployment) (index : Nat) : Option Jobs.ClaimedJob :=
  deployment.workers[index]?.bind fun worker =>
    match worker.phase with
    | .running job _ => some job
    | _ => none

section

variable (state : AppState) (texts : ErrorTexts)

def step (deployment : Deployment) : Event → Option Deployment
  | .tick elapsed => some { deployment with
      world := { deployment.world with now := deployment.world.now + elapsed } }
  | .surround remote guildsOf membersOf userLimit => some { deployment with
      world := { deployment.world with remote, guildsOf, membersOf, userLimit } }
  | .arrive headers request => some { deployment with
      handlings := deployment.handlings ++ [Handling.arrived state headers request] }
  | .serve index outside =>
      (deployment.handlings[index]?.bind
        (Handling.advance state (deployment.clocked outside) deployment.tables)).map
          fun (handling, tables) =>
            { deployment.store tables with handlings := deployment.handlings.set index handling }
  | .beginRefresh => some { deployment with
      refreshes := deployment.refreshes ++ Thread.settled ⟨deployment.begun, Refresh.pass state⟩
      begun := deployment.begun + 1 }
  | .refresh index outside =>
      (Resumption.advance (answer state (deployment.clocked outside)) (Refresh.concurrency state)
        deployment.tables deployment.refreshes index).map fun (tables, refreshes) =>
          { deployment.store tables with refreshes }
  | .startWorker workerId => some { deployment with
      workers := deployment.workers ++ [⟨workerId, .top, Shutdown.subscribe, deployment.world.now,
        deployment.world.now, deployment.world.now, false⟩] }
  | .trigger index => deployment.workers[index]?.map fun worker => { deployment with
      workers := deployment.workers.set index { worker with guard := worker.guard.trigger } }
  | .work index input =>
      (deployment.workers[index]?.bind fun worker =>
        worker.step texts JobWorker.batchSize deployment.world.now input deployment.tables).map
          fun (worker, tables) =>
            { deployment.store tables with workers := deployment.workers.set index worker }
  | .dispatch index =>
      (deployment.dispatching index).bind fun job =>
        (JobWorker.decode texts job).toOption.map fun dispatch => { deployment with
          syncs := deployment.syncs ++
            (⟨deployment.begun, dispatch.program state.engines⟩ : Sync.SyncThread).settled
          begun := deployment.begun + 1 }
  | .sync index outcome =>
      (Resumption.advance (Sync.answer state.engines outcome) Sync.actionConcurrency deployment.world
        deployment.syncs index).map fun (world, syncs) => { deployment with world, syncs }
  | .beginPass => some { deployment with passes := deployment.passes ++ [Reconcile.pass] }
  | .reconcile index refused =>
      (deployment.passes[index]?.bind
        (Reconcile.advance refused deployment.world.now deployment.tables)).map fun (pass, tables) =>
          { deployment.store tables with passes := deployment.passes.set index pass }
  | .crash => some (start deployment.world)

end

end Deployment

end OsuPlayerRole

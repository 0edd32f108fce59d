/-
This file gives the workers that claim jobs in batches and dispatch them.
-/
import OsuPlayerRole.Construction.Services.Jobs
import OsuPlayerRole.Construction.Tasks.Shutdown
import OsuPlayerRole.Construction.Tasks.SyncSystem

namespace OsuPlayerRole

/-- The texts that the database and the deserializer give their errors. -/
structure ErrorTexts where
  database : DbError → String
  payload : Json.Value → String

def AppError.display (texts : ErrorTexts) : AppError → String
  | .database error => "Database error: " ++ texts.database error
  | .roleLogic message => "RoleLogic API error: " ++ message
  | .roleLinkNotFound => "Role link not found on RoleLogic"
  | .roleLinkDisabled => "Role link is disabled or paused on RoleLogic"
  | .removalHeld => "Role link removals are held for owner confirmation on RoleLogic"
  | .userLimitReached limit => "Role link user limit reached (" ++ toString limit ++ ")"
  | .osuApi message => "osu! API error: " ++ message
  | .badRequest message => "Invalid request: " ++ message
  | .unauthorized => "Unauthorized"
  | .unauthorizedWith message => "Unauthorized: " ++ message
  | .forbidden message => "Forbidden: " ++ message
  | .notFound message => "Not found: " ++ message
  | .validationFailed _ => "Validation failed"
  | .staleVersion => "Configuration was edited; reload and try again"
  | .internal message => "Internal error: " ++ message

namespace JobWorker

open Json Jobs Shutdown

def batchSize : Nat := 8

/-- The lock of a job is stuck after 45 minutes. -/
def stuckLockSecs : Nat := 60 * 45

def reapEvery : Int := 120 * second

section Dispatch

inductive JobError where
  | terminal (message : String)
  | retry (message : String)

variable (texts : ErrorTexts)

def JobError.ofAppError : AppError → JobError
  | .roleLinkNotFound => .terminal "role link no longer exists upstream"
  | .userLimitReached limit =>
      .terminal ("role link user limit reached (" ++ toString limit ++ "); retry won't help")
  | other => .retry (other.display texts)

/-- A text under a key of an object. -/
def textOf (payload : Value) (name : String) : Option String :=
  match payload with
  | .object fields =>
      match fields.lookup name with
      | some (.string text) => some text
      | _ => none
  | _ => none

/-- The kind tells the shape of the payload. -/
def decode (job : ClaimedJob) : Except JobError Sync.Dispatch :=
  if job.kind = "player_sync" then
    match job.payload.value.field? ["discord_id"] "discord_id" with
    | some (some (.string discordId)) => .ok (.playerSync discordId)
    | _ => .error (.terminal ("invalid player_sync payload: " ++ texts.payload job.payload.value))
  else if job.kind = "config_sync" then
    match textOf job.payload.value "guild_id" with
    | none => .error (.terminal "config_sync missing guild_id")
    | some guildId =>
        match textOf job.payload.value "role_id" with
        | none => .error (.terminal "config_sync missing role_id")
        | some roleId => .ok (.configSync (guildId, roleId))
  else .error (.terminal ("unknown job kind '" ++ job.kind ++ "'"))

/-- A job whose payload is readable ends as its synchronization does. -/
def dispatch (job : ClaimedJob) (synchronized : Except AppError Unit) : Except JobError Unit :=
  match decode texts job with
  | .error error => .error error
  | .ok _ => synchronized.mapError (JobError.ofAppError texts)

end Dispatch

/-- The statement that reports the outcome of a job. -/
inductive Report where
  | complete
  | failDead (message : String)
  | failRetry (message : String)
  deriving DecidableEq

/-- A job whose attempts are used up is not tried again. -/
def report (job : ClaimedJob) : Except JobError Unit → Report
  | .ok _ => .complete
  | .error (.terminal message) => .failDead message
  | .error (.retry message) =>
      if job.attempts.val ≥ job.maxAttempts.val then .failDead message else .failRetry message

def released : Report := .failRetry "worker shutting down"

def Report.perform (now : Timestamp) (jitterMs : Nat) (job : ClaimedJob) (tables : Tables) :
    Report → Except DbError Tables
  | .complete => Jobs.complete now job.id tables
  | .failDead message => Jobs.failDead now job.id message tables
  | .failRetry message => Jobs.failRetry now job jitterMs message tables

/-- The place of a worker in its two loops. -/
inductive Phase where
  | top
  | reap
  | claim
  /-- The claim has failed. -/
  | errorPause
  /-- There was nothing to claim. -/
  | emptyPause
  | batch (rest : List ClaimedJob)
  | running (job : ClaimedJob) (rest : List ClaimedJob)
  | settle (job : ClaimedJob) (report : Report) (rest : List ClaimedJob)
  | stopped

structure Worker where
  id : String
  phase : Phase
  guard : Guard
  lastReap : Timestamp
  /-- The moment of its last claim. -/
  claimedAt : Timestamp
  /-- The moment at which it began its last dispatch. -/
  startedAt : Timestamp
  /-- A poll or a wait has told it of the shutdown. -/
  observed : Bool

/-- What the surroundings decide about one step of a worker. -/
structure Input where
  /-- The statement of the step is refused, without an effect. -/
  refused : Bool
  /-- These rows are locked by concurrent statements. -/
  skipped : List Nat
  /-- The order in which a claim returns its rows. -/
  order : RowOrder
  /-- A pause is ended by the shutdown, and not by its timer or by a notification. -/
  woken : Bool
  jitterMs : Nat
  synchronized : Except AppError Unit

def Worker.stop (worker : Worker) (guard : Guard) : Worker :=
  { worker with phase := .stopped, guard, observed := true }

/-- Each step is one poll, one statement, one pause, or one dispatch. -/
def Worker.step (texts : ErrorTexts) (batchSize : Nat) (now : Timestamp) (input : Input)
    (worker : Worker) (tables : Tables) : Option (Worker × Tables) :=
  match worker.phase with
  | .top =>
      let (triggered, guard) := worker.guard.isTriggered
      if triggered then some (worker.stop guard, tables)
      else some ({ worker with phase := .reap, guard }, tables)
  | .reap =>
      if now - worker.lastReap ≥ reapEvery then
        some ({ worker with phase := .claim, lastReap := now },
          if input.refused then tables else (reapStuck now stuckLockSecs tables).2)
      else some ({ worker with phase := .claim }, tables)
  | .claim =>
      if input.refused then some ({ worker with phase := .errorPause }, tables)
      else
        match claimBatch now worker.id batchSize input.skipped input.order tables with
        | .error _ => some ({ worker with phase := .errorPause }, tables)
        | .ok ([], after) => some ({ worker with phase := .emptyPause }, after)
        | .ok (jobs, after) => some ({ worker with phase := .batch jobs, claimedAt := now }, after)
  | .errorPause | .emptyPause =>
      if input.woken then worker.guard.wait.map fun guard => (worker.stop guard, tables)
      else some ({ worker with phase := .top }, tables)
  | .batch [] => some ({ worker with phase := .top }, tables)
  | .batch (job :: rest) =>
      let (triggered, guard) := worker.guard.isTriggered
      if triggered then
        some ({ worker with phase := .settle job released rest, guard, observed := true }, tables)
      else some ({ worker with phase := .running job rest, guard, startedAt := now }, tables)
  | .running job rest =>
      some ({ worker with
        phase := .settle job (report job (dispatch texts job input.synchronized)) rest }, tables)
  | .settle job outcome rest =>
      some ({ worker with phase := .batch rest },
        if input.refused then tables
        else
          match outcome.perform now input.jitterMs job tables with
          | .ok after => after
          | .error _ => tables)
  | .stopped => none

/-- The system counts the claims of each job and keeps the worker that has claimed it last. -/
structure System where
  tables : Tables
  now : Timestamp
  workers : List Worker
  claims : Nat → Nat
  holder : Nat → Option Nat

inductive Event where
  | tick (elapsed : Nat)
  | enqueue (kind : String) (payload : Value) (delaySecs : Nat)
  | start (workerId : String)
  | trigger (index : Nat)
  /-- The process of the worker ends at once. -/
  | crash (index : Nat)
  | step (index : Nat) (input : Input)
  | gcDead
  | gcCompleted

/-- The jobs that a claim has just given to the worker. -/
def newClaims (before after : Worker) : List Nat :=
  match before.phase, after.phase with
  | .claim, .batch jobs => jobs.map ClaimedJob.id
  | _, _ => []

section

variable (texts : ErrorTexts) (batchSize : Nat)

def System.step (system : System) : Event → Option System
  | .tick elapsed => some { system with now := system.now + elapsed }
  | .enqueue kind payload delaySecs => some { system with
      tables :=
        match system.tables.enqueue system.now kind payload delaySecs with
        | .ok after => after
        | .error _ => system.tables }
  | .start workerId => some { system with
      workers := system.workers ++ [⟨workerId, .top, subscribe, system.now, system.now, system.now, false⟩] }
  | .trigger index => system.workers[index]?.map fun worker => { system with
      workers := system.workers.set index { worker with guard := worker.guard.trigger } }
  | .crash index => system.workers[index]?.map fun worker => { system with
      workers := system.workers.set index { worker with phase := .stopped } }
  | .step index input =>
      (system.workers[index]?.bind fun worker =>
        (worker.step texts batchSize system.now input system.tables).map fun (after, tables) =>
          (newClaims worker after, after, tables)).map fun (claimed, after, tables) =>
            { system with
              tables
              workers := system.workers.set index after
              claims := fun id => if id ∈ claimed then system.claims id + 1 else system.claims id
              holder := fun id => if id ∈ claimed then some index else system.holder id }
  | .gcDead => some { system with tables := Jobs.gcDead system.now system.tables }
  | .gcCompleted => some { system with tables := Jobs.gcCompleted system.now system.tables }

end

/-- No job has been enqueued. -/
def System.begin (tables : Tables) (now : Timestamp) : System where
  tables := { tables with jobs := .empty, jobsBelow := by simp [KeyedTable.Table.empty] }
  now := now
  workers := []
  claims _ := 0
  holder _ := none

end JobWorker

end OsuPlayerRole

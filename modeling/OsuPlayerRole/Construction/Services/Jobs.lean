/-
This file gives the statements of the job queue.
-/
import OsuPlayerRole.Construction.Statements

namespace OsuPlayerRole.Jobs

open Json KeyedTable RuleSql

def second : Int := 1000000

/-- These columns are returned to the worker that claims a job. -/
structure ClaimedJob where
  id : Nat
  kind : String
  payload : Jsonb
  attempts : Int4
  maxAttempts : Int4

def ClaimedJob.ofRow (row : Job) : ClaimedJob :=
  ⟨row.id, row.kind, row.payload, row.attempts, row.maxAttempts⟩

section Statements

variable (now : Timestamp)

/-- This statement changes jobs and keeps their identifiers. -/
def updateJobs (tables : Tables) (change : Job → Job) (keeps : ∀ row, (change row).id = row.id) :
    Tables :=
  { tables with
    jobs := tables.jobs.update change keeps
    jobsBelow := fun row member => by
      obtain ⟨old, inside, rfl⟩ := Table.mem_update.mp member
      rw [keeps]
      exact tables.jobsBelow old inside }

def deleteJobs (tables : Tables) (condition : Job → Bool) : Tables :=
  { tables with
    jobs := tables.jobs.delete condition
    jobsBelow := fun row member => tables.jobsBelow row (Table.mem_delete.mp member).1 }

/-- This change is made where the condition holds. -/
def changeWhere (condition : Job → Bool) (change : Job → Job) (row : Job) : Job :=
  if condition row then change row else row

theorem changeWhere_id {condition : Job → Bool} {change : Job → Job}
    (keeps : ∀ row, (change row).id = row.id) (row : Job) :
    (changeWhere condition change row).id = row.id := by
  unfold changeWhere
  split
  · exact keeps row
  · rfl

/-- A claim counts the attempt. The statement checks that the count fits. -/
def claimed (workerId : String) (row : Job) : Job :=
  { row with
    status := .inProgress
    lockedBy := some workerId
    lockedAt := some now
    attempts := .wrap (row.attempts + 1) }

/-- The rows of an update come back in an order that the database chooses. -/
structure RowOrder where
  arrange : List Job → List Job
  permutes : ∀ rows, (arrange rows).Perm rows

/-- A row that a concurrent statement has locked is skipped. -/
def ready (skipped : List Nat) (row : Job) : Bool :=
  row.status = .pending && decide (row.nextRunAt ≤ now) && !skipped.contains row.id

def toClaim (batchSize : Nat) (skipped : List Nat) (tables : Tables) : List Job :=
  ((tables.jobs.rows.filter (ready now skipped)).insertionSort fun first second =>
    first.id ≤ second.id).take batchSize

def claimBatch (workerId : String) (batchSize : Nat) (skipped : List Nat) (order : RowOrder)
    (tables : Tables) : Except DbError (List ClaimedJob × Tables) := do
  send [.text workerId]
  let taken := toClaim now batchSize skipped tables
  if taken.all fun row => decide (row.attempts.val + 1 < 2 ^ 31) then
    return ((order.arrange taken).map fun row => .ofRow (claimed now workerId row),
      updateJobs tables (changeWhere (fun row => (taken.map Job.id).contains row.id)
        (claimed now workerId)) (changeWhere_id fun _ => rfl))
  else .error .integerOutOfRange

def completedRow (row : Job) : Job :=
  { row with status := .completed, completedAt := some now, lockedBy := none, lockedAt := none }

def deadRow (error : String) (row : Job) : Job :=
  { row with
    status := .dead
    completedAt := some now
    lastError := some error
    lockedBy := none
    lockedAt := none }

def retriedRow (delay : Int) (error : String) (row : Job) : Job :=
  { row with
    status := .pending
    nextRunAt := now + delay
    lastError := some error
    lockedBy := none
    lockedAt := none }

def complete (id : Nat) (tables : Tables) : Except DbError Tables :=
  .ok (updateJobs tables (changeWhere (fun row => row.id = id) (completedRow now))
    (changeWhere_id fun _ => rfl))

/-- The base doubles with each attempt up to the eighth, and the jitter is below one second. -/
def backoffDelay (attempt : Int4) (jitterMs : Nat) : Int :=
  (2 ^ (max 1 (min 8 attempt.val)).toNat * 1000 + jitterMs) * 1000

def failRetry (job : ClaimedJob) (jitterMs : Nat) (error : String) (tables : Tables) :
    Except DbError Tables := do
  send [.text error]
  return updateJobs tables (changeWhere (fun row => row.id = job.id)
    (retriedRow now (backoffDelay job.attempts jitterMs) error)) (changeWhere_id fun _ => rfl)

def failDead (id : Nat) (error : String) (tables : Tables) : Except DbError Tables := do
  send [.text error]
  return updateJobs tables (changeWhere (fun row => row.id = id) (deadRow now error))
    (changeWhere_id fun _ => rfl)

/-- A job without a lock time is never stuck. -/
def stuck (maxLockSecs : Nat) (row : Job) : Bool :=
  row.status = .inProgress &&
    row.lockedAt.any fun lockedAt => decide (lockedAt < now - maxLockSecs * second)

def reapedRow (row : Job) : Job :=
  { row with status := .pending, nextRunAt := now, lockedBy := none, lockedAt := none }

def reapStuck (maxLockSecs : Nat) (tables : Tables) : Nat × Tables :=
  (tables.jobs.rows.countP (stuck now maxLockSecs),
    updateJobs tables (changeWhere (stuck now maxLockSecs) (reapedRow now)) (changeWhere_id fun _ => rfl))

/-- A finished job of the status is collected when it is older than the age. -/
def expired (status : JobStatus) (age : Int) (row : Job) : Bool :=
  row.status = status && row.completedAt.any fun completedAt => decide (completedAt < now - age)

def day : Int := 24 * 3600 * second

def gcDead (tables : Tables) : Tables := deleteJobs tables (expired now .dead (30 * day))

def gcCompleted (tables : Tables) : Tables := deleteJobs tables (expired now .completed day)

end Statements

end OsuPlayerRole.Jobs

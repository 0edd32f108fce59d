/-
This file gives the refresh worker, interleaved with the members who link and unlink.
-/
import OsuPlayerRole.Construction.Routes.Verify
import OsuPlayerRole.Construction.Routes.WebWorld
import OsuPlayerRole.Library.EventRun
import OsuPlayerRole.Library.ThreadPool

namespace OsuPlayerRole.Refresh

open Web Resumption

/-- A successful refresh queues the user again after this time. -/
def refreshInterval : Int := 6 * Oauth.hour

def maxBackoffHours : Int := 24

/-- The exponent stays between one and five. The sum wraps as an `i32`. -/
def backoff (curFailures : Int4) : Int :=
  let exponent := max 1 (min 5 (Int4.wrap (curFailures.val + 1)).val)
  min (2 ^ exponent.toNat) maxBackoffHours * Oauth.hour

section

variable (state : AppState)

def concurrency : Nat := max state.config.refreshConcurrency 1

def batchSize : Nat := concurrency state * 4

/-- The errors of the statements after the refresh are dropped. -/
def refreshUser (due : DiscordId × OsuUserId) : WebProgram Unit := do
  match ← (Oauth.refreshUserFull state due.1 due.2).attempt with
  | .ok _ => do
      let now ← ask .utcNow
      let _ ← result (.updateRefreshed due.1 (now + refreshInterval))
      return ()
  | .error _ => do
      let stored ← result (.selectRefreshFailures due.1)
      let now ← ask .utcNow
      let _ ← result (.updateFailed due.1 (now + backoff (stored.toOption.getD .zero)))
      return ()

/-- This is one round of the loop. The users that are due are refreshed as branches. -/
def pass : WebProgram (List (WebProgram Unit)) := do
  if state.config.osuClientId.isNone || state.config.osuClientSecret.isNone then
    return []
  else do
    match ← result (.selectDue (batchSize state)) with
    | .error _ => return []
    | .ok due => return due.map (refreshUser state)

end

/-- A round of the worker runs beside the requests of members. -/
inductive Task where
  | refresh
  | callback (query : Oauth.CallbackQuery)
  | unlink (headers : Headers)

def Task.program (state : AppState) : Task → WebProgram (List (WebProgram Unit))
  | .refresh => pass state
  | .callback query => do
      let _ ← Oauth.callback state query
      return []
  | .unlink headers => do
      Verify.verifyUnlink state headers
      return []

/-- The number of a thread is the place of its task in the list. -/
structure System where
  tables : Tables
  threads : List (Thread WebOp WebOp.Value AppError)
  tasks : List Task

inductive Event where
  | begin (task : Task)
  | advance (index : Nat) (outside : Outside)
  /-- The process of the task stops between two operations. -/
  | stop (job : Nat)

def System.step (state : AppState) (system : System) : Event → Option System
  | .begin task => some { system with
      threads := system.threads ++ Thread.settled ⟨system.tasks.length, task.program state⟩
      tasks := system.tasks ++ [task] }
  | .advance index outside =>
      (Resumption.advance (answer state outside) (concurrency state) system.tables system.threads
        index).map fun advanced => { system with tables := advanced.1, threads := advanced.2 }
  | .stop job => some { system with threads := system.threads.filter fun thread => thread.job ≠ job }

def System.start (tables : Tables) : System := ⟨tables, [], []⟩

def Task.isRefresh : Task → Bool
  | .refresh => true
  | .callback _ => false
  | .unlink _ => false

/-- The task whose thread has this place. -/
def System.taskAt (system : System) (index : Nat) : Option Task :=
  system.threads[index]?.bind fun thread => system.tasks[thread.job]?

/-- The operation that the thread waits for. -/
def System.waiting (system : System) (index : Nat) : Option WebOp :=
  system.threads[index]?.bind fun thread => thread.program.head?

/-- These are the links between the two kinds of accounts. -/
def linkedPairs (tables : Tables) : Finset (DiscordId × OsuUserId) :=
  (tables.osuUsers.rows.map fun row => (row.discordId, row.osuUserId)).toFinset

end OsuPlayerRole.Refresh

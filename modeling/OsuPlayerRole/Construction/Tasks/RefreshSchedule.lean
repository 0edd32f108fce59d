/-
This file gives the refresh worker with the clock and with the users that its rounds have taken.
-/
import OsuPlayerRole.Construction.Tasks.Refresh

namespace OsuPlayerRole.Refresh

open Web Resumption

/-- These users were due when a round asked for them. -/
structure Round where
  moment : Timestamp
  users : List DiscordId

structure Schedule where
  system : System
  now : Timestamp
  rounds : List Round

inductive Schedule.Event where
  | tick (elapsed : Nat)
  | event (event : Refresh.Event)

/-- Every statement sees the clock. -/
def Event.at (now : Timestamp) : Event → Event
  | .advance index outside => .advance index { outside with now }
  | event => event

section

variable (state : AppState)

/-- The round that starts with the answer to the operation. -/
def roundOf (outside : Outside) (tables : Tables) : WebOp → List Round
  | .selectDue limit =>
      match (answer state outside tables (.selectDue limit)).1 with
      | .ok due => [⟨outside.now, due.map Prod.fst⟩]
      | .error _ => []
  | _ => []

def System.opens (system : System) : Event → List Round
  | .advance index outside =>
      (system.waiting index).toList.flatMap (roundOf state outside system.tables)
  | _ => []

def Schedule.step (schedule : Schedule) : Schedule.Event → Option Schedule
  | .tick elapsed => some { schedule with now := schedule.now + elapsed }
  | .event event =>
      (schedule.system.step state (event.at schedule.now)).map fun after =>
        { schedule with
          system := after
          rounds := schedule.rounds ++ schedule.system.opens state (event.at schedule.now) }

/-- No round has asked for its users. -/
def Schedule.start (tables : Tables) (now : Timestamp) : Schedule := ⟨.start tables, now, []⟩

/-- These operations set a user on the schedule. -/
def schedules : WebOp → Bool
  | .utcNow => true
  | .updateRefreshed _ _ => true
  | .updateFailed _ _ => true
  | _ => false

/-- The job is a round. -/
def System.refreshing (system : System) (job : Nat) : Bool := system.tasks[job]?.any Task.isRefresh

/-- The loop waits for the end of a round before the next one, the process goes on, and the statements
about the schedule are served. -/
def Orderly (schedule : Schedule) : Schedule.Event → Prop
  | .tick _ => True
  | .event (.begin task) => task.isRefresh = true →
      ∀ thread ∈ schedule.system.threads, schedule.system.refreshing thread.job = false
  | .event (.stop job) => schedule.system.refreshing job = false
  | .event (.advance index outside) => ∀ thread ∈ schedule.system.threads[index]?,
      schedule.system.refreshing thread.job = true →
        ∀ operation ∈ thread.program.head?, schedules operation = true →
          (answer state { outside with now := schedule.now } schedule.system.tables operation).1.isOk = true

instance (schedule : Schedule) : ∀ event, Decidable (Orderly state schedule event)
  | .tick _ => isTrue trivial
  | .event (.begin task) => inferInstanceAs (Decidable (task.isRefresh = true →
      ∀ thread ∈ schedule.system.threads, schedule.system.refreshing thread.job = false))
  | .event (.stop job) => inferInstanceAs (Decidable (schedule.system.refreshing job = false))
  | .event (.advance index outside) => inferInstanceAs (Decidable (∀ thread ∈ schedule.system.threads[index]?,
      schedule.system.refreshing thread.job = true →
        ∀ operation ∈ thread.program.head?, schedules operation = true →
          (answer state { outside with now := schedule.now } schedule.system.tables operation).1.isOk = true))

end

end OsuPlayerRole.Refresh

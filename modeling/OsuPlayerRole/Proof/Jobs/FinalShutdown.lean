/-
This file shows when the shutdown is final for a worker.
-/
import OsuPlayerRole.Library.EventRun
import OsuPlayerRole.Proof.Jobs.QueueStep
import OsuPlayerRole.Proof.Sample

namespace OsuPlayerRole.JobWorker

open Shutdown

/-- A worker that winds down releases the rest of its batch and leaves the loop. -/
def Winds : Phase → Phase → Prop
  | .batch (job :: rest), .settle other outcome others =>
      other = job ∧ outcome = released ∧ others = rest
  | .settle _ _ rest, .batch others => others = rest
  | .batch [], .top => True
  | .top, .stopped => True
  | _, _ => False

/-- The steps that lead a worker that winds down out of its loop. -/
def Phase.remaining : Phase → Nat
  | .settle _ _ rest => 2 * rest.length + 3
  | .batch rest => 2 * rest.length + 2
  | .top => 1
  | _ => 0

/-- These phases poll the guard. -/
def Phase.polls : Phase → Bool
  | .top => true
  | .batch (_ :: _) => true
  | _ => false

/-- A worker that has observed the shutdown is at a place of its way out. -/
def Phase.Winding : Phase → Prop
  | .top | .batch _ | .settle _ _ _ | .stopped => True
  | _ => False

section

variable {texts : ErrorTexts} {batchSize : Nat} {now : Timestamp} {input : Input}
  {worker moved : Worker} {tables written : Tables} {system after : System}

/-- A step that winds down leaves one step less. -/
theorem Winds.remaining {before later : Phase} (winds : Winds before later) :
    later.remaining + 1 = before.remaining := by
  unfold Winds at winds
  split at winds
  · next job rest other outcome others =>
      obtain ⟨_, _, rfl⟩ := winds
      simp only [Phase.remaining, List.length_cons]
      omega
  · next rest others =>
      obtain rfl := winds
      rfl
  · rfl
  · rfl
  · exact winds.elim

/-- A worker that winds down goes on winding down. -/
theorem Winds.winding {before later : Phase} (winds : Winds before later) : later.Winding := by
  unfold Winds at winds
  split at winds
  · trivial
  · trivial
  · trivial
  · trivial
  · exact winds.elim

/-- Exactly one message is read as the shutdown. -/
theorem isTriggered_iff (guard : Guard) : guard.isTriggered.1 = true ↔ guard.unread = capacity := by
  unfold Guard.isTriggered Guard.tryRecv capacity
  by_cases empty : guard.unread = 0
  · rw [if_pos empty]
    constructor
    · intro impossible
      cases impossible
    · omega
  · rw [if_neg empty]
    by_cases lagged : guard.unread > 1
    · rw [if_pos lagged]
      constructor
      · intro impossible
        cases impossible
      · omega
    · rw [if_neg lagged]
      exact ⟨fun _ => by omega, fun _ => rfl⟩

/-- A worker on its way out takes its next step unless it polls without a message. -/
theorem winds_iff (winding : worker.phase.Winding) (going : worker.phase ≠ .stopped) :
    (∃ moved written, worker.step texts batchSize now input tables = some (moved, written) ∧
        Winds worker.phase moved.phase) ↔
      (worker.phase.polls = true → worker.guard.unread = capacity) := by
  rw [← isTriggered_iff]
  cases place : worker.phase with
  | top =>
      rcases told : worker.guard.isTriggered with ⟨triggered, guard⟩
      cases triggered with
      | true => exact ⟨fun _ _ => rfl, fun _ => ⟨worker.stop guard, tables, by
          simp only [Worker.step, place, told, if_true], trivial⟩⟩
      | false =>
          refine ⟨?_, fun polled => absurd (polled rfl) Bool.false_ne_true⟩
          rintro ⟨moved, written, stepped, winds⟩
          simp only [Worker.step, place, told] at stepped
          cases stepped
          exact winds.elim
  | batch jobs =>
      cases jobs with
      | nil => exact ⟨fun _ impossible => (by cases impossible), fun _ =>
          ⟨{ worker with phase := .top }, tables, by simp only [Worker.step, place], trivial⟩⟩
      | cons job rest =>
          rcases told : worker.guard.isTriggered with ⟨triggered, guard⟩
          cases triggered with
          | true => exact ⟨fun _ _ => rfl, fun _ =>
              ⟨{ worker with phase := .settle job released rest, guard, observed := true }, tables, by
                simp only [Worker.step, place, told, if_true], rfl, rfl, rfl⟩⟩
          | false =>
              refine ⟨?_, fun polled => absurd (polled rfl) Bool.false_ne_true⟩
              rintro ⟨moved, written, stepped, winds⟩
              simp only [Worker.step, place, told] at stepped
              cases stepped
              exact winds.elim
  | settle job outcome rest =>
      refine ⟨fun _ impossible => (by cases impossible), fun _ => ?_⟩
      refine ⟨{ worker with phase := .batch rest }, _, by simp only [Worker.step, place]; rfl, ?_⟩
      rfl
  | stopped => exact absurd place going
  | reap | claim | errorPause | emptyPause | running =>
      rw [place] at winding
      exact winding.elim

/-- A worker that has not observed the shutdown is on its way out once it does. -/
theorem winding_of_steps (steps : Steps texts batchSize now tables worker moved written)
    (unobserved : worker.observed = false) (observed : moved.observed = true) :
    moved.phase.Winding := by
  cases steps with
  | observed | woken | released => trivial
  | polled | reaped | spared | unclaimed | idle | claimed | again | started | ended | reported |
      unreported =>
      exact absurd (unobserved.symm.trans observed) Bool.false_ne_true

/-- Every worker that has observed the shutdown is on its way out. -/
def WindsDown (system : System) : Prop :=
  ∀ worker ∈ system.workers, worker.observed = true → worker.phase.Winding

/-- The next step of each worker that has observed the shutdown winds down. -/
def Final (texts : ErrorTexts) (batchSize : Nat) (system : System) : Event → Prop
  | .step index input => ∀ worker ∈ system.workers[index]?, worker.observed = true →
      worker.phase ≠ .stopped → ∃ moved written,
        worker.step texts batchSize system.now input system.tables = some (moved, written) ∧
          Winds worker.phase moved.phase ∧ moved.phase.remaining + 1 = worker.phase.remaining
  | _ => True

/-- A worker that polls again after it has observed the shutdown finds one more message. -/
def ToldAgain (system : System) : Event → Prop
  | .step index _ => ∀ worker ∈ system.workers[index]?, worker.observed = true →
      worker.phase.polls = true → worker.guard.unread = capacity
  | _ => True

instance (system : System) : ∀ event, Decidable (ToldAgain system event)
  | .step index _ => inferInstanceAs (Decidable (∀ worker ∈ system.workers[index]?,
      worker.observed = true → worker.phase.polls = true → worker.guard.unread = capacity))
  | .tick _ => isTrue trivial
  | .enqueue _ _ _ => isTrue trivial
  | .start _ => isTrue trivial
  | .trigger _ => isTrue trivial
  | .crash _ => isTrue trivial
  | .gcDead => isTrue trivial
  | .gcCompleted => isTrue trivial

/-- A step winds the worker down exactly when a second poll still finds a message. -/
theorem final_iff (winding : WindsDown system) (event : Event) :
    Final texts batchSize system event ↔ ToldAgain system event := by
  cases event with
  | step index input =>
      refine forall₂_congr fun worker found => forall_congr' fun observed => ?_
      have place := winding worker (List.mem_of_getElem? found) observed
      constructor
      · intro final polled
        have going : worker.phase ≠ .stopped := by
          intro gone
          rw [gone] at polled
          cases polled
        obtain ⟨moved, written, stepped, winds, _⟩ := final going
        exact (winds_iff place going).mp ⟨moved, written, stepped, winds⟩ polled
      · intro told going
        obtain ⟨moved, written, stepped, winds⟩ := (winds_iff place going).mpr told
        exact ⟨moved, written, stepped, winds, winds.remaining⟩
  | _ => exact Iff.rfl

/-- The workers stay on their way out while each step of theirs winds down. -/
theorem windsDown_step {event : Event} (winding : WindsDown system)
    (final : Final texts batchSize system event)
    (stepped : system.step texts batchSize event = some after) : WindsDown after := by
  cases event with
  | start workerId =>
      cases stepped
      intro worker member observed
      obtain old | new := List.mem_append.mp member
      · exact winding worker old observed
      · obtain rfl := List.mem_singleton.mp new
        cases observed
  | trigger index =>
      obtain ⟨worker, found, rfl⟩ := Option.map_eq_some_iff.mp stepped
      intro other member observed
      obtain old | rfl := List.mem_or_eq_of_mem_set member
      · exact winding other old observed
      · exact winding worker (List.mem_of_getElem? found) observed
  | crash index =>
      obtain ⟨worker, found, rfl⟩ := Option.map_eq_some_iff.mp stepped
      intro other member observed
      obtain old | rfl := List.mem_or_eq_of_mem_set member
      · exact winding other old observed
      · trivial
  | step index input =>
      obtain ⟨worker, moved, written, found, performed, rfl⟩ := step_worker stepped
      intro other member observed
      obtain old | rfl := List.mem_or_eq_of_mem_set member
      · exact winding other old observed
      · cases seen : worker.observed with
        | false => exact winding_of_steps (steps_of_step performed) seen observed
        | true =>
            have going : worker.phase ≠ .stopped := by
              intro gone
              rw [Worker.step, gone] at performed
              cases performed
            obtain ⟨again, _, same, winds, _⟩ := final worker found seen going
            rw [performed] at same
            cases same
            exact winds.winding
  | tick | enqueue | gcDead | gcCompleted =>
      cases stepped
      exact winding

theorem guarded_final_iff (winding : WindsDown system) (events : List Event) :
    EventRun.Guarded (System.step texts batchSize) (Final texts batchSize) system events ↔
      EventRun.Guarded (System.step texts batchSize) ToldAgain system events :=
  EventRun.guarded_iff_of_invariant WindsDown (fun _ _ _ => windsDown_step)
    (fun _ event winding => final_iff winding event) winding events

/-- At the start no worker has observed the shutdown. -/
theorem windsDown_begin (tables : Tables) (now : Timestamp) : WindsDown (System.begin tables now) :=
  fun _ member => absurd member List.not_mem_nil

/-- In every run the shutdown is final for each worker that observes it exactly when the worker finds
one more message at each later poll. -/
theorem shutdown_final_iff (texts : ErrorTexts) (batchSize : Nat) (tables : Tables) (now : Timestamp)
    (events : List Event) :
    EventRun.Guarded (System.step texts batchSize) (Final texts batchSize)
        (System.begin tables now) events ↔
      EventRun.Guarded (System.step texts batchSize) ToldAgain (System.begin tables now) events :=
  guarded_final_iff (windsDown_begin tables now) events

end

section Drained

/-- The shutdown comes after a claim of two jobs. -/
def claimedTwo : List Event :=
  [Sample.enqueued, Sample.enqueued, .start "job-worker-0"] ++ Sample.steps 0 3 ++ [.trigger 0] ++
    Sample.steps 0 3

/-- The poll before the first job reads the only message, so that the second job is dispatched. -/
theorem shutdown_forgotten :
    ¬EventRun.Guarded (System.step Sample.texts batchSize) (Final Sample.texts batchSize)
      Sample.noJobs claimedTwo := by
  have silent : ¬EventRun.Guarded (System.step Sample.texts batchSize) ToldAgain Sample.noJobs
      claimedTwo := by
    decide +kernel
  exact fun final => silent ((guarded_final_iff (windsDown_begin _ _) _).mp final)

end Drained

end OsuPlayerRole.JobWorker

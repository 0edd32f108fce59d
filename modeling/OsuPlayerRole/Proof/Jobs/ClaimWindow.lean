/-
This file shows when a worker starts only the jobs that it has claimed last.
-/
import OsuPlayerRole.Library.EventRun
import OsuPlayerRole.Proof.Jobs.QueueStep
import OsuPlayerRole.Proof.Sample

namespace OsuPlayerRole.JobWorker

open Jobs

/-- The jobs of a batch that have not been started. -/
def Phase.waiting : Phase → List ClaimedJob
  | .batch rest | .running _ rest | .settle _ _ rest => rest
  | _ => []

/-- The job that the next step of the worker starts. -/
def Worker.starts (worker : Worker) : Option ClaimedJob :=
  match worker.phase with
  | .batch (job :: _) => if worker.guard.isTriggered.1 then none else some job
  | _ => none

/-- A worker starts a job only while it is the last one that has claimed it. -/
def StartsHeld (system : System) : Event → Prop
  | .step index _ => ∀ worker ∈ system.workers[index]?, ∀ job ∈ worker.starts,
      system.holder job.id = some index
  | _ => True

instance (system : System) : ∀ event, Decidable (StartsHeld system event)
  | .step index _ => inferInstanceAs (Decidable (∀ worker ∈ system.workers[index]?,
      ∀ job ∈ worker.starts, system.holder job.id = some index))
  | .tick _ => isTrue trivial
  | .enqueue _ _ _ => isTrue trivial
  | .start _ => isTrue trivial
  | .trigger _ => isTrue trivial
  | .crash _ => isTrue trivial
  | .gcDead => isTrue trivial
  | .gcCompleted => isTrue trivial

/-- A job that waits in the batch of a worker is not made pending again. -/
def ReturnsUnawaited (system : System) : Event → Prop
  | .step index input => ∀ worker ∈ system.workers[index]?, input.refused = false →
      ∀ row ∈ system.tables.jobs.rows, returns system.now worker row = true →
        ∀ other ∈ system.workers, ∀ job ∈ other.phase.waiting, job.id ≠ row.id
  | _ => True

instance (system : System) : ∀ event, Decidable (ReturnsUnawaited system event)
  | .step index input => inferInstanceAs (Decidable (∀ worker ∈ system.workers[index]?,
      input.refused = false → ∀ row ∈ system.tables.jobs.rows,
        returns system.now worker row = true →
          ∀ other ∈ system.workers, ∀ job ∈ other.phase.waiting, job.id ≠ row.id))
  | .tick _ => isTrue trivial
  | .enqueue _ _ _ => isTrue trivial
  | .start _ => isTrue trivial
  | .trigger _ => isTrue trivial
  | .crash _ => isTrue trivial
  | .gcDead => isTrue trivial
  | .gcCompleted => isTrue trivial

/-- The dispatch that the next step of the worker ends has begun less than the limit ago. -/
def Worker.brief (now : Timestamp) (worker : Worker) : Bool :=
  match worker.phase with
  | .running _ _ => decide (now < worker.startedAt + stuckLockSecs * second)
  | _ => true

/-- Each dispatch is shorter than the limit of a lock. -/
def DispatchesBrief (system : System) : Event → Prop
  | .step index _ => ∀ worker ∈ system.workers[index]?, worker.brief system.now = true
  | _ => True

instance (system : System) : ∀ event, Decidable (DispatchesBrief system event)
  | .step index _ => inferInstanceAs (Decidable (∀ worker ∈ system.workers[index]?,
      worker.brief system.now = true))
  | .tick _ => isTrue trivial
  | .enqueue _ _ _ => isTrue trivial
  | .start _ => isTrue trivial
  | .trigger _ => isTrue trivial
  | .crash _ => isTrue trivial
  | .gcDead => isTrue trivial
  | .gcCompleted => isTrue trivial

/-- A job that waits in a batch is held by the worker, and no claim can take it. -/
structure Waits (tables : Tables) (holder : Nat → Option Nat) (index : Nat) (job : ClaimedJob) :
    Prop where
  drawn : job.id < tables.jobSequence
  held : holder job.id = some index
  taken : ∀ row ∈ tables.jobs.rows, row.id = job.id → row.status ≠ .pending

def AllWait (system : System) : Prop :=
  ∀ index worker, system.workers[index]? = some worker →
    ∀ job ∈ worker.phase.waiting, Waits system.tables system.holder index job

section

variable {texts : ErrorTexts} {batchSize : Nat} {now : Timestamp} {input : Input}
  {worker moved : Worker} {tables written : Tables} {system after : System}

/-- A job that waits has been waiting before, or the step has claimed it. -/
theorem waiting_of_steps {job : ClaimedJob}
    (steps : Steps texts batchSize now tables worker moved written)
    (waits : job ∈ moved.phase.waiting) :
    job ∈ worker.phase.waiting ∨ job.id ∈ newClaims worker moved := by
  cases steps with
  | claimed skipped head rest after place claimed =>
      refine Or.inr ?_
      rw [newClaims_batch place rfl]
      exact List.mem_map_of_mem waits
  | released guard head rest place told | started guard head rest place told =>
      refine Or.inl ?_
      rw [place]
      exact List.mem_cons_of_mem _ waits
  | ended head rest result place =>
      refine Or.inl ?_
      rw [place]
      exact waits
  | reported head outcome rest jitterMs after place performed | unreported head outcome rest place =>
      refine Or.inl ?_
      rw [place]
      exact waits
  | observed | polled | reaped | spared | unclaimed | idle | woken | again => cases waits

section

variable {holder : Nat → Option Nat} {index target : Nat} {job : ClaimedJob}

/-- A job goes on waiting while the step of a worker does not return it. -/
theorem Waits.step (waits : Waits tables holder target job)
    (steps : Steps texts batchSize now tables worker moved written)
    (spare : written = tables ∨ ∀ row ∈ tables.jobs.rows,
      returns now worker row = true → job.id ≠ row.id) :
    Waits written (fun id => if id ∈ newClaims worker moved then some index else holder id) target job := by
  refine ⟨?_, ?_, fun row member same pending => ?_⟩
  · rw [jobSequence_of_steps steps]
    exact waits.drawn
  · have unclaimed : job.id ∉ newClaims worker moved := by
      intro new
      obtain ⟨⟨row, member, same, pending⟩, _⟩ := row_of_claim steps new
      exact waits.taken row member same pending
    exact (if_neg unclaimed).trans waits.held
  · obtain equal | spare := spare
    · rw [equal] at member
      exact waits.taken row member same pending
    · obtain old | ⟨old, inside, named, returned⟩ := pending_of_steps steps member pending
      · exact waits.taken row old same pending
      · exact spare old inside returned (same.symm.trans named.symm)

/-- A claim gives the worker the jobs that wait in its batch. -/
theorem waits_claimed (steps : Steps texts batchSize now tables worker moved written)
    (new : job.id ∈ newClaims worker moved) :
    Waits written (fun id => if id ∈ newClaims worker moved then some index else holder id) index job := by
  obtain ⟨⟨row, member, same, _⟩, taken⟩ := row_of_claim steps new
  refine ⟨?_, if_pos new, taken⟩
  rw [jobSequence_of_steps steps, ← same]
  exact tables.jobsBelow row member

/-- A new job and a deletion leave the jobs waiting. -/
theorem Waits.of_rows (waits : Waits tables holder index job)
    (sequence : tables.jobSequence ≤ written.jobSequence)
    (rows : ∀ row ∈ written.jobs.rows, row ∈ tables.jobs.rows ∨ tables.jobSequence ≤ row.id) :
    Waits written holder index job := by
  refine ⟨waits.drawn.trans_le sequence, waits.held, fun row member same => ?_⟩
  obtain old | fresh := rows row member
  · exact waits.taken row old same
  · have drawn := waits.drawn
    omega

end

/-- A job that waits goes on waiting, or it is started, while no step returns it. -/
theorem allWait_step {event : Event} (waiting : AllWait system)
    (spare : ReturnsUnawaited system event)
    (stepped : system.step texts batchSize event = some after) : AllWait after := by
  cases event with
  | tick elapsed =>
      cases stepped
      exact waiting
  | enqueue kind payload delaySecs =>
      cases stepped
      intro index worker found job member
      have waits := waiting index worker found job member
      dsimp only
      split
      · next written =>
          obtain ⟨fresh, new, _, _, _, _, _, rows⟩ := enqueue_rows written
          refine waits.of_rows (by rw [enqueue_sequence written]; omega) fun row inside => ?_
          obtain old | rfl := (rows row).mp inside
          · exact Or.inl old
          · exact Or.inr new.ge
      · exact waits
  | start workerId =>
      cases stepped
      intro index worker found job member
      dsimp only at found
      rw [List.getElem?_append] at found
      split at found
      · exact waiting index worker found job member
      · obtain rfl := List.mem_singleton.mp (List.mem_of_getElem? found)
        cases member
  | trigger target =>
      obtain ⟨worker, present, rfl⟩ := Option.map_eq_some_iff.mp stepped
      intro index other found job member
      obtain ⟨rfl, rfl⟩ | old := worker_of_set found
      · exact waiting _ worker present job member
      · exact waiting index other old job member
  | crash target =>
      obtain ⟨worker, present, rfl⟩ := Option.map_eq_some_iff.mp stepped
      intro index other found job member
      obtain ⟨rfl, rfl⟩ | old := worker_of_set found
      · cases member
      · exact waiting index other old job member
  | step target input =>
      obtain ⟨worker, moved, written, present, performed, rfl⟩ := step_worker stepped
      have steps := steps_of_step performed
      intro index other found job member
      have goes : ∀ place waiter, system.workers[place]? = some waiter →
          job ∈ waiter.phase.waiting →
            Waits written (fun id => if id ∈ newClaims worker moved then some target
              else system.holder id) place job := by
        intro place waiter here waits
        refine (waiting place waiter here job waits).step steps ?_
        cases refused : input.refused with
        | true => exact Or.inl (step_refused refused performed)
        | false =>
            have member := List.mem_of_getElem? here
            exact Or.inr fun row inside returned =>
              spare worker present refused row inside returned waiter member job waits
      obtain ⟨rfl, rfl⟩ | old := worker_of_set found
      · obtain waits | new := waiting_of_steps steps member
        · exact goes target worker present waits
        · exact waits_claimed steps new
      · exact goes index other old member
  | gcDead | gcCompleted =>
      cases stepped
      intro index worker found job member
      exact (waiting index worker found job member).of_rows le_rfl
        fun row inside => Or.inl (KeyedTable.Table.mem_delete.mp inside).1

theorem startsHeld_of_allWait (waiting : AllWait system) (event : Event) : StartsHeld system event := by
  cases event with
  | step index input =>
      intro worker found job starts
      refine (waiting index worker found job ?_).held
      unfold Worker.starts at starts
      split at starts
      · next head rest place =>
          split at starts
          · cases starts
          · cases starts
            rw [place]
            exact List.mem_cons_self
      · cases starts
  | _ => trivial

/-- In a run that makes no waiting job pending, a worker starts only jobs that it has claimed last. -/
theorem starts_held (texts : ErrorTexts) (batchSize : Nat) (tables : Tables) (now : Timestamp)
    (events : List Event)
    (spare : EventRun.Guarded (System.step texts batchSize) ReturnsUnawaited
      (System.begin tables now) events) :
    EventRun.Guarded (System.step texts batchSize) StartsHeld (System.begin tables now) events := by
  have start : AllWait (System.begin tables now) := by
    intro index worker found
    cases found
  exact EventRun.guarded_of_invariant AllWait (fun _ _ _ => allWait_step)
    (fun _ event waiting _ => startsHeld_of_allWait waiting event) start spare

end

section Overlong

/-- Two workers begin when three jobs are in the queue. -/
def twoWorkers : List Event :=
  List.replicate 3 Sample.enqueued ++ [.start "job-worker-0", .start "job-worker-1"]

/-- The first worker claims all jobs, and each of its dispatches takes 44 minutes. -/
def overlong : List Event :=
  twoWorkers ++ Sample.steps 0 4 ++ [Sample.minutes 44] ++ Sample.steps 0 3 ++ [Sample.minutes 2] ++
    Sample.steps 1 3 ++ [Sample.minutes 42] ++ Sample.steps 0 3

/-- Dispatches of ten minutes leave the jobs to the first worker. -/
theorem starts_held_briefly :
    EventRun.Guarded (System.step Sample.texts batchSize) StartsHeld Sample.noJobs
      (twoWorkers ++ Sample.steps 0 4 ++ [Sample.minutes 10] ++ Sample.steps 0 3 ++
        [Sample.minutes 10] ++ Sample.steps 1 3 ++ Sample.steps 0 3) :=
  starts_held Sample.texts batchSize Tables.empty 0 _ (by decide +kernel)

/-- The first worker starts the third job after the second worker has claimed it. -/
theorem start_overtaken :
    EventRun.Guarded (System.step Sample.texts batchSize) DispatchesBrief Sample.noJobs overlong ∧
      ¬EventRun.Guarded (System.step Sample.texts batchSize) StartsHeld Sample.noJobs overlong := by
  decide +kernel

end Overlong

end OsuPlayerRole.JobWorker

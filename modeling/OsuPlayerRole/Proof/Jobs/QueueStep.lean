/-
This file shows what each step of the workers may do to the queue.
-/
import OsuPlayerRole.Construction.Tasks.JobWorker
import OsuPlayerRole.Library.Checked

namespace OsuPlayerRole.JobWorker

open Jobs Shutdown KeyedTable

variable {texts : ErrorTexts} {batchSize : Nat} {now : Timestamp} {input : Input}
  {worker moved : Worker} {tables after : Tables}

/-- Every way in which a worker takes a step. -/
inductive Steps (texts : ErrorTexts) (batchSize : Nat) (now : Timestamp) (tables : Tables)
    (worker : Worker) : Worker → Tables → Prop where
  | observed (guard : Guard) (place : worker.phase = .top)
      (told : worker.guard.isTriggered = (true, guard)) :
      Steps texts batchSize now tables worker (worker.stop guard) tables
  | polled (guard : Guard) (place : worker.phase = .top) :
      Steps texts batchSize now tables worker { worker with phase := .reap, guard } tables
  | reaped (place : worker.phase = .reap) (due : now - worker.lastReap ≥ reapEvery) :
      Steps texts batchSize now tables worker { worker with phase := .claim, lastReap := now }
        (reapStuck now stuckLockSecs tables).2
  | spared (lastReap : Timestamp) (place : worker.phase = .reap) :
      Steps texts batchSize now tables worker { worker with phase := .claim, lastReap } tables
  | unclaimed (place : worker.phase = .claim) :
      Steps texts batchSize now tables worker { worker with phase := .errorPause } tables
  | idle (skipped : List Nat) {order : RowOrder} (after : Tables) (place : worker.phase = .claim)
      (claimed : claimBatch now worker.id batchSize skipped order tables = .ok ([], after)) :
      Steps texts batchSize now tables worker { worker with phase := .emptyPause } after
  | claimed (skipped : List Nat) {order : RowOrder} (job : ClaimedJob) (rest : List ClaimedJob)
      (after : Tables) (place : worker.phase = .claim)
      (claimed : claimBatch now worker.id batchSize skipped order tables = .ok (job :: rest, after)) :
      Steps texts batchSize now tables worker
        { worker with phase := .batch (job :: rest), claimedAt := now } after
  | woken (guard : Guard) (place : worker.phase = .errorPause ∨ worker.phase = .emptyPause)
      (told : worker.guard.wait = some guard) :
      Steps texts batchSize now tables worker (worker.stop guard) tables
  | again (place : worker.phase = .errorPause ∨ worker.phase = .emptyPause ∨ worker.phase = .batch []) :
      Steps texts batchSize now tables worker { worker with phase := .top } tables
  | released (guard : Guard) (job : ClaimedJob) (rest : List ClaimedJob)
      (place : worker.phase = .batch (job :: rest))
      (told : worker.guard.isTriggered = (true, guard)) :
      Steps texts batchSize now tables worker
        { worker with phase := .settle job released rest, guard, observed := true } tables
  | started (guard : Guard) (job : ClaimedJob) (rest : List ClaimedJob)
      (place : worker.phase = .batch (job :: rest))
      (told : worker.guard.isTriggered = (false, guard)) :
      Steps texts batchSize now tables worker
        { worker with phase := .running job rest, guard, startedAt := now } tables
  | ended (job : ClaimedJob) (rest : List ClaimedJob) (result : Except JobError Unit)
      (place : worker.phase = .running job rest) :
      Steps texts batchSize now tables worker
        { worker with phase := .settle job (report job result) rest } tables
  | reported (job : ClaimedJob) (outcome : Report) (rest : List ClaimedJob) (jitterMs : Nat)
      (after : Tables) (place : worker.phase = .settle job outcome rest)
      (performed : outcome.perform now jitterMs job tables = .ok after) :
      Steps texts batchSize now tables worker { worker with phase := .batch rest } after
  | unreported (job : ClaimedJob) (outcome : Report) (rest : List ClaimedJob)
      (place : worker.phase = .settle job outcome rest) :
      Steps texts batchSize now tables worker { worker with phase := .batch rest } tables

/-- A worker takes one of the listed steps. -/
theorem steps_of_step (stepped : worker.step texts batchSize now input tables = some (moved, after)) :
    Steps texts batchSize now tables worker moved after := by
  unfold Worker.step at stepped
  split at stepped
  · next place =>
      rcases told : worker.guard.isTriggered with ⟨triggered, guard⟩
      rw [told] at stepped
      cases triggered with
      | true =>
          cases stepped
          exact .observed guard place told
      | false =>
          cases stepped
          exact .polled guard place
  · next place =>
      split at stepped
      · next due =>
          cases stepped
          split
          · exact .spared now place
          · exact .reaped place due
      · cases stepped
        exact .spared worker.lastReap place
  · next place =>
      split at stepped
      · cases stepped
        exact .unclaimed place
      · split at stepped
        · cases stepped
          exact .unclaimed place
        · next claimed =>
            cases stepped
            exact .idle input.skipped _ place claimed
        · next jobs claimed_tables some_jobs claimed =>
            cases stepped
            cases jobs with
            | nil => exact (some_jobs rfl).elim
            | cons job rest => exact .claimed input.skipped job rest _ place claimed
  · next place =>
      split at stepped
      · obtain ⟨guard, told, same⟩ := Option.map_eq_some_iff.mp stepped
        cases same
        exact .woken guard (Or.inl place) told
      · cases stepped
        exact .again (Or.inl place)
  · next place =>
      split at stepped
      · obtain ⟨guard, told, same⟩ := Option.map_eq_some_iff.mp stepped
        cases same
        exact .woken guard (Or.inr place) told
      · cases stepped
        exact .again (Or.inr (Or.inl place))
  · next place =>
      cases stepped
      exact .again (Or.inr (Or.inr place))
  · next job rest place =>
      rcases told : worker.guard.isTriggered with ⟨triggered, guard⟩
      rw [told] at stepped
      cases triggered with
      | true =>
          cases stepped
          exact .released guard job rest place told
      | false =>
          cases stepped
          exact .started guard job rest place told
  · next job rest place =>
      cases stepped
      exact .ended job rest _ place
  · next job outcome rest place =>
      cases stepped
      split
      · exact .unreported job outcome rest place
      · split
        · next performed => exact .reported job outcome rest input.jitterMs _ place performed
        · exact .unreported job outcome rest place
  · cases stepped

/-- A refused statement has no effect. -/
theorem step_refused (refused : input.refused = true)
    (stepped : worker.step texts batchSize now input tables = some (moved, after)) : after = tables := by
  have waits : ∀ guard : Option Guard,
      guard.map (fun guard => (worker.stop guard, tables)) = some (moved, after) → after = tables := by
    intro guard told
    obtain ⟨_, _, same⟩ := Option.map_eq_some_iff.mp told
    exact (congrArg Prod.snd same).symm
  have stays : ∀ other : Worker, some (other, tables) = some (moved, after) → after = tables :=
    fun other same => (congrArg Prod.snd (Option.some.inj same)).symm
  simp only [Worker.step, refused, if_true] at stepped
  split at stepped
  · split at stepped
    · exact stays _ stepped
    · exact stays _ stepped
  · split at stepped
    · exact stays _ stepped
    · exact stays _ stepped
  · exact stays _ stepped
  · split at stepped
    · exact waits _ stepped
    · exact stays _ stepped
  · split at stepped
    · exact waits _ stepped
    · exact stays _ stepped
  · exact stays _ stepped
  · split at stepped
    · exact stays _ stepped
    · exact stays _ stepped
  · exact stays _ stepped
  · exact stays _ stepped
  · cases stepped

/-- The rows that the step of the worker makes pending again. -/
def returns (now : Timestamp) (worker : Worker) (row : Job) : Bool :=
  match worker.phase with
  | .reap => decide (now - worker.lastReap ≥ reapEvery) && stuck now stuckLockSecs row
  | .settle job (.failRetry _) _ => row.id = job.id
  | _ => false

/-- Every way in which a step changes the queue. -/
inductive Queued (batchSize : Nat) (now : Timestamp) (tables : Tables) : Tables → Prop where
  | same : Queued batchSize now tables tables
  | enqueued (kind : String) (payload : Json.Value) (delaySecs : Nat) (after : Tables)
      (written : tables.enqueue now kind payload delaySecs = .ok after) :
      Queued batchSize now tables after
  | reaped : Queued batchSize now tables (reapStuck now stuckLockSecs tables).2
  | claimed (workerId : String) (skipped : List Nat) {order : RowOrder} (jobs : List ClaimedJob)
      (after : Tables) (written : claimBatch now workerId batchSize skipped order tables = .ok (jobs, after)) :
      Queued batchSize now tables after
  | reported (job : ClaimedJob) (outcome : Report) (jitterMs : Nat) (after : Tables)
      (written : outcome.perform now jitterMs job tables = .ok after) :
      Queued batchSize now tables after
  | collectedDead : Queued batchSize now tables (Jobs.gcDead now tables)
  | collectedCompleted : Queued batchSize now tables (Jobs.gcCompleted now tables)

/-- Every step of a worker is one of the changes the queue allows. -/
theorem queued_of_steps (steps : Steps texts batchSize now tables worker moved after) :
    Queued batchSize now tables after := by
  cases steps with
  | reaped place due => exact .reaped
  | idle skipped after place claimed => exact .claimed _ _ _ _ claimed
  | claimed skipped job rest after place claimed => exact .claimed _ _ _ _ claimed
  | reported job outcome rest jitterMs after place performed => exact .reported _ _ _ _ performed
  | _ => exact .same

/-- A step claims nothing unless its worker is about to claim. -/
theorem newClaims_nil (elsewhere : worker.phase ≠ .claim) :
    newClaims worker moved = [] := by
  unfold newClaims
  split
  · next place _ => exact absurd place elsewhere
  · rfl

/-- The claims of a step are those of its batch. -/
theorem newClaims_batch {jobs : List ClaimedJob}
    (place : worker.phase = .claim) (taken : moved.phase = .batch jobs) :
    newClaims worker moved = jobs.map ClaimedJob.id := by
  rw [newClaims, place, taken]

variable {system next : System} {event : Event}

/-- A step of the system that is a step of one worker. -/
theorem step_worker {index : Nat}
    (stepped : system.step texts batchSize (.step index input) = some next) :
    ∃ worker moved after, system.workers[index]? = some worker ∧
      worker.step texts batchSize system.now input system.tables = some (moved, after) ∧
      next = { system with
        tables := after
        workers := system.workers.set index moved
        claims := fun id =>
          if id ∈ newClaims worker moved then system.claims id + 1 else system.claims id
        holder := fun id => if id ∈ newClaims worker moved then some index else system.holder id } := by
  obtain ⟨⟨claimed, moved, after⟩, performed, rfl⟩ := Option.map_eq_some_iff.mp stepped
  obtain ⟨worker, found, performed⟩ := Option.bind_eq_some_iff.mp performed
  obtain ⟨⟨moved', after'⟩, performed, same⟩ := Option.map_eq_some_iff.mp performed
  cases same
  exact ⟨worker, moved, after, found, performed, rfl⟩

/-- A replaced worker is at its own place alone. -/
theorem worker_of_set {workers : List Worker} {index place : Nat} {other : Worker}
    (found : (workers.set index moved)[place]? = some other) :
    index = place ∧ other = moved ∨ workers[place]? = some other := by
  rw [List.getElem?_set] at found
  split at found
  · next same =>
      split at found
      · exact Or.inl ⟨same, (Option.some.inj found).symm⟩
      · cases found
  · exact Or.inr found

/-- The step of a worker is a step of the system. -/
theorem system_step {index : Nat} (found : system.workers[index]? = some worker)
    (performed : worker.step texts batchSize system.now input system.tables = some (moved, after)) :
    ∃ next, system.step texts batchSize (.step index input) = some next ∧ next.tables = after := by
  refine ⟨{ system with
    tables := after
    workers := system.workers.set index moved
    claims := fun id =>
      if id ∈ newClaims worker moved then system.claims id + 1 else system.claims id
    holder := fun id => if id ∈ newClaims worker moved then some index else system.holder id }, ?_, rfl⟩
  rw [System.step, found, Option.bind_some, performed]
  rfl

/-- So is every step of the system. -/
theorem queued_of_step (stepped : system.step texts batchSize event = some next) :
    Queued batchSize system.now system.tables next.tables := by
  cases event with
  | tick elapsed =>
      cases stepped
      exact .same
  | enqueue kind payload delaySecs =>
      cases stepped
      dsimp only
      split
      · next written => exact .enqueued kind payload delaySecs _ written
      · exact .same
  | start workerId =>
      cases stepped
      exact .same
  | trigger index =>
      obtain ⟨worker, _, rfl⟩ := Option.map_eq_some_iff.mp stepped
      exact .same
  | crash index =>
      obtain ⟨worker, _, rfl⟩ := Option.map_eq_some_iff.mp stepped
      exact .same
  | step index input =>
      obtain ⟨worker, moved, after, _, performed, rfl⟩ := step_worker stepped
      exact queued_of_steps (steps_of_step performed)
  | gcDead =>
      cases stepped
      exact .collectedDead
  | gcCompleted =>
      cases stepped
      exact .collectedCompleted

section Rows

variable {row : Job}

/-- The rows after an update are the old rows with the change made to each. -/
theorem mem_updateJobs {change : Job → Job} {keeps : ∀ row, (change row).id = row.id} :
    row ∈ (updateJobs tables change keeps).jobs.rows ↔ ∃ old ∈ tables.jobs.rows, change old = row :=
  @Table.mem_update Job Nat Job.id tables.jobs change keeps row

/-- A changed row comes from a row that met the condition, and every other row is an old one. -/
theorem mem_changeWhere {condition : Job → Bool} {change : Job → Job}
    {keeps : ∀ row, (changeWhere condition change row).id = row.id}
    (member : row ∈ (updateJobs tables (changeWhere condition change) keeps).jobs.rows) :
    row ∈ tables.jobs.rows ∧ condition row = false ∨
      ∃ old ∈ tables.jobs.rows, condition old = true ∧ row = change old := by
  obtain ⟨old, inside, rfl⟩ := mem_updateJobs.mp member
  unfold changeWhere
  cases holds : condition old with
  | true => exact Or.inr ⟨old, inside, holds, if_pos rfl⟩
  | false =>
      rw [if_neg Bool.false_ne_true]
      exact Or.inl ⟨inside, holds⟩

/-- A claim returns the taken rows in some order, and it changes no others. -/
theorem claimBatch_ok {workerId : String} {skipped : List Nat} {order : RowOrder} {jobs : List ClaimedJob}
    (claimed : claimBatch now workerId batchSize skipped order tables = .ok (jobs, after)) :
    let taken := toClaim now batchSize skipped tables
    (∀ row ∈ taken, row.attempts.val + 1 < 2 ^ 31) ∧
      jobs.Perm (taken.map fun row => .ofRow (Jobs.claimed now workerId row)) ∧
      after = updateJobs tables (changeWhere (fun row => (taken.map Job.id).contains row.id)
        (Jobs.claimed now workerId)) (changeWhere_id fun _ => rfl) := by
  obtain ⟨_, _, remaining⟩ := Checked.bind_ok claimed
  dsimp only at remaining
  split at remaining
  · next fits =>
      cases remaining
      refine ⟨fun row member => ?_, (order.permutes _).map _, rfl⟩
      exact of_decide_eq_true (List.all_eq_true.mp fits row member)
  · cases remaining

/-- The claimed jobs have the identifiers of the taken rows. -/
theorem claimBatch_ids {workerId : String} {skipped : List Nat} {order : RowOrder} {jobs : List ClaimedJob}
    (claimed : claimBatch now workerId batchSize skipped order tables = .ok (jobs, after)) (id : Nat) :
    id ∈ jobs.map ClaimedJob.id ↔ id ∈ (toClaim now batchSize skipped tables).map Job.id := by
  obtain ⟨_, listed, _⟩ := claimBatch_ok claimed
  rw [(listed.map ClaimedJob.id).mem_iff, List.map_map]
  rfl

/-- The rows that a claim takes are ready. -/
theorem mem_toClaim {skipped : List Nat} (member : row ∈ toClaim now batchSize skipped tables) :
    row ∈ tables.jobs.rows ∧ ready now skipped row = true := by
  have inside := List.mem_of_mem_take member
  rw [List.mem_insertionSort] at inside
  exact List.mem_filter.mp inside

/-- A row with the identifier of a taken row is that row. -/
theorem taken_of_id {skipped : List Nat} (inside : row ∈ tables.jobs.rows)
    (named : ((toClaim now batchSize skipped tables).map Job.id).contains row.id = true) :
    row ∈ toClaim now batchSize skipped tables := by
  obtain ⟨other, taken, same⟩ := List.mem_map.mp (List.contains_iff_mem.mp named)
  have equal := tables.jobs.eq_of_key (mem_toClaim taken).1 inside same
  exact equal ▸ taken

/-- The row of a job as its report leaves it. -/
def Report.rewritten (now : Timestamp) (jitterMs : Nat) (job : ClaimedJob) (row : Job) : Report → Job
  | .complete => completedRow now row
  | .failDead message => deadRow now message row
  | .failRetry message => retriedRow now (backoffDelay job.attempts jitterMs) message row

theorem Report.rewritten_id {job : ClaimedJob} {outcome : Report} {jitterMs : Nat} (row : Job) :
    (outcome.rewritten now jitterMs job row).id = row.id := by
  cases outcome <;> rfl

/-- A report rewrites the row of its own job. -/
theorem perform_ok {job : ClaimedJob} {outcome : Report} {jitterMs : Nat}
    (performed : outcome.perform now jitterMs job tables = .ok after) :
    after = updateJobs tables (changeWhere (fun row => row.id = job.id)
      fun row => outcome.rewritten now jitterMs job row) (changeWhere_id fun _ => Report.rewritten_id _) := by
  cases outcome with
  | complete =>
      cases performed
      rfl
  | failDead message =>
      obtain ⟨_, _, remaining⟩ := Checked.bind_ok performed
      cases remaining
      rfl
  | failRetry message =>
      obtain ⟨_, _, remaining⟩ := Checked.bind_ok performed
      cases remaining
      rfl

/-- An enqueue adds one pending row that no worker holds and no attempt was spent on. -/
theorem enqueue_rows {kind : String} {payload : Json.Value} {delaySecs : Nat}
    (written : tables.enqueue now kind payload delaySecs = .ok after) :
    ∃ fresh : Job, fresh.id = tables.jobSequence ∧ fresh.status = .pending ∧
      fresh.attempts = .zero ∧ fresh.maxAttempts.val = 8 ∧ fresh.lockedBy = none ∧
      fresh.lockedAt = none ∧
      ∀ row, row ∈ after.jobs.rows ↔ row ∈ tables.jobs.rows ∨ row = fresh := by
  obtain ⟨stored, _, remaining⟩ := Checked.bind_ok written
  cases remaining
  have below : ∀ other ∈ tables.jobs.rows, other.id ≠ tables.jobSequence :=
    fun other member => Nat.ne_of_lt (tables.jobsBelow other member)
  refine ⟨Tables.freshJob now tables.jobSequence kind stored delaySecs, rfl, rfl, rfl, rfl, rfl, rfl,
    fun row => ?_⟩
  change row ∈ (tables.jobs.insertNew
    (Tables.freshJob now tables.jobSequence kind stored delaySecs) below).rows ↔ _
  exact Table.mem_insertNew

/-- A change that writes the status of no pending job leaves the pending rows as they are. -/
theorem pending_changeWhere {condition : Job → Bool} {change : Job → Job}
    {keeps : ∀ row, (changeWhere condition change row).id = row.id}
    (member : row ∈ (updateJobs tables (changeWhere condition change) keeps).jobs.rows)
    (pending : row.status = .pending) :
    row ∈ tables.jobs.rows ∨
      ∃ old ∈ tables.jobs.rows, condition old = true ∧ row = change old ∧ (change old).status = .pending := by
  obtain ⟨old, _⟩ | ⟨old, inside, holds, rfl⟩ := mem_changeWhere member
  · exact Or.inl old
  · exact Or.inr ⟨old, inside, holds, rfl, pending⟩

/-- A job that is pending after the step of a worker was pending before, or the step returns it. -/
theorem pending_of_steps (steps : Steps texts batchSize now tables worker moved after)
    (member : row ∈ after.jobs.rows) (pending : row.status = .pending) :
    row ∈ tables.jobs.rows ∨
      ∃ old ∈ tables.jobs.rows, old.id = row.id ∧ returns now worker old = true := by
  cases steps with
  | reaped place due =>
      obtain old | ⟨old, inside, stale, rfl, _⟩ := pending_changeWhere member pending
      · exact Or.inl old
      · refine Or.inr ⟨old, inside, rfl, ?_⟩
        simp only [returns, place, due, stale, decide_true, Bool.and_self]
  | idle skipped after place claimed | claimed skipped job rest after place claimed =>
      obtain ⟨_, _, rfl⟩ := claimBatch_ok claimed
      obtain old | ⟨old, _, _, rfl, impossible⟩ := pending_changeWhere member pending
      · exact Or.inl old
      · cases impossible
  | reported job outcome rest jitterMs after place performed =>
      rw [perform_ok performed] at member
      obtain old | ⟨old, inside, named, rfl, waits⟩ := pending_changeWhere member pending
      · exact Or.inl old
      · refine Or.inr ⟨old, inside, (Report.rewritten_id old).symm, ?_⟩
        cases outcome with
        | complete => cases waits
        | failDead message => cases waits
        | failRetry message => simpa only [returns, place] using named
  | _ => exact Or.inl member

/-- The steps of a worker draw no identifier. -/
theorem jobSequence_of_steps (steps : Steps texts batchSize now tables worker moved after) :
    after.jobSequence = tables.jobSequence := by
  cases steps with
  | idle skipped after place claimed | claimed skipped job rest after place claimed =>
      obtain ⟨_, _, rfl⟩ := claimBatch_ok claimed
      rfl
  | reported job outcome rest jitterMs after place performed => rw [perform_ok performed]; rfl
  | _ => rfl

/-- The claims of a step are those of a statement that takes jobs. -/
theorem claims_of_steps {id : Nat} (steps : Steps texts batchSize now tables worker moved after)
    (new : id ∈ newClaims worker moved) :
    ∃ skipped order jobs, claimBatch now worker.id batchSize skipped order tables = .ok (jobs, after) ∧
      id ∈ jobs.map ClaimedJob.id := by
  unfold newClaims at new
  split at new
  · next claiming taken =>
      cases steps with
      | claimed skipped job rest after place claimed =>
          cases taken
          exact ⟨skipped, _, _, claimed, new⟩
      | reported job outcome rest jitterMs after place performed | unreported job outcome rest place =>
          rw [place] at claiming
          cases claiming
      | observed | polled | reaped | spared | unclaimed | idle | woken | again | released | started |
          ended => cases taken
  · cases new

/-- A claimed job was pending, and it is not pending after its claim. -/
theorem row_of_claim {id : Nat} (steps : Steps texts batchSize now tables worker moved after)
    (new : id ∈ newClaims worker moved) :
    (∃ row ∈ tables.jobs.rows, row.id = id ∧ row.status = .pending) ∧
      ∀ row ∈ after.jobs.rows, row.id = id → row.status ≠ .pending := by
  obtain ⟨skipped, order, jobs, written, named⟩ := claims_of_steps steps new
  obtain ⟨row, taken, rfl⟩ := List.mem_map.mp ((claimBatch_ids written id).mp named)
  obtain ⟨_, _, rfl⟩ := claimBatch_ok written
  obtain ⟨member, pending⟩ := mem_toClaim taken
  rw [ready, Bool.and_eq_true, Bool.and_eq_true, decide_eq_true_eq] at pending
  refine ⟨⟨row, member, rfl, pending.1.1⟩, fun other claimed same waits => ?_⟩
  obtain ⟨_, unnamed⟩ | ⟨old, _, _, rfl⟩ := mem_changeWhere claimed
  · have contained : ((toClaim now batchSize skipped tables).map Job.id).contains other.id = true :=
      List.contains_iff_mem.mpr (List.mem_map.mpr ⟨row, taken, same.symm⟩)
    exact Bool.false_ne_true (unnamed.symm.trans contained)
  · cases waits

/-- An enqueue takes the next identifier. -/
theorem enqueue_sequence {kind : String} {payload : Json.Value} {delaySecs : Nat}
    (written : tables.enqueue now kind payload delaySecs = .ok after) :
    after.jobSequence = tables.jobSequence + 1 := by
  obtain ⟨_, _, remaining⟩ := Checked.bind_ok written
  cases remaining
  rfl

end Rows

end OsuPlayerRole.JobWorker

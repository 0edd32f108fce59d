/-
This file shows that no job of the queue is stranded or lost.
-/
import OsuPlayerRole.Library.EventRun
import OsuPlayerRole.Proof.Jobs.QueueStep

namespace OsuPlayerRole.JobWorker

open Jobs

/-- A row is locked exactly while it is in progress, and a finished row has its moment. -/
structure Kempt (row : Job) : Prop where
  lockedBy : row.lockedBy.isSome ↔ row.status = .inProgress
  lockedAt : row.lockedAt.isSome ↔ row.status = .inProgress
  completedAt : row.status = .completed ∨ row.status = .dead → row.completedAt.isSome

/-- A reap of the queue makes a job in progress claimable once its lock is older than the limit. -/
def Reclaimable (tables : Tables) (row : Job) : Prop :=
  row.status = .inProgress → ∃ lockedAt, row.lockedAt = some lockedAt ∧
    ∀ now : Timestamp, lockedAt < now - stuckLockSecs * second →
      ∃ freed ∈ (reapStuck now stuckLockSecs tables).2.jobs.rows,
        freed.id = row.id ∧ ready now [] freed = true

section Rows

variable {tables : Tables} {row : Job} {now : Timestamp}

/-- The reap finds the job of a kempt queue by its lock, and the job is due at once. -/
theorem Kempt.reclaimable (kempt : Kempt row) (inside : row ∈ tables.jobs.rows) :
    Reclaimable tables row := by
  intro running
  obtain ⟨lockedAt, locked⟩ := Option.isSome_iff_exists.mp (kempt.lockedAt.mpr running)
  refine ⟨lockedAt, locked, fun now old => ?_⟩
  have reaped : stuck now stuckLockSecs row = true := by
    rw [stuck, running, locked, Option.any_some, decide_eq_true old]
    rfl
  have freed : changeWhere (stuck now stuckLockSecs) (reapedRow now) row = reapedRow now row :=
    if_pos reaped
  refine ⟨reapedRow now row, mem_updateJobs.mpr ⟨row, inside, freed⟩, rfl, ?_⟩
  simp [ready, reapedRow]

theorem kempt_claimed (workerId : String) : Kempt (claimed now workerId row) := by
  refine ⟨⟨fun _ => rfl, fun _ => rfl⟩, ⟨fun _ => rfl, fun _ => rfl⟩, fun finished => ?_⟩
  obtain impossible | impossible := finished <;> cases impossible

theorem kempt_reaped : Kempt (reapedRow now row) := by
  refine ⟨⟨fun impossible => ?_, fun impossible => ?_⟩,
    ⟨fun impossible => ?_, fun impossible => ?_⟩, fun finished => ?_⟩
  · cases impossible
  · cases impossible
  · cases impossible
  · cases impossible
  · obtain impossible | impossible := finished <;> cases impossible

/-- Each report clears the lock, and only a new attempt leaves the job unfinished. -/
theorem kempt_reported (job : ClaimedJob) (outcome : Report) (jitterMs : Nat) :
    Kempt (outcome.rewritten now jitterMs job row) := by
  have unlocked : (outcome.rewritten now jitterMs job row).lockedBy = none ∧
      (outcome.rewritten now jitterMs job row).lockedAt = none ∧
      (outcome.rewritten now jitterMs job row).status ≠ .inProgress := by
    cases outcome <;> exact ⟨rfl, rfl, JobStatus.noConfusion⟩
  refine ⟨?_, ?_, fun finished => ?_⟩
  · rw [unlocked.1]
    exact iff_of_false Bool.false_ne_true unlocked.2.2
  · rw [unlocked.2.1]
    exact iff_of_false Bool.false_ne_true unlocked.2.2
  · cases outcome with
    | complete => rfl
    | failDead message => rfl
    | failRetry message => obtain impossible | impossible := finished <;> cases impossible

end Rows

section Steps

variable {texts : ErrorTexts} {batchSize : Nat} {now : Timestamp} {tables after : Tables}

def AllKempt (tables : Tables) : Prop := ∀ row ∈ tables.jobs.rows, Kempt row

/-- Every row stays, or it was finished when it was collected. -/
def KeepsJobs (tables after : Tables) : Prop :=
  ∀ row ∈ tables.jobs.rows, (∃ other ∈ after.jobs.rows, other.id = row.id) ∨
    row.status = .completed ∨ row.status = .dead

/-- An update that leaves each row it changes kempt keeps the table kempt. -/
theorem kempt_changeWhere {condition : Job → Bool} {change : Job → Job}
    {keeps : ∀ row, (changeWhere condition change row).id = row.id} (kempt : AllKempt tables)
    (changed : ∀ row, Kempt (change row)) :
    AllKempt (updateJobs tables (changeWhere condition change) keeps) := by
  intro row member
  obtain ⟨old, _⟩ | ⟨old, _, _, rfl⟩ := mem_changeWhere member
  · exact kempt row old
  · exact changed old

/-- Each statement leaves a kempt queue. -/
theorem kempt_queued (kempt : AllKempt tables) (queued : Queued batchSize now tables after) :
    AllKempt after := by
  cases queued with
  | same => exact kempt
  | enqueued kind payload delaySecs after written =>
      obtain ⟨fresh, _, pending, _, _, lockedBy, lockedAt, rows⟩ := enqueue_rows written
      intro row member
      obtain old | rfl := (rows row).mp member
      · exact kempt row old
      · refine ⟨?_, ?_, fun finished => ?_⟩
        · rw [lockedBy, pending]
          exact iff_of_false Bool.false_ne_true JobStatus.noConfusion
        · rw [lockedAt, pending]
          exact iff_of_false Bool.false_ne_true JobStatus.noConfusion
        · rw [pending] at finished
          obtain impossible | impossible := finished <;> cases impossible
  | reaped => exact kempt_changeWhere kempt fun _ => kempt_reaped
  | claimed workerId skipped jobs after written =>
      obtain ⟨_, _, rfl⟩ := claimBatch_ok written
      exact kempt_changeWhere kempt fun _ => kempt_claimed workerId
  | reported job outcome jitterMs after written =>
      rw [perform_ok written]
      exact kempt_changeWhere kempt fun _ => kempt_reported job outcome jitterMs
  | collectedDead => exact fun row member => kempt row (KeyedTable.Table.mem_delete.mp member).1
  | collectedCompleted => exact fun row member => kempt row (KeyedTable.Table.mem_delete.mp member).1

theorem updateJobs_keeps {change : Job → Job} {keeps : ∀ row, (change row).id = row.id} :
    KeepsJobs tables (updateJobs tables change keeps) :=
  fun row member => Or.inl ⟨change row, mem_updateJobs.mpr ⟨row, member, rfl⟩, keeps row⟩

/-- A collection deletes the rows of one status alone. -/
theorem gc_keeps {status : JobStatus} {age : Int} (finished : status = .completed ∨ status = .dead) :
    KeepsJobs tables (deleteJobs tables (expired now status age)) := by
  intro row member
  cases old : expired now status age row with
  | false => exact Or.inl ⟨row, KeyedTable.Table.mem_delete.mpr ⟨member, old⟩, rfl⟩
  | true =>
      rw [expired, Bool.and_eq_true, decide_eq_true_eq] at old
      rw [old.1]
      exact Or.inr finished

/-- A change of the queue loses no job that is not finished. -/
theorem keepsJobs_queued (queued : Queued batchSize now tables after) : KeepsJobs tables after := by
  cases queued with
  | same => exact fun row member => Or.inl ⟨row, member, rfl⟩
  | enqueued kind payload delaySecs after written =>
      obtain ⟨fresh, _, _, _, _, _, _, rows⟩ := enqueue_rows written
      exact fun row member => Or.inl ⟨row, (rows row).mpr (Or.inl member), rfl⟩
  | reaped => exact updateJobs_keeps
  | claimed workerId skipped jobs after written =>
      obtain ⟨_, _, rfl⟩ := claimBatch_ok written
      exact updateJobs_keeps
  | reported job outcome jitterMs after written =>
      rw [perform_ok written]
      exact updateJobs_keeps
  | collectedDead => exact gc_keeps (Or.inr rfl)
  | collectedCompleted => exact gc_keeps (Or.inl rfl)

/-- The queue is kempt before and after the step, and the step loses no job that is not finished. -/
structure NotStranded (before after : Tables) : Prop where
  kempt : AllKempt before ∧ AllKempt after
  reclaimable : ∀ row ∈ after.jobs.rows, Reclaimable after row
  keeps : KeepsJobs before after

/-- In every run of the workers no job is stranded and no unfinished job is lost. -/
theorem jobs_never_stranded (texts : ErrorTexts) (batchSize : Nat) (tables : Tables) (now : Timestamp)
    (events : List Event) :
    EventRun.Guarded (System.step texts batchSize)
      (fun before event => ∀ after, before.step texts batchSize event = some after →
        NotStranded before.tables after.tables)
      (System.begin tables now) events := by
  have start : AllKempt (System.begin tables now).tables := fun _ member => absurd member List.not_mem_nil
  refine EventRun.guarded_of_stable (fun system => AllKempt system.tables)
    (fun _ _ _ kempt stepped => kempt_queued kempt (queued_of_step stepped))
    (fun before event kempt after stepped => ?_) start events
  have remains := kempt_queued kempt (queued_of_step stepped)
  exact ⟨⟨kempt, remains⟩, fun row member => (remains row member).reclaimable member,
    keepsJobs_queued (queued_of_step stepped)⟩

end Steps

end OsuPlayerRole.JobWorker

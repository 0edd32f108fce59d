/-
This file shows when a finished job keeps its status.
-/
import OsuPlayerRole.Library.EventRun
import OsuPlayerRole.Proof.Jobs.QueueStep
import OsuPlayerRole.Proof.Sample

namespace OsuPlayerRole.JobWorker

open Jobs RuleSql

def Finished (row : Job) : Prop := row.status = .completed ∨ row.status = .dead

instance (row : Job) : Decidable (Finished row) :=
  inferInstanceAs (Decidable (row.status = .completed ∨ row.status = .dead))

/-- A finished job keeps its status while its row is there. -/
def Stays (before after : Tables) : Prop :=
  ∀ row ∈ before.jobs.rows, Finished row →
    ∀ other ∈ after.jobs.rows, other.id = row.id → other.status = row.status

instance (before after : Tables) : Decidable (Stays before after) :=
  inferInstanceAs (Decidable (∀ row ∈ before.jobs.rows, Finished row →
    ∀ other ∈ after.jobs.rows, other.id = row.id → other.status = row.status))

/-- The status that a report writes. -/
def Report.status : Report → JobStatus
  | .complete => .completed
  | .failDead _ => .dead
  | .failRetry _ => .pending

/-- The database accepts the message of the report. -/
def Report.Sendable : Report → Prop
  | .complete => True
  | .failDead message => [Bind.text message].all Bind.sendable = true
  | .failRetry message => [Bind.text message].all Bind.sendable = true

section Statements

variable {batchSize : Nat} {now : Timestamp} {tables after : Tables}

/-- A change that leaves finished rows alone keeps their status. -/
theorem stays_changeWhere {condition : Job → Bool} {change : Job → Job}
    {keeps : ∀ row, (changeWhere condition change row).id = row.id}
    (spares : ∀ row ∈ tables.jobs.rows, condition row = true → ¬Finished row) :
    Stays tables (updateJobs tables (changeWhere condition change) keeps) := by
  intro row member finished other inside same
  obtain ⟨old, _⟩ | ⟨old, oldMember, changed, rfl⟩ := mem_changeWhere inside
  · rw [tables.jobs.eq_of_key old member same]
  · have identity : old.id = row.id := by
      have kept := keeps old
      rw [changeWhere, if_pos changed] at kept
      exact kept.symm.trans same
    exact absurd (tables.jobs.eq_of_key oldMember member identity ▸ finished) (spares old oldMember changed)

/-- A change that adds no row keeps what is finished. -/
theorem stays_of_subset (subset : ∀ row ∈ after.jobs.rows, row ∈ tables.jobs.rows) :
    Stays tables after := by
  intro row member finished other inside same
  rw [tables.jobs.eq_of_key (subset other inside) member same]

theorem stays_same (tables : Tables) : Stays tables tables := stays_of_subset fun _ member => member

/-- A new job keeps what is finished. -/
theorem stays_enqueued {kind : String} {payload : Json.Value} {delaySecs : Nat}
    (written : tables.enqueue now kind payload delaySecs = .ok after) : Stays tables after := by
  obtain ⟨fresh, new, _, _, _, _, _, rows⟩ := enqueue_rows written
  intro row member finished other inside same
  obtain old | rfl := (rows other).mp inside
  · rw [tables.jobs.eq_of_key old member same]
  · exact absurd (new.symm.trans same) (Nat.ne_of_gt (tables.jobsBelow row member))

/-- Only a job in progress is reaped. -/
theorem stays_reaped (maxLockSecs : Nat) : Stays tables (reapStuck now maxLockSecs tables).2 := by
  refine stays_changeWhere fun row _ reaped finished => ?_
  rw [stuck, Bool.and_eq_true, decide_eq_true_eq] at reaped
  obtain status | status := finished
  · exact JobStatus.noConfusion (status.symm.trans reaped.1)
  · exact JobStatus.noConfusion (status.symm.trans reaped.1)

/-- Only a pending job is claimed. -/
theorem stays_claimed {workerId : String} {skipped : List Nat} {order : RowOrder} {jobs : List ClaimedJob}
    (claimed : claimBatch now workerId batchSize skipped order tables = .ok (jobs, after)) :
    Stays tables after := by
  obtain ⟨_, _, rfl⟩ := claimBatch_ok claimed
  refine stays_changeWhere fun row member named finished => ?_
  have taken := (mem_toClaim (taken_of_id member named)).2
  rw [ready, Bool.and_eq_true, Bool.and_eq_true, decide_eq_true_eq] at taken
  obtain status | status := finished
  · exact JobStatus.noConfusion (status.symm.trans taken.1.1)
  · exact JobStatus.noConfusion (status.symm.trans taken.1.1)

theorem stays_deleted (condition : Job → Bool) : Stays tables (deleteJobs tables condition) :=
  stays_of_subset fun _ member => (KeyedTable.Table.mem_delete.mp member).1

/-- A report is stored when its text can be sent. -/
theorem perform_ok_iff {job : ClaimedJob} {outcome : Report} {jitterMs : Nat} :
    (∃ after, outcome.perform now jitterMs job tables = .ok after) ↔ outcome.Sendable := by
  cases outcome with
  | complete => exact ⟨fun _ => trivial, fun _ => ⟨_, rfl⟩⟩
  | failDead message =>
      constructor
      · rintro ⟨after, performed⟩
        obtain ⟨_, sent, _⟩ := Checked.bind_ok performed
        exact send_ok_iff.mp sent
      · intro sendable
        have sent := send_ok_iff.mpr sendable
        exact ⟨_, by rw [Report.perform, Jobs.failDead, sent]; rfl⟩
  | failRetry message =>
      constructor
      · rintro ⟨after, performed⟩
        obtain ⟨_, sent, _⟩ := Checked.bind_ok performed
        exact send_ok_iff.mp sent
      · intro sendable
        have sent := send_ok_iff.mpr sendable
        exact ⟨_, by rw [Report.perform, Jobs.failRetry, sent]; rfl⟩

/-- A report leaves its own status on the row. -/
theorem rewritten_status {job : ClaimedJob} {outcome : Report} {jitterMs : Nat} {row : Job} :
    (outcome.rewritten now jitterMs job row).status = outcome.status := by
  cases outcome <;> rfl

/-- A report keeps the status of a finished job exactly when it writes the same one. -/
theorem stays_reported_iff {job : ClaimedJob} {outcome : Report} {jitterMs : Nat}
    (performed : outcome.perform now jitterMs job tables = .ok after) :
    Stays tables after ↔
      ∀ row ∈ tables.jobs.rows, row.id = job.id → Finished row → outcome.status = row.status := by
  rw [perform_ok performed]
  constructor
  · intro stays row member named finished
    have changed : changeWhere (fun row => row.id = job.id)
        (fun row => outcome.rewritten now jitterMs job row) row =
        outcome.rewritten now jitterMs job row := if_pos (decide_eq_true named)
    have kept := stays row member finished (outcome.rewritten now jitterMs job row)
      (mem_updateJobs.mpr ⟨row, member, changed⟩) (Report.rewritten_id row)
    exact rewritten_status.symm.trans kept
  · intro same row member finished other inside identity
    obtain ⟨old, _⟩ | ⟨old, oldMember, named, rfl⟩ := mem_changeWhere inside
    · rw [tables.jobs.eq_of_key old member identity]
    · rw [Report.rewritten_id] at identity
      have equal := tables.jobs.eq_of_key oldMember member identity
      rw [rewritten_status, ← equal]
      exact same old oldMember (of_decide_eq_true named) (equal ▸ finished)

end Statements

section Run

variable {texts : ErrorTexts} {batchSize : Nat} {system after : System}

/-- A step keeps the status of every finished job. -/
def Keeps (texts : ErrorTexts) (batchSize : Nat) (system : System) (event : Event) : Prop :=
  ∀ after ∈ system.step texts batchSize event, Stays system.tables after.tables

instance (texts : ErrorTexts) (batchSize : Nat) (system : System) (event : Event) :
    Decidable (Keeps texts batchSize system event) :=
  inferInstanceAs (Decidable (∀ after ∈ system.step texts batchSize event,
    Stays system.tables after.tables))

/-- A report that reaches a finished job writes the status that the job has. -/
def ReportsUnfinished (system : System) : Event → Prop
  | .step index input => ∀ worker ∈ system.workers[index]?, ∀ job outcome rest,
      worker.phase = .settle job outcome rest → input.refused = false → outcome.Sendable →
        ∀ row ∈ system.tables.jobs.rows, row.id = job.id → Finished row →
          outcome.status = row.status
  | _ => True

/-- A worker that is about to report performs its report. -/
theorem step_settle {now : Timestamp} {input : Input} {worker : Worker} {tables : Tables}
    {job : ClaimedJob} {outcome : Report} {rest : List ClaimedJob}
    (place : worker.phase = .settle job outcome rest) :
    worker.step texts batchSize now input tables = some ({ worker with phase := .batch rest },
      if input.refused then tables
      else
        match outcome.perform now input.jitterMs job tables with
        | .ok after => after
        | .error _ => tables) := by
  cases worker
  cases place
  rfl

/-- The statements before a report leave the finished jobs alone. -/
theorem stays_unsettled {now : Timestamp} {worker moved : Worker} {tables written : Tables}
    (steps : Steps texts batchSize now tables worker moved written)
    (unsettled : ∀ job outcome rest, worker.phase ≠ .settle job outcome rest) :
    Stays tables written := by
  cases steps with
  | reaped place due => exact stays_reaped _
  | idle skipped after place claimed => exact stays_claimed claimed
  | claimed skipped job rest after place claimed => exact stays_claimed claimed
  | reported job outcome rest jitterMs after place performed => exact absurd place (unsettled _ _ _)
  | _ => exact stays_same tables

/-- The step of a worker keeps the finished jobs exactly when its report does. -/
theorem keeps_step_iff {index : Nat} {input : Input} {worker : Worker}
    (found : system.workers[index]? = some worker) :
    Keeps texts batchSize system (.step index input) ↔
      ∀ job outcome rest, worker.phase = .settle job outcome rest → input.refused = false →
        outcome.Sendable → ∀ row ∈ system.tables.jobs.rows, row.id = job.id → Finished row →
          outcome.status = row.status := by
  by_cases settled : ∃ job outcome rest, worker.phase = .settle job outcome rest
  · obtain ⟨job, outcome, rest, place⟩ := settled
    obtain ⟨next, stepped, written⟩ := system_step found (step_settle place)
    have single : (∀ job outcome rest, worker.phase = .settle job outcome rest →
        input.refused = false → outcome.Sendable → ∀ row ∈ system.tables.jobs.rows,
          row.id = job.id → Finished row → outcome.status = row.status) ↔
        (input.refused = false → outcome.Sendable → ∀ row ∈ system.tables.jobs.rows,
          row.id = job.id → Finished row → outcome.status = row.status) := by
      constructor
      · intro each
        exact each job outcome rest place
      · intro own other otherOutcome otherRest same
        rw [place] at same
        cases same
        exact own
    rw [single]
    unfold Keeps
    rw [stepped]
    simp only [Option.mem_def, Option.some.injEq, forall_eq']
    rw [written]
    cases refused : input.refused with
    | true => exact ⟨fun _ impossible => (by cases impossible), fun _ => stays_same system.tables⟩
    | false =>
        rw [if_neg Bool.false_ne_true]
        cases performed : outcome.perform system.now input.jitterMs job system.tables with
        | ok written =>
            have sendable := perform_ok_iff.mp ⟨written, performed⟩
            refine (stays_reported_iff performed).trans ⟨fun same _ _ => same, fun same => ?_⟩
            exact same rfl sendable
        | error error =>
            refine ⟨fun _ _ sendable => ?_, fun _ => stays_same system.tables⟩
            obtain ⟨written, accepted⟩ := perform_ok_iff.mpr sendable
            rw [performed] at accepted
            cases accepted
  · have unsettled : ∀ job outcome rest, worker.phase ≠ .settle job outcome rest :=
      fun job outcome rest place => settled ⟨job, outcome, rest, place⟩
    refine ⟨fun _ job outcome rest place => absurd place (unsettled _ _ _), fun _ after stepped => ?_⟩
    obtain ⟨other, moved, written, same, performed, rfl⟩ := step_worker stepped
    obtain rfl := Option.some.inj (found.symm.trans same)
    exact stays_unsettled (steps_of_step performed) unsettled

theorem keeps_iff_reportsUnfinished (event : Event) :
    Keeps texts batchSize system event ↔ ReportsUnfinished system event := by
  cases event with
  | step index input =>
      cases found : system.workers[index]? with
      | none =>
          refine ⟨fun _ worker impossible => ?_, fun _ after stepped => ?_⟩
          · rw [found] at impossible
            cases impossible
          · obtain ⟨worker, _, _, present, _⟩ := step_worker stepped
            rw [found] at present
            cases present
      | some worker =>
          rw [keeps_step_iff found]
          refine ⟨fun own other same => ?_, fun each => each worker found⟩
          obtain rfl := Option.some.inj (found.symm.trans same)
          exact own
  | enqueue kind payload delaySecs =>
      refine ⟨fun _ => trivial, fun _ after stepped => ?_⟩
      cases stepped
      dsimp only
      split
      · next written => exact stays_enqueued written
      · exact stays_same _
  | trigger index | crash index =>
      refine ⟨fun _ => trivial, fun _ after stepped => ?_⟩
      obtain ⟨worker, _, rfl⟩ := Option.map_eq_some_iff.mp stepped
      exact stays_same _
  | tick | start =>
      refine ⟨fun _ => trivial, fun _ after stepped => ?_⟩
      cases stepped
      exact stays_same _
  | gcDead | gcCompleted =>
      refine ⟨fun _ => trivial, fun _ after stepped => ?_⟩
      cases stepped
      exact stays_deleted _

/-- In every run a finished job keeps its status exactly when every report that reaches a finished job
writes the status that the job has. -/
theorem finished_kept_iff (texts : ErrorTexts) (batchSize : Nat) (system : System)
    (events : List Event) :
    EventRun.Guarded (System.step texts batchSize) (Keeps texts batchSize) system events ↔
      EventRun.Guarded (System.step texts batchSize) ReportsUnfinished system events := by
  have free : EventRun.Guarded (System.step texts batchSize) (fun _ _ => True) system events :=
    EventRun.guarded_of_forall (fun _ _ => trivial) _ events
  exact EventRun.guarded_congr free fun _ event _ => keeps_iff_reportsUnfinished event

end Run

section Late

/-- The first worker reports a failure after the second one has completed the job. -/
def reopened : List Event :=
  [Sample.enqueued, .start "job-worker-0", .start "job-worker-1"] ++ Sample.steps 0 4 ++
    [Sample.minutes 46] ++ Sample.steps 1 6 ++ [.step 0 Sample.failing, .step 0 Sample.served]

/-- The job is pending again. -/
theorem finished_reopened :
    ¬EventRun.Guarded (System.step Sample.texts batchSize) (Keeps Sample.texts batchSize)
      Sample.noJobs reopened := by
  decide +kernel

end Late

end OsuPlayerRole.JobWorker

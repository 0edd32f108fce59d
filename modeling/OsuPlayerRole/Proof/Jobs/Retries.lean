/-
This file shows which answers of RoleLogic a worker retries.
-/
import OsuPlayerRole.Construction.Tasks.PlayerJob
import OsuPlayerRole.Proof.Jobs.QueueStep
import OsuPlayerRole.Proof.Sample
import OsuPlayerRole.Proof.Sync.PlayerOutcomes

namespace OsuPlayerRole.JobWorker

open Jobs KeyedTable Resumption RoleLogic Sync

/-- The link is gone, disabled, or paused, or it holds all the users it may hold. -/
def Conclusive (error : AppError) : Prop :=
  error = .roleLinkNotFound ∨ error = .roleLinkDisabled ∨ ∃ limit, error = .userLimitReached limit

section Retried

variable (engines : Engines) (crates : Crates) (script : Script) (world : World) (discordId : DiscordId)

/-- The adds and removes that the reads of the job decide on. -/
def decided : List Action :=
  match (playerReads engines crates script world discordId).1 with
  | .ok actions => actions
  | .error _ => []

/-- The answer of the call of an action in this job. -/
def answerOf (action : Action) : Except AppError Bool :=
  action.reply crates discordId (script.actions action.link)

/-- A completed job has nothing left to do, and a job with any other error is retried or dead. -/
structure Retried (played : PlayerJob) (job : ClaimedJob) (after : World) : Prop where
  completed : ∀ row, after.tables.jobs.find job.id = some row → row.status = .completed →
    ∀ action ∈ decided engines crates played.script world discordId,
      (discordId ∈ after.remote action.link ↔ action.adds = true) ∨
        ∃ error, answerOf crates played.script discordId action = .error error ∧ Conclusive error
  retried : ∀ action ∈ decided engines crates played.script world discordId,
    ∀ error, answerOf crates played.script discordId action = .error error → ¬Conclusive error →
      ∃ row, after.tables.jobs.find job.id = some row ∧
        if job.attempts.val ≥ job.maxAttempts.val then row.status = .dead
        else row.status = .pending ∧
          row.nextRunAt = played.reportedAt + backoffDelay job.attempts played.input.jitterMs

/-- Every call that the verdicts ask for succeeds, or its answer is final. -/
def NoTransientError : Prop :=
  ∀ row, Differs engines world discordId row →
    ∀ error, replyTo engines crates script world discordId row = .error error → Conclusive error

end Retried

section Run

variable {texts : ErrorTexts} {batchSize : Nat} {engines : Engines} {crates : Crates}
  {played : PlayerJob} {worker : Worker} {world after : World} {discordId : DiscordId}
  {job : ClaimedJob} {rest : List ClaimedJob} {row : Job}

/-- The report reaches the row of the job, or it is refused. -/
theorem reported_row {outcome : Report} {input : Input} {now : Timestamp} {moved : Worker}
    {tables written : Tables} (found : tables.jobs.find job.id = some row)
    (place : worker.phase = .settle job outcome rest)
    (stepped : worker.step texts batchSize now input tables = some (moved, written)) :
    written.jobs.find job.id = some row ∨
      written.jobs.find job.id = some (outcome.rewritten now input.jitterMs job row) := by
  unfold Worker.step at stepped
  rw [place] at stepped
  dsimp only at stepped
  cases Option.some.inj stepped
  cases input.refused with
  | true => exact Or.inl found
  | false =>
      rw [if_neg Bool.false_ne_true]
      cases performed : outcome.perform now input.jitterMs job tables with
      | error error => exact Or.inl found
      | ok after =>
          refine Or.inr ?_
          dsimp only
          have named : row.id = job.id := (Table.find_eq_some.mp found).2
          have kept := Table.find_update tables.jobs
            (changeWhere (fun row => row.id = job.id)
              fun row => outcome.rewritten now input.jitterMs job row)
            (changeWhere_id fun _ => Report.rewritten_id _) job.id
          rw [perform_ok performed]
          refine kept.trans ?_
          rw [found, Option.map_some]
          exact congrArg some (if_pos (decide_eq_true named))

/-- The world of the player is reported as it is. -/
theorem finishPlayer_cases (place : worker.phase = .running job rest)
    (ran : worker.finishPlayer texts batchSize engines crates played world discordId = some after) :
    ∃ result last, syncPlayer engines crates played.script world discordId played.schedule =
        some (result, last) ∧ after.remote = last.remote ∧
      ∀ row, last.tables.jobs.find job.id = some row →
        after.tables.jobs.find job.id = some row ∨
          after.tables.jobs.find job.id = some ((report job (dispatch texts job result)).rewritten
            played.reportedAt played.input.jitterMs job row) := by
  unfold Worker.finishPlayer at ran
  obtain ⟨⟨result, last⟩, synchronized, ran⟩ := Option.bind_eq_some_iff.mp ran
  obtain ⟨⟨settling, tables⟩, stepped, ran⟩ := Option.bind_eq_some_iff.mp ran
  obtain ⟨⟨moved, reported⟩, finished, rfl⟩ := Option.map_eq_some_iff.mp ran
  unfold Worker.step at stepped
  rw [place] at stepped
  cases Option.some.inj stepped
  exact ⟨result, last, synchronized, rfl, fun row found => reported_row found rfl finished⟩

/-- A reading that failed decides nothing. -/
theorem decided_failed {error : AppError} {performed : History}
    (reads : playerReads engines crates played.script world discordId = (.error error, world, performed)) :
    decided engines crates played.script world discordId = [] := by
  unfold decided
  rw [reads]

/-- A reading that succeeded decides the wanted actions. -/
theorem decided_wanted {performed : History}
    (reads : playerReads engines crates played.script world discordId =
      (.ok (wanted engines discordId world), world, performed)) :
    decided engines crates played.script world discordId = wanted engines discordId world := by
  unfold decided
  rw [reads]

theorem answerOf_correction {link : RoleLink} {action : Action} {script : Script}
    (corrected : correction engines discordId world link = some action) :
    answerOf crates script discordId action =
      replyTo engines crates script world discordId link := by
  rw [replyTo_correction corrected, ← (correctionOf_some corrected).1]
  rfl

/-- A worker completes a player job whose calls have failed: the error of a call reaches the log alone.
So transient errors are retried exactly when there are none, or when the job has failed before its calls. -/
theorem player_job_retried_iff (decoded : decode texts job = .ok (.playerSync discordId))
    (place : worker.phase = .running job rest)
    (stored : world.tables.jobs.find job.id = some row) (running : row.status = .inProgress)
    (ran : worker.finishPlayer texts batchSize engines crates played world discordId = some after) :
    Retried engines crates world discordId played job after ↔
      (Succeeds (playerReads engines crates played.script world discordId).2.2 →
        NoTransientError engines crates played.script world discordId) := by
  obtain ⟨result, last, synchronized, remote, reported⟩ := finishPlayer_cases place ran
  obtain ⟨answer, performed, reads, ⟨error, rfl, fails⟩ | ⟨succeeded, rfl, legible⟩⟩ :=
    @playerReads_cases engines crates world discordId played.script
  · have none : decided engines crates played.script world discordId = [] := decided_failed reads
    refine iff_of_true ⟨?_, ?_⟩ fun succeeds => ?_
    · rw [none]
      exact fun _ _ _ action impossible => absurd impossible List.not_mem_nil
    · rw [none]
      exact fun action impossible => absurd impossible List.not_mem_nil
    · rw [reads] at succeeds
      obtain ⟨operation, inside⟩ := fails.1
      obtain ⟨value, impossible⟩ := succeeds _ inside
      cases impossible
  · have all := decided_wanted reads
    obtain ⟨rfl, rfl⟩ := Prod.mk.inj (syncPlayer_settled reads synchronized)
    have outcome := @actions_outcome engines crates played.script world discordId legible
    have found : (settledWorld engines crates played.script world discordId).tables.jobs.find job.id =
        some row := by
      rw [outcome.rest.jobs]
      exact stored
    -- The job has ended without an error, so its report is a completion.
    have completion : report job (dispatch texts job (.ok ())) = .complete := by
      unfold dispatch
      rw [decoded]
      rfl
    obtain ⟨left, kept, status⟩ : ∃ left, after.tables.jobs.find job.id = some left ∧
        (left.status = .inProgress ∨ left.status = .completed) := by
      rcases reported row found with unreported | rewritten
      · exact ⟨row, unreported, Or.inl running⟩
      · rw [completion] at rewritten
        exact ⟨_, rewritten, Or.inr rfl⟩
    constructor
    · intro retried _ link differs error refused
      by_contra transient
      obtain ⟨action, chosen, corrected⟩ := correction_of_differs differs
      obtain ⟨other, again, waits⟩ := retried.retried action (all ▸ chosen) error
        ((answerOf_correction corrected).trans refused) transient
      obtain rfl : left = other := Option.some.inj (kept.symm.trans again)
      split at waits
      · rw [waits] at status
        rcases status with impossible | impossible <;> cases impossible
      · rw [waits.1] at status
        rcases status with impossible | impossible <;> cases impossible
    · intro condition
      have calm := condition (by rw [reads]; exact succeeded)
      refine ⟨fun _ _ _ action chosen => ?_, fun action chosen error refused transient => ?_⟩
      · obtain ⟨link, differs, corrected⟩ := differs_of_wanted (all ▸ chosen)
        have reply := @answerOf_correction engines crates world discordId link action played.script corrected
        cases answered : answerOf crates played.script discordId action with
        | error error => exact Or.inr ⟨error, rfl, calm link differs error (reply.symm.trans answered)⟩
        | ok value =>
            obtain ⟨named, adds, _⟩ := correctionOf_some corrected
            have moved := outcome.corrected link differs
            have applied := moved.tells.accepted value (reply.symm.trans answered)
            refine Or.inl ?_
            rw [remote, named, adds, moved.remote, if_pos applied]
            exact mem_adjust
      · obtain ⟨link, differs, corrected⟩ := differs_of_wanted (all ▸ chosen)
        refine absurd ?_ transient
        exact calm link differs error ((answerOf_correction corrected).symm.trans refused)

end Run

section Broken

/-- The job of the player "1" after its first claim. -/
def claimedRow : Job where
  id := 1
  kind := "player_sync"
  payload := ⟨.object [("discord_id", .string "1")], by decide⟩
  status := .inProgress
  attempts := .one
  maxAttempts := .wrap 8
  nextRunAt := 0
  lastError := none
  lockedBy := some "job-worker"
  lockedAt := some 0
  createdAt := 0
  completedAt := none

/-- A worker runs the job, and the player wants the role of the link. -/
def busyWorker : Worker where
  id := "job-worker"
  phase := .running (.ofRow claimedRow) []
  guard := Shutdown.subscribe
  lastReap := 0
  claimedAt := 0
  startedAt := 0
  observed := false

def busyWorld : World :=
  let world := Sample.grantingWorld "token" Sample.onePlayer Sample.onePlayer_distinct 100
  { world with
    tables := { world.tables with
      jobs := ⟨[claimedRow], List.nodup_singleton _⟩
      jobSequence := 2
      jobsBelow := fun row member => by
        rw [List.mem_singleton.mp member]
        decide } }

def statusTexts : Crates := ⟨fun _ => none, fun _ => "502 Bad Gateway"⟩

/-- Every request is answered so, and every statement succeeds. -/
def answering (handled : Handled) (schedule : List Nat) : PlayerJob where
  script := ⟨fun _ => ⟨none, fun _ => handled⟩, fun _ => ⟨none, fun _ => handled⟩⟩
  schedule := schedule
  input := Sample.served
  reportedAt := 0

/-- The user is added. -/
def added : Handled where
  applied := true
  reply := .ok ⟨200, .ok "", .ok .null⟩
  accepted _ _ _ := rfl
  rejected _ same refused := by
    cases same
    cases refused

/-- The connection is lost before the request is applied. -/
def lost : Handled where
  applied := false
  reply := .error "connection closed"
  accepted _ := nofun
  rejected _ := nofun

def finished (played : PlayerJob) : Option World :=
  busyWorker.finishPlayer Sample.texts batchSize Sample.letterEngines statusTexts played busyWorld "1"

theorem claimedRow_decoded : decode Sample.texts (.ofRow claimedRow) = .ok (.playerSync "1") := by rfl

theorem added_finishes : (finished (answering added [0, 0])).isSome = true := by
  decide +kernel

/-- The player is added, and the job is completed. -/
theorem added_job_completed :
    Retried Sample.letterEngines statusTexts busyWorld "1" (answering added [0, 0]) (.ofRow claimedRow)
      ((finished (answering added [0, 0])).get added_finishes) := by
  refine (player_job_retried_iff claimedRow_decoded rfl rfl rfl
    (Option.some_get added_finishes).symm).mpr fun _ row _ error refused => ?_
  unfold replyTo at refused
  split at refused <;> cases refused

theorem lost_finishes : (finished (answering lost [0])).map
    (fun after => (after.tables.jobs.find 1).map Job.status) = some (some .completed) := by
  decide +kernel

/-- The call that should add the player is lost, and the job is completed nevertheless. -/
theorem lost_job_completed :
    ∃ after, finished (answering lost [0]) = some after ∧
      ¬Retried Sample.letterEngines statusTexts busyWorld "1" (answering lost [0]) (.ofRow claimedRow)
        after := by
  obtain ⟨after, ran, status⟩ := Option.map_eq_some_iff.mp lost_finishes
  refine ⟨after, ran, fun retried => ?_⟩
  have transient : ¬Conclusive (.roleLogic "connection closed") := by
    rintro (impossible | impossible | ⟨limit, impossible⟩) <;> cases impossible
  obtain ⟨row, found, pending⟩ := retried.retried (.add Sample.link "token") (by decide +kernel)
    (.roleLogic "connection closed") rfl transient
  rw [show (ClaimedJob.ofRow claimedRow).id = 1 from rfl] at found
  rw [found] at status
  have completed : row.status = .completed := Option.some.inj status
  rw [if_neg (by decide), completed] at pending
  cases pending.1

end Broken

end OsuPlayerRole.JobWorker

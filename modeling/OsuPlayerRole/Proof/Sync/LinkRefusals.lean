/-
This file shows how the jobs treat a link that RoleLogic reports as gone or inactive.
-/
import OsuPlayerRole.Construction.Services.SyncRequests
import OsuPlayerRole.Proof.Sample
import OsuPlayerRole.Proof.Sync.Turns
import OsuPlayerRole.Proof.Sync.UploadSessions

namespace OsuPlayerRole.RoleLogic

/-- These requests go to an upload session that is under way. -/
def Call.inSession : Call → Bool
  | .postChunk _ _ | .postCommit _ => true
  | _ => false

/-- The cancellation cleans up after a failure. -/
def Call.cancels : Call → Bool
  | .deleteUpload _ => true
  | _ => false

end OsuPlayerRole.RoleLogic

namespace OsuPlayerRole.Sync

open Resumption Program RoleLogic

section Requests

variable {crates : Crates} {log : StepLog} {A : Type}

/-- A request as a step of the job. -/
def sentStep (sent : Performed Request (fun _ => Response) AppError) : Performed Step Step.Value AppError :=
  ⟨.request sent.1, sent.2⟩

/-- The steps of a call are its requests. -/
theorem sends_ran {call : Calls A} {result : Except AppError A}
    (ran : Ran Step.Possible (sends call) log result) :
    ∃ traffic : Traffic, log = traffic.map sentStep ∧ Ran Answered call traffic result := by
  obtain ⟨traffic, logs, rfl, each, finished⟩ := ran_expand ran
  refine ⟨traffic, ?_, ran_mono ?_ finished⟩
  · clear finished ran
    induction each with
    | nil => rfl
    | cons own _ ih =>
        obtain ⟨rfl, _⟩ := ran_ask own
        rw [List.flatten_cons, ih]
        rfl
  · rintro request answer ⟨part, own⟩
    exact (ran_ask own).2

def SyncOp.uploads : SyncOp → Bool
  | .uploadUsers _ _ _ => true
  | _ => false

/-- What a call makes of the answer of one of its requests. -/
structure Weighs (operation : SyncOp) (result : Except AppError operation.Value)
    (sent : Performed Request (fun _ => Response) AppError) : Prop where
  own : operation.link? = some sent.1.link
  gone : sent.1.call.inSession = false → sent.1.call.cancels = false → Gone sent.2 →
    result = .error .roleLinkNotFound
  inactive : sent.1.call.inSession = false → sent.1.call.cancels = false → Inactive sent.2 →
    result = .error .roleLinkDisabled
  overlooked : sent.1.call.inSession = true → Gone sent.2 ∨ Inactive sent.2 →
    ∃ message, result = .error (.roleLogic message)
  uploads : sent.1.call.inSession = true → operation.uploads = true

variable {operation : SyncOp} {result : Except AppError operation.Value}
  {sent : Performed Request (fun _ => Response) AppError}

/-- A call that recognises the answer outside of a session hands it on. -/
theorem weighs_recognised (own : operation.link? = some sent.1.link)
    (outside : sent.1.call.inSession = false) (reads : Recognises sent.2 result) :
    Weighs operation result sent where
  own := own
  gone _ _ gone := reads.gone.mpr gone
  inactive _ _ inactive := reads.inactive.mpr inactive
  overlooked inside := by
    rw [inside] at outside
    cases outside
  uploads inside := by
    rw [inside] at outside
    cases outside

/-- A call that overlooks the answer inside of a session fails with another error. -/
theorem weighs_overlooked (uploads : operation.uploads = true) (own : operation.link? = some sent.1.link)
    (inside : sent.1.call.inSession = true) (reads : Overlooks sent.2 result) :
    Weighs operation result sent where
  own := own
  gone outside := by
    rw [inside] at outside
    cases outside
  inactive outside := by
    rw [inside] at outside
    cases outside
  overlooked _ refused := reads.plain refused
  uploads _ := uploads

/-- A successful answer is no refusal. -/
theorem not_refused_of_succeeded {answer : Except AppError Response} (success : Succeeded answer) :
    ¬(Gone answer ∨ Inactive answer) := by
  obtain ⟨response, rfl, accepted⟩ := success
  intro refused
  rw [(linkError_of refused).1] at accepted
  cases accepted

/-- A successful answer puts no demand on the result. -/
theorem weighs_succeeded (uploads : operation.uploads = true) (own : operation.link? = some sent.1.link)
    (success : Succeeded sent.2) : Weighs operation result sent where
  own := own
  gone _ _ gone := absurd (Or.inl gone) (not_refused_of_succeeded success)
  inactive _ _ inactive := absurd (Or.inr inactive) (not_refused_of_succeeded success)
  overlooked _ refused := absurd refused (not_refused_of_succeeded success)
  uploads _ := uploads

/-- The answer to a cancellation puts no demand on the result. -/
theorem weighs_cancel (own : operation.link? = some sent.1.link) (cancels : sent.1.call.cancels = true)
    (outside : sent.1.call.inSession = false) : Weighs operation result sent where
  own := own
  gone _ other := by
    rw [cancels] at other
    cases other
  inactive _ other := by
    rw [cancels] at other
    cases other
  overlooked inside := by
    rw [inside] at outside
    cases outside
  uploads inside := by
    rw [inside] at outside
    cases outside

/-- Only a successful answer starts a session. -/
theorem session_succeeded {answer : Except AppError Response} {uploadId : String}
    (started : session answer = some uploadId) : Succeeded answer := by
  cases answer with
  | error error => cases started
  | ok response =>
      change (if response.isSuccess then _ else _) = _ at started
      split at started
      · next success => exact ⟨response, rfl, success⟩
      · cases started

/-- Each request of an upload is weighed, in each of its courses. -/
theorem uploaded_weighs {link : Link} {token : String} {ids : List DiscordId}
    {pieces : List (List DiscordId)} {traffic : Traffic} {result : Except AppError Nat}
    (uploaded : Uploaded link token ids pieces traffic result) :
    ∀ sent ∈ traffic, Weighs (.uploadUsers link ids token) result sent := by
  cases uploaded with
  | put short reads => exact List.forall_mem_singleton.mpr (weighs_recognised rfl rfl reads)
  | unstarted long unnamed reads => exact List.forall_mem_singleton.mpr (weighs_recognised rfl rfl reads)
  | cancelled long started cut accepted failed reads =>
      rw [List.forall_mem_cons, List.forall_mem_append, List.forall_mem_map, List.forall_mem_cons,
        List.forall_mem_singleton]
      refine ⟨weighs_succeeded rfl rfl (session_succeeded started), fun sent inside => ?_, ?_, ?_⟩
      · exact weighs_succeeded rfl rfl (accepted sent inside)
      · exact weighs_overlooked rfl rfl rfl reads
      · exact weighs_cancel rfl rfl rfl
  | committed long started cut accepted reads =>
      rw [List.forall_mem_cons, List.forall_mem_append, List.forall_mem_map, List.forall_mem_singleton]
      refine ⟨weighs_succeeded rfl rfl (session_succeeded started), fun sent inside => ?_, ?_⟩
      · exact weighs_succeeded rfl rfl (accepted sent inside)
      · exact weighs_overlooked rfl rfl rfl reads

/-- An operation of a job is a call with its requests, or it is a step itself. -/
theorem steps_ran {part : StepLog} (ran : Ran Step.Possible (operation.steps crates) part result) :
    (operation.callsRoleLogic = true ∧ ∃ traffic : Traffic, part = traffic.map sentStep ∧
        ∀ sent ∈ traffic, Weighs operation result sent) ∨
      operation.callsRoleLogic = false ∧ part = [⟨.own operation, result⟩] := by
  have single {sent : Performed Request (fun _ => Response) AppError} (weighs : Weighs operation result sent) :
      ∀ other ∈ [sent], Weighs operation result other := List.forall_mem_singleton.mpr weighs
  cases operation with
  | getUserInfo link token =>
      obtain ⟨traffic, rfl, requested⟩ := sends_ran ran
      obtain ⟨answer, rfl, reads⟩ := getUserInfo_ran requested
      exact Or.inl ⟨rfl, _, rfl, single (weighs_recognised rfl rfl reads)⟩
  | addUser link discordId token =>
      obtain ⟨traffic, rfl, requested⟩ := sends_ran ran
      obtain ⟨answer, rfl, reads⟩ := addUser_ran requested
      exact Or.inl ⟨rfl, _, rfl, single (weighs_recognised rfl rfl reads)⟩
  | removeUser link discordId token =>
      obtain ⟨traffic, rfl, requested⟩ := sends_ran ran
      obtain ⟨answer, rfl, reads⟩ := removeUser_ran requested
      exact Or.inl ⟨rfl, _, rfl, single (weighs_recognised rfl rfl reads)⟩
  | uploadUsers link ids token =>
      obtain ⟨traffic, rfl, requested⟩ := sends_ran ran
      exact Or.inl ⟨rfl, _, rfl, uploaded_weighs (uploadUsers_ran requested)⟩
  | _ => exact Or.inr ⟨rfl, (ran_ask ran).1⟩

end Requests

section Job

variable {possible : (operation : SyncOp) → Except AppError operation.Value → Prop} {link : Link}
  {history : History} {result : Except AppError Unit} {operation : SyncOp} {token : String}

/-- What a job makes of the answers of its calls. -/
structure Responds (link : Link) (history : History) (result : Except AppError Unit) : Prop where
  own : ∀ performed ∈ history, performed.1.callsRoleLogic = true → performed.1.link? = some link
  gone : ∀ operation, operation.callsRoleLogic = true →
    (⟨operation, .error .roleLinkNotFound⟩ : Performed _ _ _) ∈ history →
      result = .ok () ∧ ∃ outcome, (⟨.deleteRoleLink link, outcome⟩ : Performed _ _ _) ∈ history
  inactive : ∀ operation, operation.callsRoleLogic = true →
    (⟨operation, .error .roleLinkDisabled⟩ : Performed _ _ _) ∈ history →
      result = .ok () ∧ ∀ outcome, (⟨.deleteRoleLink link, outcome⟩ : Performed _ _ _) ∉ history

/-- The job of a link also hands on the error of a call. -/
structure Raises (link : Link) (history : History) (result : Except AppError Unit) : Prop
    extends Responds link history result where
  failed : ∀ operation message, operation.callsRoleLogic = true →
    (⟨operation, .error (.roleLogic message)⟩ : Performed _ _ _) ∈ history →
      result = .error (.roleLogic message)

/-- A job without a step owes nothing. -/
theorem raises_nil : Raises link [] result where
  own _ := nofun
  gone _ _ := nofun
  inactive _ _ := nofun
  failed _ _ _ := nofun

/-- What is not refused and deletes nothing may stand in front. -/
theorem raises_cons {performed : Performed SyncOp SyncOp.Value AppError}
    (smooth : performed.1.callsRoleLogic = true →
      performed.1.link? = some link ∧ ∃ value, performed.2 = .ok value)
    (kept : performed.1 ≠ .deleteRoleLink link) (raises : Raises link history result) :
    Raises link (performed :: history) result := by
  have later {operation : SyncOp} {error : AppError} (calls : operation.callsRoleLogic = true)
      (inside : (⟨operation, .error error⟩ : Performed _ _ _) ∈ performed :: history) :
      (⟨operation, .error error⟩ : Performed _ _ _) ∈ history := by
    rcases List.mem_cons.mp inside with rfl | inside
    · obtain ⟨_, _, impossible⟩ := smooth calls
      cases impossible
    · exact inside
  constructor
  · constructor
    · exact List.forall_mem_cons.mpr ⟨fun calls => (smooth calls).1, raises.own⟩
    · intro operation calls inside
      obtain ⟨ended, outcome, deleted⟩ := raises.gone operation calls (later calls inside)
      exact ⟨ended, outcome, List.mem_cons_of_mem _ deleted⟩
    · intro operation calls inside
      obtain ⟨ended, keeps⟩ := raises.inactive operation calls (later calls inside)
      refine ⟨ended, fun outcome deleted => ?_⟩
      rcases List.mem_cons.mp deleted with rfl | deleted
      · exact kept rfl
      · exact keeps outcome deleted
  · intro operation message calls inside
    exact raises.failed operation message calls (later calls inside)

/-- What the job reads from the database owes nothing. -/
theorem raises_read {answer : Except AppError operation.Value} (reads : operation.reads = true)
    (raises : Raises link history result) : Raises link (⟨operation, answer⟩ :: history) result := by
  refine raises_cons (fun calls => ?_) (fun same => ?_) raises
  · rw [SyncOp.callsRoleLogic, part_of_reads reads] at calls
    cases calls
  · dsimp only at same
    rw [same] at reads
    cases reads

/-- The statement at the end of a job writes its mirror. -/
theorem raises_statement {answer : Except AppError operation.Value}
    (silent : operation.callsRoleLogic = false) (kept : operation ≠ .deleteRoleLink link) :
    Raises link [⟨operation, answer⟩] result := by
  refine raises_cons (fun calls => ?_) kept raises_nil
  rw [silent] at calls
  cases calls

/-- A call that finds the link gone is followed by the deletion and ends well. -/
theorem raises_gone {outcome : Except AppError Unit} (named : operation.link? = some link) :
    Raises link [⟨operation, .error .roleLinkNotFound⟩, ⟨.deleteRoleLink link, outcome⟩] (.ok ()) := by
  have only {other : SyncOp} {error : AppError} (called : other.callsRoleLogic = true)
      (inside : (⟨other, .error error⟩ : Performed SyncOp SyncOp.Value AppError) ∈
        [⟨operation, .error .roleLinkNotFound⟩, ⟨.deleteRoleLink link, outcome⟩]) :
      error = .roleLinkNotFound := by
    rcases List.mem_cons.mp inside with same | inside
    · cases same
      rfl
    · cases List.mem_singleton.mp inside
      cases called
  constructor
  · constructor
    · refine List.forall_mem_cons.mpr ⟨fun _ => named, List.forall_mem_singleton.mpr ?_⟩
      exact nofun
    · exact fun _ _ _ => ⟨rfl, outcome, List.mem_cons_of_mem _ List.mem_cons_self⟩
    · intro other called inside
      cases only called inside
  · intro other message called inside
    cases only called inside

/-- The error of the last call decides the result of the job. -/
theorem raises_error {error : AppError} (named : operation.link? = some link)
    (present : error ≠ .roleLinkNotFound) (inactive : error = .roleLinkDisabled → result = .ok ())
    (failed : ∀ message, error = .roleLogic message → result = .error (.roleLogic message)) :
    Raises link [⟨operation, .error error⟩] result := by
  constructor
  · constructor
    · exact List.forall_mem_singleton.mpr fun _ => named
    · intro other _ inside
      cases List.mem_singleton.mp inside
      exact absurd rfl present
    · intro other called inside
      cases List.mem_singleton.mp inside
      refine ⟨inactive rfl, fun outcome deleted => ?_⟩
      cases List.mem_singleton.mp deleted
      cases called
  · intro other message called inside
    cases List.mem_singleton.mp inside
    exact failed message rfl

/-- The deletion of an orphan never fails the job. -/
theorem orphan_ran (ran : Ran possible (deleteOrphanRoleLink link) history result) :
    ∃ outcome, history = [⟨.deleteRoleLink link, outcome⟩] ∧ result = .ok () := by
  obtain ⟨outcome, rest, rfl, _, continued⟩ := ran_result_bind ran
  obtain ⟨rfl, rfl⟩ := ran_done continued
  exact ⟨outcome, rfl, rfl⟩

/-- The upload with what follows it. -/
theorem upload_ran {ids : List DiscordId} {written : SyncOp} {stored : SyncProgram Unit}
    (silent : written.callsRoleLogic = false) (kept : written ≠ .deleteRoleLink link)
    (writes : ∀ history result, Ran possible stored history result →
      ∃ outcome, history = [⟨written, outcome⟩])
    (ran : Ran possible (Sync.result (.uploadUsers link ids token) >>= fun answer =>
      afterUpload link answer stored) history result) : Raises link history result := by
  obtain ⟨answer, rest, rfl, _, continued⟩ := ran_result_bind ran
  unfold afterUpload at continued
  split at continued
  · obtain ⟨outcome, rfl⟩ := writes _ _ continued
    exact raises_cons (fun _ => ⟨rfl, _, rfl⟩) nofun (raises_statement silent kept)
  · obtain ⟨outcome, rfl, rfl⟩ := orphan_ran continued
    exact raises_gone rfl
  · obtain ⟨rfl, rfl⟩ := ran_done continued
    exact raises_error rfl nofun (fun _ => rfl) (fun _ => nofun)
  · obtain ⟨rfl, rfl⟩ := ran_done continued
    exact raises_error rfl nofun nofun (fun _ => nofun)
  · next error present active _ _ =>
      obtain ⟨rfl, rfl⟩ := ran_fail continued
      refine raises_error rfl present (fun same => absurd same active) fun message same => ?_
      rw [same]

/-- The drain treats each answer of its calls. -/
theorem drain_ran (ran : Ran possible (drainToEmpty link token) history result) :
    Raises link history result := by
  rcases ran_ask_bind ran with ⟨present, rest, rfl, continued⟩ | ⟨error, rfl, rfl⟩
  · refine raises_read rfl ?_
    split at continued
    · obtain ⟨rfl, rfl⟩ := ran_done continued
      exact raises_nil
    · refine upload_ran rfl (show SyncOp.clearAssignments link ≠ _ from nofun) ?_ continued
      exact fun _ answer cleared => ⟨answer, (ran_ask cleared).1⟩
  · exact raises_read rfl raises_nil

/-- The replacement of the list treats each answer of its calls. -/
theorem replaceList_ran {qualifying : List DiscordId}
    (ran : Ran possible (replaceList link token qualifying) history result) :
    Raises link history result := by
  rcases ran_ask_bind ran with ⟨current, rest, rfl, continued⟩ | ⟨error, rfl, rfl⟩
  · refine raises_read rfl ?_
    split at continued
    · obtain ⟨rfl, rfl⟩ := ran_done continued
      exact raises_nil
    · refine upload_ran rfl (show SyncOp.replaceAssignments link qualifying ≠ _ from nofun) ?_ continued
      exact fun _ answer stored => ⟨answer, (ran_ask stored).1⟩
  · exact raises_read rfl raises_nil

/-- The query for the list adds no call. -/
theorem qualifyingQuery_ran {tree : RuleTree} {members : List DiscordId} {userLimit : Nat}
    {rest : List DiscordId → SyncProgram Unit}
    (continued : ∀ ids history result, Ran possible (rest ids) history result →
      Raises link history result)
    (ran : Ran possible (qualifyingQuery tree members userLimit >>= rest) history result) :
    Raises link history result := by
  unfold qualifyingQuery at ran
  split at ran
  · rcases ran_ask_bind ran with ⟨found, others, rfl, last⟩ | ⟨error, rfl, rfl⟩
    · exact raises_read rfl (continued _ _ _ last)
    · exact raises_read rfl raises_nil
  · rcases ran_ask_bind ran with ⟨found, others, rfl, last⟩ | ⟨error, rfl, rfl⟩
    · exact raises_read rfl (continued _ _ _ last)
    · exact raises_read rfl raises_nil

/-- The job of a link treats each answer of its calls. -/
theorem syncForRoleLink_ran (ran : Ran possible (syncForRoleLink link) history result) :
    Raises link history result := by
  rcases ran_ask_bind ran with ⟨found, rest, rfl, continued⟩ | ⟨error, rfl, rfl⟩
  · refine raises_read rfl ?_
    cases found with
    | none =>
        obtain ⟨rfl, rfl⟩ := ran_done continued
        exact raises_nil
    | some row =>
        dsimp only at continued
        split at continued
        · exact drain_ran continued
        · rcases ran_ask_bind continued with ⟨members, others, rfl, filled⟩ | ⟨error, rfl, rfl⟩
          · refine raises_read rfl ?_
            split at filled
            · exact drain_ran filled
            · obtain ⟨answer, last, rfl, _, informed⟩ := ran_result_bind filled
              split at informed
              · obtain ⟨outcome, rfl, rfl⟩ := orphan_ran informed
                exact raises_gone rfl
              · obtain ⟨rfl, rfl⟩ := ran_done informed
                exact raises_error rfl nofun (fun _ => rfl) fun _ => nofun
              · next error present active _ =>
                  obtain ⟨rfl, rfl⟩ := ran_fail informed
                  refine raises_error rfl present (fun same => absurd same active) fun message same => ?_
                  rw [same]
              · refine raises_cons (fun _ => ⟨rfl, _, rfl⟩) nofun ?_
                exact qualifyingQuery_ran (fun _ _ _ => replaceList_ran) informed
          · exact raises_read rfl raises_nil
  · exact raises_read rfl raises_nil

end Job

section Steps

variable {crates : Crates} {engines : Engines} {link : Link} {discordId : DiscordId} {log : StepLog}
  {history : History} {logs : List StepLog} {result : Except AppError Unit}

/-- The job asks the database for the deletion of the link, and the database that serves the deletions of
the job has deleted it. -/
def Deletes (link : Link) (log : StepLog) : Prop :=
  ∃ outcome, (⟨.own (.deleteRoleLink link), outcome⟩ : Performed Step _ _) ∈ log ∧
    ((∀ other answer, (⟨.own (.deleteRoleLink other), answer⟩ : Performed Step _ _) ∈ log →
      answer = .ok ()) → outcome = .ok ())

/-- A request other than a cancellation that says that its link is gone deletes the link, and one that says
that it is inactive keeps it. Neither makes the job fail. -/
def Heeds (log : StepLog) (result : Except AppError Unit) : Prop :=
  ∀ request answer, (⟨.request request, answer⟩ : Performed Step _ _) ∈ log →
    request.call.cancels = false →
      (Gone answer → result = .ok () ∧ Deletes request.link log) ∧
      (Inactive answer → result = .ok () ∧
        ∀ outcome, (⟨.own (.deleteRoleLink request.link), outcome⟩ : Performed Step _ _) ∉ log)

/-- A request of an upload session is told that the link is gone or inactive. -/
def RefusedInSession (log : StepLog) : Prop :=
  ∃ request answer, (⟨.request request, answer⟩ : Performed Step _ _) ∈ log ∧
    request.call.inSession = true ∧ (Gone answer ∨ Inactive answer)

/-- Each operation with the steps that carry it out. -/
abbrev CarriedOut (crates : Crates) (history : History) (logs : List StepLog) : Prop :=
  List.Forall₂ (fun performed part => Ran Step.Possible (performed.1.steps crates) part performed.2)
    history logs

/-- A deletion that is asked for is one of those that the database serves. -/
theorem deletes_of_mem {outcome : Except AppError Unit}
    (asked : (⟨.own (.deleteRoleLink link), outcome⟩ : Performed Step Step.Value AppError) ∈ log) :
    Deletes link log :=
  ⟨outcome, asked, fun served => served link outcome asked⟩

/-- Every request belongs to a call. -/
theorem request_carried (carried : CarriedOut crates history logs) {request : Request}
    {answer : Except AppError Response}
    (inside : (⟨.request request, answer⟩ : Performed Step Step.Value AppError) ∈ logs.flatten) :
    ∃ performed ∈ history, performed.1.callsRoleLogic = true ∧
      Weighs performed.1 performed.2 ⟨request, answer⟩ := by
  induction carried with
  | nil => cases inside
  | @cons performed part _ _ ran _ ih =>
      rw [List.flatten_cons, List.mem_append] at inside
      rcases inside with first | later
      · refine ⟨performed, List.mem_cons_self, ?_⟩
        rcases steps_ran ran with ⟨calls, traffic, rfl, weighs⟩ | ⟨_, rfl⟩
        · obtain ⟨sent, member, same⟩ := List.mem_map.mp first
          cases same
          exact ⟨calls, weighs sent member⟩
        · cases List.mem_singleton.mp first
      · obtain ⟨other, member, weighs⟩ := ih later
        exact ⟨other, List.mem_cons_of_mem _ member, weighs⟩

/-- Every other operation is a step of its own. -/
theorem own_carried (carried : CarriedOut crates history logs) {operation : SyncOp}
    {answer : Except AppError operation.Value} (own : operation.callsRoleLogic = false) :
    (⟨.own operation, answer⟩ : Performed Step Step.Value AppError) ∈ logs.flatten ↔
      (⟨operation, answer⟩ : Performed SyncOp SyncOp.Value AppError) ∈ history := by
  induction carried with
  | nil => exact ⟨nofun, nofun⟩
  | @cons performed part _ _ ran _ ih =>
      rw [List.flatten_cons, List.mem_append, List.mem_cons, ih]
      refine or_congr_left ⟨fun inside => ?_, ?_⟩
      · rcases steps_ran ran with ⟨_, traffic, rfl, _⟩ | ⟨_, rfl⟩
        · obtain ⟨sent, _, same⟩ := List.mem_map.mp inside
          cases same
        · cases List.mem_singleton.mp inside
          rfl
      · rintro rfl
        rcases steps_ran ran with ⟨calls, _⟩ | ⟨_, rfl⟩
        · rw [own] at calls
          cases calls
        · exact List.mem_singleton_self _

/-- The job heeds every answer outside of a session. -/
theorem heeds_of_responds (carried : CarriedOut crates history logs)
    (responds : Responds link history result) (free : ¬RefusedInSession logs.flatten) :
    Heeds logs.flatten result := by
  intro request answer inside sent
  obtain ⟨performed, member, calls, weighs⟩ := request_carried carried inside
  have named : request.link = link := by
    have same := weighs.own.symm.trans (responds.own performed member calls)
    exact Option.some.inj same
  have outside (refused : Gone answer ∨ Inactive answer) : request.call.inSession = false := by
    cases session : request.call.inSession with
    | false => rfl
    | true => exact absurd ⟨request, answer, inside, session, refused⟩ free
  rw [named]
  constructor
  · intro gone
    have failed := weighs.gone (outside (Or.inl gone)) sent gone
    obtain ⟨ended, outcome, deleted⟩ := responds.gone performed.1 calls (by rw [← failed]; exact member)
    exact ⟨ended, deletes_of_mem ((own_carried carried rfl).mpr deleted)⟩
  · intro inactive
    have failed := weighs.inactive (outside (Or.inr inactive)) sent inactive
    obtain ⟨ended, keeps⟩ := responds.inactive performed.1 calls (by rw [← failed]; exact member)
    exact ⟨ended, fun outcome deleted => keeps outcome ((own_carried carried rfl).mp deleted)⟩

/-- The job of a link cannot heed an answer inside of a session. -/
theorem heeds_iff (carried : CarriedOut crates history logs) (raises : Raises link history result) :
    Heeds logs.flatten result ↔ ¬RefusedInSession logs.flatten := by
  constructor
  · rintro heeds ⟨request, answer, inside, session, refused⟩
    obtain ⟨performed, member, calls, weighs⟩ := request_carried carried inside
    obtain ⟨message, failed⟩ := weighs.overlooked session refused
    have raised : result = .error (.roleLogic message) := by
      refine raises.failed performed.1 message calls ?_
      rw [← failed]
      exact member
    have sent : request.call.cancels = false := by
      cases called : request.call <;> rw [called] at session <;> first | rfl | cases session
    obtain ⟨gone, inactive⟩ := heeds request answer inside sent
    rcases refused with refused | refused
    · rw [raised] at gone
      cases (gone refused).1
    · rw [raised] at inactive
      cases (inactive refused).1
  · exact heeds_of_responds carried raises.toResponds

/-- What an action makes of the answer of its call. -/
structure Acts (action : Action) (history : History) (result : Except AppError Unit) : Prop
    extends Responds action.link history result where
  ended : result = .ok ()
  single : ∀ performed ∈ history, performed.1.uploads = false
  deletes : ∀ other outcome, (⟨.deleteRoleLink other, outcome⟩ : Performed SyncOp _ _) ∈ history →
    other = action.link

variable {possible : (operation : SyncOp) → Except AppError operation.Value → Prop} {action : Action}

/-- An action on a link that is gone deletes it. -/
theorem acts_gone {operation : SyncOp} {outcome : Except AppError Unit} (single : operation.uploads = false)
    (calls : operation.callsRoleLogic = true) (named : operation.link? = some action.link) :
    Acts action [⟨operation, .error .roleLinkNotFound⟩, ⟨.deleteRoleLink action.link, outcome⟩]
      (.ok ()) where
  toResponds := (raises_gone named).toResponds
  ended := rfl
  single := List.forall_mem_cons.mpr ⟨single, List.forall_mem_singleton.mpr rfl⟩
  deletes other outcome inside := by
    rcases List.mem_cons.mp inside with same | inside
    · cases same
      cases calls
    · cases List.mem_singleton.mp inside
      rfl

/-- An action only logs any other error. -/
theorem acts_error {operation : SyncOp} {error : AppError} (single : operation.uploads = false)
    (calls : operation.callsRoleLogic = true) (named : operation.link? = some action.link)
    (present : error ≠ .roleLinkNotFound) : Acts action [⟨operation, .error error⟩] (.ok ()) where
  own := List.forall_mem_singleton.mpr fun _ => named
  gone other _ inside := by
    cases List.mem_singleton.mp inside
    exact absurd rfl present
  inactive other called inside := by
    cases List.mem_singleton.mp inside
    refine ⟨rfl, fun outcome deleted => ?_⟩
    cases List.mem_singleton.mp deleted
    cases called
  ended := rfl
  single := List.forall_mem_singleton.mpr single
  deletes other outcome inside := by
    cases List.mem_singleton.mp inside
    cases calls

/-- An action that succeeds writes its mirror. -/
theorem acts_ok {operation written : SyncOp} {value : operation.Value}
    {outcome : Except AppError written.Value} (single : operation.uploads = false)
    (calls : operation.callsRoleLogic = true) (named : operation.link? = some action.link)
    (silent : written.callsRoleLogic = false) (unsent : written.uploads = false)
    (kept : ∀ other, written ≠ .deleteRoleLink other) :
    Acts action [⟨operation, .ok value⟩, ⟨written, outcome⟩] (.ok ()) where
  toResponds := (raises_cons (fun _ => ⟨named, value, rfl⟩) (fun same => by
    dsimp only at same
    rw [same] at calls
    cases calls) (raises_statement silent (kept action.link))).toResponds
  ended := rfl
  single := List.forall_mem_cons.mpr ⟨single, List.forall_mem_singleton.mpr unsent⟩
  deletes other outcome inside := by
    rcases List.mem_cons.mp inside with same | inside
    · cases same
      cases calls
    · cases List.mem_singleton.mp inside
      exact absurd rfl (kept other)

/-- Each action treats the answer of its call and ends well. -/
theorem performAction_ran (ran : Ran possible (performAction discordId action) history result) :
    Acts action history result := by
  cases action with
  | add link token =>
      obtain ⟨answer, rest, rfl, _, continued⟩ := ran_result_bind ran
      split at continued
      · obtain ⟨outcome, rfl, rfl⟩ := orphan_ran continued
        exact acts_gone rfl rfl rfl
      · next error present _ =>
          obtain ⟨rfl, rfl⟩ := ran_done continued
          exact acts_error rfl rfl rfl present
      · obtain ⟨outcome, last, rfl, _, finished⟩ := ran_result_bind continued
        obtain ⟨rfl, rfl⟩ := ran_done finished
        exact acts_ok rfl rfl rfl rfl rfl fun _ => nofun
  | remove link token =>
      obtain ⟨answer, rest, rfl, _, continued⟩ := ran_result_bind ran
      split at continued
      · obtain ⟨outcome, rfl, rfl⟩ := orphan_ran continued
        exact acts_gone rfl rfl rfl
      · next error present _ =>
          obtain ⟨rfl, rfl⟩ := ran_done continued
          exact acts_error rfl rfl rfl present
      · obtain ⟨outcome, last, rfl, _, finished⟩ := ran_result_bind continued
        obtain ⟨rfl, rfl⟩ := ran_done finished
        exact acts_ok rfl rfl rfl rfl rfl fun _ => nofun

end Steps

section Player

variable {crates : Crates} {engines : Engines} {discordId : DiscordId} {log : StepLog}
  {possible : (operation : SyncOp) → Except AppError operation.Value → Prop} {history : History}
  {actions : List Action}

/-- The verdict only reads. -/
theorem qualifies_only (isLinked : Bool) (tree : RuleTree) :
    (qualifies engines discordId isLinked tree).Only fun operation => operation.reads = true := by
  unfold qualifies
  split
  · trivial
  · split
    · trivial
    · refine only_bind (only_ask rfl) fun found => ?_
      split
      · exact only_bind (only_ask rfl) fun _ => trivial
      · trivial

/-- The plan only reads. -/
theorem planActions_only (isLinked : Bool) (existing : Finset Link) (rows : List LinkRow) :
    (planActions engines discordId isLinked existing rows).Only fun operation =>
      operation.reads = true := by
  induction rows with
  | nil => trivial
  | cons row rest ih =>
      refine only_bind (qualifies_only _ _) fun qualified => only_bind ih fun actions => ?_
      split <;> trivial

/-- Before its actions the job of a player only reads. -/
theorem syncForPlayer_only :
    (syncForPlayer engines discordId).Only fun operation => operation.reads = true := by
  refine only_bind (only_ask rfl) fun guildIds => ?_
  split
  · trivial
  · refine only_bind (only_ask rfl) fun roleLinks => ?_
    split
    · trivial
    · exact only_bind (only_ask rfl) fun isLinked => only_bind (only_ask rfl) fun existing =>
        planActions_only isLinked existing roleLinks

/-- The actions follow the rows, at most one for each. -/
theorem planActions_ran {isLinked : Bool} {existing : Finset Link} {rows : List LinkRow}
    (ran : Ran possible (planActions engines discordId isLinked existing rows) history (.ok actions)) :
    (actions.map Action.link).Sublist (rows.map LinkRow.link) := by
  induction rows generalizing history actions with
  | nil =>
      obtain ⟨_, same⟩ := ran_done ran
      cases same
      exact .slnil
  | cons row rest ih =>
      rcases ran_bind ran with ⟨qualified, _, _, _, _, continued⟩ | ⟨_, impossible, _⟩
      · rcases ran_bind continued with ⟨others, _, _, _, planned, finished⟩ | ⟨_, impossible, _⟩
        · have later := ih planned
          split at finished
          · obtain ⟨_, same⟩ := ran_done finished
            cases same
            exact later.cons_cons _
          · obtain ⟨_, same⟩ := ran_done finished
            cases same
            exact later.cons_cons _
          · obtain ⟨_, same⟩ := ran_done finished
            cases same
            exact later.cons _
        · cases impossible
      · cases impossible

/-- The actions of a player have different links, as the rows have. -/
theorem syncForPlayer_ran
    (keyed : ∀ guildIds (rows : List LinkRow), possible (.selectRoleLinks guildIds) (.ok rows) →
      (rows.map LinkRow.link).Nodup)
    (ran : Ran possible (syncForPlayer engines discordId) history (.ok actions)) :
    (actions.map Action.link).Nodup := by
  obtain ⟨guilds, rest, _, _, continued⟩ := ran_call ran
  cases guilds with
  | error error => cases (ran_fail continued).2
  | ok guildIds =>
      change Ran possible (if guildIds.isEmpty then _ else _) rest _ at continued
      split at continued
      · cases (ran_done continued).2
        exact List.nodup_nil
      · obtain ⟨links, others, _, answered, continued⟩ := ran_call continued
        cases links with
        | error error => cases (ran_fail continued).2
        | ok rows =>
            change Ran possible (if rows.isEmpty then _ else _) others _ at continued
            split at continued
            · cases (ran_done continued).2
              exact List.nodup_nil
            · rcases ran_ask_bind continued with ⟨isLinked, _, _, continued⟩ | ⟨_, _, impossible⟩
              · rcases ran_ask_bind continued with ⟨existing, _, _, planned⟩ | ⟨_, _, impossible⟩
                · exact (keyed guildIds rows answered).sublist (planActions_ran planned)
                · cases impossible
              · cases impossible

/-- The reads of a player job neither send a request nor delete a link. -/
theorem playerReads_quiet {result : Except AppError (List Action)}
    (ran : Ran Step.Possible ((syncForPlayer engines discordId).expand (SyncOp.steps crates)) log result) :
    (∀ request answer, (⟨.request request, answer⟩ : Performed Step _ _) ∉ log) ∧
      ∀ link outcome, (⟨.own (.deleteRoleLink link), outcome⟩ : Performed Step _ _) ∉ log := by
  obtain ⟨history, logs, rfl, carried, read⟩ := ran_expand ran
  have reads := ran_only syncForPlayer_only read
  constructor
  · intro request answer inside
    obtain ⟨performed, member, calls, _⟩ := request_carried carried inside
    rw [SyncOp.callsRoleLogic, part_of_reads (reads performed member).1] at calls
    cases calls
  · intro link outcome inside
    cases (reads _ ((own_carried carried rfl).mp inside)).1

/-- The run of one action is about its link alone. -/
theorem action_steps {action : Action} {result : Except AppError Unit}
    (ran : Ran Step.Possible ((performAction discordId action).expand (SyncOp.steps crates)) log result) :
    Heeds log result ∧
      (∀ request answer, (⟨.request request, answer⟩ : Performed Step _ _) ∈ log →
        request.link = action.link) ∧
      ∀ link outcome, (⟨.own (.deleteRoleLink link), outcome⟩ : Performed Step _ _) ∈ log →
        link = action.link := by
  obtain ⟨history, logs, rfl, carried, acted⟩ := ran_expand ran
  have acts := performAction_ran acted
  refine ⟨heeds_of_responds carried acts.toResponds ?_, ?_, ?_⟩
  · rintro ⟨request, answer, inside, session, _⟩
    obtain ⟨performed, member, _, weighs⟩ := request_carried carried inside
    have uploads := weighs.uploads session
    rw [acts.single performed member] at uploads
    cases uploads
  · intro request answer inside
    obtain ⟨performed, member, calls, weighs⟩ := request_carried carried inside
    exact Option.some.inj (weighs.own.symm.trans (acts.own performed member calls))
  · intro link outcome inside
    exact acts.deletes link outcome ((own_carried carried rfl).mp inside)

/-- A player job heeds every answer. -/
theorem player_heeds {result : Except AppError Unit} (ran : PlayerRan engines crates discordId log result) :
    Heeds log result := by
  cases ran with
  | failed read =>
      intro request answer inside
      exact absurd inside ((playerReads_quiet read).1 request answer)
  | @acted reads acted actions logs read each merged =>
      obtain ⟨unsent, undeleted⟩ := playerReads_quiet read
      have distinct : (actions.map Action.link).Nodup := by
        obtain ⟨_, _, _, _, planned⟩ := ran_expand read
        refine syncForPlayer_ran (fun guildIds rows answered => ?_) planned
        obtain ⟨part, selected⟩ := answered
        exact (ran_ask selected).2 rows rfl
      obtain ⟨length, each⟩ := List.forall₂_iff_get.mp each
      intro request answer inside sent
      have asked : (⟨.request request, answer⟩ : Performed Step _ _) ∈ acted :=
        (List.mem_append.mp inside).resolve_left (unsent request answer)
      obtain ⟨own, member, requested⟩ := (merged.mem_iff _).mp asked
      obtain ⟨index, bound, rfl⟩ := List.mem_iff_getElem.mp member
      obtain ⟨heeds, about, _⟩ := action_steps (each index (length ▸ bound) bound)
      obtain ⟨gone, inactive⟩ := heeds request answer requested sent
      refine ⟨fun refused => ?_, fun refused => ?_⟩
      · obtain ⟨ended, outcome, deleted, _⟩ := gone refused
        exact ⟨ended,
          deletes_of_mem (List.mem_append_right _ ((merged.mem_iff _).mpr ⟨_, member, deleted⟩))⟩
      · obtain ⟨ended, kept⟩ := inactive refused
        refine ⟨ended, fun outcome deleted => ?_⟩
        have removed := (List.mem_append.mp deleted).resolve_left (undeleted request.link outcome)
        obtain ⟨other, another, inOther⟩ := (merged.mem_iff _).mp removed
        obtain ⟨position, within, rfl⟩ := List.mem_iff_getElem.mp another
        obtain ⟨_, _, deletes⟩ := action_steps (each position (length ▸ within) within)
        have first : position < (actions.map Action.link).length := by
          rw [List.length_map, length]
          exact within
        have second : index < (actions.map Action.link).length := by
          rw [List.length_map, length]
          exact bound
        have same : (actions.map Action.link)[position] = (actions.map Action.link)[index] := by
          rw [List.getElem_map, List.getElem_map]
          exact (deletes _ _ inOther).symm.trans (about _ _ requested)
        obtain rfl : position = index := (distinct.getElem_inj_iff).mp same
        exact kept outcome inOther

end Player

/-- The job of a link heeds every answer exactly when no request of an upload session is told that the link
is gone or inactive. The job of a player heeds every answer. -/
theorem link_refusals_heeded (engines : Engines) (crates : Crates) :
    (∀ link log result, LinkRan crates link log result → (Heeds log result ↔ ¬RefusedInSession log)) ∧
      ∀ discordId log result, PlayerRan engines crates discordId log result → Heeds log result := by
  refine ⟨fun link log result ran => ?_, fun discordId log result => player_heeds⟩
  obtain ⟨history, logs, rfl, carried, finished⟩ := ran_expand ran
  exact heeds_iff carried (syncForRoleLink_ran finished)

section Runs

variable {crates : Crates}

/-- The requests of a call are steps of the job. -/
theorem ran_sends {A : Type} {call : Calls A} {traffic : Traffic} {result : Except AppError A}
    (ran : Ran Answered call traffic result) :
    Ran Step.Possible (sends call) (traffic.map sentStep) result := by
  induction ran with
  | done value => exact .done value
  | fail error => exact .fail error
  | @call request next answer _ _ answered _ ih =>
      have asked : Ran Step.Possible (Program.ask (Step.request request)) [⟨.request request, answer⟩] answer :=
        ran_asked answered
      exact @ran_expand_call _ _ _ _ _ _ _ (fun request => Program.ask (Step.request request)) _ _ _ _ _ _
        asked ih

def anyPlayer : LinkRow := ⟨("guild", "role"), "token", RuleTree.toValue ⟨true, .osu, []⟩⟩

def revoked : Response := ⟨403, .ok rlLinkGoneErrorMsg, .ok .null⟩

/-- The sample answer says that the link is gone. -/
theorem revoked_gone : Gone (.ok revoked) := ⟨revoked, rfl, rfl, by decide⟩

/-- The job finds the row of the link and the members of the guild. -/
theorem found_ran (members : List DiscordId) :
    Ran Step.Possible ((SyncOp.selectRoleLink ("guild", "role")).steps crates)
        [⟨.own (.selectRoleLink ("guild", "role")), .ok (some anyPlayer)⟩] (.ok (some anyPlayer)) ∧
      Ran Step.Possible ((SyncOp.fetchGuildMemberIds "guild").steps crates)
        [⟨.own (.fetchGuildMemberIds "guild"), .ok members⟩] (.ok members) :=
  ⟨ran_asked trivial, ran_asked trivial⟩

/-- The link is gone when the job asks for its limit. -/
def revokedLog : StepLog :=
  [⟨.own (.selectRoleLink ("guild", "role")), .ok (some anyPlayer)⟩,
    ⟨.own (.fetchGuildMemberIds "guild"), .ok ["1"]⟩,
    ⟨.request ⟨("guild", "role"), "token", .getUsers⟩, .ok revoked⟩,
    ⟨.own (.deleteRoleLink ("guild", "role")), .ok ()⟩]

/-- The job finds its link gone, deletes it and ends well. -/
theorem revokedLog_ran : LinkRan crates ("guild", "role") revokedLog (.ok ()) := by
  obtain ⟨row, members⟩ := @found_ran crates ["1"]
  have informed : Ran Step.Possible ((SyncOp.getUserInfo ("guild", "role") "token").steps crates)
      [⟨.request ⟨("guild", "role"), "token", .getUsers⟩, .ok revoked⟩]
      (.error AppError.roleLinkNotFound) := .call (fun _ => nofun) (.fail AppError.roleLinkNotFound)
  have deleted : Ran Step.Possible ((SyncOp.deleteRoleLink ("guild", "role")).steps crates)
      [⟨.own (.deleteRoleLink ("guild", "role")), .ok ()⟩] (.ok ()) := ran_asked trivial
  exact ran_expand_call row (ran_expand_call members (ran_expand_call informed
    (ran_expand_call deleted (.done ()))))

/-- The job of the sample heeds the answer. -/
theorem revoked_link_heeded : Heeds revokedLog (.ok ()) := by
  refine ((link_refusals_heeded Sample.letterEngines plainCrates).1 _ _ _ revokedLog_ran).mpr ?_
  rintro ⟨request, answer, inside, session, _⟩
  simp only [revokedLog, List.mem_cons, List.not_mem_nil, or_false] at inside
  rcases inside with same | same | same | same <;> cases same
  cases session

/-- This limit admits all of the members. -/
def widelyLimited : Response :=
  accepted (.object [("data", .object [("user_limit", .number (.posInt ⟨200000, by decide⟩))])])

def refusal : AppError := failed plainCrates "Upload chunk" revoked

/-- The link is gone when the job sends the first chunk of its list. -/
def refusedUpload : Traffic :=
  [⟨⟨("guild", "role"), "token", .postUpload⟩, .ok started⟩,
    ⟨⟨("guild", "role"), "token", .postChunk "u" (toString firstUser :: laterUsers.take (chunkSize - 1))⟩,
      .ok revoked⟩,
    ⟨⟨("guild", "role"), "token", .deleteUpload "u"⟩, .ok revoked⟩]

def refusedLog : StepLog :=
  ⟨.own (.selectRoleLink ("guild", "role")), .ok (some anyPlayer)⟩ ::
    ⟨.own (.fetchGuildMemberIds "guild"), .ok manyUsers⟩ ::
    ⟨.request ⟨("guild", "role"), "token", .getUsers⟩, .ok widelyLimited⟩ ::
    ⟨.own (.selectLinked manyUsers 200000), .ok manyUsers⟩ ::
    ⟨.own (.selectAssigned ("guild", "role")), .ok []⟩ :: refusedUpload.map sentStep

/-- The first chunk is refused, and the upload fails with a general error. -/
theorem refusedUpload_ran :
    Ran Answered (uploadUsers plainCrates ("guild", "role") "token" manyUsers) refusedUpload
      (.error refusal) := by
  unfold uploadUsers
  rw [if_neg (Nat.not_le_of_lt manyUsers_long), manyUsers_chunks]
  exact .call (fun _ => nofun) (.call (fun _ => nofun) (.call (fun _ => nofun) (.fail refusal)))

/-- The job fails with the general error and deletes nothing. -/
theorem refusedLog_ran : LinkRan plainCrates ("guild", "role") refusedLog (.error refusal) := by
  obtain ⟨row, members⟩ := @found_ran plainCrates manyUsers
  have informed : Ran Step.Possible ((SyncOp.getUserInfo ("guild", "role") "token").steps plainCrates)
      [⟨.request ⟨("guild", "role"), "token", .getUsers⟩, .ok widelyLimited⟩] (.ok (0, 200000)) :=
    .call (fun _ => nofun) (.done (0, 200000))
  have selected : Ran Step.Possible ((SyncOp.selectLinked manyUsers 200000).steps plainCrates)
      [⟨.own (.selectLinked manyUsers 200000), .ok manyUsers⟩] (.ok manyUsers) := ran_asked trivial
  have current : Ran Step.Possible ((SyncOp.selectAssigned ("guild", "role")).steps plainCrates)
      [⟨.own (.selectAssigned ("guild", "role")), .ok []⟩] (.ok []) := ran_asked trivial
  have uploaded : Ran Step.Possible
      ((SyncOp.uploadUsers ("guild", "role") manyUsers "token").steps plainCrates)
      (refusedUpload.map sentStep) (.error refusal) := ran_sends refusedUpload_ran
  rw [refusedLog, ← List.append_nil (refusedUpload.map sentStep)]
  exact ran_expand_call row (ran_expand_call members (ran_expand_call informed
    (ran_expand_call selected (ran_expand_call current (ran_expand_call uploaded (.fail refusal))))))

/-- The link is gone, but the job fails with another error and keeps its row. -/
theorem refused_upload_unheeded :
    LinkRan plainCrates ("guild", "role") refusedLog (.error refusal) ∧
      ¬Heeds refusedLog (.error refusal) := by
  refine ⟨refusedLog_ran, fun heeds => ?_⟩
  have inside : (⟨.request ⟨("guild", "role"), "token", .postChunk "u"
      (toString firstUser :: laterUsers.take (chunkSize - 1))⟩, .ok revoked⟩ :
        Performed Step Step.Value AppError) ∈ refusedLog := by
    simp [refusedLog, refusedUpload, sentStep]
  obtain ⟨gone, _⟩ := heeds _ _ inside rfl
  cases (gone revoked_gone).1

end Runs

end OsuPlayerRole.Sync

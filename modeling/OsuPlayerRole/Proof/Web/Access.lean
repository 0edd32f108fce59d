/-
This file shows which operations the checks of a request perform and what they establish.
-/
import OsuPlayerRole.Construction.Routes.Router

namespace OsuPlayerRole.Web

open Auth Resumption Program

/-- An operation that reads leaves the tables alone. -/
def WebOp.reads : WebOp → Prop
  | .insertRoleLink _ _ => False
  | .insertGuildSettings _ => False
  | .deleteRoleLink _ _ => False
  | .updateRuleTree _ _ _ => False
  | .upsertViewPermission _ _ => False
  | .enqueuePlayerSync _ => False
  | .enqueueConfigSync _ => False
  | .deleteOsuUser _ => False
  | .insertOauthState _ _ _ _ _ => False
  | .consumeOauthState _ => False
  | .linkAccount _ _ _ => False
  | .refreshAccount _ _ _ _ => False
  | .updateRefreshed _ _ => False
  | .updateFailed _ _ => False
  | _ => True

section Operations

variable (state : AppState) (outside : Outside) (tables : Tables)

/-- A reading operation leaves the tables. -/
theorem perform_reads {operation : WebOp} (reads : operation.reads) :
    (perform state outside tables operation).2 = tables := by
  cases operation <;> first | rfl | exact absurd reads not_false

/-- A reading operation leaves the tables, whether it is served or refused. -/
theorem answer_reads {operation : WebOp} (reads : operation.reads) :
    (answer state outside tables operation).2 = tables := by
  unfold answer
  split
  · rfl
  · exact perform_reads state outside tables reads

variable {outside tables} {A : Type} {program : WebProgram A}

/-- A program whose operations all read runs along reads. -/
theorem along_reads (only : program.Only WebOp.reads) :
    Along (answer state outside) (fun _ operation => operation.reads) tables program :=
  along_of_only (fun _ _ reads => reads) only tables

/-- A handler that only reads leaves the tables. -/
theorem run_reads
    (along : Along (answer state outside) (fun _ operation => operation.reads) tables program) :
    (run (answer state outside) tables program).2 = tables := by
  refine run_along (fun after => after = tables) ?_ rfl along
  intro world operation same reads
  rw [answer_reads state outside world reads]
  exact same

end Operations

section Only

variable {allowed : WebOp → Prop}

/-- A check performs nothing. -/
theorem only_check {A : Type} (answer : Except AppError A) : (check answer).Only allowed := by
  cases answer <;> trivial

variable {state : AppState} {headers : Headers} {guildId : GuildId} {roleId : RoleId}

/-- The checks of a request read the clock and ask the gateway. -/
structure Checks (allowed : WebOp → Prop) : Prop where
  utcNow : allowed .utcNow
  guildPermission : ∀ cookie guildId, allowed (.guildPermission cookie guildId)

/-- The check of a manager performs the gateway's reads alone. -/
theorem only_requireManager (checks : Checks allowed) :
    (Admin.requireManager state headers guildId).Only allowed :=
  only_bind (only_ask checks.utcNow) fun _ =>
    only_bind (only_check _) fun _ =>
      only_bind (only_ask (checks.guildPermission _ _)) fun _ =>
        only_bind (only_check _) fun _ => only_bind (only_check _) fun _ => trivial

/-- The check of an iframe session reads the clock alone. -/
theorem only_requireIframeSession (checks : Checks allowed) (bearer : String) :
    (Admin.requireIframeSession state bearer).Only allowed := by
  refine only_bind (only_ask checks.utcNow) fun now => ?_
  split <;> trivial

/-- The check of the access performs its reads alone. -/
theorem only_requireRoleConfigAccess (checks : Checks allowed) :
    (Admin.requireRoleConfigAccess state headers guildId roleId).Only allowed := by
  unfold Admin.requireRoleConfigAccess
  split
  · refine only_bind (only_requireIframeSession checks _) fun session => ?_
    split <;> trivial
  · exact only_bind (only_requireManager checks) fun _ => trivial

/-- The check of an administrator performs its reads alone. -/
theorem only_requireGuildAdmin (checks : Checks allowed) :
    (Users.requireGuildAdmin state headers guildId).Only allowed := by
  unfold Users.requireGuildAdmin
  split
  · refine only_bind (only_requireIframeSession checks _) fun session => ?_
    split <;> trivial
  · exact only_requireManager checks

/-- The fetch of the pages asks the osu! API alone. -/
theorem only_fetchPages (page : ∀ accessToken osuUserId mode, allowed (.getUser accessToken osuUserId mode))
    (accessToken : String) (osuUserId : OsuUserId) (modes : List Mode) :
    (Oauth.fetchPages accessToken osuUserId modes).Only allowed := by
  induction modes with
  | nil => trivial
  | cons mode rest ih =>
      exact only_bind (only_result (page _ _ _)) fun _ => only_bind ih fun _ => trivial

/-- A registration inserts its link and the settings of its guild. -/
theorem only_register (register : ∀ token, allowed (.insertRoleLink (guildId, roleId) token))
    (settings : allowed (.insertGuildSettings guildId)) :
    (Plugin.register headers guildId roleId).Only allowed := by
  refine only_bind (only_check _) fun token => ?_
  exact only_bind (only_ask (register token)) fun _ => only_ask settings

/-- A deletion deletes its link alone. -/
theorem only_deleteConfig (delete : ∀ token, allowed (.deleteRoleLink (guildId, roleId) token)) :
    (Plugin.deleteConfig headers guildId roleId).Only allowed := by
  refine only_bind (only_check _) fun token => ?_
  refine only_bind (only_ask (delete token)) fun removed => ?_
  split <;> trivial

section Writes

variable (reads : ∀ operation, operation.reads → allowed operation)

include reads

/-- The checks are reads. -/
theorem checks_of_reads : Checks allowed := ⟨reads _ trivial, fun _ _ => reads _ trivial⟩

/-- The unlinking deletes an account and enqueues its job. -/
theorem only_verifyUnlink (delete : ∀ discordId, allowed (.deleteOsuUser discordId))
    (enqueue : ∀ discordId, allowed (.enqueuePlayerSync discordId)) :
    (Verify.verifyUnlink state headers).Only allowed := by
  refine only_bind (only_check _) fun _ => ?_
  refine only_bind (only_ask (reads _ trivial)) fun now => ?_
  refine only_bind (only_check _) fun session => ?_
  refine only_bind (only_ask (delete _)) fun removed => ?_
  split
  · trivial
  · exact only_ask (enqueue _)

/-- A save updates its link and enqueues its job. -/
theorem only_roleConfigSave
    (update : ∀ tree expected, allowed (.updateRuleTree tree (guildId, roleId) expected))
    (enqueue : allowed (.enqueueConfigSync (guildId, roleId))) (body : Admin.RoleConfigSaveBody) :
    (Admin.roleConfigSave state headers guildId roleId body).Only allowed := by
  refine only_bind (only_check _) fun _ => ?_
  refine only_bind (only_requireRoleConfigAccess (checks_of_reads reads)) fun access => ?_
  split
  · trivial
  · refine only_bind (only_check _) fun tree => ?_
    refine only_bind (only_ask (update _ _)) fun affected => ?_
    split
    · refine only_bind (only_ask (reads _ trivial)) fun existing => ?_
      split <;> trivial
    · refine only_bind (only_ask (reads _ trivial)) fun version => ?_
      exact only_bind (only_result enqueue) fun _ => trivial

/-- The setting writes the permission of its guild. -/
theorem only_setViewPermission
    (upsert : ∀ permission, allowed (.upsertViewPermission guildId permission)) (permission : String) :
    (Users.setViewPermission state headers guildId permission).Only allowed := by
  refine only_bind (only_check _) fun _ => ?_
  refine only_bind (only_requireGuildAdmin (checks_of_reads reads)) fun _ => ?_
  split
  · exact only_bind (only_ask (upsert _)) fun _ => trivial
  · trivial

end Writes

end Only

section Established

variable {state : AppState} {outside : Outside} {tables after : Tables} {headers : Headers}
  {guildId : GuildId} {roleId : RoleId}

/-- The clock that was read is the one outside. -/
theorem utcNow_ok {now : Timestamp}
    (asked : run (answer state outside) tables (ask .utcNow) = (.ok now, after)) :
    outside.refused .utcNow = none ∧ now = outside.now ∧ after = tables := by
  unfold ask at asked
  rw [run_ask] at asked
  unfold answer at asked
  split at asked
  · cases asked
  · next served =>
      cases asked
      exact ⟨served, rfl, rfl⟩

/-- A check that passes has no effect. -/
theorem check_ok {A : Type} {checked : Except AppError A} {value : A}
    (passed : run (answer state outside) tables (check checked) = (.ok value, after)) :
    checked = .ok value ∧ after = tables := by
  cases checked with
  | ok other =>
      cases passed
      exact ⟨rfl, rfl⟩
  | error error => cases passed

/-- A successful operation was not refused and was performed. -/
theorem ask_ok {operation : WebOp} {value : operation.Value}
    (asked : run (answer state outside) tables (ask operation) = (.ok value, after)) :
    outside.refused operation = none ∧ perform state outside tables operation = (.ok value, after) := by
  unfold ask at asked
  rw [run_ask] at asked
  unfold answer at asked
  split at asked
  · cases asked
  · next served => exact ⟨served, asked⟩

/-- A caught operation with a value was not refused and was performed. -/
theorem result_ok {operation : WebOp} {value : operation.Value}
    (asked : run (answer state outside) tables (result operation) = (.ok (.ok value), after)) :
    outside.refused operation = none ∧ perform state outside tables operation = (.ok value, after) := by
  unfold result at asked
  rw [run_result] at asked
  unfold answer at asked
  split at asked
  · cases asked
  · next served =>
      obtain ⟨answered, rfl⟩ := Prod.mk.inj asked
      exact ⟨served, Prod.ext (Except.ok.inj answered) rfl⟩

/-- An admitted bearer verifies at the moment of the request. -/
theorem requireIframeSession_ok {bearer : String} {session : RlToken.IframeSession}
    (admitted : run (answer state outside) tables (Admin.requireIframeSession state bearer) =
      (.ok session, after)) :
    outside.refused .utcNow = none ∧ after = tables ∧
      RlToken.verifyIframeSession state.signing outside.now bearer state.config.sessionSecret =
        some session := by
  obtain ⟨now, middle, asked, remaining⟩ := run_bind_ok admitted
  obtain ⟨served, rfl, rfl⟩ := utcNow_ok asked
  split at remaining
  · next verified =>
      cases remaining
      exact ⟨served, rfl, verified⟩
  · cases remaining

/-- A bearer gives access to its own link, with its own flag. -/
theorem requireRoleConfigAccess_ok {bearer : String} {access : Admin.RoleConfigAccess}
    (carried : extractBearer headers = some bearer)
    (admitted : run (answer state outside) tables
      (Admin.requireRoleConfigAccess state headers guildId roleId) = (.ok access, after)) :
    after = tables ∧ ∃ session,
      RlToken.verifyIframeSession state.signing outside.now bearer state.config.sessionSecret =
        some session ∧
      session.guildId = guildId ∧ session.roleId = roleId ∧ access.readOnly = session.readOnly := by
  unfold Admin.requireRoleConfigAccess at admitted
  rw [carried] at admitted
  obtain ⟨session, middle, opened, remaining⟩ := run_bind_ok admitted
  obtain ⟨_, rfl, verified⟩ := requireIframeSession_ok opened
  split at remaining
  · cases remaining
  · next matched =>
      rw [not_or, not_not, not_not] at matched
      cases remaining
      exact ⟨rfl, session, verified, matched.1, matched.2, rfl⟩

/-- An admitted administrator presents an iframe session of the guild. -/
theorem requireGuildAdmin_ok {bearer : String} {discordId : DiscordId}
    (carried : extractBearer headers = some bearer)
    (admitted : run (answer state outside) tables
      (Users.requireGuildAdmin state headers guildId) = (.ok discordId, after)) :
    outside.refused .utcNow = none ∧ after = tables ∧ ∃ session,
      RlToken.verifyIframeSession state.signing outside.now bearer state.config.sessionSecret =
        some session ∧ session.guildId = guildId := by
  unfold Users.requireGuildAdmin at admitted
  rw [carried] at admitted
  obtain ⟨session, middle, opened, remaining⟩ := run_bind_ok admitted
  obtain ⟨served, rfl, verified⟩ := requireIframeSession_ok opened
  split at remaining
  · cases remaining
  · next matched =>
      cases remaining
      exact ⟨served, rfl, session, verified, not_not.mp matched⟩

end Established

end OsuPlayerRole.Web

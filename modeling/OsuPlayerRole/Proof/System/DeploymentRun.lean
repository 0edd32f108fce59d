/-
This file shows what the database keeps in every run of all tasks together.
-/
import OsuPlayerRole.Proof.System.StoredRows
import OsuPlayerRole.Proof.Account.RefreshRun
import OsuPlayerRole.Proof.Web.OutsiderRun
import OsuPlayerRole.Proof.Web.RuleGrants

namespace OsuPlayerRole.Deployment

open Web Serving Resumption Program RuleValidator

/-- An operation stores only a rule that was accepted, and only a permission that exists. -/
def sane (engines : Engines) : WebOp → Prop
  | .updateRuleTree tree _ _ => ∃ rule body, parseRuleTree engines body = .ok rule ∧ tree = rule.toValue
  | .upsertViewPermission _ permission => permission ∈ Users.viewPermissions
  | _ => True

section Operations

variable {state : AppState} {tables after : Tables}

/-- The transaction of an account leaves the queue alone. -/
theorem accountTransaction_jobs {parse : Oauth.ParseInstant} {now : Timestamp} {discordId : DiscordId}
    {user : Osu.OsuUser} {discordName : Option String} {osuUserId : OsuUserId}
    {pages : Mode → Option Osu.OsuUser}
    (written : Oauth.accountTransaction parse now discordId user discordName osuUserId pages tables =
      .ok after) : after.jobs = tables.jobs := by
  refine of_accountTransaction (fun other => other.jobs = tables.jobs) (fun _ _ same => same) ?_ ?_ rfl
    written
  · intro before stored fresh merge keeps same upserted
    unfold Tables.upsertOsuUser at upserted
    dsimp only at upserted
    split at upserted
    · split at upserted
      · cases upserted
        exact same
      · cases upserted
    · cases upserted
  · intro before stored fresh merge keeps same upserted
    unfold Tables.upsertOsuStats at upserted
    split at upserted
    · cases upserted
      exact same
    · cases upserted

/-- A sane operation keeps the rows sound. -/
theorem perform_sound (sound : Sound state.engines tables) (outside : Outside) {operation : WebOp}
    (sensible : sane state.engines operation) :
    Sound state.engines (perform state outside tables operation).2 := by
  have apart (rest : ¬operation.writesLinks) (jobs : JobsFrom tables (perform state outside tables operation).2) :
      Sound state.engines (perform state outside tables operation).2 :=
    sound.from (perform_kept state outside tables rest) jobs
  have still (after : Tables) (same : after.jobs = tables.jobs) : JobsFrom tables after :=
    jobsFrom_of_eq same
  cases operation with
  | insertRoleLink link token =>
      exact of_writing (Sound state.engines) sound fun _ => sound.insertRoleLink
  | insertGuildSettings guildId =>
      exact of_writing (Sound state.engines) sound fun _ => sound.insertGuildSettings
  | deleteRoleLink link token =>
      refine of_returning (Sound state.engines) sound fun count after written => ?_
      obtain ⟨_, _, remaining⟩ := Checked.bind_ok written
      cases remaining
      exact sound.deleteRoleLinks _
  | updateRuleTree tree link expected =>
      obtain ⟨rule, body, parsed, rfl⟩ := sensible
      exact of_returning (Sound state.engines) sound fun _ _ => sound.updateRuleTree parsed
  | upsertViewPermission guildId permission =>
      exact of_writing (Sound state.engines) sound fun _ => sound.upsertViewPermission sensible
  | enqueuePlayerSync discordId =>
      exact apart not_false (of_writing (JobsFrom tables) (still tables rfl) fun _ => jobsFrom_enqueuePlayerSync)
  | enqueueConfigSync link =>
      exact apart not_false (of_writing (JobsFrom tables) (still tables rfl) fun _ => jobsFrom_enqueueConfigSync)
  | deleteOsuUser discordId =>
      refine apart not_false (of_returning (JobsFrom tables) (still tables rfl) fun account after written => ?_)
      obtain ⟨_, _, remaining⟩ := Checked.bind_ok written
      cases remaining
      exact still _ rfl
  | insertOauthState token codeVerifier discordId returnTo expiresAt =>
      refine apart not_false (of_writing (JobsFrom tables) (still tables rfl) fun after written => ?_)
      obtain ⟨_, _, remaining⟩ := Checked.bind_ok written
      split at remaining
      · cases remaining
        exact still _ rfl
      · cases remaining
  | consumeOauthState token =>
      refine apart not_false (of_returning (JobsFrom tables) (still tables rfl) fun row after written => ?_)
      cases consumed : tables.consumeOauthState outside.now token with
      | error error =>
          rw [consumed] at written
          cases written
      | ok found =>
          rw [consumed] at written
          cases written
          obtain ⟨_, _, remaining⟩ := Checked.bind_ok consumed
          cases remaining
          exact still _ rfl
  | linkAccount discordId user pages =>
      exact apart not_false (of_committing (JobsFrom tables) (still tables rfl) fun _ written =>
        still _ (accountTransaction_jobs written))
  | refreshAccount discordId osuUserId primary pages =>
      exact apart not_false (of_committing (JobsFrom tables) (still tables rfl) fun _ written =>
        still _ (accountTransaction_jobs written))
  | updateRefreshed discordId next => exact apart not_false (still _ rfl)
  | updateFailed discordId next =>
      refine apart not_false (of_writing (JobsFrom tables) (still tables rfl) fun after written => ?_)
      unfold Tables.updateFailed at written
      split at written
      · cases written
        exact still _ rfl
      · obtain ⟨_, _, remaining⟩ := Checked.bind_ok written
        cases remaining
        exact still _ rfl
  | _ => exact sound

/-- Every operation of a request keeps the tables sound. -/
theorem answer_sound (sound : Sound state.engines tables) (outside : Outside) {operation : WebOp}
    (sensible : sane state.engines operation) :
    Sound state.engines (answer state outside tables operation).2 := by
  unfold answer
  split
  · exact sound
  · exact perform_sound sound outside sensible

end Operations

section Others

variable {engines : Engines}

/-- A failed statement of a job leaves the old tables, and another one the written ones. -/
theorem sound_executed {world : Sync.World} {written : Except DbError Tables}
    (sound : Sound engines world.tables)
    (each : ∀ after, written = .ok after → Sound engines after) :
    Sound engines (Sync.executed world written).2.tables := by
  cases written with
  | ok after => exact each after rfl
  | error error => exact sound

/-- The statements of the jobs write lists and delete links. -/
theorem sync_sound {world : Sync.World} (sound : Sound engines world.tables) (outcome : Sync.Outcome)
    (operation : Sync.SyncOp) :
    Sound engines (Sync.answer engines outcome world operation).2.tables := by
  have listed (link : Link) (ids : Finset DiscordId) :
      Sound engines (Sync.executed world (world.tables.setAssignments link ids)).2.tables := by
    refine sound_executed sound fun after written => ?_
    unfold Tables.setAssignments at written
    split at written
    · cases written
      exact ⟨sound.jobs, sound.rules, sound.permissions⟩
    · cases written
  cases outcome with
  | refused error => exact sound
  | served =>
      cases operation with
      | insertAssignment link discordId => exact listed _ _
      | deleteAssignment link discordId => exact listed _ _
      | clearAssignments link => exact listed _ _
      | replaceAssignments link ids =>
          change Sound engines (Sync.executed world (if ids.Nodup then _ else _)).2.tables
          split
          · exact listed _ _
          · exact sound
      | deleteRoleLink link => exact sound.deleteRoleLinks _
      | _ => exact sound

/-- Every operation of the reconciliation keeps the tables sound. -/
theorem reconcile_sound {tables : Tables} (sound : Sound engines tables) (refused : Option AppError)
    (now : Timestamp) (operation : Reconcile.ReconcileOp) :
    Sound engines (Reconcile.answer refused now tables operation).2 := by
  have collected (condition : Job → Bool) : Sound engines (Jobs.deleteJobs tables condition) :=
    sound.from ⟨rfl, rfl, rfl⟩ (jobsFrom_deleteJobs condition)
  cases refused with
  | some error => exact sound
  | none =>
      cases operation with
      | gcOauthStates => exact ⟨sound.jobs, sound.rules, sound.permissions⟩
      | gcDead => exact collected _
      | gcCompleted => exact collected _
      | selectRoleLinks => exact sound
      | enqueueConfigSync link =>
          exact of_writing (Sound engines) sound fun _ written =>
            sound.from (enqueue_kept written) (jobsFrom_enqueueConfigSync written)

end Others

section Programs

variable {state : AppState} {headers : Headers} {guildId : GuildId} {roleId : RoleId}

theorem sane_of_reads (operation : WebOp) (reads : operation.reads) : sane state.engines operation := by
  cases operation <;> trivial

/-- A save asks for sane statements only. -/
theorem roleConfigSave_sane (body : Admin.RoleConfigSaveBody) :
    (Admin.roleConfigSave state headers guildId roleId body).Only (sane state.engines) := by
  refine only_bind (only_check _) fun _ => ?_
  refine only_bind (only_requireRoleConfigAccess (checks_of_reads sane_of_reads)) fun access => ?_
  split
  · trivial
  · cases parsed : parseRuleTree state.engines body.tree with
    | error error => trivial
    | ok tree =>
        have accepted (expected : Int4) :
            sane state.engines (.updateRuleTree tree.toValue (guildId, roleId) expected) :=
          ⟨tree, body.tree, parsed, rfl⟩
        change (Admin.storeTree guildId roleId tree body.ruleTreeVersion).Only _
        refine only_bind (only_ask (accepted _)) fun affected => ?_
        split
        · refine only_bind (only_ask trivial) fun existing => ?_
          split <;> trivial
        · refine only_bind (only_ask trivial) fun version => ?_
          exact only_bind (only_result trivial) fun _ => trivial

/-- So does the setting of the permission. -/
theorem setViewPermission_sane (permission : String) :
    (Users.setViewPermission state headers guildId permission).Only (sane state.engines) := by
  refine only_bind (only_check _) fun _ => ?_
  refine only_bind (only_requireGuildAdmin (checks_of_reads sane_of_reads)) fun _ => ?_
  split
  · next valid => exact only_bind (only_ask valid) fun _ => trivial
  · trivial

/-- A program that spares every link stores neither a rule nor a permission. -/
theorem sane_of_spares {A : Type} {program : WebProgram A}
    (spares : ∀ link, program.Only (WebOp.spares link)) : program.Only (sane state.engines) := by
  refine only_mono (fun operation spared => ?_) (only_forall spares)
  cases operation with
  | updateRuleTree tree link expected => exact absurd rfl (spared link)
  | upsertViewPermission guildId permission => exact absurd rfl (spared (guildId, ""))
  | _ => trivial

/-- Every request performs sane operations alone. -/
theorem route_sane (request : Request) : (route state headers request).Only (sane state.engines) := by
  have reading {A : Type} {program : WebProgram A} {image : A → Response}
      (only : program.Only WebOp.reads) :
      (program >>= fun value => .done (image value)).Only (sane state.engines) :=
    only_bind (only_mono sane_of_reads only) fun _ => trivial
  cases request with
  | register guildId roleId => exact only_bind (only_register (fun _ => trivial) trivial) fun _ => trivial
  | getConfig => exact reading getConfig_reads
  | postConfig guildId roleId => exact reading postConfig_reads
  | deleteConfig guildId roleId => exact only_bind (only_deleteConfig fun _ => trivial) fun _ => trivial
  | roleConfigPage guildId roleId rlToken => exact reading (roleConfigPage_reads rlToken)
  | roleConfigData guildId roleId => exact reading roleConfigData_reads
  | roleConfigSave guildId roleId body => exact only_bind (roleConfigSave_sane body) fun _ => trivial
  | roleConfigPreview guildId roleId => exact reading roleConfigPreview_reads
  | roleConfigPreviewEdit guildId roleId body => exact reading (roleConfigPreviewEdit_reads body)
  | setViewPermission guildId permission =>
      exact only_bind (setViewPermission_sane permission) fun _ => trivial
  | usersData guildId => exact reading usersData_reads
  | oauthCallback query => exact only_bind (sane_of_spares fun _ => callback_spares query) fun _ => trivial
  | verifyStatus => exact reading verifyStatus_reads
  | verifyOsu => exact only_bind (sane_of_spares fun _ => verifyOsu_spares) fun _ => trivial
  | verifyUnlink =>
      exact only_bind (only_verifyUnlink sane_of_reads (fun _ => trivial) fun _ => trivial) fun _ => trivial
  | dweebStatus guild => exact reading (dweebStatus_reads guild)
  | rendered => trivial

theorem sane_of_refreshes (operation : WebOp) (refreshes : Refresh.refreshes operation) :
    sane state.engines operation := by
  cases operation <;> trivial

/-- A round of the refresh worker and its branches perform sane operations alone. -/
theorem pass_sane (state : AppState) (job : Nat) :
    (⟨job, Refresh.pass state⟩ : Thread WebOp WebOp.Value AppError).Confined (sane state.engines) :=
  Thread.Confined.mono sane_of_refreshes (Refresh.pass_follows state)

end Programs

section Run

variable {state : AppState} {texts : ErrorTexts} {deployment after : Deployment}

/-- Every task keeps to sane operations, and every job that a worker holds is legible. -/
structure Lawful (state : AppState) (deployment : Deployment) : Prop where
  sound : Sound state.engines deployment.tables
  handlings : ∀ handling ∈ deployment.handlings, handling.program.Only (sane state.engines)
  refreshes : ∀ thread ∈ deployment.refreshes, thread.Confined (sane state.engines)
  workers : ∀ worker ∈ deployment.workers, ∀ job ∈ worker.phase.held, Legible job

/-- Every step of the deployment is lawful. -/
theorem lawful_step (lawful : Lawful state deployment) {event : Event}
    (stepped : deployment.step state texts event = some after) : Lawful state after := by
  cases event with
  | tick elapsed =>
      cases stepped
      exact ⟨lawful.sound, lawful.handlings, lawful.refreshes, lawful.workers⟩
  | surround remote guildsOf membersOf userLimit =>
      cases stepped
      exact ⟨lawful.sound, lawful.handlings, lawful.refreshes, lawful.workers⟩
  | arrive headers request =>
      cases stepped
      refine ⟨lawful.sound, fun handling member => ?_, lawful.refreshes, lawful.workers⟩
      obtain old | fresh := List.mem_append.mp member
      · exact lawful.handlings handling old
      · rw [List.mem_singleton.mp fresh]
        exact route_sane request
  | serve index outside =>
      obtain ⟨⟨handling, tables⟩, moved, rfl⟩ := Option.map_eq_some_iff.mp stepped
      obtain ⟨old, present, advanced⟩ := Option.bind_eq_some_iff.mp moved
      obtain ⟨operation, next, remaining, rfl, rfl⟩ := advance_ok advanced
      have only := lawful.handlings old (List.mem_of_getElem? present)
      rw [remaining] at only
      refine ⟨answer_sound lawful.sound _ only.1, fun other member => ?_, lawful.refreshes, lawful.workers⟩
      obtain kept | rfl := List.mem_or_eq_of_mem_set member
      · exact lawful.handlings other kept
      · exact only.2 _
  | beginRefresh =>
      cases stepped
      refine ⟨lawful.sound, lawful.handlings, fun thread member => ?_, lawful.workers⟩
      obtain old | fresh := List.mem_append.mp member
      · exact lawful.refreshes thread old
      · exact confined_settled (pass_sane state _) thread fresh
  | refresh index outside =>
      obtain ⟨⟨tables, threads⟩, advanced, rfl⟩ := Option.map_eq_some_iff.mp stepped
      obtain ⟨⟨operation, sensible, rfl⟩, confined⟩ := confined_advance lawful.refreshes advanced
      exact ⟨answer_sound lawful.sound _ sensible, lawful.handlings, confined, lawful.workers⟩
  | startWorker workerId =>
      cases stepped
      refine ⟨lawful.sound, lawful.handlings, lawful.refreshes, fun worker member => ?_⟩
      obtain old | fresh := List.mem_append.mp member
      · exact lawful.workers worker old
      · rw [List.mem_singleton.mp fresh]
        exact fun job held => absurd held List.not_mem_nil
  | trigger index =>
      obtain ⟨worker, present, rfl⟩ := Option.map_eq_some_iff.mp stepped
      refine ⟨lawful.sound, lawful.handlings, lawful.refreshes, fun other member => ?_⟩
      obtain kept | rfl := List.mem_or_eq_of_mem_set member
      · exact lawful.workers other kept
      · exact lawful.workers worker (List.mem_of_getElem? present)
  | work index input =>
      obtain ⟨⟨moved, tables⟩, worked, rfl⟩ := Option.map_eq_some_iff.mp stepped
      obtain ⟨worker, present, performed⟩ := Option.bind_eq_some_iff.mp worked
      have steps := JobWorker.steps_of_step performed
      have held := legible_held lawful.sound steps (lawful.workers worker (List.mem_of_getElem? present))
      refine ⟨lawful.sound.from (linksKept_of_steps steps) (jobsFrom_of_steps steps), lawful.handlings,
        lawful.refreshes, fun other member => ?_⟩
      obtain kept | rfl := List.mem_or_eq_of_mem_set member
      · exact lawful.workers other kept
      · exact held
  | dispatch index =>
      obtain ⟨job, _, started⟩ := Option.bind_eq_some_iff.mp stepped
      obtain ⟨dispatch, _, rfl⟩ := Option.map_eq_some_iff.mp started
      exact ⟨lawful.sound, lawful.handlings, lawful.refreshes, lawful.workers⟩
  | sync index outcome =>
      obtain ⟨⟨world, threads⟩, advanced, rfl⟩ := Option.map_eq_some_iff.mp stepped
      obtain ⟨front, job, operation, next, back, _, _, rfl, rfl⟩ := advance_cases advanced
      exact ⟨sync_sound lawful.sound outcome operation, lawful.handlings, lawful.refreshes, lawful.workers⟩
  | beginPass =>
      cases stepped
      exact ⟨lawful.sound, lawful.handlings, lawful.refreshes, lawful.workers⟩
  | reconcile index refused =>
      obtain ⟨⟨pass, tables⟩, moved, rfl⟩ := Option.map_eq_some_iff.mp stepped
      obtain ⟨old, present, advanced⟩ := Option.bind_eq_some_iff.mp moved
      cases old with
      | call operation next =>
          cases advanced
          exact ⟨reconcile_sound lawful.sound refused _ operation, lawful.handlings, lawful.refreshes,
            lawful.workers⟩
      | done value => cases advanced
      | fail error => cases advanced
  | crash =>
      cases stepped
      exact ⟨lawful.sound, fun _ member => absurd member List.not_mem_nil,
        fun _ member => absurd member List.not_mem_nil, fun _ member => absurd member List.not_mem_nil⟩

/-- In every run from an empty database, with any tasks in any order and with any failures, each job
can be dispatched, each rule is read as it was accepted, and each permission exists. -/
theorem deployment_sound (state : AppState) (texts : ErrorTexts) (world : Sync.World)
    (events : List Event) :
    EventRun.Guarded (step state texts)
      (fun deployment _ => Sound state.engines deployment.tables ∧
        ∀ worker ∈ deployment.workers, ∀ job ∈ worker.phase.held, Legible job)
      (start { world with tables := .empty }) events := by
  refine EventRun.guarded_of_stable (Lawful state) (fun _ _ _ lawful stepped => lawful_step lawful stepped)
    (fun _ _ lawful => ⟨lawful.sound, lawful.workers⟩) ?_ events
  exact ⟨sound_empty, fun _ member => absurd member List.not_mem_nil,
    fun _ member => absurd member List.not_mem_nil, fun _ member => absurd member List.not_mem_nil⟩

end Run

end OsuPlayerRole.Deployment

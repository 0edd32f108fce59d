/-
This file shows what a read-only iframe session can write.
-/
import OsuPlayerRole.Proof.Sample
import OsuPlayerRole.Proof.Web.Access
import OsuPlayerRole.Proof.Web.IframeToken

namespace OsuPlayerRole.Web

open Auth Resumption Program RlToken KeyedTable RuleSql

/-- These requests may carry an iframe session. -/
def Request.acceptsBearer : Request → Bool
  | .roleConfigData _ _ => true
  | .roleConfigSave _ _ _ => true
  | .roleConfigPreview _ _ => true
  | .roleConfigPreviewEdit _ _ _ => true
  | .setViewPermission _ _ => true
  | _ => false

/-- The links, the settings, the assignments, the accounts and the queue are as they were. -/
structure Unwritten (before after : Tables) : Prop where
  roleLinks : after.roleLinks = before.roleLinks
  guildSettings : after.guildSettings = before.guildSettings
  roleAssignments : after.roleAssignments = before.roleAssignments
  osuUsers : after.osuUsers = before.osuUsers
  jobs : after.jobs = before.jobs

/-- Equal tables are unwritten. -/
theorem unwritten_of_eq {before after : Tables} (same : after = before) : Unwritten before after := by
  rw [same]
  exact ⟨rfl, rfl, rfl, rfl, rfl⟩

section Reading

variable {state : AppState} {headers : Headers} {guildId : GuildId} {roleId : RoleId}

/-- The checks of a request only read. -/
theorem checks_read : Checks WebOp.reads := ⟨trivial, fun _ _ => trivial⟩

/-- The editor's data is only read. -/
theorem roleConfigData_reads : (Admin.roleConfigData state headers guildId roleId).Only WebOp.reads := by
  refine only_bind (only_requireRoleConfigAccess checks_read) fun access => ?_
  refine only_bind (only_ask trivial) fun stored => ?_
  split
  · trivial
  · exact only_bind (only_ask trivial) fun _ => trivial

/-- The count of a preview is only read. -/
theorem previewCountFor_reads (tree : RuleTree) :
    (Admin.previewCountFor guildId tree).Only WebOp.reads := by
  unfold Admin.previewCountFor
  split
  · trivial
  · refine only_bind (only_result trivial) fun members => ?_
    split
    · trivial
    · split
      · trivial
      · refine only_bind (only_ask trivial) fun linked => ?_
        refine only_bind ?_ fun _ => trivial
        unfold Admin.countMatching
        split
        · trivial
        · exact only_ask trivial

/-- The preview of the stored rule only reads. -/
theorem roleConfigPreview_reads :
    (Admin.roleConfigPreview state headers guildId roleId).Only WebOp.reads := by
  refine only_bind (only_requireRoleConfigAccess checks_read) fun access => ?_
  refine only_bind (only_ask trivial) fun stored => ?_
  split
  · trivial
  · exact previewCountFor_reads _

/-- The preview of an edited rule only reads. -/
theorem roleConfigPreviewEdit_reads (body : RuleValidator.RuleTreeBody) :
    (Admin.roleConfigPreviewEdit state headers guildId roleId body).Only WebOp.reads := by
  refine only_bind (only_check _) fun _ => ?_
  refine only_bind (only_requireRoleConfigAccess checks_read) fun access => ?_
  exact only_bind (only_check _) fun tree => previewCountFor_reads tree

end Reading

section ReadOnly

variable {state : AppState} {outside : Outside} {tables : Tables} {headers : Headers}
  {guildId : GuildId} {roleId : RoleId} {issued : Timestamp} {session : IframeSession}

/-- The token was minted for a session that may only read. -/
structure ReadOnlyBearer (state : AppState) (headers : Headers) (issued : Timestamp)
    (session : IframeSession) : Prop where
  readOnly : session.readOnly = true
  carried : extractBearer headers =
    some (mintIframeSession state.signing issued session state.config.sessionSecret)

/-- A save stops at the flag, before its first write. -/
theorem roleConfigSave_read_only (bearer : ReadOnlyBearer state headers issued session)
    (body : Admin.RoleConfigSaveBody) :
    (run (answer state outside) tables
      (Admin.roleConfigSave state headers guildId roleId body)).2 = tables := by
  apply run_reads
  refine along_bind (along_reads state (only_check _)) fun _ first checked => ?_
  refine along_bind (along_reads state (only_requireRoleConfigAccess checks_read))
    fun access second admitted => ?_
  obtain ⟨_, found, verified, _, _, flag⟩ := requireRoleConfigAccess_ok bearer.carried admitted
  rw [(verify_minted verified).1, bearer.readOnly] at flag
  rw [if_pos flag]
  trivial

/-- The request stores settings that differ from the stored ones. -/
structure SettingsWrite (state : AppState) (outside : Outside) (tables : Tables) (token : String)
    (guildId : GuildId) (permission : String) : Prop where
  admissible : permission ∈ Users.viewPermissions
  verified : ∃ session, verifyIframeSession state.signing outside.now token
    state.config.sessionSecret = some session ∧ session.guildId = guildId
  served : outside.refused .utcNow = none ∧
    outside.refused (.upsertViewPermission guildId permission) = none
  sendable : [Bind.text guildId, .text permission].all Bind.sendable = true
  differs : tables.guildSettings.find guildId ≠ some ⟨guildId, permission, outside.now⟩

/-- The setting keeps its guild. -/
theorem guildId_kept (now : Timestamp) (permission : String) (row : GuildSettings) :
    GuildSettings.guildId { row with viewPermission := permission, updatedAt := now } =
      row.guildId :=
  rfl

/-- These are the settings that the statement stores. -/
def settingsOf (now : Timestamp) (guildId : GuildId) (permission : String)
    (settings : Table GuildSettings GuildId GuildSettings.guildId) :
    Table GuildSettings GuildId GuildSettings.guildId :=
  settings.upsert ⟨guildId, permission, now⟩
    (fun row => { row with viewPermission := permission, updatedAt := now }) (guildId_kept now permission)

/-- The settings of the guild hold the new permission. -/
theorem upserted_settings {now : Timestamp} {permission : String}
    {settings : Table GuildSettings GuildId GuildSettings.guildId} :
    settings.upserted ⟨guildId, permission, now⟩
      (fun row => { row with viewPermission := permission, updatedAt := now }) =
        ⟨guildId, permission, now⟩ := by
  unfold Table.upserted
  cases found : settings.find guildId with
  | none => rw [Option.elim_none]
  | some old => rw [Option.elim_some, (Table.find_eq_some.mp found).2]

/-- Nothing is written exactly when the same settings are there already. -/
theorem settingsOf_eq_self {now : Timestamp} {permission : String}
    {settings : Table GuildSettings GuildId GuildSettings.guildId} :
    settingsOf now guildId permission settings = settings ↔
      settings.find guildId = some ⟨guildId, permission, now⟩ := by
  unfold settingsOf
  rw [Table.upsert_eq_self, upserted_settings]

/-- A permission that can be sent is written. -/
theorem upsertViewPermission_ok {now : Timestamp} {permission : String}
    (sendable : [Bind.text guildId, .text permission].all Bind.sendable = true) :
    tables.upsertViewPermission now guildId permission =
      .ok { tables with guildSettings := settingsOf now guildId permission tables.guildSettings } := by
  unfold Tables.upsertViewPermission send
  rw [if_pos sendable]
  rfl

/-- A permission that cannot be sent is refused. -/
theorem upsertViewPermission_error {now : Timestamp} {permission : String}
    (unsendable : ¬[Bind.text guildId, .text permission].all Bind.sendable = true) :
    tables.upsertViewPermission now guildId permission = .error .invalidByteSequence := by
  unfold Tables.upsertViewPermission send
  rw [if_neg unsendable]
  rfl

/-- The statement leaves the tables as they were exactly when it fails or stores what is stored. -/
theorem upsertViewPermission_unwritten_iff {permission : String} :
    Unwritten tables (answer state outside tables (.upsertViewPermission guildId permission)).2 ↔
      (outside.refused (.upsertViewPermission guildId permission) = none →
        [Bind.text guildId, .text permission].all Bind.sendable = true →
          tables.guildSettings.find guildId = some ⟨guildId, permission, outside.now⟩) := by
  unfold answer
  cases refused : outside.refused (.upsertViewPermission guildId permission) with
  | some error =>
      refine ⟨fun _ impossible => ?_, fun _ => unwritten_of_eq rfl⟩
      cases impossible
  | none =>
      change Unwritten tables
        (writing tables (tables.upsertViewPermission outside.now guildId permission)).2 ↔ _
      by_cases sendable : [Bind.text guildId, .text permission].all Bind.sendable = true
      · rw [upsertViewPermission_ok sendable]
        constructor
        · intro unwritten _ _
          exact settingsOf_eq_self.mp unwritten.guildSettings
        · intro same
          exact ⟨rfl, settingsOf_eq_self.mpr (same rfl sendable), rfl, rfl, rfl⟩
      · rw [upsertViewPermission_error sendable]
        exact ⟨fun _ _ sent => absurd sent sendable, fun _ => unwritten_of_eq rfl⟩

/-- A verified bearer of the guild reaches the statement. -/
theorem setViewPermission_reaches {token permission : String}
    (carried : extractBearer headers = some token) (admissible : permission ∈ Users.viewPermissions)
    (served : outside.refused .utcNow = none)
    (verified : ∃ session, verifyIframeSession state.signing outside.now token
      state.config.sessionSecret = some session ∧ session.guildId = guildId) :
    (run (answer state outside) tables
      (Users.setViewPermission state headers guildId permission)).2 =
      (answer state outside tables (.upsertViewPermission guildId permission)).2 := by
  obtain ⟨session, verified, matched⟩ := verified
  have asked : run (answer state outside) tables (ask .utcNow) = (.ok outside.now, tables) := by
    unfold ask
    rw [run_ask]
    unfold answer
    rw [served]
    rfl
  have opened : run (answer state outside) tables (Admin.requireIframeSession state token) =
      (.ok session, tables) := by
    unfold Admin.requireIframeSession
    rw [run_bind, asked]
    dsimp only
    rw [verified]
    rfl
  have admitted : run (answer state outside) tables
      (Users.requireGuildAdmin state headers guildId) = (.ok session.discordId, tables) := by
    unfold Users.requireGuildAdmin
    rw [carried]
    dsimp only
    rw [run_bind, opened]
    dsimp only
    rw [if_neg (not_not.mpr matched)]
    rfl
  have origin : checkOrigin state.config headers = .ok () := by
    unfold checkOrigin
    rw [carried]
  unfold Users.setViewPermission
  rw [origin, run_bind]
  change (run (answer state outside) tables (Users.requireGuildAdmin state headers guildId >>= _)).2 = _
  rw [run_bind, admitted]
  dsimp only
  rw [if_pos admissible, run_bind]
  unfold ask
  rw [run_ask]
  rcases answer state outside tables (.upsertViewPermission guildId permission) with ⟨result, after⟩
  cases result <;> rfl

/-- Only a verified bearer of the guild reaches the statement. -/
theorem setViewPermission_stops {token permission : String}
    (carried : extractBearer headers = some token)
    (stopped : ¬(permission ∈ Users.viewPermissions ∧ outside.refused .utcNow = none ∧
      ∃ session, verifyIframeSession state.signing outside.now token
        state.config.sessionSecret = some session ∧ session.guildId = guildId)) :
    (run (answer state outside) tables
      (Users.setViewPermission state headers guildId permission)).2 = tables := by
  apply run_reads
  refine along_bind (along_reads state (only_check _)) fun _ first checked => ?_
  refine along_bind (along_reads state (only_requireGuildAdmin checks_read))
    fun discordId second admitted => ?_
  obtain ⟨served, _, verified⟩ := requireGuildAdmin_ok carried admitted
  split
  · next admissible => exact absurd ⟨admissible, served, verified⟩ stopped
  · trivial

/-- A bearer leaves the tables as they were exactly when it does not store other settings. -/
theorem setViewPermission_unwritten_iff {token permission : String}
    (carried : extractBearer headers = some token) :
    Unwritten tables (run (answer state outside) tables
        (Users.setViewPermission state headers guildId permission)).2 ↔
      ¬SettingsWrite state outside tables token guildId permission := by
  by_cases reached : permission ∈ Users.viewPermissions ∧ outside.refused .utcNow = none ∧
      ∃ opened, verifyIframeSession state.signing outside.now token
        state.config.sessionSecret = some opened ∧ opened.guildId = guildId
  · obtain ⟨admissible, served, verified⟩ := reached
    rw [setViewPermission_reaches carried admissible served verified,
      upsertViewPermission_unwritten_iff]
    constructor
    · intro kept write
      exact write.differs (kept write.served.2 write.sendable)
    · intro unwritten accepted sendable
      by_contra differs
      exact unwritten ⟨admissible, verified, ⟨served, accepted⟩, sendable, differs⟩
  · rw [setViewPermission_stops carried reached]
    refine ⟨fun _ write => ?_, fun _ => unwritten_of_eq rfl⟩
    exact reached ⟨write.admissible, write.served.1, write.verified⟩

end ReadOnly

/-- Every other request must only keep the tables. -/
theorem keeps_iff {request : Request} {write : GuildId → String → Prop} {before after : Tables}
    (other : ∀ guildId permission, request ≠ .setViewPermission guildId permission)
    (same : after = before) :
    Unwritten before after ↔ ∀ guildId permission,
      request = .setViewPermission guildId permission → ¬write guildId permission :=
  ⟨fun _ guildId permission equal => absurd equal (other guildId permission),
    fun _ => unwritten_of_eq same⟩

/-- A request with a read-only session leaves the tables as they were exactly when it does not store
other settings of the guild. -/
theorem read_only_session_keeps_iff (state : AppState) (outside : Outside) (tables : Tables)
    (headers : Headers) (request : Request) (issued : Timestamp) (session : IframeSession)
    (bearer : ReadOnlyBearer state headers issued session) (accepts : request.acceptsBearer = true) :
    Unwritten tables (serve state outside tables headers request).2 ↔
      ∀ guildId permission, request = .setViewPermission guildId permission →
        ¬SettingsWrite state outside tables
          (mintIframeSession state.signing issued session state.config.sessionSecret)
          guildId permission := by
  unfold serve
  cases request with
  | setViewPermission guildId permission =>
      change Unwritten tables (run _ _ (Users.setViewPermission state headers guildId permission >>=
        fun stored => .done (Response.viewPermission stored))).2 ↔ _
      rw [run_return]
      have single : (∀ other otherPermission,
          Request.setViewPermission guildId permission = .setViewPermission other otherPermission →
            ¬SettingsWrite state outside tables
              (mintIframeSession state.signing issued session state.config.sessionSecret)
              other otherPermission) ↔
          ¬SettingsWrite state outside tables
            (mintIframeSession state.signing issued session state.config.sessionSecret)
            guildId permission := by
        constructor
        · intro each
          exact each guildId permission rfl
        · rintro none other otherPermission same
          cases same
          exact none
      rw [single]
      exact setViewPermission_unwritten_iff bearer.carried
  | roleConfigData guildId roleId =>
      refine keeps_iff nofun ?_
      exact (run_return _ _ _ _).trans (run_reads _ (along_reads _ roleConfigData_reads))
  | roleConfigSave guildId roleId body =>
      refine keeps_iff nofun ?_
      exact (run_return _ _ _ _).trans (roleConfigSave_read_only bearer body)
  | roleConfigPreview guildId roleId =>
      refine keeps_iff nofun ?_
      exact (run_return _ _ _ _).trans (run_reads _ (along_reads _ roleConfigPreview_reads))
  | roleConfigPreviewEdit guildId roleId body =>
      refine keeps_iff nofun ?_
      exact (run_return _ _ _ _).trans (run_reads _ (along_reads _ (roleConfigPreviewEdit_reads body)))
  | _ => cases accepts

/-- A developer looks at the configuration of the link as the player "1". -/
def impersonation : IframeSession := ⟨"1", "guild", "role", true⟩

def impersonating : Headers :=
  { Sample.noHeaders with
    authorization := some ("Bearer " ++ mintIframeSession Sample.signing 0 impersonation "secret") }

/-- The sample bearer is a read only session of the guild. -/
theorem impersonation_bearer : ReadOnlyBearer Sample.appState impersonating 0 impersonation :=
  ⟨rfl, by decide +kernel⟩

/-- The session cannot save a rule. -/
theorem read_only_save_keeps :
    Unwritten Tables.empty (serve Sample.appState (Sample.alone 0) Tables.empty impersonating
      (.roleConfigSave "guild" "role" ⟨⟨1, by decide⟩, ⟨true, none, []⟩⟩)).2 :=
  (read_only_session_keeps_iff _ _ _ _ _ _ _ impersonation_bearer rfl).mpr nofun

/-- The session can open the list of players to every member. -/
theorem read_only_session_writes :
    ReadOnlyBearer Sample.appState impersonating 0 impersonation ∧
      ¬Unwritten Tables.empty (serve Sample.appState (Sample.alone 0) Tables.empty impersonating
        (.setViewPermission "guild" "members")).2 := by
  refine ⟨impersonation_bearer, fun unwritten => ?_⟩
  have rows := congrArg (fun settings => settings.rows.length) unwritten.guildSettings
  revert rows
  decide +kernel

end OsuPlayerRole.Web

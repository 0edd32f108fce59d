/-
This file shows that the queue and the accounts are apart from the links and the settings.
-/
import OsuPlayerRole.Library.Checked
import OsuPlayerRole.Proof.Web.Access

namespace OsuPlayerRole.Web

open Checked RuleSql

section Outcome

variable {A : Type} {tables : Tables} (property : Tables → Prop)

/-- A statement that may fail leaves the old tables or the written ones. -/
theorem of_returning {written : Except DbError (A × Tables)} (kept : property tables)
    (each : ∀ value after, written = .ok (value, after) → property after) :
    property (returning tables written).2 := by
  cases written with
  | ok result => exact each result.1 result.2 rfl
  | error error => exact kept

/-- A refused write keeps what holds, and a served one establishes it. -/
theorem of_writing {written : Except DbError Tables} (kept : property tables)
    (each : ∀ after, written = .ok after → property after) : property (writing tables written).2 := by
  cases written with
  | ok after => exact each after rfl
  | error error => exact kept

/-- A transaction that is not committed keeps what holds. -/
theorem of_committing {written : Except AppError Tables} (kept : property tables)
    (each : ∀ after, written = .ok after → property after) :
    property (committing tables written).2 := by
  cases written with
  | ok after => exact each after rfl
  | error error => exact kept

/-- A query for a link answers with its column or with nothing. -/
theorem selectLink_ok {link : Link} {column : RoleLink → A} {value : Option A}
    (selected : selectLink tables link column = .ok value) :
    value = (tables.roleLinks.find link).map column := by
  obtain ⟨_, _, found⟩ := bind_ok selected
  cases found
  rfl

end Outcome

/-- The links, their assignments and the settings are as they were. -/
structure LinksKept (before after : Tables) : Prop where
  roleLinks : after.roleLinks = before.roleLinks
  roleAssignments : after.roleAssignments = before.roleAssignments
  guildSettings : after.guildSettings = before.guildSettings

namespace LinksKept

variable {before middle after : Tables}

/-- Nothing changes without a statement. -/
theorem refl (tables : Tables) : LinksKept tables tables := ⟨rfl, rfl, rfl⟩

/-- The kept tables stay kept over two statements. -/
theorem trans (first : LinksKept before middle) (second : LinksKept middle after) :
    LinksKept before after :=
  ⟨second.roleLinks.trans first.roleLinks, second.roleAssignments.trans first.roleAssignments,
    second.guildSettings.trans first.guildSettings⟩

end LinksKept

section Statements

variable {tables after : Tables}

/-- A new job touches no link and no setting. -/
theorem enqueue_kept {now : Timestamp} {kind : String} {payload : Json.Value} {delaySecs : Nat}
    (written : tables.enqueue now kind payload delaySecs = .ok after) : LinksKept tables after := by
  obtain ⟨stored, _, remaining⟩ := bind_ok written
  cases remaining
  exact ⟨rfl, rfl, rfl⟩

/-- The unlinking of an account touches no role link. -/
theorem deleteOsuUser_kept {discordId : DiscordId} {account : Option OsuUserId}
    (written : tables.deleteOsuUser discordId = .ok (account, after)) : LinksKept tables after := by
  obtain ⟨_, _, remaining⟩ := bind_ok written
  cases remaining
  exact ⟨rfl, rfl, rfl⟩

/-- A new state of the login touches no link and no setting. -/
theorem insertOauthState_kept {row : OsuOauthState}
    (written : tables.insertOauthState row = .ok after) : LinksKept tables after := by
  obtain ⟨_, _, remaining⟩ := bind_ok written
  split at remaining
  · cases remaining
    exact ⟨rfl, rfl, rfl⟩
  · cases remaining

/-- The use of a state touches no link and no setting. -/
theorem consumeOauthState_kept {now : Timestamp} {state : String} {row : Option OsuOauthState}
    (written : tables.consumeOauthState now state = .ok (row, after)) : LinksKept tables after := by
  obtain ⟨_, _, remaining⟩ := bind_ok written
  cases remaining
  exact ⟨rfl, rfl, rfl⟩

/-- A failed refresh only moves the schedule. -/
theorem updateFailed_kept {discordId : DiscordId} {next : Timestamp}
    (written : tables.updateFailed discordId next = .ok after) : LinksKept tables after := by
  unfold Tables.updateFailed at written
  split at written
  · cases written
    exact .refl tables
  · obtain ⟨_, _, remaining⟩ := bind_ok written
    cases remaining
    exact ⟨rfl, rfl, rfl⟩

/-- A profile touches no link and no setting. -/
theorem upsertOsuUser_kept {fresh : OsuUser} {merge : OsuUser → OsuUser}
    {keeps : ∀ row, (merge row).discordId = row.discordId}
    (written : tables.upsertOsuUser fresh merge keeps = .ok after) : LinksKept tables after := by
  unfold Tables.upsertOsuUser at written
  dsimp only at written
  split at written
  · split at written
    · cases written
      exact ⟨rfl, rfl, rfl⟩
    · cases written
  · cases written

/-- The statistics touch no link and no setting. -/
theorem upsertOsuStats_kept {fresh : OsuStats} {merge : OsuStats → OsuStats}
    {keeps : ∀ row, (merge row).key = row.key}
    (written : tables.upsertOsuStats fresh merge keeps = .ok after) : LinksKept tables after := by
  unfold Tables.upsertOsuStats at written
  split at written
  · cases written
    exact ⟨rfl, rfl, rfl⟩
  · cases written

end Statements

section Transaction

open Oauth

variable {parse : ParseInstant} {now : Timestamp} {discordId : DiscordId} {user : Osu.OsuUser}
  {discordName : Option String} {osuUserId : OsuUserId} {pages : Mode → Option Osu.OsuUser}
  {tables after : Tables} (property : Tables → Prop)
  (severed : ∀ before condition, property before → property (before.deleteOsuUsers condition))
  (users : ∀ {before after fresh merge keeps}, property before →
    before.upsertOsuUser fresh merge keeps = .ok after → property after)
  (stats : ∀ {before after fresh merge keeps}, property before →
    before.upsertOsuStats fresh merge keeps = .ok after → property after)

include severed users

/-- What the single statements of a profile keep, its whole write keeps. -/
theorem of_upsertUserProfile (start : property tables)
    (written : upsertUserProfile user parse now discordId discordName tables = .ok after) :
    property after := by
  unfold upsertUserProfile at written
  split at written
  · cases written
  · rw [mapError_ok] at written
    obtain ⟨_, _, inserted⟩ := bind_ok written
    obtain ⟨_, _, stored⟩ := bind_ok inserted
    obtain ⟨_, _, upserted⟩ := bind_ok stored
    exact users (severed tables _ start) upserted

include stats

/-- What the statements of the transaction preserve, the transaction preserves. -/
theorem of_accountTransaction (start : property tables)
    (written : accountTransaction parse now discordId user discordName osuUserId pages tables =
      .ok after) : property after := by
  have paged : ∀ modes {before}, property before →
      upsertPages now osuUserId pages modes before = .ok after → property after := by
    intro modes
    induction modes with
    | nil =>
        intro before kept written
        cases written
        exact kept
    | cons mode rest ih =>
        intro before kept written
        unfold upsertPages at written
        split at written
        · exact ih kept written
        · obtain ⟨stored, first, remaining⟩ := bind_ok written
          exact ih (stats kept (mapError_ok.mp first)) remaining
  obtain ⟨profiled, first, second⟩ := bind_ok written
  exact paged Mode.all (of_upsertUserProfile property severed users start first) second

omit severed users stats in
/-- The transaction of an account touches no link and no setting. -/
theorem accountTransaction_kept
    (written : accountTransaction parse now discordId user discordName osuUserId pages tables =
      .ok after) : LinksKept tables after :=
  of_accountTransaction (LinksKept tables) (fun _ _ kept => kept.trans ⟨rfl, rfl, rfl⟩)
    (fun kept stored => kept.trans (upsertOsuUser_kept stored))
    (fun kept stored => kept.trans (upsertOsuStats_kept stored)) (.refl tables) written

end Transaction

/-- These operations write links or settings. -/
def WebOp.writesLinks : WebOp → Prop
  | .insertRoleLink _ _ => True
  | .insertGuildSettings _ => True
  | .deleteRoleLink _ _ => True
  | .updateRuleTree _ _ _ => True
  | .upsertViewPermission _ _ => True
  | _ => False

/-- Every other operation leaves the links and the settings alone. -/
theorem perform_kept (state : AppState) (outside : Outside) (tables : Tables) {operation : WebOp}
    (apart : ¬operation.writesLinks) :
    LinksKept tables (perform state outside tables operation).2 := by
  cases operation with
  | insertRoleLink link token => exact absurd trivial apart
  | insertGuildSettings guildId => exact absurd trivial apart
  | deleteRoleLink link token => exact absurd trivial apart
  | updateRuleTree tree link expected => exact absurd trivial apart
  | upsertViewPermission guildId permission => exact absurd trivial apart
  | enqueuePlayerSync discordId => exact of_writing (LinksKept tables) (.refl tables) fun _ => enqueue_kept
  | enqueueConfigSync link => exact of_writing (LinksKept tables) (.refl tables) fun _ => enqueue_kept
  | deleteOsuUser discordId => exact of_returning (LinksKept tables) (.refl tables) fun _ _ => deleteOsuUser_kept
  | insertOauthState token codeVerifier discordId returnTo expiresAt =>
      exact of_writing (LinksKept tables) (.refl tables) fun _ => insertOauthState_kept
  | consumeOauthState token =>
      refine of_returning (LinksKept tables) (.refl tables) fun row after written => ?_
      cases consumed : tables.consumeOauthState outside.now token with
      | error error =>
          rw [consumed] at written
          cases written
      | ok found =>
          rw [consumed] at written
          cases written
          exact consumeOauthState_kept consumed
  | linkAccount discordId user pages =>
      exact of_committing (LinksKept tables) (.refl tables) fun _ => accountTransaction_kept
  | refreshAccount discordId osuUserId primary pages =>
      exact of_committing (LinksKept tables) (.refl tables) fun _ => accountTransaction_kept
  | updateRefreshed discordId next => exact ⟨rfl, rfl, rfl⟩
  | updateFailed discordId next => exact of_writing (LinksKept tables) (.refl tables) fun _ => updateFailed_kept
  | _ => exact .refl tables

/-- Only the statements about links change the links and the settings. -/
theorem answer_kept (state : AppState) (outside : Outside) (tables : Tables) {operation : WebOp}
    (apart : ¬operation.writesLinks) : LinksKept tables (answer state outside tables operation).2 := by
  unfold answer
  split
  · exact .refl tables
  · exact perform_kept state outside tables apart

end OsuPlayerRole.Web

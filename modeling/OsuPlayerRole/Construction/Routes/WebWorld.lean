/-
This file gives the effect of each operation of the server.
-/
import OsuPlayerRole.Construction.Routes.Oauth
import OsuPlayerRole.Construction.Routes.Plugin
import OsuPlayerRole.Construction.Routes.WebOp
import OsuPlayerRole.Construction.Statements

namespace OsuPlayerRole.Web

open Json RuleSql Auth

/-- The clock, the random generator and the other services answer. An operation may be refused. -/
structure Outside where
  now : Timestamp
  newState : String
  newCodeVerifier : String
  guildMemberIds : GuildId → Except AppError (List DiscordId)
  guildPermission : String → GuildId → Except AppError (GatewayReply GuildPermission)
  guildMembers : String → GuildId → Except AppError (GatewayReply (List DiscordId × Option String))
  exchangeCode : String → String → String → Except AppError String
  getMe : String → Except AppError Osu.OsuUser
  clientCredentialsToken : Except AppError String
  getUser : String → OsuUserId → Mode → Except AppError Osu.OsuUser
  refused : WebOp → Option AppError

/-- A query leaves the tables alone. -/
def reading {A : Type} (tables : Tables) (answer : Except DbError A) : Except AppError A × Tables :=
  (answer.mapError .database, tables)

/-- A failed statement changes nothing. -/
def returning {A : Type} (tables : Tables) : Except DbError (A × Tables) → Except AppError A × Tables
  | .ok (value, after) => (.ok value, after)
  | .error error => (.error (.database error), tables)

def writing (tables : Tables) (written : Except DbError Tables) : Except AppError Unit × Tables :=
  returning tables (written.map fun after => ((), after))

/-- A failed transaction is rolled back. -/
def committing (tables : Tables) : Except AppError Tables → Except AppError Unit × Tables
  | .ok after => (.ok (), after)
  | .error error => (.error error, tables)

def sendLink (link : Link) : Except DbError Unit := send [.text link.1, .text link.2]

/-- One column of a link is read. -/
def selectLink {A : Type} (tables : Tables) (link : Link) (column : RoleLink → A) :
    Except DbError (Option A) := do
  sendLink link
  return (tables.roleLinks.find link).map column

/-- A missing row is an error of the query. -/
def fetchOne {A : Type} : Option A → Except DbError A
  | some value => .ok value
  | none => .error .rowNotFound

def selectLinkByToken (tables : Tables) (token : String) : Except DbError (Option Link) := do
  send [.text token]
  return (tables.roleLinks.rows.find? fun row => row.apiToken = token).map RoleLink.link

/-- The three values of the condition name at most one link. -/
def existsRoleLink (tables : Tables) (link : Link) (token : String) : Except DbError Bool := do
  send [.text link.1, .text link.2, .text token]
  return tables.roleLinks.rows.any fun row => row.link = link && row.apiToken = token

def deleteRoleLink (tables : Tables) (link : Link) (token : String) : Except DbError (Nat × Tables) := do
  send [.text link.1, .text link.2, .text token]
  let condition := fun row : RoleLink => row.link = link && row.apiToken = token
  return (tables.roleLinks.rows.countP condition, tables.deleteRoleLinks condition)

def selectViewPermission (tables : Tables) (guildId : GuildId) : Except DbError (Option String) := do
  send [.text guildId]
  return (tables.guildSettings.find guildId).map GuildSettings.viewPermission

def countRoleLinks (tables : Tables) (guildId : GuildId) : Except DbError Nat := do
  send [.text guildId]
  return tables.roleLinks.rows.countP fun row => row.guildId = guildId

/-- The list is ordered by name and cut at 1000 lines. -/
def selectPlayers (tables : Tables) (members : List DiscordId) : Except DbError (List Player) := do
  send [.textArray members]
  let sorted := (membersOf tables members).insertionSort fun first second =>
    first.osuUsername ≤ second.osuUsername
  return (sorted.take 1000).map fun user => ⟨user, tables.statsOf user .osu⟩

def selectLinkedAccount (tables : Tables) (discordId : DiscordId) :
    Except DbError (Option (OsuUserId × String)) := do
  send [.text discordId]
  return (tables.osuUsers.find discordId).map fun row => (row.osuUserId, row.osuUsername)

def selectRefreshFailures (tables : Tables) (discordId : DiscordId) : Except DbError Int4 := do
  send [.text discordId]
  fetchOne ((tables.osuUsers.find discordId).map OsuUser.refreshFailures)

def perform (state : AppState) (outside : Outside) (tables : Tables) :
    (operation : WebOp) → Except AppError operation.Value × Tables
  | .utcNow => (.ok outside.now, tables)
  | .newState => (.ok outside.newState, tables)
  | .newCodeVerifier => (.ok outside.newCodeVerifier, tables)
  | .insertRoleLink link token =>
      writing tables (Plugin.insertRoleLink outside.now link.1 link.2 token tables)
  | .insertGuildSettings guildId => writing tables (tables.insertGuildSettings outside.now guildId)
  | .selectLinkByToken token => reading tables (selectLinkByToken tables token)
  | .existsRoleLink link token => reading tables (existsRoleLink tables link token)
  | .deleteRoleLink link token => returning tables (deleteRoleLink tables link token)
  | .selectApiToken link => reading tables (selectLink tables link RoleLink.apiToken)
  | .selectRuleTree link => reading tables (selectLink tables link fun row => row.ruleTree.value)
  | .selectConfig link =>
      reading tables (selectLink tables link fun row => (row.ruleTree.value, row.ruleTreeVersion))
  | .selectViewPermission guildId => reading tables (selectViewPermission tables guildId)
  | .updateRuleTree tree link expected =>
      returning tables (tables.updateRuleTree outside.now tree link expected)
  | .selectExistingVersion link => reading tables (selectLink tables link RoleLink.ruleTreeVersion)
  | .selectNewVersion link =>
      reading tables (selectLink tables link RoleLink.ruleTreeVersion >>= fetchOne)
  | .upsertViewPermission guildId permission =>
      writing tables (tables.upsertViewPermission outside.now guildId permission)
  | .countRoleLinks guildId => reading tables (countRoleLinks tables guildId)
  | .countLinked members => reading tables (List.length <$> linkedIds tables members)
  | .countMatching mode members clause binds =>
      reading tables
        (List.length <$> qualifyingIds state.engines outside.now tables mode members clause binds)
  | .selectPlayers members => reading tables (selectPlayers tables members)
  | .enqueuePlayerSync discordId => writing tables (tables.enqueuePlayerSync outside.now discordId)
  | .enqueueConfigSync link => writing tables (tables.enqueueConfigSync outside.now link)
  | .fetchGuildMemberIds guildId => (outside.guildMemberIds guildId, tables)
  | .guildPermission cookie guildId => (outside.guildPermission cookie guildId, tables)
  | .guildMembers cookie guildId => (outside.guildMembers cookie guildId, tables)
  | .selectLinkedAccount discordId => reading tables (selectLinkedAccount tables discordId)
  | .deleteOsuUser discordId => returning tables (tables.deleteOsuUser discordId)
  | .insertOauthState token codeVerifier discordId returnTo expiresAt =>
      writing tables (tables.insertOauthState
        ⟨token, codeVerifier, discordId, returnTo, outside.now, expiresAt⟩)
  | .consumeOauthState token =>
      returning tables ((tables.consumeOauthState outside.now token).map fun (row, after) =>
        (row.map fun found => (found.codeVerifier, found.discordId), after))
  | .exchangeCode code redirectUri codeVerifier =>
      (outside.exchangeCode code redirectUri codeVerifier, tables)
  | .getMe accessToken => (outside.getMe accessToken, tables)
  | .clientCredentialsToken => (outside.clientCredentialsToken, tables)
  | .getUser accessToken osuUserId mode => (outside.getUser accessToken osuUserId mode, tables)
  | .linkAccount discordId user pages =>
      committing tables (Oauth.accountTransaction state.parseInstant outside.now discordId user none
        user.id pages tables)
  | .refreshAccount discordId osuUserId primary pages =>
      committing tables (Oauth.accountTransaction state.parseInstant outside.now discordId primary none
        osuUserId pages tables)
  | .selectDue limit => (.ok (tables.selectDue outside.now limit), tables)
  | .selectRefreshFailures discordId => reading tables (selectRefreshFailures tables discordId)
  | .updateRefreshed discordId next =>
      writing tables (.ok (tables.updateRefreshed outside.now discordId next))
  | .updateFailed discordId next => writing tables (tables.updateFailed discordId next)

/-- A refused operation has no effect. -/
def answer (state : AppState) (outside : Outside) (tables : Tables) (operation : WebOp) :
    Except AppError operation.Value × Tables :=
  match outside.refused operation with
  | some error => (.error error, tables)
  | none => perform state outside tables operation

end OsuPlayerRole.Web

/-
This file gives the routes of a guild: its settings, its players, and its setup probe.
-/
import OsuPlayerRole.Construction.Routes.Admin

namespace OsuPlayerRole.Users

open Json Web Auth RlToken

variable (state : AppState) (headers : Headers) (guildId : GuildId)

/-- Either an iframe session of the guild or a manager has access. -/
def requireGuildAdmin : WebProgram DiscordId := do
  match extractBearer headers with
  | some bearer =>
      let session ← Admin.requireIframeSession state bearer
      if session.guildId ≠ guildId then
        .fail (.forbidden "Token does not grant access to this server.")
      else return session.discordId
  | none => Admin.requireManager state headers guildId

def viewPermissions : List String := ["disabled", "managers", "members"]

def setViewPermission (viewPermission : String) : WebProgram String := do
  check (checkOrigin state.config headers)
  let _ ← requireGuildAdmin state headers guildId
  if viewPermission ∈ viewPermissions then do
    ask (.upsertViewPermission guildId viewPermission)
    return viewPermission
  else
    .fail (.badRequest ("Unknown view_permission '" ++ viewPermission ++
      "' (expected disabled|managers|members)."))

structure UsersData where
  guildId : GuildId
  guildName : Option String
  users : List Player

/-- The flags of the caller, as the gateway says. -/
def guildPermission : WebProgram GuildPermission := do
  let now ← ask .utcNow
  let _ ← check (readSession state.signing state.config now headers)
  let reply ← ask (.guildPermission (headers.rlSession.getD "") guildId)
  check (readReply state.config reply)

def guildMembers : WebProgram (List DiscordId × Option String) := do
  let now ← ask .utcNow
  let _ ← check (readSession state.signing state.config now headers)
  let reply ← ask (.guildMembers (headers.rlSession.getD "") guildId)
  check (readReply state.config reply)

def usersData : WebProgram UsersData := do
  let stored ← ask (.selectViewPermission guildId)
  let viewPermission := stored.getD "managers"
  if viewPermission = "disabled" then
    .fail (.forbidden "The player list is disabled for this server.")
  else do
    let permission ← guildPermission state headers guildId
    if !permission.isMember then .fail (.forbidden "You're not a member of this server.")
    else if viewPermission = "managers" && !permission.isManager then
      .fail (.forbidden "This list is visible to server managers only.")
    else do
      let (memberIds, guildName) ← guildMembers state headers guildId
      let users ← ask (.selectPlayers memberIds)
      return ⟨guildId, guildName, users⟩

/-- This check fits the shape of a Discord identifier. -/
def isSnowflake (text : String) : Bool :=
  decide (15 ≤ text.utf8ByteSize ∧ text.utf8ByteSize ≤ 25) && text.toList.all Char.isDigit

/-- The probe answers with the number of links of the guild. -/
def dweebStatus (guild : Option String) : WebProgram Nat :=
  match guild.filter isSnowflake with
  | none => .fail (.badRequest "guild must be a Discord server id")
  | some guildId => ask (.countRoleLinks guildId)

end OsuPlayerRole.Users

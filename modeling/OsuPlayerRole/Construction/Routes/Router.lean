/-
This file gives the requests of the server and the route of each.
-/
import OsuPlayerRole.Construction.Routes.Contract
import OsuPlayerRole.Construction.Routes.Users
import OsuPlayerRole.Construction.Routes.Verify
import OsuPlayerRole.Construction.Routes.WebWorld

namespace OsuPlayerRole.Web

open Auth Resumption

/-- Each request has the parts that its extractors accept. -/
inductive Request where
  | register (guildId : GuildId) (roleId : RoleId)
  | getConfig
  | postConfig (guildId : GuildId) (roleId : RoleId)
  | deleteConfig (guildId : GuildId) (roleId : RoleId)
  | roleConfigPage (guildId : GuildId) (roleId : RoleId) (rlToken : Option String)
  | roleConfigData (guildId : GuildId) (roleId : RoleId)
  | roleConfigSave (guildId : GuildId) (roleId : RoleId) (body : Admin.RoleConfigSaveBody)
  | roleConfigPreview (guildId : GuildId) (roleId : RoleId)
  | roleConfigPreviewEdit (guildId : GuildId) (roleId : RoleId) (body : RuleValidator.RuleTreeBody)
  | setViewPermission (guildId : GuildId) (viewPermission : String)
  | usersData (guildId : GuildId)
  | oauthCallback (query : Oauth.CallbackQuery)
  | verifyStatus
  | verifyOsu
  | verifyUnlink
  | dweebStatus (guild : Option String)
  /-- The other routes render a page or probe the server, and they have no operation on the tables. -/
  | rendered

inductive Response where
  | success
  | config (body : Json.Value)
  | page (page : Admin.Page)
  | roleConfig (data : Admin.RoleConfigData)
  | saved (ruleTreeVersion : Int4)
  | preview (count : Admin.PreviewCount)
  | viewPermission (stored : String)
  | users (data : Users.UsersData)
  | linked (username : String) (osuUserId : OsuUserId)
  | status (status : Verify.Status)
  | authorize (clientId state codeVerifier : String)
  | roleCount (count : Nat)
  | rendered

def route (state : AppState) (headers : Headers) : Request → WebProgram Response
  | .register guildId roleId => do
      Plugin.register headers guildId roleId
      return .success
  | .getConfig => do
      let body ← Plugin.getConfig state headers
      return .config body
  | .postConfig guildId roleId => do
      Plugin.postConfig headers guildId roleId
      return .success
  | .deleteConfig guildId roleId => do
      Plugin.deleteConfig headers guildId roleId
      return .success
  | .roleConfigPage guildId roleId rlToken => do
      let page ← Admin.roleConfigPage state headers guildId roleId rlToken
      return .page page
  | .roleConfigData guildId roleId => do
      let data ← Admin.roleConfigData state headers guildId roleId
      return .roleConfig data
  | .roleConfigSave guildId roleId body => do
      let version ← Admin.roleConfigSave state headers guildId roleId body
      return .saved version
  | .roleConfigPreview guildId roleId => do
      let count ← Admin.roleConfigPreview state headers guildId roleId
      return .preview count
  | .roleConfigPreviewEdit guildId roleId body => do
      let count ← Admin.roleConfigPreviewEdit state headers guildId roleId body
      return .preview count
  | .setViewPermission guildId viewPermission => do
      let stored ← Users.setViewPermission state headers guildId viewPermission
      return .viewPermission stored
  | .usersData guildId => do
      let data ← Users.usersData state headers guildId
      return .users data
  | .oauthCallback query => do
      let linked ← Oauth.callback state query
      return .linked linked.1 linked.2
  | .verifyStatus => do
      let status ← Verify.verifyStatus state headers
      return .status status
  | .verifyOsu => do
      let (clientId, token, codeVerifier) ← Verify.verifyOsu state headers
      return .authorize clientId token codeVerifier
  | .verifyUnlink => do
      Verify.verifyUnlink state headers
      return .success
  | .dweebStatus guild => do
      let count ← Users.dweebStatus guild
      return .roleCount count
  | .rendered => return .rendered

/-- The request is answered in the surroundings. -/
def serve (state : AppState) (outside : Outside) (tables : Tables) (headers : Headers)
    (request : Request) : Except AppError Response × Tables :=
  Program.run (answer state outside) tables (route state headers request)

end OsuPlayerRole.Web

/-
This file gives the routes of the role configuration.
-/
import OsuPlayerRole.Construction.Routes.WebOp
import OsuPlayerRole.Construction.Services.RuleValidator

namespace OsuPlayerRole.Admin

open Json Web Auth RlToken

section Access

variable (state : AppState) (headers : Headers)

/-- The caller manages the guild, as the gateway says. -/
def requireManager (guildId : GuildId) : WebProgram DiscordId := do
  let now ← ask .utcNow
  let session ← check (readSession state.signing state.config now headers)
  let reply ← ask (.guildPermission (headers.rlSession.getD "") guildId)
  let permission ← check (readReply state.config reply)
  check (checkManager permission)
  return session.1

def requireIframeSession (bearer : String) : WebProgram IframeSession := do
  let now ← ask .utcNow
  match verifyIframeSession state.signing now bearer state.config.sessionSecret with
  | some session => return session
  | none => .fail sessionExpired

structure RoleConfigAccess where
  discordId : DiscordId
  readOnly : Bool

/-- Either an iframe session of the link or a manager of the guild has access. -/
def requireRoleConfigAccess (guildId : GuildId) (roleId : RoleId) : WebProgram RoleConfigAccess := do
  match extractBearer headers with
  | some bearer =>
      let session ← requireIframeSession state bearer
      if session.guildId ≠ guildId ∨ session.roleId ≠ roleId then
        .fail (.forbidden "Token does not grant access to this role link.")
      else return ⟨session.discordId, session.readOnly⟩
  | none => do
      let discordId ← requireManager state headers guildId
      return ⟨discordId, false⟩

end Access

section Page

variable (state : AppState) (headers : Headers) (guildId : GuildId) (roleId : RoleId)

/-- The page of the configuration, or a page that says why there is none. -/
inductive Page where
  | roleConfig (guildId : GuildId) (roleId : RoleId) (iframeToken : Option String) (readOnly : Bool)
  | inlineError (message : String)
  | databaseError (error : AppError)
  | iframeNoToken
  | signIn (reason : AppError)

def tokenMessage : RlTokenError → String
  | .expired => "Your session expired. Reopen the plugin in the RoleLogic dashboard."
  | .badSignature => "Invalid auth token."
  | .malformed => "Invalid auth token."
  | .wrongAudience => "Token is for a different plugin."
  | .wrongIssuer => "Token was not issued by RoleLogic."

/-- The token of the dashboard is signed with the stored token of the link. It gives a session. -/
def verifyIframeEntry (rlToken : String) : WebProgram (Except Page (String × Bool)) := do
  match ← result (.selectApiToken (guildId, roleId)) with
  | .error error => return .error (.databaseError error)
  | .ok none =>
      return .error (.inlineError "This role link isn't registered with this plugin yet.")
  | .ok (some apiToken) => do
      let now ← ask .utcNow
      match verify state.signing now rlToken apiToken state.config.baseUrl with
      | .error error => return .error (.inlineError (tokenMessage error))
      | .ok verified =>
          if verified.guildId ≠ guildId ∨ verified.roleId ≠ roleId then
            return .error (.inlineError "Token does not match this role link.")
          else do
            let minted ← ask .utcNow
            let session : IframeSession := ⟨verified.discordId, guildId, roleId, verified.readOnly⟩
            return .ok (mintIframeSession state.signing minted session state.config.sessionSecret,
              verified.readOnly)

/-- A frame load without a token means that the dashboard did not append it. -/
def looksEmbedded : Bool :=
  let dest := RustText.toAsciiLowercase (headers.secFetchDest.getD "")
  dest = "iframe" || dest = "frame" ||
    RustText.toAsciiLowercase (headers.secFetchSite.getD "") = "cross-site"

def roleConfigPage (rlToken : Option String) : WebProgram Page := do
  match rlToken.filter fun token => token ≠ "" with
  | some token =>
      match ← verifyIframeEntry state guildId roleId token with
      | .ok (session, readOnly) => return .roleConfig guildId roleId (some session) readOnly
      | .error page => return page
  | none =>
      match ← (requireManager state headers guildId).attempt with
      | .ok _ => return .roleConfig guildId roleId none false
      | .error error => return if looksEmbedded headers then .iframeNoToken else .signIn error

end Page

section Data

variable (state : AppState) (headers : Headers) (guildId : GuildId) (roleId : RoleId)

/-- The answer of the data route, without its constant catalogs. -/
structure RoleConfigData where
  guildId : GuildId
  roleId : RoleId
  config : RuleTree
  ruleTreeVersion : Int4
  verifyUrl : String
  usersUrl : String
  viewPermission : String
  osuOauthConfigured : Bool

/-- This is the object `config` of the answer. -/
def configValue (tree : RuleTree) : Value :=
  .object [("default_mode", .string tree.defaultMode.asStr),
    ("grant_on_any_player", .bool tree.grantOnAnyPlayer),
    ("groups", .array (tree.groups.map ConditionGroup.toValue))]

def missingLink : AppError :=
  .notFound "This role link doesn't exist. Has it been added in RoleLogic?"

def roleConfigData : WebProgram RoleConfigData := do
  let _ ← requireRoleConfigAccess state headers guildId roleId
  match ← ask (.selectConfig (guildId, roleId)) with
  | none => .fail missingLink
  | some (ruleTree, ruleTreeVersion) => do
      let viewPermission ← ask (.selectViewPermission guildId)
      return {
        guildId := guildId
        roleId := roleId
        config := RuleTree.ofColumn ruleTree
        ruleTreeVersion := ruleTreeVersion
        verifyUrl := state.config.baseUrl ++ "/verify?guild=" ++ guildId
        usersUrl := state.config.baseUrl ++ "/users/" ++ guildId
        viewPermission := viewPermission.getD "managers"
        osuOauthConfigured := state.config.osuClientId.isSome }

structure RoleConfigSaveBody where
  ruleTreeVersion : Int4
  tree : RuleValidator.RuleTreeBody

/-- The update compares the version, and a second statement reads the new one. -/
def storeTree (tree : RuleTree) (expected : Int4) : WebProgram Int4 := do
  let affected ← ask (.updateRuleTree tree.toValue (guildId, roleId) expected)
  if affected = 0 then
    match ← ask (.selectExistingVersion (guildId, roleId)) with
    | none => .fail missingLink
    | some _ => .fail .staleVersion
  else do
    let newVersion ← ask (.selectNewVersion (guildId, roleId))
    let _ ← result (.enqueueConfigSync (guildId, roleId))
    return newVersion

def roleConfigSave (body : RoleConfigSaveBody) : WebProgram Int4 := do
  check (checkOrigin state.config headers)
  let access ← requireRoleConfigAccess state headers guildId roleId
  if access.readOnly then
    .fail (.forbidden "This configuration is read-only while impersonating a user.")
  else do
    let tree ← check (RuleValidator.parseRuleTree state.engines body.tree)
    storeTree guildId roleId tree body.ruleTreeVersion

end Data

section Preview

variable (state : AppState) (headers : Headers) (guildId : GuildId) (roleId : RoleId)

inductive PreviewCount where
  | available (matching linked : Nat)
  | unavailable

/-- The mode and the members are the first two parameters. -/
def countMatching (tree : RuleTree) (memberIds : List DiscordId) (linked : Nat) : WebProgram Nat :=
  if tree.grantOnAnyPlayer then return linked
  else
    let (clause, binds) := RuleSql.buildRuleWhere tree 2
    ask (.countMatching tree.defaultMode memberIds clause binds)

def previewCountFor (tree : RuleTree) : WebProgram PreviewCount := do
  if !tree.grantOnAnyPlayer && tree.groups.isEmpty then return .available 0 0
  else
    match ← result (.fetchGuildMemberIds guildId) with
    | .error _ => return .unavailable
    | .ok memberIds =>
        if memberIds.isEmpty then return .available 0 0
        else do
          let linked ← ask (.countLinked memberIds)
          let matching ← countMatching tree memberIds linked
          return .available matching linked

def roleConfigPreview : WebProgram PreviewCount := do
  let _ ← requireRoleConfigAccess state headers guildId roleId
  match ← ask (.selectRuleTree (guildId, roleId)) with
  | none => .fail (.notFound "Role link not found.")
  | some ruleTree => previewCountFor guildId (RuleTree.ofColumn ruleTree)

def roleConfigPreviewEdit (body : RuleValidator.RuleTreeBody) : WebProgram PreviewCount := do
  check (checkOrigin state.config headers)
  let _ ← requireRoleConfigAccess state headers guildId roleId
  let tree ← check (RuleValidator.parseRuleTree state.engines body)
  previewCountFor guildId tree

end Preview

end OsuPlayerRole.Admin

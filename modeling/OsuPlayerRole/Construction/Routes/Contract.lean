/-
This file gives the routes that RoleLogic calls.
-/
import OsuPlayerRole.Construction.Routes.WebOp

namespace OsuPlayerRole.Plugin

open Json Web Auth

section

variable (state : AppState) (headers : Headers) (guildId : GuildId) (roleId : RoleId)

def register : WebProgram Unit := do
  let token ← check (extractToken headers)
  ask (.insertRoleLink (guildId, roleId) token)
  ask (.insertGuildSettings guildId)

/-- RoleLogic appends its token to the embedded address. -/
def buildIframeConfig (baseUrl : String) (guildId : GuildId) (roleId : RoleId) : Value :=
  .object [("version", .ofI64 1), ("ui_mode", .string "iframe"), ("name", .string "osu! Player Role"),
    ("description", .string ("Grant Discord roles based on osu! profile and stats — rank, PP, play " ++
      "count, accuracy, supporter tag, badges, and 30+ more condition targets. Per-mode aware " ++
      "(osu / taiko / fruits / mania).")),
    ("embed_url", .string (baseUrl ++ "/admin/" ++ guildId ++ "/role/" ++ roleId)),
    ("supports_impersonation_readonly", .bool true)]

def getConfig : WebProgram Value := do
  let token ← check (extractToken headers)
  match ← ask (.selectLinkByToken token) with
  | some link => return buildIframeConfig state.config.baseUrl link.1 link.2
  | none => .fail .unauthorized

/-- The body of the request is not stored. -/
def postConfig : WebProgram Unit := do
  let token ← check (extractToken headers)
  let present ← ask (.existsRoleLink (guildId, roleId) token)
  if present then return () else .fail .unauthorized

def deleteConfig : WebProgram Unit := do
  let token ← check (extractToken headers)
  let removed ← ask (.deleteRoleLink (guildId, roleId) token)
  if removed = 0 then .fail .unauthorized else return ()

end

end OsuPlayerRole.Plugin

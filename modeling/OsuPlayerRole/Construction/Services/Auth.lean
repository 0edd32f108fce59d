/-
This file gives the checks of a request that need no database.
-/
import OsuPlayerRole.Construction.Services.RlToken

namespace OsuPlayerRole

/-- These are the settings and secrets that the routes read. -/
structure AppConfig where
  baseUrl : String
  sessionSecret : String
  authGatewayUrl : String
  osuClientId : Option String
  osuClientSecret : Option String
  refreshConcurrency : Nat
  allowedOrigins : List String

/-- These headers are present only with readable values. The last one is the value of a cookie. -/
structure Headers where
  authorization : Option String
  origin : Option String
  secFetchDest : Option String
  secFetchSite : Option String
  rlSession : Option String

namespace Auth

open RlToken

/-- RoleLogic sends its token under this scheme. -/
def extractToken (headers : Headers) : Except AppError String :=
  match headers.authorization.bind (RustText.stripStart "Token ") with
  | some token => .ok token
  | none => .error .unauthorized

def extractBearer (headers : Headers) : Option String :=
  headers.authorization.bind (RustText.stripStart "Bearer ")

/-- A request that changes state must come from an allowed page. -/
def verifyOrigin (headers : Headers) (allowedOrigins : List String) : Except AppError Unit :=
  match headers.origin with
  | none => .error (.forbidden "State-changing requests must include an Origin header.")
  | some origin =>
      if allowedOrigins.any fun allowed => RustText.trimEnd '/' origin == RustText.trimEnd '/' allowed
      then .ok ()
      else .error (.forbidden
        ("Origin '" ++ origin ++ "' is not allowed for state-changing requests."))

/-- An iframe session needs no origin, because its signature binds it. -/
def checkOrigin (config : AppConfig) (headers : Headers) : Except AppError Unit :=
  match extractBearer headers with
  | none => verifyOrigin headers config.allowedOrigins
  | some _ => .ok ()

/-- The cookie names a Discord account and its display name. -/
def verifySession (signing : Signing) (now : Timestamp) (cookieValue secret : String) :
    Option (DiscordId × String) :=
  match RustText.splitN ':' 4 cookieValue with
  | [discordId, encodedName, expiresStr, sig] => do
      let expires ← RustText.parseI64 expiresStr
      if now.seconds > expires then none
      else
        let signed := RustText.joined ':' [discordId, encodedName, expiresStr]
        if constantTimeEq (bytes sig) (bytes (hex (signing.hmac secret signed))) then
          (signing.decodePercent encodedName).map fun displayName => (discordId, displayName)
        else none
  | _ => none

/-- The gateway signs these three fields. -/
def sessionPayload (encodePercent : String → String) (discordId : DiscordId) (displayName : String)
    (expires : Int) : String :=
  RustText.joined ':' [discordId, encodePercent displayName, toString expires]

/-- Only tests mint a cookie here. -/
def mintSession (signing : Signing) (encodePercent : String → String) (discordId : DiscordId)
    (displayName : String) (expires : Int) (secret : String) : String :=
  let signed := sessionPayload encodePercent discordId displayName expires
  RustText.joined ':' [signed, hex (signing.hmac secret signed)]

def readSession (signing : Signing) (config : AppConfig) (now : Timestamp) (headers : Headers) :
    Except AppError (DiscordId × String) :=
  match headers.rlSession with
  | none => .error (.unauthorizedWith "Not signed in. Log in with Discord to continue.")
  | some cookie =>
      match verifySession signing now cookie config.sessionSecret with
      | some session => .ok session
      | none => .error (.unauthorizedWith "Session expired or invalid.")

structure GuildPermission where
  isMember : Bool
  isManager : Bool
  deriving DecidableEq

/-- The gateway answers with a status and a body. A body of success is read as JSON. -/
structure GatewayReply (A : Type) where
  status : Nat
  statusText : String
  body : String
  read : Except String A

/-- Only a refused session asks the user to sign in again. -/
def classifyGatewayStatus (config : AppConfig) (status : Nat) (statusText body : String) : AppError :=
  if status = 401 then
    .unauthorizedWith
      ("The Auth Gateway rejected your session (" ++ statusText ++ "). Please sign in again.")
  else
    .internal ("Auth Gateway at " ++ config.authGatewayUrl ++ " returned " ++ statusText ++ ": " ++ body)

def readReply {A : Type} (config : AppConfig) (reply : GatewayReply A) : Except AppError A :=
  if 200 ≤ reply.status ∧ reply.status < 300 then
    match reply.read with
    | .ok value => .ok value
    | .error message => .error (.internal ("auth_gateway response not JSON: " ++ message))
  else .error (classifyGatewayStatus config reply.status reply.statusText reply.body)

def checkManager (permission : GuildPermission) : Except AppError Unit :=
  if !permission.isMember then .error (.forbidden "You're not a member of this server.")
  else if !permission.isManager then .error (.forbidden "You need Manage Server to do this.")
  else .ok ()

def sessionExpired : AppError :=
  .unauthorizedWith "Your session expired. Reopen the plugin in the RoleLogic dashboard."

end Auth

end OsuPlayerRole

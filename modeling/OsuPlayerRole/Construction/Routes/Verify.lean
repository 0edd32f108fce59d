/-
This file gives the routes by which a member links and unlinks an osu! account.
-/
import OsuPlayerRole.Construction.Routes.WebOp

namespace OsuPlayerRole

open Json Web Auth

namespace Oauth

section

variable (state : AppState)

structure CallbackQuery where
  code : Option String
  state : Option String
  error : Option String
  errorDescription : Option String

def redirectUri (baseUrl : String) : String := RustText.trimEnd '/' baseUrl ++ "/oauth/osu/callback"

def buildOsuClient : Except AppError (String × String) :=
  match state.config.osuClientId, state.config.osuClientSecret with
  | none, _ => .error (.internal "OSU_CLIENT_ID is not configured.")
  | _, none => .error (.internal "OSU_CLIENT_SECRET is not configured.")
  | some clientId, some clientSecret => .ok (clientId, clientSecret)

/-- A mode whose page cannot be fetched is left out. -/
def fetchPages (accessToken : String) (osuUserId : OsuUserId) :
    List Mode → WebProgram (Mode → Option Osu.OsuUser)
  | [] => return fun _ => none
  | mode :: rest => do
      let page ← result (.getUser accessToken osuUserId mode)
      let others ← fetchPages accessToken osuUserId rest
      return fun other => if other = mode then page.toOption else others other

/-- The state of the flow is consumed once. The transaction is one operation, with the requests for
its pages before it. -/
def callback (query : CallbackQuery) : WebProgram (String × OsuUserId) := do
  match query.error with
  | some error =>
      .fail (.badRequest ("osu! returned an error during authorization: " ++ error ++ " (" ++
        query.errorDescription.getD "" ++ ")"))
  | none =>
    match query.code with
    | none => .fail (.badRequest "Missing `code` from osu! callback.")
    | some code =>
      match query.state with
      | none => .fail (.badRequest "Missing `state` from osu! callback.")
      | some token =>
        match ← ask (.consumeOauthState token) with
        | none =>
            .fail (.badRequest
              "OAuth state expired or unknown — start the link flow again from /verify.")
        | some (codeVerifier, discordId) => do
            let _ ← check (buildOsuClient state)
            let accessToken ←
              ask (.exchangeCode code (redirectUri state.config.baseUrl) codeVerifier)
            let user ← ask (.getMe accessToken)
            if user.isRestricted then
              .fail (.badRequest
                "This osu! account is restricted; restricted accounts cannot be linked.")
            else do
              let appToken ← ask .clientCredentialsToken
              let pages ← fetchPages appToken user.id Mode.all
              ask (.linkAccount discordId user pages)
              ask (.enqueuePlayerSync discordId)
              return (user.username, user.id)

/-- The transaction is one operation, with the requests for its pages before it. -/
def refreshUserFull (discordId : DiscordId) (osuUserId : OsuUserId) : WebProgram Unit := do
  let _ ← check (buildOsuClient state)
  let appToken ← ask .clientCredentialsToken
  let primary ← ask (.getUser appToken osuUserId .osu)
  let pages ← fetchPages appToken osuUserId Mode.all
  ask (.refreshAccount discordId osuUserId primary pages)
  ask (.enqueuePlayerSync discordId)

end

end Oauth

namespace Verify

variable (state : AppState) (headers : Headers)

structure Status where
  discordUsername : Option String
  osuLink : Option (OsuUserId × String)
  osuOauthConfigured : Bool

/-- A request without a session is not an error. -/
def verifyStatus : WebProgram Status := do
  let now ← ask .utcNow
  match readSession state.signing state.config now headers with
  | .error _ => return ⟨none, none, state.config.osuClientId.isSome⟩
  | .ok (discordId, name) => do
      let osuLink ← ask (.selectLinkedAccount discordId)
      return ⟨some name, osuLink, state.config.osuClientId.isSome⟩

def verifyUnlink : WebProgram Unit := do
  check (verifyOrigin headers state.config.allowedOrigins)
  let now ← ask .utcNow
  let session ← check (readSession state.signing state.config now headers)
  match ← ask (.deleteOsuUser session.1) with
  | none => .fail (.notFound "No linked osu! account to unlink.")
  | some _ => ask (.enqueuePlayerSync session.1)

/-- The flow expires after ten minutes. -/
def stateMinutes : Int := 10 * 60 * 1000000

/-- The result names the client, the state and the verifier of the authorization address. -/
def verifyOsu : WebProgram (String × String × String) := do
  check (verifyOrigin headers state.config.allowedOrigins)
  let now ← ask .utcNow
  let session ← check (readSession state.signing state.config now headers)
  match state.config.osuClientId with
  | none =>
      .fail (.internal
        "OSU_CLIENT_ID is not configured on this server. Ask the operator to set it.")
  | some clientId =>
      if state.config.osuClientSecret.isNone then
        .fail (.internal "OSU_CLIENT_SECRET is not configured on this server.")
      else do
        let token ← ask .newState
        let codeVerifier ← ask .newCodeVerifier
        let created ← ask .utcNow
        ask (.insertOauthState token codeVerifier session.1 none (created + stateMinutes))
        return (clientId, token, codeVerifier)

end Verify

end OsuPlayerRole

/-
This file gives the routes that change accounts, with each statement of a transaction on its own.
-/
import OsuPlayerRole.Construction.Routes.Verify
import OsuPlayerRole.Construction.Routes.WebWorld

namespace OsuPlayerRole.AccountStore

open Json Web Auth Resumption

/-- Each operation is one statement, or one operation outside a transaction. -/
inductive StoreOp where
  | web (operation : WebOp)
  | begin
  | upsertUserProfile (discordId : DiscordId) (user : Osu.OsuUser)
  | upsertStats (osuUserId : OsuUserId) (mode : Mode) (page : Osu.OsuUser)
  | commit

@[reducible] def StoreOp.Value : StoreOp → Type
  | .web operation => operation.Value
  | _ => Unit

abbrev StoreProgram := Program StoreOp StoreOp.Value AppError

def ask (operation : StoreOp) : StoreProgram operation.Value := Program.ask operation

def result (operation : StoreOp) : StoreProgram (Except AppError operation.Value) :=
  Program.result operation

/-- A program without a transaction keeps its operations. -/
def ofWeb {A : Type} : WebProgram A → StoreProgram A
  | .done value => .done value
  | .fail error => .fail error
  | .call operation next => .call (.web operation) fun answer => ofWeb (next answer)

section Routes

variable (state : AppState)

/-- A mode whose page cannot be fetched is skipped. A page that cannot be stored is an error. -/
def storePages (accessToken : String) (osuUserId : OsuUserId) : List Mode → StoreProgram Unit
  | [] => return ()
  | mode :: rest => do
      match ← result (.web (.getUser accessToken osuUserId mode)) with
      | .ok page => do
          ask (.upsertStats osuUserId mode page)
          storePages accessToken osuUserId rest
      | .error _ => storePages accessToken osuUserId rest

/-- The application token is fetched between the statements of the transaction. -/
def callbackInner (query : Oauth.CallbackQuery) : StoreProgram (String × OsuUserId) := do
  match query.error with
  | some error =>
      .fail (.badRequest ("osu! returned an error during authorization: " ++ error ++ " (" ++
        query.errorDescription.getD "" ++ ")"))
  | none =>
    match query.code with
    | none => .fail (.badRequest "Missing `code` from osu! callback.")
    | some code =>
      match query.state with
      | none => .fail (.badRequest "Missing `state` from osu! callback.")
      | some token =>
        match ← ask (.web (.consumeOauthState token)) with
        | none =>
            .fail (.badRequest
              "OAuth state expired or unknown — start the link flow again from /verify.")
        | some (codeVerifier, discordId) => do
            let _ ← ofWeb (check (Oauth.buildOsuClient state))
            let accessToken ←
              ask (.web (.exchangeCode code (Oauth.redirectUri state.config.baseUrl) codeVerifier))
            let user ← ask (.web (.getMe accessToken))
            if user.isRestricted then
              .fail (.badRequest
                "This osu! account is restricted; restricted accounts cannot be linked.")
            else do
              ask .begin
              ask (.upsertUserProfile discordId user)
              let appToken ← ask (.web .clientCredentialsToken)
              storePages appToken user.id Mode.all
              ask .commit
              ask (.web (.enqueuePlayerSync discordId))
              return (user.username, user.id)

def refreshUserFull (discordId : DiscordId) (osuUserId : OsuUserId) : StoreProgram Unit := do
  let _ ← ofWeb (check (Oauth.buildOsuClient state))
  let appToken ← ask (.web .clientCredentialsToken)
  let primary ← ask (.web (.getUser appToken osuUserId .osu))
  ask .begin
  ask (.upsertUserProfile discordId primary)
  storePages appToken osuUserId Mode.all
  ask .commit
  ask (.web (.enqueuePlayerSync discordId))

/-- The entry points that change accounts. -/
inductive Request where
  | callback (query : Oauth.CallbackQuery)
  | unlink (headers : Headers)
  | refresh (discordId : DiscordId) (osuUserId : OsuUserId)

def Request.program : Request → StoreProgram Unit
  | .callback query => do
      let _ ← callbackInner state query
      return ()
  | .unlink headers => ofWeb (Verify.verifyUnlink state headers)
  | .refresh discordId osuUserId => refreshUserFull state discordId osuUserId

end Routes

/-- The tables are durable, and an open transaction has a copy of its own with the moment of its
begin. -/
structure Store where
  durable : Tables
  opened : Option (Timestamp × Tables)

section Statements

variable (state : AppState) (store : Store)

/-- A statement of the transaction writes the copy alone. -/
def Store.write (statement : Timestamp → Tables → Except AppError Tables) :
    Except AppError Unit × Store :=
  match store.opened with
  | none => (.error (.internal "no transaction is open"), store)
  | some (begun, copy) =>
      match statement begun copy with
      | .ok after => (.ok (), { store with opened := some (begun, after) })
      | .error error => (.error error, store)

def Store.perform (outside : Outside) : (operation : StoreOp) → Except AppError operation.Value × Store
  | .web operation =>
      let (answer, durable) := Web.perform state outside store.durable operation
      (answer, { store with durable })
  | .begin => (.ok (), { store with opened := some (outside.now, store.durable) })
  | .upsertUserProfile discordId user =>
      store.write fun now => Oauth.upsertUserProfile user state.parseInstant now discordId none
  | .upsertStats osuUserId mode page =>
      store.write fun now => Oauth.upsertStats now osuUserId mode page
  | .commit =>
      match store.opened with
      | none => (.error (.internal "no transaction is open"), store)
      | some (_, copy) => (.ok (), ⟨copy, none⟩)

end Statements

/-- The operations are counted. -/
structure World where
  store : Store
  performed : Nat

/-- The surroundings of each operation, by its number. A failure has no effect. -/
structure Course where
  outside : Nat → Outside
  fails : Nat → Option AppError

def World.perform (state : AppState) (course : Course) (world : World) (operation : StoreOp) :
    Except AppError operation.Value × World :=
  match course.fails world.performed with
  | some error => (.error error, ⟨world.store, world.performed + 1⟩)
  | none =>
      let (answer, store) := world.store.perform state (course.outside world.performed) operation
      (answer, ⟨store, world.performed + 1⟩)

/-- No transaction is open. -/
def World.start (tables : Tables) : World := ⟨⟨tables, none⟩, 0⟩

end OsuPlayerRole.AccountStore

/-
This file gives the outside operations of the routes and of the refresh worker.
-/
import OsuPlayerRole.Construction.Services.Auth
import OsuPlayerRole.Construction.Services.Osu
import OsuPlayerRole.Construction.Services.RuleSql
import OsuPlayerRole.Library.Resumption

namespace OsuPlayerRole.Web

open Json Resumption Auth

/-- Each operation is one statement or transaction, one request to another service, or one reading of
the clock or of the random generator. -/
inductive WebOp where
  | utcNow
  | newState
  | newCodeVerifier
  | insertRoleLink (link : Link) (token : String)
  | insertGuildSettings (guildId : GuildId)
  | selectLinkByToken (token : String)
  | existsRoleLink (link : Link) (token : String)
  | deleteRoleLink (link : Link) (token : String)
  | selectApiToken (link : Link)
  | selectRuleTree (link : Link)
  | selectConfig (link : Link)
  | selectViewPermission (guildId : GuildId)
  | updateRuleTree (tree : Value) (link : Link) (expected : Int4)
  | selectExistingVersion (link : Link)
  | selectNewVersion (link : Link)
  | upsertViewPermission (guildId : GuildId) (permission : String)
  | countRoleLinks (guildId : GuildId)
  | countLinked (members : List DiscordId)
  | countMatching (mode : Mode) (members : List DiscordId) (clause : RuleSql.Where)
      (binds : List RuleSql.Bind)
  | selectPlayers (members : List DiscordId)
  | enqueuePlayerSync (discordId : DiscordId)
  | enqueueConfigSync (link : Link)
  | fetchGuildMemberIds (guildId : GuildId)
  | guildPermission (cookie : String) (guildId : GuildId)
  | guildMembers (cookie : String) (guildId : GuildId)
  | selectLinkedAccount (discordId : DiscordId)
  | deleteOsuUser (discordId : DiscordId)
  | insertOauthState (state codeVerifier : String) (discordId : DiscordId) (returnTo : Option String)
      (expiresAt : Timestamp)
  | consumeOauthState (state : String)
  | exchangeCode (code redirectUri codeVerifier : String)
  | getMe (accessToken : String)
  | clientCredentialsToken
  | getUser (accessToken : String) (osuUserId : OsuUserId) (mode : Mode)
  | linkAccount (discordId : DiscordId) (user : Osu.OsuUser) (pages : Mode → Option Osu.OsuUser)
  | refreshAccount (discordId : DiscordId) (osuUserId : OsuUserId) (primary : Osu.OsuUser)
      (pages : Mode → Option Osu.OsuUser)
  | selectDue (limit : Nat)
  | selectRefreshFailures (discordId : DiscordId)
  | updateRefreshed (discordId : DiscordId) (next : Timestamp)
  | updateFailed (discordId : DiscordId) (next : Timestamp)

/-- This is one line of the list of linked players. -/
structure Player where
  user : OsuUser
  stats : Option OsuStats

@[reducible] def WebOp.Value : WebOp → Type
  | .utcNow => Timestamp
  | .newState => String
  | .newCodeVerifier => String
  | .selectLinkByToken _ => Option Link
  | .existsRoleLink _ _ => Bool
  | .deleteRoleLink _ _ => Nat
  | .selectApiToken _ => Option String
  | .selectRuleTree _ => Option Json.Value
  | .selectConfig _ => Option (Json.Value × Int4)
  | .selectViewPermission _ => Option String
  | .updateRuleTree _ _ _ => Nat
  | .selectExistingVersion _ => Option Int4
  | .selectNewVersion _ => Int4
  | .countRoleLinks _ => Nat
  | .countLinked _ => Nat
  | .countMatching _ _ _ _ => Nat
  | .selectPlayers _ => List Player
  | .fetchGuildMemberIds _ => List DiscordId
  | .guildPermission _ _ => GatewayReply GuildPermission
  | .guildMembers _ _ => GatewayReply (List DiscordId × Option String)
  | .selectLinkedAccount _ => Option (OsuUserId × String)
  | .deleteOsuUser _ => Option OsuUserId
  | .consumeOauthState _ => Option (String × DiscordId)
  | .exchangeCode _ _ _ => String
  | .getMe _ => Osu.OsuUser
  | .clientCredentialsToken => String
  | .getUser _ _ _ => Osu.OsuUser
  | .selectDue _ => List (DiscordId × OsuUserId)
  | .selectRefreshFailures _ => Int4
  | _ => Unit

abbrev WebProgram := Program WebOp WebOp.Value AppError

/-- The error of the operation is returned early. -/
def ask (operation : WebOp) : WebProgram operation.Value := Program.ask operation

/-- The error of the operation is handed to the caller. -/
def result (operation : WebOp) : WebProgram (Except AppError operation.Value) :=
  Program.result operation

/-- A check that fails is returned early. -/
def check {A : Type} : Except AppError A → WebProgram A
  | .ok value => return value
  | .error error => .fail error

/-- These are the parts that every route shares. -/
structure AppState where
  config : AppConfig
  signing : RlToken.Signing
  engines : Engines
  /-- The parser of RFC 3339 instants gives the instant or its message. -/
  parseInstant : String → Except String Timestamp

end OsuPlayerRole.Web

/-
This file gives small rows and databases for concrete runs.
-/
import OsuPlayerRole.Construction.Services.Osu
import OsuPlayerRole.Construction.Routes.Plugin
import OsuPlayerRole.Construction.Routes.WebWorld
import OsuPlayerRole.Construction.Services.RuleValidator
import OsuPlayerRole.Construction.Services.SyncWorld
import OsuPlayerRole.Construction.Tasks.JobWorker

namespace OsuPlayerRole.Sample

open Json KeyedTable

def emptyObject : Jsonb := ⟨.object [], rfl⟩

/-- This is the column default of `rule_tree`. -/
def unconfigured : Jsonb := Plugin.defaultRuleTree

def user (discordId : DiscordId) (osuUserId : OsuUserId) : OsuUser where
  discordId := discordId
  osuUserId := osuUserId
  osuUsername := "player"
  discordName := none
  countryCode := none
  countryName := none
  profileColour := none
  avatarUrl := none
  osuJoinedAt := 0
  lastVisitAt := none
  isSupporter := false
  supportLevel := .zero
  isRestricted := false
  isActive := false
  badgeCount := .zero
  followerCount := .zero
  mappingFollowers := .zero
  kudosuTotal := .zero
  rankedBeatmaps := .zero
  lovedBeatmaps := .zero
  pendingBeatmaps := .zero
  graveyardBeatmaps := .zero
  mappingPlaycount := .zero
  replaysWatchedOthers := .zero
  favouriteBeatmapsets := .zero
  playstyles := []
  groups := []
  profile := emptyObject
  linkedAt := 0
  refreshedAt := 0
  nextRefreshAt := 0
  refreshFailures := .zero

def stats (osuUserId : OsuUserId) (mode : Mode) : OsuStats where
  osuUserId := osuUserId
  mode := mode
  globalRank := none
  countryRank := none
  performancePoints := .zero
  playCount := .zero
  playTimeHours := .zero
  totalScore := 0
  rankedScore := 0
  hitAccuracy := .zero
  maxCombo := .zero
  levelInt := .zero
  countSsSilver := .zero
  countSs := .zero
  countSSilver := .zero
  countS := .zero
  countA := .zero
  refreshedAt := 0

/-- This payload carries the required keys alone. -/
def payload (id : Int) : Osu.OsuUser where
  id := id
  username := "player"
  countryCode := none
  country := none
  profileColour := none
  avatarUrl := none
  joinDate := "2020-01-01T00:00:00Z"
  lastVisit := none
  isSupporter := false
  supportLevel := 0
  isRestricted := false
  isActive := false
  playstyle := none
  badges := none
  groups := none
  followerCount := none
  mappingFollowerCount := none
  kudosu := none
  rankedBeatmapsetCount := none
  lovedBeatmapsetCount := none
  pendingBeatmapsetCount := none
  graveyardBeatmapsetCount := none
  favouriteBeatmapsetCount := none
  mappingFollowerCountTotal := none
  replaysWatchedByOthers := none
  statistics := none
  beatmapPlaycountsCount := none

/-- The join date of the payload, as an instant. -/
def joinedAt : Timestamp := 1577836800000000

/-- This parser reads the join date of the payload and rejects every other text. -/
def parseInstant (text : String) : Except String Timestamp :=
  if text = "2020-01-01T00:00:00Z" then .ok joinedAt else .error "input contains invalid characters"

/-- These are the SHA-256 digests of the two messages that the samples sign. -/
def signing : RlToken.Signing where
  hmac key message :=
    if key = "secret" ∧ message = "1:guild:role:1:3600" then
    [102, 11, 103, 152, 188, 177, 144, 2, 69, 249, 199, 65, 195, 145, 93, 111,
     119, 172, 6, 2, 253, 185, 163, 8, 103, 77, 77, 251, 53, 159, 89, 128]
    else if key = "secret" ∧ message = "1:player:3600" then
    [55, 175, 193, 140, 255, 40, 187, 63, 89, 219, 189, 197, 175, 229, 156, 251,
     167, 191, 27, 154, 181, 194, 210, 225, 58, 8, 175, 127, 232, 98, 107, 234]
    else []
  decodeBase64 _ := none
  readHeader _ := none
  readClaims _ := none
  decodePercent := some

def config : AppConfig where
  baseUrl := "https://example.org/osu-player-role"
  sessionSecret := "secret"
  authGatewayUrl := "https://example.org"
  osuClientId := some "1"
  osuClientSecret := some "client secret"
  refreshConcurrency := 2
  allowedOrigins := ["https://example.org"]

def noHeaders : Headers where
  authorization := none
  origin := none
  secFetchDest := none
  secFetchSite := none
  rlSession := none

/-- This is the cookie of the player "1" for one hour. -/
def signedIn : Headers :=
  { noHeaders with
    origin := some "https://example.org"
    rlSession := some (RustText.joined ':' ["1", "player", "3600",
      RlToken.hex (signing.hmac "secret" "1:player:3600")]) }

/-- The other services cannot be reached, and the database serves every statement. -/
def alone (now : Timestamp) : Web.Outside where
  now := now
  newState := "state"
  newCodeVerifier := "verifier"
  guildMemberIds _ := .error (.internal "auth_gateway request failed")
  guildPermission _ _ := .error (.internal "auth_gateway permission request")
  guildMembers _ _ := .error (.internal "auth_gateway members request")
  exchangeCode _ _ _ := .error (.osuApi "token exchange failed")
  getMe _ := .error (.osuApi "/me failed")
  clientCredentialsToken := .error (.osuApi "client_credentials failed")
  getUser _ _ _ := .error (.osuApi "/users failed")
  refused _ := none

/-- These engines treat a pattern of letters as a search for its text. -/
def letterEngines : Engines where
  showFloat _ := "0.0"
  regexBuild pattern :=
    if pattern.toList.all Char.isAlpha then some fun text => RustText.contains text pattern else none
  pgRegex text pattern := .ok (RustText.contains text pattern)

def appState : Web.AppState where
  config := config
  signing := signing
  engines := letterEngines
  parseInstant := parseInstant

/-- This is a tree that grants the role to every linked player. -/
def grantAny : Jsonb := ⟨RuleTree.toValue ⟨true, .osu, []⟩, by decide⟩

def roleLink (token : String) (ruleTree : Jsonb) : RoleLink where
  guildId := "guild"
  roleId := "role"
  apiToken := token
  ruleTree := ruleTree
  ruleTreeVersion := .one
  createdAt := 0
  updatedAt := 0

def link : Link := ("guild", "role")

/-- This database has one link, and users without statistics. -/
def oneLink (row : RoleLink) (users : Table OsuUser DiscordId OsuUser.discordId)
    (distinct : (users.rows.map OsuUser.osuUserId).Nodup) : Tables :=
  { Tables.empty with
    roleLinks := ⟨[row], List.nodup_singleton _⟩
    osuUsers := users
    osuUserIdUnique := distinct
    statsReference := fun _ member => absurd member List.not_mem_nil
    assignmentsReference := fun _ present => absurd rfl present }

/-- A guild whose link grants the role to every linked member, with nothing assigned yet. -/
def grantingWorld (token : String) (users : Table OsuUser DiscordId OsuUser.discordId)
    (distinct : (users.rows.map OsuUser.osuUserId).Nodup) (userLimit : Nat) : Sync.World where
  tables := oneLink (roleLink token grantAny) users distinct
  remote _ := ∅
  guildsOf _ := ["guild"]
  membersOf _ := users.rows.map OsuUser.discordId
  userLimit _ := userLimit
  now := 0

/-- This database has one user and one row of statistics for the account. -/
def oneUser (row : OsuUser) (statistics : OsuStats) (same : row.osuUserId = statistics.osuUserId) :
    Tables :=
  { Tables.empty with
    osuUsers := ⟨[row], List.nodup_singleton _⟩
    osuStats := ⟨[statistics], List.nodup_singleton _⟩
    osuUserIdUnique := List.nodup_singleton _
    statsReference := fun other member => by
      rw [List.mem_singleton] at member
      exact ⟨row, List.mem_singleton_self row, same.trans (congrArg _ member.symm)⟩ }

/-- This database has the player "1" with one row of statistics. -/
def linkedPlayer : Tables := oneUser (user "1" 7) (stats 7 .osu) rfl

/-- This table has the player "1" alone. -/
def onePlayer : Table OsuUser DiscordId OsuUser.discordId := ⟨[user "1" 7], List.nodup_singleton _⟩

theorem onePlayer_distinct : (onePlayer.rows.map OsuUser.osuUserId).Nodup := List.nodup_singleton _

/-- One group asks for the top ranks and the other one for a country. -/
def tieredBody : RuleValidator.RuleTreeBody where
  grantOnAnyPlayer := false
  defaultMode := some "taiko"
  groups :=
    [⟨[⟨"global_rank", "lte", .string "1000", none⟩]⟩,
      ⟨[⟨"country_code", "in", .string "JP, KR", none⟩]⟩]

/-- One condition on one number. -/
def numberBody (target operator : String) (number : Number) : RuleValidator.RuleTreeBody where
  grantOnAnyPlayer := false
  defaultMode := none
  groups := [⟨[⟨target, operator, .number number, none⟩]⟩]

section Queue

open JobWorker

def texts : ErrorTexts := ⟨fun _ => "error returned from database", fun _ => "missing field"⟩

/-- Every statement is served, and every synchronization succeeds. -/
def served : Input := ⟨false, [], ⟨id, .refl⟩, false, 0, .ok ()⟩

def failing : Input := { served with synchronized := .error (.roleLogic "connection closed") }

def enqueued : Event := .enqueue "player_sync" (.object [("discord_id", .string "1")]) 0

def steps (index count : Nat) : List Event := List.replicate count (.step index served)

def minutes (count : Nat) : Event := .tick (count * 60 * 1000000)

/-- No job has been enqueued, and no worker has started. -/
def noJobs : System := .begin Tables.empty 0

end Queue

end OsuPlayerRole.Sample

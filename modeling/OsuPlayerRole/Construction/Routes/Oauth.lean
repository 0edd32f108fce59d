/-
This file gives the transaction that links or refreshes an osu! account.
-/
import OsuPlayerRole.Construction.OsuAccounts
import OsuPlayerRole.Construction.Services.Osu
import OsuPlayerRole.Construction.Services.SqlMeaning

namespace OsuPlayerRole.Oauth

open Json RuleSql

/-- The parser of RFC 3339 instants gives the instant or its message. -/
abbrev ParseInstant := String → Except String Timestamp

def hour : Int := 3600 * 1000000

section Profile

variable (user : Osu.OsuUser)

def countryCode : Option String :=
  user.countryCode.or (user.country.bind Osu.Country.code)

def countryName : Option String := user.country.bind Osu.Country.name

def badgeCount : Int4 :=
  match user.badges with
  | some badges => .wrap badges.length
  | none => .zero

def groups : List String :=
  match user.groups with
  | some groups => (groups.filterMap Osu.Group.identifier).filter fun identifier => identifier ≠ ""
  | none => []

def playstyles : List String := user.playstyle.getD []

def kudosu : Int4 :=
  match user.kudosu with
  | some kudosu => .wrap kudosu.total
  | none => .zero

/-- An absent counter is zero. -/
def counter (value : Option Int) : Int4 := .wrap (value.getD 0)

/-- This is the row of the INSERT. -/
def profileRow (now : Timestamp) (discordId : DiscordId) (discordName : Option String)
    (joined : Timestamp) (visited : Option Timestamp) (profile : Jsonb) : OsuUser where
  discordId := discordId
  osuUserId := user.id
  osuUsername := user.username
  discordName := discordName
  countryCode := countryCode user
  countryName := countryName user
  profileColour := user.profileColour
  avatarUrl := user.avatarUrl
  osuJoinedAt := joined
  lastVisitAt := visited
  isSupporter := user.isSupporter
  supportLevel := .wrap user.supportLevel
  isRestricted := user.isRestricted
  isActive := user.isActive
  badgeCount := badgeCount user
  followerCount := counter user.followerCount
  mappingFollowers := counter user.mappingFollowerCount
  kudosuTotal := kudosu user
  rankedBeatmaps := counter user.rankedBeatmapsetCount
  lovedBeatmaps := counter user.lovedBeatmapsetCount
  pendingBeatmaps := counter user.pendingBeatmapsetCount
  graveyardBeatmaps := counter user.graveyardBeatmapsetCount
  mappingPlaycount := counter user.beatmapPlaycountsCount
  replaysWatchedOthers := counter user.replaysWatchedByOthers
  favouriteBeatmapsets := counter user.favouriteBeatmapsetCount
  playstyles := (playstyles user).map some
  groups := (groups user).map some
  profile := profile
  linkedAt := now
  refreshedAt := now
  nextRefreshAt := now + 6 * hour
  refreshFailures := .zero

/-- A conflict keeps the instant of the link, and the name unless there is a new one. -/
def mergeProfile (fresh old : OsuUser) : OsuUser :=
  { fresh with
    discordId := old.discordId
    discordName := fresh.discordName.or old.discordName
    linkedAt := old.linkedAt }

theorem mergeProfile_discordId (fresh old : OsuUser) :
    (mergeProfile fresh old).discordId = old.discordId := rfl

/-- These are the texts that the INSERT binds. -/
def profileBinds (discordId : DiscordId) (discordName : Option String) : List Bind :=
  .text discordId :: .text user.username ::
    ([discordName, countryCode user, countryName user, user.profileColour,
      user.avatarUrl].reduceOption.map .text ++ [.textArray (playstyles user), .textArray (groups user)])

/-- This statement severs the link of the account to other Discord accounts. -/
def severOthers (discordId : DiscordId) (tables : Tables) : Tables :=
  tables.deleteOsuUsers fun row => row.osuUserId = user.id && row.discordId ≠ discordId

def insertProfile (now : Timestamp) (discordId : DiscordId) (discordName : Option String)
    (joined : Timestamp) (visited : Option Timestamp) (tables : Tables) : Except DbError Tables := do
  send (profileBinds user discordId discordName)
  let profile ← jsonb user.toValue
  let fresh := profileRow user now discordId discordName joined visited profile
  tables.upsertOsuUser fresh (mergeProfile fresh) (mergeProfile_discordId fresh)

def upsertUserProfile (parse : ParseInstant) (now : Timestamp) (discordId : DiscordId)
    (discordName : Option String) (tables : Tables) : Except AppError Tables :=
  match parse user.joinDate with
  | .error message => .error (.osuApi ("invalid join_date: " ++ message))
  | .ok joined =>
      let visited := user.lastVisit.bind fun text => (parse text).toOption
      (do
        send [.text discordId]
        insertProfile user now discordId discordName joined visited
          (severOthers user discordId tables)).mapError .database

end Profile

section Stats

/-- This is the row of the INSERT. -/
def statsRow (now : Timestamp) (osuUserId : OsuUserId) (mode : Mode) (user : Osu.OsuUser) : OsuStats :=
  let statistics := user.statistics
  let grades := statistics.bind Osu.UserStatistics.gradeCounts
  { osuUserId := osuUserId
    mode := mode
    globalRank := (statistics.bind Osu.UserStatistics.globalRank).map .wrap
    countryRank := (statistics.bind Osu.UserStatistics.countryRank).map .wrap
    performancePoints :=
      match statistics.bind Osu.UserStatistics.pp with
      | some pp => .saturate pp.round
      | none => .zero
    playCount := counter (statistics.bind Osu.UserStatistics.playCount)
    playTimeHours := counter ((statistics.bind Osu.UserStatistics.playTime).map fun seconds =>
      seconds.tdiv 3600)
    totalScore := (statistics.bind Osu.UserStatistics.totalScore).getD 0
    rankedScore := (statistics.bind Osu.UserStatistics.rankedScore).getD 0
    hitAccuracy :=
      match statistics.bind Osu.UserStatistics.hitAccuracy with
      | some accuracy => .saturate accuracy.floor
      | none => .zero
    maxCombo := counter (statistics.bind Osu.UserStatistics.maximumCombo)
    levelInt := counter ((statistics.bind Osu.UserStatistics.level).bind Osu.Level.current)
    countSsSilver := counter (grades.map Osu.GradeCounts.ssh)
    countSs := counter (grades.map Osu.GradeCounts.ss)
    countSSilver := counter (grades.map Osu.GradeCounts.sh)
    countS := counter (grades.map Osu.GradeCounts.s)
    countA := counter (grades.map Osu.GradeCounts.a)
    refreshedAt := now }

def mergeStats (fresh old : OsuStats) : OsuStats :=
  { fresh with osuUserId := old.osuUserId, mode := old.mode }

theorem mergeStats_key (fresh old : OsuStats) : (mergeStats fresh old).key = old.key := rfl

def upsertStats (now : Timestamp) (osuUserId : OsuUserId) (mode : Mode) (user : Osu.OsuUser)
    (tables : Tables) : Except AppError Tables :=
  let fresh := statsRow now osuUserId mode user
  (tables.upsertOsuStats fresh (mergeStats fresh) (mergeStats_key fresh)).mapError .database

/-- A mode whose page could not be fetched is skipped. -/
def upsertPages (now : Timestamp) (osuUserId : OsuUserId) (pages : Mode → Option Osu.OsuUser) :
    List Mode → Tables → Except AppError Tables
  | [], tables => .ok tables
  | mode :: rest, tables =>
      match pages mode with
      | none => upsertPages now osuUserId pages rest tables
      | some page => do
          let stored ← upsertStats now osuUserId mode page tables
          upsertPages now osuUserId pages rest stored

end Stats

/-- This is the transaction of the callback and of the refresh. An error rolls it back. -/
def accountTransaction (parse : ParseInstant) (now : Timestamp) (discordId : DiscordId)
    (user : Osu.OsuUser) (discordName : Option String) (osuUserId : OsuUserId)
    (pages : Mode → Option Osu.OsuUser) (tables : Tables) : Except AppError Tables := do
  let profiled ← upsertUserProfile user parse now discordId discordName tables
  upsertPages now osuUserId pages Mode.all profiled

end OsuPlayerRole.Oauth

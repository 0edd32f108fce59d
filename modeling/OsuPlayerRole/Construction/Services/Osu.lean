/-
This file gives the user payload of the osu! API.
-/
import OsuPlayerRole.Construction.Json
import OsuPlayerRole.Construction.Models.Condition

namespace OsuPlayerRole.Osu

open Json

structure Country where
  code : Option String
  name : Option String

structure Badge where
  awardedAt : Option String
  description : Option String
  imageUrl : Option String

structure Group where
  id : Option Int
  identifier : Option String
  name : Option String

structure Kudosu where
  total : Int
  available : Int

structure Level where
  current : Option Int
  progress : Option Int

structure GradeCounts where
  ss : Int
  ssh : Int
  s : Int
  sh : Int
  a : Int

structure UserStatistics where
  pp : Option F64
  globalRank : Option Int
  countryRank : Option Int
  rankedScore : Option Int
  totalScore : Option Int
  playCount : Option Int
  playTime : Option Int
  hitAccuracy : Option F64
  maximumCombo : Option Int
  level : Option Level
  gradeCounts : Option GradeCounts

structure OsuUser where
  id : Int
  username : String
  countryCode : Option String
  country : Option Country
  profileColour : Option String
  avatarUrl : Option String
  joinDate : String
  lastVisit : Option String
  isSupporter : Bool
  supportLevel : Int
  isRestricted : Bool
  isActive : Bool
  playstyle : Option (List String)
  badges : Option (List Badge)
  groups : Option (List Group)
  followerCount : Option Int
  mappingFollowerCount : Option Int
  kudosu : Option Kudosu
  rankedBeatmapsetCount : Option Int
  lovedBeatmapsetCount : Option Int
  pendingBeatmapsetCount : Option Int
  graveyardBeatmapsetCount : Option Int
  favouriteBeatmapsetCount : Option Int
  mappingFollowerCountTotal : Option Int
  replaysWatchedByOthers : Option Int
  statistics : Option UserStatistics
  beatmapPlaycountsCount : Option Int

section Serialize

/-- An absent value is serialized as null. -/
def optional {A : Type} (encode : A → Value) : Option A → Value
  | none => .null
  | some value => encode value

def texts (values : List String) : Value := .array (values.map .string)

def float (value : F64) : Value := .number (.float value)

def Country.toValue (country : Country) : Value :=
  .object [("code", optional .string country.code), ("name", optional .string country.name)]

def Badge.toValue (badge : Badge) : Value :=
  .object [("awarded_at", optional .string badge.awardedAt),
    ("description", optional .string badge.description),
    ("image_url", optional .string badge.imageUrl)]

def Group.toValue (group : Group) : Value :=
  .object [("id", optional .ofI64 group.id), ("identifier", optional .string group.identifier),
    ("name", optional .string group.name)]

def Kudosu.toValue (kudosu : Kudosu) : Value :=
  .object [("total", .ofI64 kudosu.total), ("available", .ofI64 kudosu.available)]

def Level.toValue (level : Level) : Value :=
  .object [("current", optional .ofI64 level.current), ("progress", optional .ofI64 level.progress)]

def GradeCounts.toValue (counts : GradeCounts) : Value :=
  .object [("ss", .ofI64 counts.ss), ("ssh", .ofI64 counts.ssh), ("s", .ofI64 counts.s),
    ("sh", .ofI64 counts.sh), ("a", .ofI64 counts.a)]

def UserStatistics.toValue (statistics : UserStatistics) : Value :=
  .object [("pp", optional float statistics.pp),
    ("global_rank", optional .ofI64 statistics.globalRank),
    ("country_rank", optional .ofI64 statistics.countryRank),
    ("ranked_score", optional .ofI64 statistics.rankedScore),
    ("total_score", optional .ofI64 statistics.totalScore),
    ("play_count", optional .ofI64 statistics.playCount),
    ("play_time", optional .ofI64 statistics.playTime),
    ("hit_accuracy", optional float statistics.hitAccuracy),
    ("maximum_combo", optional .ofI64 statistics.maximumCombo),
    ("level", optional Level.toValue statistics.level),
    ("grade_counts", optional GradeCounts.toValue statistics.gradeCounts)]

def OsuUser.toValue (user : OsuUser) : Value :=
  .object [("id", .ofI64 user.id), ("username", .string user.username),
    ("country_code", optional .string user.countryCode),
    ("country", optional Country.toValue user.country),
    ("profile_colour", optional .string user.profileColour),
    ("avatar_url", optional .string user.avatarUrl), ("join_date", .string user.joinDate),
    ("last_visit", optional .string user.lastVisit), ("is_supporter", .bool user.isSupporter),
    ("support_level", .ofI64 user.supportLevel), ("is_restricted", .bool user.isRestricted),
    ("is_active", .bool user.isActive), ("playstyle", optional texts user.playstyle),
    ("badges", optional (fun badges => .array (badges.map Badge.toValue)) user.badges),
    ("groups", optional (fun groups => .array (groups.map Group.toValue)) user.groups),
    ("follower_count", optional .ofI64 user.followerCount),
    ("mapping_follower_count", optional .ofI64 user.mappingFollowerCount),
    ("kudosu", optional Kudosu.toValue user.kudosu),
    ("ranked_beatmapset_count", optional .ofI64 user.rankedBeatmapsetCount),
    ("loved_beatmapset_count", optional .ofI64 user.lovedBeatmapsetCount),
    ("pending_beatmapset_count", optional .ofI64 user.pendingBeatmapsetCount),
    ("graveyard_beatmapset_count", optional .ofI64 user.graveyardBeatmapsetCount),
    ("favourite_beatmapset_count", optional .ofI64 user.favouriteBeatmapsetCount),
    ("mapping_follower_count_total", optional .ofI64 user.mappingFollowerCountTotal),
    ("replays_watched_by_others", optional .ofI64 user.replaysWatchedByOthers),
    ("statistics", optional UserStatistics.toValue user.statistics),
    ("beatmap_playcounts_count", optional .ofI64 user.beatmapPlaycountsCount)]

end Serialize

end OsuPlayerRole.Osu

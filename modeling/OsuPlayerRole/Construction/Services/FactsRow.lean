/-
This file reads the facts of one player from the joined row.
-/
import OsuPlayerRole.Construction.Models.Facts
import OsuPlayerRole.Construction.Services.RuleSql

namespace OsuPlayerRole.Sync

open RuleSql

structure FactsRow where
  isSupporter : Bool
  isActive : Bool
  isRestricted : Bool
  hasBadge : Bool
  hasGroupBadge : Bool
  osuJoinedAt : Timestamp
  lastVisitAt : Option Timestamp
  badgeCount : Int
  followerCount : Int
  mappingSubscribers : Int
  kudosu : Int
  rankedBeatmaps : Int
  lovedBeatmaps : Int
  mappingPlaycount : Int
  replaysWatchedByOthers : Int
  favouriteCount : Int
  countryCode : Option String
  username : String
  groups : List String
  playstyles : List String
  globalRank : Option Int
  countryRank : Option Int
  performancePoints : Int
  playCount : Int
  playTimeHours : Int
  totalScore : Int
  rankedScore : Int
  hitAccuracy : Int
  maxCombo : Int
  levelInt : Int
  ssCount : Int
  sCount : Int
  aCount : Int

/-- A decoder takes the name of its column for the error. -/
abbrev Decoder (A : Type) := String → Datum → Except DbError A

namespace Decoder

def bool : Decoder Bool
  | _, .bool value => .ok value
  | column, .null => .error (.unexpectedNull column)
  | _, _ => .error .typeMismatch

def int : Decoder Int
  | _, .int value => .ok value
  | column, .null => .error (.unexpectedNull column)
  | _, _ => .error .typeMismatch

def text : Decoder String
  | _, .text value => .ok value
  | column, .null => .error (.unexpectedNull column)
  | _, _ => .error .typeMismatch

def instant : Decoder Timestamp
  | _, .instant value => .ok value
  | column, .null => .error (.unexpectedNull column)
  | _, _ => .error .typeMismatch

/-- The elements of the vector are plain strings, so a null element cannot be decoded. -/
def texts : Decoder (List String)
  | column, .array elements => elements.mapM fun element => element.elim (.error (.unexpectedNull column)) .ok
  | column, .null => .error (.unexpectedNull column)
  | _, _ => .error .typeMismatch

def optional {A : Type} (decoder : Decoder A) : Decoder (Option A)
  | _, .null => .ok none
  | column, datum => some <$> decoder column datum

end Decoder

/-- One output column of the select list. -/
def selected {A : Type} (row : JoinedRow) (decoder : Decoder A) (label : String) (expr : Expr) :
    Except DbError A := do
  decoder label (← expr.value 0 row)

/-- The select list has no expression that depends on the current time. -/
def factsSelect (row : JoinedRow) : Except DbError FactsRow := do
  return {
    isSupporter := ← selected row .bool "is_supporter" (.read .isSupporter)
    isActive := ← selected row .bool "is_active" (.read .isActive)
    isRestricted := ← selected row .bool "is_restricted" (.read .isRestricted)
    hasBadge := ← selected row .bool "has_badge" (.positive (.coalesceZero (.read .badgeCount)))
    hasGroupBadge := ← selected row .bool "has_group_badge"
      (.positive (.coalesceZero (.arrayLength (.read .groups))))
    osuJoinedAt := ← selected row .instant "osu_joined_at" (.read .osuJoinedAt)
    lastVisitAt := ← selected row (.optional .instant) "last_visit_at" (.read .lastVisitAt)
    badgeCount := ← selected row .int "badge_count" (.coalesceZero (.read .badgeCount))
    followerCount := ← selected row .int "follower_count" (.coalesceZero (.read .followerCount))
    mappingSubscribers := ← selected row .int "mapping_subscribers"
      (.coalesceZero (.read .mappingFollowers))
    kudosu := ← selected row .int "kudosu" (.coalesceZero (.read .kudosuTotal))
    rankedBeatmaps := ← selected row .int "ranked_beatmaps" (.coalesceZero (.read .rankedBeatmaps))
    lovedBeatmaps := ← selected row .int "loved_beatmaps" (.coalesceZero (.read .lovedBeatmaps))
    mappingPlaycount := ← selected row .int "mapping_playcount"
      (.coalesceZero (.read .mappingPlaycount))
    replaysWatchedByOthers := ← selected row .int "replays_watched_by_others"
      (.coalesceZero (.read .replaysWatchedOthers))
    favouriteCount := ← selected row .int "favourite_count"
      (.coalesceZero (.read .favouriteBeatmapsets))
    countryCode := ← selected row (.optional .text) "country_code" (.read .countryCode)
    username := ← selected row .text "username" (.read .osuUsername)
    groups := ← selected row .texts "groups" (.read .groups)
    playstyles := ← selected row .texts "playstyles" (.read .playstyles)
    globalRank := ← selected row (.optional .int) "global_rank" (.read .globalRank)
    countryRank := ← selected row (.optional .int) "country_rank" (.read .countryRank)
    performancePoints := ← selected row .int "performance_points"
      (.coalesceZero (.read .performancePoints))
    playCount := ← selected row .int "play_count" (.coalesceZero (.read .playCount))
    playTimeHours := ← selected row .int "play_time_hours" (.coalesceZero (.read .playTimeHours))
    totalScore := ← selected row .int "total_score" (.coalesceZero (.read .totalScore))
    rankedScore := ← selected row .int "ranked_score" (.coalesceZero (.read .rankedScore))
    hitAccuracy := ← selected row .int "hit_accuracy" (.coalesceZero (.read .hitAccuracy))
    maxCombo := ← selected row .int "max_combo" (.coalesceZero (.read .maxCombo))
    levelInt := ← selected row .int "level_int" (.coalesceZero (.read .levelInt))
    ssCount := ← selected row .int "ss_count"
      (.coalesceZero (.plus (.read .countSs) (.read .countSsSilver)))
    sCount := ← selected row .int "s_count"
      (.coalesceZero (.plus (.read .countS) (.read .countSSilver)))
    aCount := ← selected row .int "a_count" (.coalesceZero (.read .countA)) }

/-- The conversion widens the integers. -/
def FactsRow.facts (row : FactsRow) : Facts where
  isSupporter := row.isSupporter
  isActive := row.isActive
  isRestricted := row.isRestricted
  hasBadge := row.hasBadge
  hasGroupBadge := row.hasGroupBadge
  osuJoinedAt := some row.osuJoinedAt
  lastVisitAt := row.lastVisitAt
  badgeCount := row.badgeCount
  followerCount := row.followerCount
  mappingSubscribers := row.mappingSubscribers
  kudosu := row.kudosu
  rankedBeatmaps := row.rankedBeatmaps
  lovedBeatmaps := row.lovedBeatmaps
  mappingPlaycount := row.mappingPlaycount
  replaysWatchedByOthers := row.replaysWatchedByOthers
  favouriteCount := row.favouriteCount
  countryCode := row.countryCode
  username := row.username
  groups := row.groups
  playstyles := row.playstyles
  globalRank := row.globalRank
  countryRank := row.countryRank
  performancePoints := row.performancePoints
  playCount := row.playCount
  playTimeHours := row.playTimeHours
  totalScore := row.totalScore
  rankedScore := row.rankedScore
  hitAccuracy := row.hitAccuracy
  maxCombo := row.maxCombo
  levelInt := row.levelInt
  ssCount := row.ssCount
  sCount := row.sCount
  aCount := row.aCount

end OsuPlayerRole.Sync

/-
This file gives the game modes, the condition targets, and the condition operators.
-/
import OsuPlayerRole.Construction.Json

namespace OsuPlayerRole

inductive Mode where
  | osu
  | taiko
  | fruits
  | mania
  deriving DecidableEq

namespace Mode

def asStr : Mode → String
  | .osu => "osu"
  | .taiko => "taiko"
  | .fruits => "fruits"
  | .mania => "mania"

/-- The function accepts the historical aliases. -/
def fromKey (key : String) : Option Mode :=
  if key = "osu" ∨ key = "standard" then some .osu
  else if key = "taiko" then some .taiko
  else if key = "fruits" ∨ key = "catch" ∨ key = "ctb" then some .fruits
  else if key = "mania" then some .mania
  else none

def all : List Mode := [.osu, .taiko, .fruits, .mania]

/-- Serialization uses the canonical names only. -/
def fromName (name : String) : Option Mode := all.find? fun mode => mode.asStr = name

end Mode

inductive TargetKind where
  | bool
  | int
  | string
  deriving DecidableEq

/-- The targets of the profile come first. The targets from `globalRank` on use the mode of the rule. -/
inductive ConditionTarget where
  | isSupporter
  | isActive
  | isRestricted
  | hasBadge
  | hasGroupBadge
  | accountAgeDays
  | daysSinceLastVisit
  | badgeCount
  | followerCount
  | mappingSubscribers
  | kudosu
  | rankedBeatmaps
  | lovedBeatmaps
  | mappingPlaycount
  | replaysWatchedByOthers
  | favouriteCount
  | countryCode
  | username
  | groupName
  | playstyle
  | globalRank
  | countryRank
  | performancePoints
  | playCount
  | playTimeHours
  | totalScore
  | rankedScore
  | hitAccuracy
  | maxCombo
  | levelInt
  | ssCount
  | sCount
  | aCount
  deriving DecidableEq

namespace ConditionTarget

def kind : ConditionTarget → TargetKind
  | .isSupporter | .isActive | .isRestricted | .hasBadge | .hasGroupBadge => .bool
  | .countryCode | .username | .groupName | .playstyle => .string
  | _ => .int

def asStr : ConditionTarget → String
  | .isSupporter => "is_supporter"
  | .isActive => "is_active"
  | .isRestricted => "is_restricted"
  | .hasBadge => "has_badge"
  | .hasGroupBadge => "has_group_badge"
  | .accountAgeDays => "account_age_days"
  | .daysSinceLastVisit => "days_since_last_visit"
  | .badgeCount => "badge_count"
  | .followerCount => "follower_count"
  | .mappingSubscribers => "mapping_subscribers"
  | .kudosu => "kudosu"
  | .rankedBeatmaps => "ranked_beatmaps"
  | .lovedBeatmaps => "loved_beatmaps"
  | .mappingPlaycount => "mapping_playcount"
  | .replaysWatchedByOthers => "replays_watched_by_others"
  | .favouriteCount => "favourite_count"
  | .countryCode => "country_code"
  | .username => "username"
  | .groupName => "group_name"
  | .playstyle => "playstyle"
  | .globalRank => "global_rank"
  | .countryRank => "country_rank"
  | .performancePoints => "performance_points"
  | .playCount => "play_count"
  | .playTimeHours => "play_time_hours"
  | .totalScore => "total_score"
  | .rankedScore => "ranked_score"
  | .hitAccuracy => "hit_accuracy"
  | .maxCombo => "max_combo"
  | .levelInt => "level_int"
  | .ssCount => "ss_count"
  | .sCount => "s_count"
  | .aCount => "a_count"

def all : List ConditionTarget :=
  [.isSupporter, .isActive, .isRestricted, .hasBadge, .hasGroupBadge, .accountAgeDays,
    .daysSinceLastVisit, .badgeCount, .followerCount, .mappingSubscribers, .kudosu,
    .rankedBeatmaps, .lovedBeatmaps, .mappingPlaycount, .replaysWatchedByOthers, .favouriteCount,
    .countryCode, .username, .groupName, .playstyle, .globalRank, .countryRank,
    .performancePoints, .playCount, .playTimeHours, .totalScore, .rankedScore, .hitAccuracy,
    .maxCombo, .levelInt, .ssCount, .sCount, .aCount]

/-- The derived names of the variants are the names of `as_str`. -/
def fromName (name : String) : Option ConditionTarget := all.find? fun target => target.asStr = name

/-- The parser also accepts four short aliases. -/
def fromKey (key : String) : Option ConditionTarget :=
  if key = "pp" then some .performancePoints
  else if key = "playcount" then some .playCount
  else if key = "accuracy" then some .hitAccuracy
  else if key = "level" then some .levelInt
  else fromName key

theorem fromName_asStr (target : ConditionTarget) : fromName target.asStr = some target := by
  cases target <;> decide

end ConditionTarget

inductive ConditionOperator where
  | eq
  | neq
  | gt
  | gte
  | lt
  | lte
  | between
  | contains
  | regex
  | isIn
  | notIn
  deriving DecidableEq

namespace ConditionOperator

def asStr : ConditionOperator → String
  | .eq => "eq"
  | .neq => "neq"
  | .gt => "gt"
  | .gte => "gte"
  | .lt => "lt"
  | .lte => "lte"
  | .between => "between"
  | .contains => "contains"
  | .regex => "regex"
  | .isIn => "in"
  | .notIn => "not_in"

def all : List ConditionOperator :=
  [.eq, .neq, .gt, .gte, .lt, .lte, .between, .contains, .regex, .isIn, .notIn]

def fromKey (key : String) : Option ConditionOperator := all.find? fun operator => operator.asStr = key

theorem fromKey_asStr (operator : ConditionOperator) : fromKey operator.asStr = some operator := by
  cases operator <;> decide

def validFor (operator : ConditionOperator) : TargetKind → Bool
  | .bool => operator = .eq
  | .int => operator ∈ [.eq, .neq, .gt, .gte, .lt, .lte, .between]
  | .string => operator ∈ [.eq, .neq, .contains, .regex, .isIn, .notIn]

end ConditionOperator

theorem Mode.fromName_asStr (mode : Mode) : Mode.fromName mode.asStr = some mode := by
  cases mode <;> decide

/-- A single condition of an AND-group. -/
structure Condition where
  target : ConditionTarget
  operator : ConditionOperator
  value : Json.Value
  valueEnd : Option Json.Value

end OsuPlayerRole

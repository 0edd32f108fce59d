/-
This file evaluates a rule tree against the facts of one player.
-/
import OsuPlayerRole.Construction.Externals
import OsuPlayerRole.Construction.Models.Facts
import OsuPlayerRole.Construction.Models.Rule
import OsuPlayerRole.Library.RustText

namespace OsuPlayerRole.ConditionEval

open Json

def microsPerDay : Int := 86400 * 1000000

/-- The method `num_days` truncates toward zero. -/
def daysSince (now : Timestamp) (instant : Option Timestamp) : Option Int :=
  instant.map fun earlier => (now - earlier).tdiv microsPerDay

def boolMatch (condition : Condition) (actual : Bool) : Bool :=
  if condition.operator ≠ .eq then false
  else (condition.value.asBool.map fun value => value == actual).getD false

/-- A missing integer matches nothing. -/
def intMatch (condition : Condition) : Option Int → Bool
  | none => false
  | some actual =>
      let operand := condition.value.asI64
      let compared (relation : Int → Bool) := (operand.map relation).getD false
      match condition.operator with
      | .eq => compared fun value => actual == value
      | .neq => compared fun value => actual != value
      | .gt => compared fun value => actual > value
      | .gte => compared fun value => actual ≥ value
      | .lt => compared fun value => actual < value
      | .lte => compared fun value => actual ≤ value
      | .between =>
          match operand, condition.valueEnd.bind Value.asI64 with
          | some low, some high => actual ≥ low && actual ≤ high
          | _, _ => false
      | _ => false

def listContains (value : Value) (needle : String) : Bool :=
  (value.asArray.map fun items => (items.filterMap Value.asStr).any (· == needle)).getD false

/-- A missing string passes `neq` only. -/
def stringMatch (engines : Engines) (condition : Condition) : Option String → Bool
  | none => condition.operator = .neq
  | some actual =>
      let operand := condition.value.asStr
      match condition.operator with
      | .eq => (operand.map fun value => actual == value).getD false
      | .neq => (operand.map fun value => actual != value).getD false
      | .contains => (operand.map fun value => RustText.contains actual value).getD false
      | .regex => ((operand.bind engines.regexBuild).map fun isMatch => isMatch actual).getD false
      | .isIn => listContains condition.value actual
      | .notIn => !listContains condition.value actual
      | _ => false

/-- The negated operators ask every element, and the others ask for one element. -/
def listStringMatch (engines : Engines) (condition : Condition) (actuals : List String) : Bool :=
  let needle := condition.value.asStr
  match condition.operator with
  | .eq => (needle.map fun value => actuals.any (· == value)).getD false
  | .neq => (needle.map fun value => actuals.all (· != value)).getD true
  | .contains => (needle.map fun value => actuals.any (RustText.contains · value)).getD false
  | .regex => ((needle.bind engines.regexBuild).map fun isMatch => actuals.any isMatch).getD false
  | .isIn => actuals.any (listContains condition.value ·)
  | .notIn => actuals.all (!listContains condition.value ·)
  | _ => false

def evaluateSingle (engines : Engines) (now : Timestamp) (condition : Condition) (facts : Facts) :
    Bool :=
  match condition.target with
  | .isSupporter => boolMatch condition facts.isSupporter
  | .isActive => boolMatch condition facts.isActive
  | .isRestricted => boolMatch condition facts.isRestricted
  | .hasBadge => boolMatch condition facts.hasBadge
  | .hasGroupBadge => boolMatch condition facts.hasGroupBadge
  | .accountAgeDays => intMatch condition (daysSince now facts.osuJoinedAt)
  | .daysSinceLastVisit => intMatch condition (daysSince now facts.lastVisitAt)
  | .badgeCount => intMatch condition (some facts.badgeCount)
  | .followerCount => intMatch condition (some facts.followerCount)
  | .mappingSubscribers => intMatch condition (some facts.mappingSubscribers)
  | .kudosu => intMatch condition (some facts.kudosu)
  | .rankedBeatmaps => intMatch condition (some facts.rankedBeatmaps)
  | .lovedBeatmaps => intMatch condition (some facts.lovedBeatmaps)
  | .mappingPlaycount => intMatch condition (some facts.mappingPlaycount)
  | .replaysWatchedByOthers => intMatch condition (some facts.replaysWatchedByOthers)
  | .favouriteCount => intMatch condition (some facts.favouriteCount)
  | .countryCode => stringMatch engines condition facts.countryCode
  | .username => stringMatch engines condition (some facts.username)
  | .groupName => listStringMatch engines condition facts.groups
  | .playstyle => listStringMatch engines condition facts.playstyles
  | .globalRank => intMatch condition facts.globalRank
  | .countryRank => intMatch condition facts.countryRank
  | .performancePoints => intMatch condition (some facts.performancePoints)
  | .playCount => intMatch condition (some facts.playCount)
  | .playTimeHours => intMatch condition (some facts.playTimeHours)
  | .totalScore => intMatch condition (some facts.totalScore)
  | .rankedScore => intMatch condition (some facts.rankedScore)
  | .hitAccuracy => intMatch condition (some facts.hitAccuracy)
  | .maxCombo => intMatch condition (some facts.maxCombo)
  | .levelInt => intMatch condition (some facts.levelInt)
  | .ssCount => intMatch condition (some facts.ssCount)
  | .sCount => intMatch condition (some facts.sCount)
  | .aCount => intMatch condition (some facts.aCount)

/-- An unconfigured tree matches nobody, and so does an empty group. -/
def evaluate (engines : Engines) (now : Timestamp) (tree : RuleTree) (facts : Facts) : Bool :=
  if tree.grantOnAnyPlayer then true
  else if tree.groups.isEmpty then false
  else tree.groups.any fun group =>
    !group.conditions.isEmpty &&
      group.conditions.all fun condition => evaluateSingle engines now condition facts

end OsuPlayerRole.ConditionEval

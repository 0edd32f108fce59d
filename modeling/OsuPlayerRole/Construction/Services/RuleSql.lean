/-
This file translates a rule tree into a condition of the database.
-/
import OsuPlayerRole.Construction.Externals
import OsuPlayerRole.Construction.Database
import OsuPlayerRole.Construction.Models.Rule
import OsuPlayerRole.Library.RustText

namespace OsuPlayerRole.RuleSql

open Json

inductive Bind where
  | bool (value : Bool)
  | int (value : Int)
  | text (value : String)
  | textArray (values : List String)
  deriving DecidableEq

/-- The value of an expression in one row. -/
inductive Datum where
  | null
  | bool (value : Bool)
  | int (value : Int)
  | text (value : String)
  | array (elements : List (Option String))
  | instant (value : Timestamp)
  deriving DecidableEq

/-- The left join has no statistics for a player without the mode. -/
structure JoinedRow where
  user : OsuUser
  stats : Option OsuStats

/-- The columns of the aliases `ou` and `os` that the program reads. -/
inductive Column where
  | isSupporter | isActive | isRestricted
  | badgeCount | followerCount | mappingFollowers | kudosuTotal | rankedBeatmaps | lovedBeatmaps
  | mappingPlaycount | replaysWatchedOthers | favouriteBeatmapsets
  | countryCode | osuUsername | groups | playstyles | osuJoinedAt | lastVisitAt
  | globalRank | countryRank | performancePoints | playCount | playTimeHours | totalScore
  | rankedScore | hitAccuracy | maxCombo | levelInt
  | countSs | countSsSilver | countS | countSSilver | countA
  deriving DecidableEq

namespace Column

def name : Column → String
  | .isSupporter => "ou.is_supporter"
  | .isActive => "ou.is_active"
  | .isRestricted => "ou.is_restricted"
  | .badgeCount => "ou.badge_count"
  | .followerCount => "ou.follower_count"
  | .mappingFollowers => "ou.mapping_followers"
  | .kudosuTotal => "ou.kudosu_total"
  | .rankedBeatmaps => "ou.ranked_beatmaps"
  | .lovedBeatmaps => "ou.loved_beatmaps"
  | .mappingPlaycount => "ou.mapping_playcount"
  | .replaysWatchedOthers => "ou.replays_watched_others"
  | .favouriteBeatmapsets => "ou.favourite_beatmapsets"
  | .countryCode => "ou.country_code"
  | .osuUsername => "ou.osu_username"
  | .groups => "ou.groups"
  | .playstyles => "ou.playstyles"
  | .osuJoinedAt => "ou.osu_joined_at"
  | .lastVisitAt => "ou.last_visit_at"
  | .globalRank => "os.global_rank"
  | .countryRank => "os.country_rank"
  | .performancePoints => "os.performance_points"
  | .playCount => "os.play_count"
  | .playTimeHours => "os.play_time_hours"
  | .totalScore => "os.total_score"
  | .rankedScore => "os.ranked_score"
  | .hitAccuracy => "os.hit_accuracy"
  | .maxCombo => "os.max_combo"
  | .levelInt => "os.level_int"
  | .countSs => "os.count_ss"
  | .countSsSilver => "os.count_ss_silver"
  | .countS => "os.count_s"
  | .countSSilver => "os.count_s_silver"
  | .countA => "os.count_a"

/-- A missing row of statistics has the null value in each of its columns. -/
def ofStats (row : JoinedRow) (column : OsuStats → Datum) : Datum := (row.stats.map column).getD .null

def value (row : JoinedRow) : Column → Datum
  | .isSupporter => .bool row.user.isSupporter
  | .isActive => .bool row.user.isActive
  | .isRestricted => .bool row.user.isRestricted
  | .badgeCount => .int row.user.badgeCount
  | .followerCount => .int row.user.followerCount
  | .mappingFollowers => .int row.user.mappingFollowers
  | .kudosuTotal => .int row.user.kudosuTotal
  | .rankedBeatmaps => .int row.user.rankedBeatmaps
  | .lovedBeatmaps => .int row.user.lovedBeatmaps
  | .mappingPlaycount => .int row.user.mappingPlaycount
  | .replaysWatchedOthers => .int row.user.replaysWatchedOthers
  | .favouriteBeatmapsets => .int row.user.favouriteBeatmapsets
  | .countryCode => row.user.countryCode.elim .null .text
  | .osuUsername => .text row.user.osuUsername
  | .groups => .array row.user.groups
  | .playstyles => .array row.user.playstyles
  | .osuJoinedAt => .instant row.user.osuJoinedAt
  | .lastVisitAt => row.user.lastVisitAt.elim .null .instant
  | .globalRank => ofStats row fun stats => stats.globalRank.elim .null fun rank => .int rank
  | .countryRank => ofStats row fun stats => stats.countryRank.elim .null fun rank => .int rank
  | .performancePoints => ofStats row fun stats => .int stats.performancePoints
  | .playCount => ofStats row fun stats => .int stats.playCount
  | .playTimeHours => ofStats row fun stats => .int stats.playTimeHours
  | .totalScore => ofStats row fun stats => .int stats.totalScore
  | .rankedScore => ofStats row fun stats => .int stats.rankedScore
  | .hitAccuracy => ofStats row fun stats => .int stats.hitAccuracy
  | .maxCombo => ofStats row fun stats => .int stats.maxCombo
  | .levelInt => ofStats row fun stats => .int stats.levelInt
  | .countSs => ofStats row fun stats => .int stats.countSs
  | .countSsSilver => ofStats row fun stats => .int stats.countSsSilver
  | .countS => ofStats row fun stats => .int stats.countS
  | .countSSilver => ofStats row fun stats => .int stats.countSSilver
  | .countA => ofStats row fun stats => .int stats.countA

end Column

inductive Expr where
  | read (column : Column)
  | coalesceFalse (argument : Expr)
  | coalesceZero (argument : Expr)
  | arrayLength (argument : Expr)
  | plus (first second : Expr)
  | positive (argument : Expr)
  | daysAgo (argument : Expr)

namespace Expr

def render : Expr → String
  | .read column => column.name
  | .coalesceFalse argument => "COALESCE(" ++ argument.render ++ ", false)"
  | .coalesceZero argument => "COALESCE(" ++ argument.render ++ ", 0)"
  | .arrayLength argument => "array_length(" ++ argument.render ++ ", 1)"
  | .plus first second => first.render ++ " + " ++ second.render
  | .positive argument => "(" ++ argument.render ++ " > 0)"
  | .daysAgo argument =>
      "FLOOR(EXTRACT(EPOCH FROM (now() - " ++ argument.render ++ ")) / 86400)"

def lengthOf : Datum → Except DbError Datum
  | .null => .ok .null
  | .array [] => .ok .null
  | .array elements => .ok (.int elements.length)
  | _ => .error .typeMismatch

/-- Both operands have the type INTEGER, and so has the sum. -/
def sumOf : Datum → Datum → Except DbError Datum
  | .int first, .int second => return .int (← Int4.ofInt (first + second)).val
  | .null, .int _ | .int _, .null | .null, .null => .ok .null
  | _, _ => .error .typeMismatch

def positiveOf : Datum → Except DbError Datum
  | .null => .ok .null
  | .int value => .ok (.bool (decide (0 < value)))
  | _ => .error .typeMismatch

/-- The function FLOOR rounds down. -/
def daysOf (now : Timestamp) : Datum → Except DbError Datum
  | .null => .ok .null
  | .instant earlier => .ok (.int ((now - earlier).fdiv (86400 * 1000000)))
  | _ => .error .typeMismatch

def coalesce (default : Datum) : Datum → Datum
  | .null => default
  | other => other

def value (now : Timestamp) (row : JoinedRow) : Expr → Except DbError Datum
  | .read column => .ok (column.value row)
  | .coalesceFalse argument => coalesce (.bool false) <$> argument.value now row
  | .coalesceZero argument => coalesce (.int 0) <$> argument.value now row
  | .arrayLength argument => argument.value now row >>= lengthOf
  | .plus first second => do sumOf (← first.value now row) (← second.value now row)
  | .positive argument => argument.value now row >>= positiveOf
  | .daysAgo argument => argument.value now row >>= daysOf now

end Expr

def targetExpr : ConditionTarget → Expr
  | .isSupporter => .coalesceFalse (.read .isSupporter)
  | .isActive => .coalesceFalse (.read .isActive)
  | .isRestricted => .coalesceFalse (.read .isRestricted)
  | .hasBadge => .positive (.coalesceZero (.read .badgeCount))
  | .hasGroupBadge => .positive (.coalesceZero (.arrayLength (.read .groups)))
  | .accountAgeDays => .daysAgo (.read .osuJoinedAt)
  | .daysSinceLastVisit => .daysAgo (.read .lastVisitAt)
  | .badgeCount => .coalesceZero (.read .badgeCount)
  | .followerCount => .coalesceZero (.read .followerCount)
  | .mappingSubscribers => .coalesceZero (.read .mappingFollowers)
  | .kudosu => .coalesceZero (.read .kudosuTotal)
  | .rankedBeatmaps => .coalesceZero (.read .rankedBeatmaps)
  | .lovedBeatmaps => .coalesceZero (.read .lovedBeatmaps)
  | .mappingPlaycount => .coalesceZero (.read .mappingPlaycount)
  | .replaysWatchedByOthers => .coalesceZero (.read .replaysWatchedOthers)
  | .favouriteCount => .coalesceZero (.read .favouriteBeatmapsets)
  | .countryCode => .read .countryCode
  | .username => .read .osuUsername
  | .groupName => .read .groups
  | .playstyle => .read .playstyles
  | .globalRank => .read .globalRank
  | .countryRank => .read .countryRank
  | .performancePoints => .coalesceZero (.read .performancePoints)
  | .playCount => .coalesceZero (.read .playCount)
  | .playTimeHours => .coalesceZero (.read .playTimeHours)
  | .totalScore => .coalesceZero (.read .totalScore)
  | .rankedScore => .coalesceZero (.read .rankedScore)
  | .hitAccuracy => .coalesceZero (.read .hitAccuracy)
  | .maxCombo => .coalesceZero (.read .maxCombo)
  | .levelInt => .coalesceZero (.read .levelInt)
  | .ssCount => .coalesceZero (.plus (.read .countSs) (.read .countSsSilver))
  | .sCount => .coalesceZero (.plus (.read .countS) (.read .countSSilver))
  | .aCount => .coalesceZero (.read .countA)

inductive Comparison where
  | gt
  | gte
  | lt
  | lte

namespace Comparison

def render : Comparison → String
  | .gt => ">"
  | .gte => ">="
  | .lt => "<"
  | .lte => "<="

def holds : Comparison → Int → Int → Bool
  | .gt, first, second => first > second
  | .gte, first, second => first ≥ second
  | .lt, first, second => first < second
  | .lte, first, second => first ≤ second

end Comparison

/-- The clause of one condition. The numbers are the indices of its parameters. -/
inductive Clause where
  | never
  | always
  | equal (expr : Expr) (index : Nat)
  | unequal (expr : Expr) (index : Nat)
  | distinct (expr : Expr) (index : Nat)
  | compare (comparison : Comparison) (expr : Expr) (index : Nat)
  | between (expr : Expr) (low high : Nat)
  | like (expr : Expr) (index : Nat)
  | regex (expr : Expr) (index : Nat)
  | equalAny (expr : Expr) (index : Nat)
  | unequalAll (expr : Expr) (index : Nat)
  | includes (expr : Expr) (index : Nat)
  | excludes (expr : Expr) (index : Nat)
  | someLike (expr : Expr) (index : Nat)
  | someRegex (expr : Expr) (index : Nat)
  | overlaps (expr : Expr) (index : Nat)
  | disjoint (expr : Expr) (index : Nat)

namespace Clause

def parameterName (index : Nat) : String := "$" ++ toString index

def render : Clause → String
  | .never => "FALSE"
  | .always => "TRUE"
  | .equal expr index => expr.render ++ " = " ++ parameterName index
  | .unequal expr index => expr.render ++ " <> " ++ parameterName index
  | .distinct expr index => expr.render ++ " IS DISTINCT FROM " ++ parameterName index
  | .compare comparison expr index =>
      "(" ++ expr.render ++ ") " ++ comparison.render ++ " " ++ parameterName index
  | .between expr low high =>
      "((" ++ expr.render ++ ") >= " ++ parameterName low ++ " AND (" ++ expr.render ++ ") <= " ++
        parameterName high ++ ")"
  | .like expr index => expr.render ++ " LIKE " ++ parameterName index
  | .regex expr index => expr.render ++ " ~ " ++ parameterName index
  | .equalAny expr index => expr.render ++ " = ANY(" ++ parameterName index ++ "::text[])"
  | .unequalAll expr index =>
      "(" ++ expr.render ++ " IS NOT NULL AND " ++ expr.render ++ " <> ALL(" ++
        parameterName index ++ "::text[]))"
  | .includes expr index => "(" ++ expr.render ++ " @> ARRAY[" ++ parameterName index ++ "::text])"
  | .excludes expr index =>
      "NOT (" ++ expr.render ++ " @> ARRAY[" ++ parameterName index ++ "::text])"
  | .someLike expr index =>
      "EXISTS (SELECT 1 FROM unnest(" ++ expr.render ++ ") AS x WHERE x LIKE " ++
        parameterName index ++ ")"
  | .someRegex expr index =>
      "EXISTS (SELECT 1 FROM unnest(" ++ expr.render ++ ") AS x WHERE x ~ " ++
        parameterName index ++ ")"
  | .overlaps expr index => "(" ++ expr.render ++ " && " ++ parameterName index ++ "::text[])"
  | .disjoint expr index => "NOT (" ++ expr.render ++ " && " ++ parameterName index ++ "::text[])"

end Clause

/-- The clause of a tree is a disjunction of conjunctions. An empty group is FALSE. -/
inductive Where where
  | always
  | never
  | anyOf (groups : List (List Clause))

namespace Where

def renderGroup : List Clause → String
  | [] => "FALSE"
  | clauses => "(" ++ String.intercalate " AND " (clauses.map Clause.render) ++ ")"

def render : Where → String
  | .always => "TRUE"
  | .never => "FALSE"
  | .anyOf groups => "(" ++ String.intercalate " OR " (groups.map renderGroup) ++ ")"

end Where

def strArray (condition : Condition) : List String :=
  (condition.value.asArray.map fun items => items.filterMap Value.asStr).getD []

def escapeLike (text : String) : String :=
  RustText.replace '_' "\\_" (RustText.replace '%' "\\%" (RustText.replace '\\' "\\\\" text))

section Build

variable (offset : Nat) (binds : List Bind)

/-- The next parameter follows the binds so far. -/
def nextIndex : Nat := offset + binds.length + 1

/-- One bind is pushed, and the clause refers to it. -/
def push (bind : Bind) (clause : Nat → Clause) : Clause × List Bind :=
  (clause (nextIndex offset binds), binds ++ [bind])

def buildArrayCondition (condition : Condition) (expr : Expr) : Clause × List Bind :=
  let operand := condition.value.asStr.getD ""
  match condition.operator with
  | .eq => push offset binds (.text operand) (.includes expr)
  | .neq => push offset binds (.text operand) (.excludes expr)
  | .contains => push offset binds (.text ("%" ++ escapeLike operand ++ "%")) (.someLike expr)
  | .regex => push offset binds (.text operand) (.someRegex expr)
  | .isIn =>
      if strArray condition = [] then (.never, binds)
      else push offset binds (.textArray (strArray condition)) (.overlaps expr)
  | .notIn =>
      if strArray condition = [] then (.always, binds)
      else push offset binds (.textArray (strArray condition)) (.disjoint expr)
  | _ => (.never, binds)

def buildComparison (condition : Condition) (expr : Expr) (comparison : Comparison) :
    Clause × List Bind :=
  push offset binds (.int (condition.value.asI64.getD 0)) (.compare comparison expr)

def buildScalarCondition (condition : Condition) (expr : Expr) : Clause × List Bind :=
  let operand := condition.value.asStr.getD ""
  match condition.operator with
  | .eq =>
      match condition.value.asBool, condition.value.asI64 with
      | some value, _ => push offset binds (.bool value) (.equal expr)
      | none, some value => push offset binds (.int value) (.equal expr)
      | none, none => push offset binds (.text operand) (.equal expr)
  | .neq =>
      match condition.value.asI64 with
      -- A missing integer does not satisfy `<>`, but a missing text is distinct.
      | some value => push offset binds (.int value) (.unequal expr)
      | none => push offset binds (.text operand) (.distinct expr)
  | .gt => buildComparison offset binds condition expr .gt
  | .gte => buildComparison offset binds condition expr .gte
  | .lt => buildComparison offset binds condition expr .lt
  | .lte => buildComparison offset binds condition expr .lte
  | .between =>
      let low := condition.value.asI64.getD 0
      let high := (condition.valueEnd.bind Value.asI64).getD low
      let index := nextIndex offset binds
      (.between expr index (index + 1), binds ++ [.int low, .int high])
  | .contains => push offset binds (.text ("%" ++ escapeLike operand ++ "%")) (.like expr)
  | .regex => push offset binds (.text operand) (.regex expr)
  | .isIn =>
      if strArray condition = [] then (.never, binds)
      else push offset binds (.textArray (strArray condition)) (.equalAny expr)
  | .notIn =>
      if strArray condition = [] then (.always, binds)
      else push offset binds (.textArray (strArray condition)) (.unequalAll expr)

def buildCondition (condition : Condition) : Clause × List Bind :=
  let expr := targetExpr condition.target
  if condition.target = .groupName ∨ condition.target = .playstyle then
    buildArrayCondition offset binds condition expr
  else buildScalarCondition offset binds condition expr

end Build

/-- The binds are threaded through the conditions of a group. -/
def buildGroup (offset : Nat) : List Bind → List Condition → List Clause × List Bind
  | binds, [] => ([], binds)
  | binds, condition :: rest =>
      let (clause, pushed) := buildCondition offset binds condition
      let (clauses, final) := buildGroup offset pushed rest
      (clause :: clauses, final)

def buildGroups (offset : Nat) : List Bind → List ConditionGroup → List (List Clause) × List Bind
  | binds, [] => ([], binds)
  | binds, group :: rest =>
      let (clauses, pushed) := buildGroup offset binds group.conditions
      let (groups, final) := buildGroups offset pushed rest
      (clauses :: groups, final)

def buildRuleWhere (tree : RuleTree) (bindOffset : Nat) : Where × List Bind :=
  if tree.grantOnAnyPlayer then (.always, [])
  else if tree.groups.isEmpty then (.never, [])
  else
    let (groups, binds) := buildGroups bindOffset [] tree.groups
    (.anyOf groups, binds)

end OsuPlayerRole.RuleSql

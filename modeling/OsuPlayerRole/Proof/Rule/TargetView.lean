/-
This file compares the expression of each target with the facts it stands for.
-/
import OsuPlayerRole.Construction.Services.SqlMeaning
import OsuPlayerRole.Construction.Services.ConditionEval
import OsuPlayerRole.Proof.Rule.AcceptedTree
import OsuPlayerRole.Proof.Rule.ReadableRow

namespace OsuPlayerRole.RuleSql

open Json ThreeValued ConditionEval RuleValidator Sync

/-- What a target shows of the facts. -/
inductive View where
  | bool (value : Bool)
  | int (value : Option Int)
  | string (value : Option String)
  | list (values : List String)

namespace View

def datum : View → Datum
  | .bool value => .bool value
  | .int value => value.elim .null .int
  | .string value => value.elim .null .text
  | .list values => .array (values.map some)

def decide (engines : Engines) (condition : Condition) : View → Bool
  | .bool value => boolMatch condition value
  | .int value => intMatch condition value
  | .string value => stringMatch engines condition value
  | .list values => listStringMatch engines condition values

end View

def view (now : Timestamp) (facts : Facts) : ConditionTarget → View
  | .isSupporter => .bool facts.isSupporter
  | .isActive => .bool facts.isActive
  | .isRestricted => .bool facts.isRestricted
  | .hasBadge => .bool facts.hasBadge
  | .hasGroupBadge => .bool facts.hasGroupBadge
  | .accountAgeDays => .int (daysSince now facts.osuJoinedAt)
  | .daysSinceLastVisit => .int (daysSince now facts.lastVisitAt)
  | .badgeCount => .int (some facts.badgeCount)
  | .followerCount => .int (some facts.followerCount)
  | .mappingSubscribers => .int (some facts.mappingSubscribers)
  | .kudosu => .int (some facts.kudosu)
  | .rankedBeatmaps => .int (some facts.rankedBeatmaps)
  | .lovedBeatmaps => .int (some facts.lovedBeatmaps)
  | .mappingPlaycount => .int (some facts.mappingPlaycount)
  | .replaysWatchedByOthers => .int (some facts.replaysWatchedByOthers)
  | .favouriteCount => .int (some facts.favouriteCount)
  | .countryCode => .string facts.countryCode
  | .username => .string (some facts.username)
  | .groupName => .list facts.groups
  | .playstyle => .list facts.playstyles
  | .globalRank => .int facts.globalRank
  | .countryRank => .int facts.countryRank
  | .performancePoints => .int (some facts.performancePoints)
  | .playCount => .int (some facts.playCount)
  | .playTimeHours => .int (some facts.playTimeHours)
  | .totalScore => .int (some facts.totalScore)
  | .rankedScore => .int (some facts.rankedScore)
  | .hitAccuracy => .int (some facts.hitAccuracy)
  | .maxCombo => .int (some facts.maxCombo)
  | .levelInt => .int (some facts.levelInt)
  | .ssCount => .int (some facts.ssCount)
  | .sCount => .int (some facts.sCount)
  | .aCount => .int (some facts.aCount)

/-- The evaluator decides a condition on the view of its target. -/
theorem evaluateSingle_view (engines : Engines) (now : Timestamp) (condition : Condition)
    (facts : Facts) :
    evaluateSingle engines now condition facts =
      (view now facts condition.target).decide engines condition := by
  unfold evaluateSingle
  cases condition.target <;> rfl

def isList (target : ConditionTarget) : Prop := target = .groupName ∨ target = .playstyle

/-- Only targets with the kind of strings are lists. -/
theorem kind_of_isList {target : ConditionTarget} (listed : isList target) :
    target.kind = .string := by
  rcases listed with rfl | rfl <;> rfl

/-- A target of the boolean kind shows a boolean. -/
theorem view_bool {target : ConditionTarget} (kind : target.kind = .bool) (now : Timestamp)
    (facts : Facts) : ∃ value, view now facts target = .bool value := by
  cases target <;> first | exact ⟨_, rfl⟩ | cases kind

/-- A target of the integer kind shows an integer or nothing. -/
theorem view_int {target : ConditionTarget} (kind : target.kind = .int) (now : Timestamp)
    (facts : Facts) : ∃ value, view now facts target = .int value := by
  cases target <;> first | exact ⟨_, rfl⟩ | cases kind

/-- A single text shows a text or nothing. -/
theorem view_string {target : ConditionTarget} (kind : target.kind = .string)
    (single : ¬ isList target) (now : Timestamp) (facts : Facts) :
    ∃ value, view now facts target = .string value := by
  cases target <;>
    first
    | exact ⟨_, rfl⟩
    | exact (single (Or.inl rfl)).elim
    | exact (single (Or.inr rfl)).elim
    | cases kind

/-- A list target shows its list. -/
theorem view_list {target : ConditionTarget} (listed : isList target) (now : Timestamp)
    (facts : Facts) : ∃ values, view now facts target = .list values := by
  rcases listed with rfl | rfl <;> exact ⟨_, rfl⟩

/-- The stored instants are not in the future. -/
structure Past (now : Timestamp) (user : OsuUser) : Prop where
  joined : user.osuJoinedAt ≤ now
  visited : ∀ instant ∈ user.lastVisitAt, instant ≤ now

/-- Rounding down and truncation agree on elapsed time. -/
theorem days_agree {now earlier : Timestamp} (past : earlier ≤ now) :
    (now - earlier).fdiv (86400 * 1000000) = (now - earlier).tdiv microsPerDay := by
  have elapsed : 0 ≤ now - earlier := Int.sub_nonneg.mpr past
  rw [microsPerDay, Int.tdiv_eq_ediv_of_nonneg elapsed, Int.fdiv_eq_ediv_of_nonneg _ (by decide)]

theorem restore_elements {elements : List (Option String)}
    (present : ∀ element ∈ elements, element.isSome) :
    (elements.map fun element => element.getD "").map some = elements := by
  rw [List.map_map]
  refine (List.map_congr_left fun element member => ?_).trans elements.map_id
  obtain ⟨text, rfl⟩ := Option.isSome_iff_exists.mp (present element member)
  rfl

/-- The expression of a target has the value that its facts show. -/
theorem targetExpr_view {now : Timestamp} {row : JoinedRow} (readable : Readable row)
    (past : Past now row.user) (target : ConditionTarget) :
    (targetExpr target).value now row = .ok (view now (readRow row).facts target).datum := by
  cases target with
  | hasGroupBadge => exact groups_value
  | accountAgeDays =>
      change Except.ok (Datum.int _) = _
      rw [days_agree past.joined]
      rfl
  | daysSinceLastVisit =>
      change Expr.daysOf now (row.user.lastVisitAt.elim .null .instant) = .ok (View.datum (.int
        (daysSince now row.user.lastVisitAt)))
      cases visit : row.user.lastVisitAt with
      | none => rfl
      | some instant =>
          change Except.ok (Datum.int _) = _
          rw [days_agree (past.visited instant visit)]
          rfl
  | groupName =>
      exact congrArg (fun elements => Except.ok (Datum.array elements))
        (restore_elements readable.groups).symm
  | playstyle =>
      exact congrArg (fun elements => Except.ok (Datum.array elements))
        (restore_elements readable.playstyles).symm
  | globalRank => exact rank_value _ rfl
  | countryRank => exact rank_value _ rfl
  | ssCount => exact sum_value _ _ rfl rfl readable.ssCount
  | sCount => exact sum_value _ _ rfl rfl readable.sCount
  | _ => first | rfl | exact stat_value _ rfl

end OsuPlayerRole.RuleSql

/-
This file shows that most rules do not depend on the moment at which they are read.
-/
import OsuPlayerRole.Proof.Rule.RuleAgreement

namespace OsuPlayerRole.RuleSql

open Json ThreeValued Sync

/-- No condition counts days up to now. -/
def ClockFree (tree : RuleTree) : Prop :=
  ∀ group ∈ tree.groups, ∀ condition ∈ group.conditions,
    condition.target ≠ .accountAgeDays ∧ condition.target ≠ .daysSinceLastVisit

instance (tree : RuleTree) : Decidable (ClockFree tree) :=
  inferInstanceAs (Decidable (∀ group ∈ tree.groups, ∀ condition ∈ group.conditions,
    condition.target ≠ .accountAgeDays ∧ condition.target ≠ .daysSinceLastVisit))

/-- The expression that a clause reads from the row. -/
def Clause.expr? : Clause → Option Expr
  | .never | .always => none
  | .equal expr _ | .unequal expr _ | .distinct expr _ | .compare _ expr _ | .between expr _ _
  | .like expr _ | .regex expr _ | .equalAny expr _ | .unequalAll expr _ | .includes expr _
  | .excludes expr _ | .someLike expr _ | .someRegex expr _ | .overlaps expr _
  | .disjoint expr _ => some expr

section Clauses

variable {engines : Engines} {parameters binds : List Bind} {now later : Timestamp} {row : JoinedRow}
  {offset : Nat}

/-- Only the two counts of days look at the clock. -/
theorem targetExpr_clockFree {target : ConditionTarget} (age : target ≠ .accountAgeDays)
    (visit : target ≠ .daysSinceLastVisit) :
    (targetExpr target).value later row = (targetExpr target).value now row := by
  cases target <;> first | rfl | exact absurd rfl age | exact absurd rfl visit

/-- A clause has one truth on rows and clocks that give its expression one value. -/
theorem truth_congr {clause : Clause}
    (same : ∀ expr ∈ clause.expr?, expr.value later row = expr.value now row) :
    clause.truth engines parameters later row = clause.truth engines parameters now row := by
  cases clause with
  | never | always => rfl
  | _ =>
      have read := same _ rfl
      simp only [Clause.truth, applied, read]

/-- A clause that is pushed reads its own expression alone. -/
theorem push_expr {bind : Bind} {clause : Nat → Clause} {expr : Expr}
    (own : ∀ index, (clause index).expr? = some expr) :
    ∀ other ∈ (push offset binds bind clause).1.expr?, other = expr := by
  intro other member
  change other ∈ (clause (nextIndex offset binds)).expr? at member
  rw [own] at member
  exact (Option.some.inj member).symm

/-- A list condition speaks of its own expression only. -/
theorem buildArrayCondition_expr (condition : Condition) (expr : Expr) :
    ∀ other ∈ (buildArrayCondition offset binds condition expr).1.expr?, other = expr := by
  unfold buildArrayCondition
  dsimp only
  split
  case h_5 | h_6 =>
      split
      · exact fun other impossible => by cases impossible
      · exact push_expr fun _ => rfl
  case h_7 => exact fun other impossible => by cases impossible
  all_goals exact push_expr fun _ => rfl

/-- So does a condition with one value. -/
theorem buildScalarCondition_expr (condition : Condition) (expr : Expr) :
    ∀ other ∈ (buildScalarCondition offset binds condition expr).1.expr?, other = expr := by
  unfold buildScalarCondition
  dsimp only
  split
  case h_1 | h_2 => split <;> exact push_expr fun _ => rfl
  case h_7 => exact fun other member => (Option.some.inj member).symm
  case h_10 | h_11 =>
      split
      · exact fun other impossible => by cases impossible
      · exact push_expr fun _ => rfl
  all_goals exact push_expr fun _ => rfl

/-- The clause of a condition reads its target alone. -/
theorem buildCondition_expr (condition : Condition) :
    ∀ expr ∈ (buildCondition offset binds condition).1.expr?, expr = targetExpr condition.target := by
  unfold buildCondition
  dsimp only
  split
  · exact buildArrayCondition_expr condition _
  · exact buildScalarCondition_expr condition _

/-- A condition on neither count of days has one truth at every instant. -/
theorem buildCondition_truth {condition : Condition} (age : condition.target ≠ .accountAgeDays)
    (visit : condition.target ≠ .daysSinceLastVisit) :
    (buildCondition offset binds condition).1.truth engines parameters later row =
      (buildCondition offset binds condition).1.truth engines parameters now row := by
  refine truth_congr fun expr member => ?_
  rw [buildCondition_expr condition expr member]
  exact targetExpr_clockFree age visit

/-- So has a group of such conditions. -/
theorem buildGroup_truth {conditions : List Condition}
    (free : ∀ condition ∈ conditions,
      condition.target ≠ .accountAgeDays ∧ condition.target ≠ .daysSinceLastVisit) (binds : List Bind) :
    all (Clause.truth engines parameters later row) (buildGroup offset binds conditions).1 =
      all (Clause.truth engines parameters now row) (buildGroup offset binds conditions).1 := by
  induction conditions generalizing binds with
  | nil => rfl
  | cons condition rest ih =>
      obtain ⟨age, visit⟩ := free condition List.mem_cons_self
      have first : (buildCondition offset binds condition).1.truth engines parameters later row =
          (buildCondition offset binds condition).1.truth engines parameters now row :=
        buildCondition_truth age visit
      have others := ih (fun other inside => free other (List.mem_cons_of_mem _ inside))
        (buildCondition offset binds condition).2
      simp only [buildGroup, all, first, others]

/-- An empty group is false, and another is the conjunction of its clauses. -/
theorem groupTruth_eq (clauses : List Clause) :
    groupTruth engines parameters now row clauses =
      if clauses.isEmpty then .ok (some false)
      else all (Clause.truth engines parameters now row) clauses := by
  cases clauses <;> rfl

/-- Groups that name neither count of days have one truth at every instant. -/
theorem buildGroups_truth {groups : List ConditionGroup}
    (free : ∀ group ∈ groups, ∀ condition ∈ group.conditions,
      condition.target ≠ .accountAgeDays ∧ condition.target ≠ .daysSinceLastVisit) (binds : List Bind) :
    any (groupTruth engines parameters later row) (buildGroups offset binds groups).1 =
      any (groupTruth engines parameters now row) (buildGroups offset binds groups).1 := by
  induction groups generalizing binds with
  | nil => rfl
  | cons group rest ih =>
      have first : groupTruth engines parameters later row (buildGroup offset binds group.conditions).1 =
          groupTruth engines parameters now row (buildGroup offset binds group.conditions).1 := by
        rw [groupTruth_eq, groupTruth_eq, buildGroup_truth (free group List.mem_cons_self) binds]
      have others := ih (fun other inside => free other (List.mem_cons_of_mem _ inside))
        (buildGroup offset binds group.conditions).2
      simp only [buildGroups, any, first, others]

/-- The clause of such a rule has one truth value at all moments. -/
theorem buildRuleWhere_truth {tree : RuleTree} (free : ClockFree tree) :
    (buildRuleWhere tree offset).1.truth engines parameters later row =
      (buildRuleWhere tree offset).1.truth engines parameters now row := by
  unfold buildRuleWhere
  split
  · rfl
  · split
    · rfl
    · exact buildGroups_truth free []

end Clauses

section Bulk

variable {engines : Engines} {members : List DiscordId} {tree : RuleTree} {world other : World}

/-- The bulk query finds the same members in the same accounts, at the same moment or at any moment. -/
theorem uncapped_congr (users : other.tables.osuUsers = world.tables.osuUsers)
    (stats : other.tables.osuStats = world.tables.osuStats)
    (clock : other.now = world.now ∨ ClockFree tree) :
    uncapped engines other members tree = uncapped engines world members tree := by
  have listed : membersOf other.tables members = membersOf world.tables members := by
    rw [membersOf, membersOf, users]
  have rows (user : OsuUser) : other.tables.statsOf user tree.defaultMode =
      world.tables.statsOf user tree.defaultMode := by
    rw [Tables.statsOf, Tables.statsOf, stats]
  have truths (parameters : List Bind) (row : JoinedRow) :
      (buildRuleWhere tree 2).1.truth engines parameters other.now row =
        (buildRuleWhere tree 2).1.truth engines parameters world.now row := by
    obtain same | free := clock
    · rw [same]
    · exact buildRuleWhere_truth free
  unfold uncapped linkedIds qualifyingIds
  simp only [listed, rows, truths]

end Bulk

end OsuPlayerRole.RuleSql

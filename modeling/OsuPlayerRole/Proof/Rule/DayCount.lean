/-
This file shows when the two counts of elapsed days lead to the same verdict.
-/
import OsuPlayerRole.Proof.Rule.ConditionClause
import OsuPlayerRole.Proof.Rule.Validated
import OsuPlayerRole.Proof.Sample

namespace OsuPlayerRole.RuleSql

open Json ThreeValued ConditionEval RuleValidator Sync

section Counts

variable {now earlier : Int}

/-- The clock has passed the instant, or it is a whole number of days before it. -/
def CountsAgree (now earlier : Int) : Prop := earlier ≤ now ∨ microsPerDay ∣ earlier - now

/-- Where floor and truncation agree they are one count. -/
theorem floor_of_countsAgree (agree : CountsAgree now earlier) :
    (now - earlier).fdiv (86400 * 1000000) = (now - earlier).tdiv microsPerDay := by
  rcases agree with past | whole
  · exact days_agree past
  · have divides : microsPerDay ∣ now - earlier := by
      rw [← Int.neg_sub]
      exact (Int.dvd_neg).mpr whole
    exact (Int.fdiv_eq_ediv_of_dvd divides).trans (Int.tdiv_eq_ediv_of_dvd divides).symm

/-- The truncated count is the negated number of whole days ahead. -/
theorem truncated_of_ahead (ahead : now ≤ earlier) :
    (now - earlier).tdiv microsPerDay = -((earlier - now) / microsPerDay) := by
  rw [← Int.neg_sub, Int.neg_tdiv, Int.tdiv_eq_ediv_of_nonneg (Int.sub_nonneg.mpr ahead)]

/-- The floor is one less when the instant is ahead by a part of a day. -/
theorem floor_of_ahead (disagree : ¬ CountsAgree now earlier) :
    (now - earlier).fdiv (86400 * 1000000) = -((earlier - now) / microsPerDay) - 1 := by
  obtain ⟨ahead, broken⟩ := not_or.mp disagree
  rw [microsPerDay, Int.dvd_iff_emod_eq_zero] at broken
  rw [microsPerDay, Int.fdiv_eq_ediv_of_nonneg _ (by decide)]
  omega

end Counts

/-- The bounds of the condition tell the count from the count before it. -/
def Separates (condition : Condition) (count : Int) : Prop :=
  ∃ low ∈ condition.value.asI64,
    match condition.operator with
    | .eq | .neq => low = count ∨ low = count - 1
    | .gt | .lte => low = count - 1
    | .gte | .lt => low = count
    | .between => ∃ high ∈ condition.valueEnd.bind Value.asI64,
        low ≤ high ∧ (low = count ∨ high = count - 1)
    | _ => False

section Verdict

variable {engines : Engines} {target : ConditionTarget} {operator : ConditionOperator} {count : Int}

/-- A single bound gives two neighbouring counts one verdict unless it separates them. -/
theorem single_separates (valid : operator.validFor .int = true) (single : operator ≠ .between)
    {value : Int} (inside : InI64 value) :
    (intMatch ⟨target, operator, .ofI64 value, none⟩ (some (count - 1)) = true ↔
      intMatch ⟨target, operator, .ofI64 value, none⟩ (some count) = true) ↔
      ¬ Separates ⟨target, operator, .ofI64 value, none⟩ count := by
  have operand : (Value.ofI64 value).asI64 = some value := Value.asI64_ofI64 inside.1 inside.2
  cases operator with
  | between => exact absurd rfl single
  | contains => cases valid
  | regex => cases valid
  | isIn => cases valid
  | notIn => cases valid
  | _ =>
      simp only [Separates, intMatch, operand, Option.map_some, Option.getD_some, Option.mem_some_iff,
        exists_eq_left', bne_iff_ne, beq_iff_eq, decide_eq_true_eq]
      omega

/-- So does a range. -/
theorem range_separates {low high : Int} (first : InI64 low) (last : InI64 high) :
    (intMatch ⟨target, .between, .ofI64 low, some (.ofI64 high)⟩ (some (count - 1)) = true ↔
      intMatch ⟨target, .between, .ofI64 low, some (.ofI64 high)⟩ (some count) = true) ↔
      ¬ Separates ⟨target, .between, .ofI64 low, some (.ofI64 high)⟩ count := by
  have lowOperand : (Value.ofI64 low).asI64 = some low := Value.asI64_ofI64 first.1 first.2
  have highOperand : (Value.ofI64 high).asI64 = some high := Value.asI64_ofI64 last.1 last.2
  simp only [Separates, intMatch, lowOperand, highOperand, Option.bind_some, Option.mem_some_iff,
    exists_eq_left', Bool.and_eq_true, decide_eq_true_eq]
  omega

/-- The accepted conditions on integers are the ones with one bound and the ranges. -/
theorem separates_iff {condition : Condition} (shaped : Shaped engines condition)
    (kind : condition.target.kind = .int) :
    (intMatch condition (some (count - 1)) = true ↔ intMatch condition (some count) = true) ↔
      ¬ Separates condition count := by
  cases shaped with
  | bool other value => cases kind.symm.trans other
  | int _ valid single inside => exact single_separates valid single inside
  | range _ first last => exact range_separates first last
  | text other valid text compiles => cases kind.symm.trans other
  | list other valid items => cases kind.symm.trans other

theorem judges_of_shaped {condition : Condition} (shaped : Shaped engines condition)
    (kind : condition.target.kind = .int) (offset : Nat) (binds : List Bind) :
    Judges engines condition offset binds (buildCondition offset binds condition) := by
  cases shaped with
  | bool other value => cases kind.symm.trans other
  | int _ valid single inside => exact integer_judges kind valid single inside
  | range _ first last => exact range_judges kind first last
  | text other valid text compiles => cases kind.symm.trans other
  | list other valid items => cases kind.symm.trans other

end Verdict

section Ages

/-- The two targets that count days. -/
def Aged (target : ConditionTarget) : Prop := target = .accountAgeDays ∨ target = .daysSinceLastVisit

/-- The stored instant of a target that counts days. -/
def instantOf (target : ConditionTarget) (user : OsuUser) : Option Timestamp :=
  if target = .accountAgeDays then some user.osuJoinedAt else user.lastVisitAt

variable {engines : Engines} {now : Timestamp} {row : JoinedRow} {target : ConditionTarget}

/-- The query counts whole days rounded down. -/
theorem aged_value (aged : Aged target) :
    (targetExpr target).value now row = .ok (View.int ((instantOf target row.user).map
      fun earlier => (now - earlier).fdiv (86400 * 1000000))).datum := by
  rcases aged with rfl | rfl
  · rfl
  · change Expr.daysOf now (row.user.lastVisitAt.elim .null .instant) = .ok (View.datum (.int
      (row.user.lastVisitAt.map fun earlier => (now - earlier).fdiv (86400 * 1000000))))
    cases row.user.lastVisitAt with
    | none => rfl
    | some earlier => rfl

/-- The verdicts agree for an instant that the clock has passed or that is whole days ahead. For
another instant they agree exactly when the bounds do not tell the two counts apart. -/
theorem day_counts_agree (engines : Engines) (body : RuleTreeBody) (tree : RuleTree)
    (parsed : parseRuleTree engines body = .ok tree) (group : ConditionGroup)
    (member : group ∈ tree.groups) (condition : Condition) (inside : condition ∈ group.conditions)
    (aged : Aged condition.target) (prior binds later : List Bind) (now : Timestamp)
    (row : JoinedRow) :
    Decides ((buildCondition prior.length binds condition).1.truth engines
        (prior ++ (buildCondition prior.length binds condition).2 ++ later) now row)
      (intMatch condition (daysSince now (instantOf condition.target row.user)) = true) ↔
      ∀ earlier ∈ instantOf condition.target row.user,
        CountsAgree now earlier ∨ ¬ Separates condition (-((earlier - now) / microsPerDay)) := by
  have shaped : Shaped engines condition := ((parseRuleTree_shaped parsed).2 group member).2 condition inside
  have kind : condition.target.kind = .int := by
    rcases aged with same | same <;> rw [same] <;> rfl
  obtain ⟨clause, own, same, _, decides⟩ := judges_of_shaped shaped kind prior.length binds
  rw [same]
  dsimp only
  rw [decides_iff (decides now row _ _ (aged_value aged) (supplies_own prior binds own later))]
  cases stored : instantOf condition.target row.user with
  | none => simp [daysSince]
  | some earlier =>
      change (intMatch condition (some _) = true ↔ intMatch condition (some _) = true) ↔ _
      simp only [Option.mem_some_iff, forall_eq']
      by_cases agree : CountsAgree now earlier
      · rw [floor_of_countsAgree agree]
        exact iff_of_true Iff.rfl (Or.inl agree)
      · have ahead : now ≤ earlier := (Int.not_le.mp (not_or.mp agree).1).le
        rw [floor_of_ahead agree, truncated_of_ahead ahead, separates_iff shaped kind, or_iff_right agree]

end Ages

def ageCondition : Condition := ⟨.accountAgeDays, .gte, .ofI64 0, none⟩

def ageTree : RuleTree := ⟨false, .osu, [⟨[ageCondition]⟩]⟩

/-- The account of this player was created at the instant zero. -/
def ageRow : JoinedRow := ⟨Sample.user "1" 7, none⟩

theorem age_parsed : parseRuleTree Sample.letterEngines
    (Sample.numberBody "account_age_days" "gte" (.posInt 0)) = .ok ageTree := rfl

/-- Three days later both sides count three days. -/
theorem past_days_agree :
    Decides ((buildCondition 0 [] ageCondition).1.truth Sample.letterEngines
        (buildCondition 0 [] ageCondition).2 (3 * microsPerDay) ageRow)
      (intMatch ageCondition (daysSince (3 * microsPerDay) (some 0)) = true) :=
  (day_counts_agree Sample.letterEngines _ ageTree age_parsed _ (List.mem_singleton_self _)
    ageCondition (List.mem_singleton_self _) (Or.inl rfl) [] [] [] (3 * microsPerDay) ageRow).mpr
    fun earlier stored => Or.inl (Or.inl (by
      rw [← Option.some.inj stored]
      decide))

/-- One hour before the instant the evaluator counts no day, and the clause counts minus one. -/
theorem ahead_days_disagree :
    ¬ ∀ (body : RuleTreeBody) (tree : RuleTree),
      parseRuleTree Sample.letterEngines body = .ok tree →
      ∀ group ∈ tree.groups, ∀ condition ∈ group.conditions, Aged condition.target →
      ∀ (prior binds later : List Bind) (now : Timestamp) (row : JoinedRow),
        Decides ((buildCondition prior.length binds condition).1.truth Sample.letterEngines
            (prior ++ (buildCondition prior.length binds condition).2 ++ later) now row)
          (intMatch condition (daysSince now (instantOf condition.target row.user)) = true) := by
  intro agree
  obtain ⟨truth, value, decides⟩ := agree _ ageTree age_parsed _ (List.mem_singleton_self _)
    ageCondition (List.mem_singleton_self _) (Or.inl rfl) [] [] [] (-3600 * 1000000) ageRow
  have denied : some (some false) = some truth := congrArg Except.toOption value
  cases denied
  exact absurd (decides.mpr rfl) (by decide)

end OsuPlayerRole.RuleSql

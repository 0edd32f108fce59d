/-
This file inverts the validation of a rule tree, step by step.
-/
import Mathlib.Data.List.Forall2
import OsuPlayerRole.Proof.Rule.AcceptedTree

namespace OsuPlayerRole.RuleValidator

open Json Checked

variable {engines : Engines} {location : String} {kind : TargetKind}
  {operator : ConditionOperator} {raw value : Value}

section Elsewhere

/-! The location stands in the errors only. -/

/-- The place in the body matters for the error only. -/
theorem normalizeBool_elsewhere (normalized : normalizeBool engines location raw = .ok value)
    (other : String) : normalizeBool engines other raw = .ok value := by
  cases raw with
  | bool flag => exact normalized
  | string text =>
      unfold normalizeBool at normalized ⊢
      dsimp only at normalized ⊢
      split_ifs at normalized ⊢ with yes no
      · exact normalized
      · exact normalized
  | null => cases normalized
  | number number => cases normalized
  | array items => cases normalized
  | object fields => cases normalized

/-- A number is accepted exactly when it can be read as an integer. -/
theorem normalizeInt_eq_ok :
    normalizeInt engines location raw = .ok value ↔
      ∃ integer, integerOf raw = some integer ∧ value = .ofI64 integer := by
  unfold normalizeInt
  cases integerOf raw with
  | none => simp
  | some integer => simp [eq_comm]

/-- A list is accepted exactly when something is left of it. -/
theorem normalizeList_eq_ok :
    normalizeList location raw = .ok value ↔ listOf raw ≠ [] ∧ value = .array (listOf raw) := by
  unfold normalizeList
  split_ifs with empty
  · simp [List.isEmpty_iff.mp empty]
  · rw [List.isEmpty_iff] at empty
    simp [empty, eq_comm]

/-- The place in the body matters for the error only. -/
theorem normalizeString_elsewhere (normalized : normalizeString engines location raw = .ok value)
    (other : String) : normalizeString engines other raw = .ok value := by
  cases raw with
  | string text =>
      unfold normalizeString at normalized ⊢
      dsimp only at normalized ⊢
      split_ifs at normalized ⊢ with blank
      exact normalized
  | number number => exact normalized
  | bool flag => exact normalized
  | null => cases normalized
  | array items => cases normalized
  | object fields => cases normalized

/-- A value that is accepted in one place is accepted in every place. -/
theorem normalizeValue_elsewhere
    (normalized : normalizeValue engines location kind operator raw = .ok value) (other : String) :
    normalizeValue engines other kind operator raw = .ok value := by
  cases kind with
  | bool => exact normalizeBool_elsewhere normalized other
  | int => exact normalizeInt_eq_ok.mpr (normalizeInt_eq_ok.mp normalized)
  | string =>
      by_cases listed : operator ∈ [.isIn, .notIn]
      · have list := normalizeList_eq_ok.mp (normalizeValue_list listed normalized)
        have again : normalizeList other raw = .ok value := normalizeList_eq_ok.mpr list
        cases operator <;> first | exact again | simp at listed
      · have text := normalizeString_elsewhere (normalizeValue_text listed normalized) other
        cases operator <;> first | exact text | simp at listed

/-- A range needs a second value. -/
theorem normalizeEnd_between {last valueEnd : Option Value}
    (normalized : normalizeEnd engines location kind .between last = .ok valueEnd) :
    ∃ given bound, last = some given ∧ valueEnd = some bound ∧
      normalizeValue engines location kind .between given = .ok bound := by
  cases last with
  | none => cases normalized
  | some given =>
      change some <$> normalizeValue engines location kind .between given = .ok valueEnd at normalized
      cases first : normalizeValue engines location kind .between given with
      | error error =>
          rw [first] at normalized
          cases normalized
      | ok bound =>
          rw [first] at normalized
          cases normalized
          exact ⟨given, bound, rfl, rfl, first⟩

/-- An end that is accepted in one place is accepted in every place. -/
theorem normalizeEnd_elsewhere {last valueEnd : Option Value}
    (normalized : normalizeEnd engines location kind operator last = .ok valueEnd) (other : String) :
    normalizeEnd engines other kind operator last = .ok valueEnd := by
  rcases normalizeEnd_ok normalized with ⟨single, rfl⟩ | ⟨_, _, rfl, _, _⟩
  · cases operator <;> first | exact absurd rfl single | rfl
  · obtain ⟨given, bound, rfl, rfl, found⟩ := normalizeEnd_between normalized
    change some <$> normalizeValue engines other kind .between given = .ok (some bound)
    rw [normalizeValue_elsewhere found other]
    rfl

end Elsewhere

/-- The pattern of a condition compiles when its operator reads it as one. -/
def Compiles (engines : Engines) (operator : ConditionOperator) (value : Value) : Prop :=
  operator = .regex → (engines.regexBuild (value.asStr.getD "")).isSome

/-- The check passes exactly the patterns that compile. -/
theorem checkRegex_eq_ok :
    checkRegex engines location operator value = .ok () ↔ Compiles engines operator value := by
  unfold checkRegex Compiles
  cases engines.regexBuild (value.asStr.getD "") with
  | none => by_cases same : operator = .regex <;> simp [same]
  | some isMatch => simp

/-- What the validation of a condition checks and stores. -/
structure Validated (engines : Engines) (raw : ConditionInput) (condition : Condition) : Prop where
  target : ConditionTarget.fromKey (RustText.trim raw.target) = some condition.target
  operator : ConditionOperator.fromKey (RustText.trim raw.operator) = some condition.operator
  valid : condition.operator.validFor condition.target.kind = true
  value : ∀ location, normalizeValue engines location condition.target.kind condition.operator
    raw.value = .ok condition.value
  valueEnd : ∀ location, normalizeEnd engines location condition.target.kind condition.operator
    raw.valueEnd = .ok condition.valueEnd
  pattern : Compiles engines condition.operator condition.value

/-- A condition is accepted exactly when it passes every check. -/
theorem validateCondition_eq_ok {groupNum condNum : Nat} {raw : ConditionInput}
    {condition : Condition} :
    validateCondition engines groupNum condNum raw = .ok condition ↔
      Validated engines raw condition := by
  constructor
  · intro validated
    unfold validateCondition at validated
    dsimp only at validated
    split at validated
    · next target targetRead =>
        split at validated
        · next operator operatorRead =>
            split at validated
            · cases validated
            · next accepted =>
                have valid : operator.validFor target.kind = true := by simpa using accepted
                obtain ⟨value, normalized, validated⟩ := bind_ok validated
                obtain ⟨valueEnd, ended, validated⟩ := bind_ok validated
                obtain ⟨_, compiled, validated⟩ := bind_ok validated
                cases validated
                exact ⟨targetRead, operatorRead, valid, normalizeValue_elsewhere normalized,
                  normalizeEnd_elsewhere ended, checkRegex_eq_ok.mp compiled⟩
        · cases validated
    · cases validated
  · intro validated
    unfold validateCondition
    dsimp only
    rw [validated.target]
    dsimp only
    rw [validated.operator]
    dsimp only
    rw [if_neg (by simpa using validated.valid), validated.value, validated.valueEnd]
    dsimp only [bind, Except.bind, pure, Except.pure]
    rw [checkRegex_eq_ok.mpr validated.pattern]

/-- The conditions are accepted together, each in its place. -/
theorem validateConditions_eq_ok {groupNum condNum : Nat} {raws : List ConditionInput}
    {conditions : List Condition} :
    validateConditions engines groupNum condNum raws = .ok conditions ↔
      List.Forall₂ (Validated engines) raws conditions := by
  induction raws generalizing condNum conditions with
  | nil =>
      rw [List.forall₂_nil_left_iff]
      unfold validateConditions
      simp [eq_comm]
  | cons raw rest ih =>
      rw [List.forall₂_cons_left_iff]
      constructor
      · intro validated
        obtain ⟨condition, first, validated⟩ := bind_ok validated
        obtain ⟨others, remaining, validated⟩ := bind_ok validated
        cases validated
        exact ⟨condition, others, validateCondition_eq_ok.mp first, ih.mp remaining, rfl⟩
      · rintro ⟨condition, others, first, remaining, rfl⟩
        unfold validateConditions
        rw [validateCondition_eq_ok.mpr first]
        dsimp only [bind, Except.bind, pure, Except.pure]
        rw [ih.mpr remaining]

/-- An accepted group keeps its conditions in their order, and their number is limited. -/
structure ValidatedGroup (engines : Engines) (raw : ConditionGroupInput) (group : ConditionGroup) :
    Prop where
  present : raw.conditions ≠ []
  limited : raw.conditions.length ≤ maxConditionsPerGroup
  conditions : List.Forall₂ (Validated engines) raw.conditions group.conditions

/-- The groups are accepted together, each in its place. -/
theorem validateGroups_eq_ok {groupNum : Nat} {raws : List ConditionGroupInput}
    {groups : List ConditionGroup} :
    validateGroups engines groupNum raws = .ok groups ↔
      List.Forall₂ (ValidatedGroup engines) raws groups := by
  induction raws generalizing groupNum groups with
  | nil =>
      rw [List.forall₂_nil_left_iff]
      unfold validateGroups
      simp [eq_comm]
  | cons raw rest ih =>
      rw [List.forall₂_cons_left_iff]
      constructor
      · intro validated
        unfold validateGroups at validated
        dsimp only at validated
        split at validated
        · cases validated
        · next present =>
            split at validated
            · cases validated
            · next limited =>
                obtain ⟨conditions, first, validated⟩ := bind_ok validated
                obtain ⟨others, remaining, validated⟩ := bind_ok validated
                cases validated
                exact ⟨⟨conditions⟩, others,
                  ⟨fun empty => present (List.isEmpty_iff.mpr empty), Nat.not_lt.mp limited,
                    validateConditions_eq_ok.mp first⟩, ih.mp remaining, rfl⟩
      · rintro ⟨group, others, first, remaining, rfl⟩
        unfold validateGroups
        dsimp only
        rw [if_neg (by simpa using first.present), if_neg (Nat.not_lt.mpr first.limited),
          validateConditions_eq_ok.mpr first.conditions]
        dsimp only [bind, Except.bind, pure, Except.pure]
        rw [ih.mpr remaining]

/-- With the grant the groups are ignored. Without it their number is limited. -/
inductive ValidatedTree (engines : Engines) (body : RuleTreeBody) : RuleTree → Prop where
  | granted {mode : Mode} (grant : body.grantOnAnyPlayer = true)
      (read : parseMode body.defaultMode = .ok mode) : ValidatedTree engines body ⟨true, mode, []⟩
  | grouped {mode : Mode} {groups : List ConditionGroup} (plain : body.grantOnAnyPlayer = false)
      (read : parseMode body.defaultMode = .ok mode) (present : body.groups ≠ [])
      (limited : body.groups.length ≤ maxGroups)
      (validated : List.Forall₂ (ValidatedGroup engines) body.groups groups) :
      ValidatedTree engines body ⟨false, mode, groups⟩

/-- The parser accepts exactly the bodies that pass every check. -/
theorem parseRuleTree_eq_ok {body : RuleTreeBody} {tree : RuleTree} :
    parseRuleTree engines body = .ok tree ↔ ValidatedTree engines body tree := by
  constructor
  · intro parsed
    obtain ⟨mode, read, parsed⟩ := bind_ok parsed
    dsimp only at parsed
    split at parsed
    · next grant =>
        cases parsed
        exact .granted grant read
    · next plain =>
        split at parsed
        · cases parsed
        · next present =>
            split at parsed
            · cases parsed
            · next limited =>
                obtain ⟨groups, validated, parsed⟩ := bind_ok parsed
                cases parsed
                exact .grouped (Bool.eq_false_of_not_eq_true plain) read
                  (fun empty => present (List.isEmpty_iff.mpr empty)) (Nat.not_lt.mp limited)
                  (validateGroups_eq_ok.mp validated)
  · intro validated
    unfold parseRuleTree
    cases validated with
    | granted grant read =>
        rw [read, grant]
        rfl
    | grouped plain read present limited groups =>
        rw [read, plain]
        dsimp only [bind, Except.bind, pure, Except.pure]
        rw [if_neg Bool.false_ne_true, if_neg (by simpa using present), if_neg (Nat.not_lt.mpr limited),
          validateGroups_eq_ok.mpr groups]

/-- The condition stands in the tree where its input stands in the body. -/
def Paired (body : RuleTreeBody) (tree : RuleTree) (raw : ConditionInput) (condition : Condition) :
    Prop :=
  ∃ groups ∈ body.groups.zip tree.groups,
    (raw, condition) ∈ groups.1.conditions.zip groups.2.conditions

/-- Every stored condition has been validated from the input in its place. -/
theorem Paired.validated {body : RuleTreeBody} {tree : RuleTree} {raw : ConditionInput}
    {condition : Condition} (paired : Paired body tree raw condition)
    (parsed : parseRuleTree engines body = .ok tree) : Validated engines raw condition := by
  obtain ⟨⟨rawGroup, group⟩, memberGroup, member⟩ := paired
  cases parseRuleTree_eq_ok.mp parsed with
  | granted grant read =>
      rw [List.zip_nil_right] at memberGroup
      exact absurd memberGroup List.not_mem_nil
  | grouped plain read present limited validated =>
      have accepted : ValidatedGroup engines rawGroup group :=
        (List.forall₂_iff_zip.mp validated).2 memberGroup
      exact (List.forall₂_iff_zip.mp accepted.conditions).2 member

end OsuPlayerRole.RuleValidator

/-
This file shows that a saved tree survives storing, loading, and saving again.
-/
import OsuPlayerRole.Construction.Routes.Admin
import OsuPlayerRole.Proof.Rule.WellFormedTree

namespace OsuPlayerRole.RuleValidator

open Json Checked

variable {engines : Engines} {location : String} {kind : TargetKind}
  {operator : ConditionOperator} {raw value : Value}

section Normal

/-- A stored integer is read as itself. -/
theorem integerOf_ofI64 {integer : Int} (inside : InI64 integer) :
    integerOf (.ofI64 integer) = some integer := by
  have exact : (Number.ofI64 integer).asI64 = some integer :=
    Number.asI64_ofI64 inside.1 inside.2
  change (Number.ofI64 integer).asI64.or _ = some integer
  rw [exact, Option.some_or]

/-- The list of an accepted value loses no element when it is read again. -/
theorem listOf_array_listOf (raw : Value) : listOf (.array (listOf raw)) = listOf raw := by
  cases raw with
  | array items => simp only [listOf, List.filter_filter, Bool.and_self]
  | string text =>
      have kept : ∀ part ∈ (((RustText.split ',' text).map RustText.trim).filter
          fun part => decide (part ≠ "")), part ≠ "" := by
        intro part member
        simpa using (List.mem_filter.mp member).2
      simp only [listOf]
      rw [List.filter_eq_self]
      intro item member
      obtain ⟨part, inside, rfl⟩ := List.mem_map.mp member
      exact decide_eq_true (kept part inside)
  | null => rfl
  | bool flag => rfl
  | number number => rfl
  | object fields => rfl

/-- Normalization leaves its own results as they are. -/
theorem normalizeValue_idempotent (shown : FloatsShown engines)
    (normalized : normalizeValue engines location kind operator raw = .ok value) :
    normalizeValue engines location kind operator value = .ok value := by
  cases kind with
  | bool =>
      obtain ⟨flag, rfl⟩ := normalizeBool_ok normalized
      rfl
  | int =>
      obtain ⟨integer, inside, rfl⟩ := normalizeInt_ok normalized
      exact normalizeInt_eq_ok.mpr ⟨integer, integerOf_ofI64 inside, rfl⟩
  | string =>
      by_cases listed : operator ∈ [.isIn, .notIn]
      · obtain ⟨present, rfl⟩ := normalizeList_eq_ok.mp (normalizeValue_list listed normalized)
        have again : normalizeList location (.array (listOf raw)) = .ok (.array (listOf raw)) :=
          normalizeList_eq_ok.mpr (by rw [listOf_array_listOf]; exact ⟨present, rfl⟩)
        cases operator <;> first | exact again | simp at listed
      · obtain ⟨text, present, rfl⟩ :=
          normalizeString_present shown (normalizeValue_text listed normalized)
        have again : normalizeString engines location (.string text) = .ok (.string text) :=
          if_neg present
        cases operator <;> first | exact again | simp at listed

/-- A stored end is validated to itself. -/
theorem normalizeEnd_idempotent (shown : FloatsShown engines) {last valueEnd : Option Value}
    (normalized : normalizeEnd engines location kind operator last = .ok valueEnd) :
    normalizeEnd engines location kind operator valueEnd = .ok valueEnd := by
  rcases normalizeEnd_ok normalized with ⟨single, rfl⟩ | ⟨given, read, rfl, rfl, found⟩
  · cases operator <;> first | exact absurd rfl single | rfl
  · change some <$> normalizeValue engines location kind .between read = .ok (some read)
    rw [normalizeValue_idempotent shown found]
    rfl

end Normal

section Input

/-- A stored condition, as the form receives it. -/
def inputOf (condition : Condition) : ConditionInput where
  target := condition.target.asStr
  operator := condition.operator.asStr
  value := condition.value
  valueEnd := condition.valueEnd

def groupInputOf (group : ConditionGroup) : ConditionGroupInput :=
  ⟨group.conditions.map inputOf⟩

def bodyOf (tree : RuleTree) : RuleTreeBody where
  grantOnAnyPlayer := tree.grantOnAnyPlayer
  defaultMode := some tree.defaultMode.asStr
  groups := tree.groups.map groupInputOf

/-- The name of a target names it. -/
theorem fromKey_target (target : ConditionTarget) :
    ConditionTarget.fromKey (RustText.trim target.asStr) = some target := by
  cases target <;> decide

/-- The name of an operator names it. -/
theorem fromKey_operator (operator : ConditionOperator) :
    ConditionOperator.fromKey (RustText.trim operator.asStr) = some operator := by
  cases operator <;> decide

/-- The name of a mode names it. -/
theorem parseMode_asStr (mode : Mode) : parseMode (some mode.asStr) = .ok mode := by
  cases mode <;> rfl

/-- The names are read back, and the values are normal already. -/
theorem Validated.again (shown : FloatsShown engines) {raw : ConditionInput} {condition : Condition}
    (validated : Validated engines raw condition) : Validated engines (inputOf condition) condition where
  target := fromKey_target condition.target
  operator := fromKey_operator condition.operator
  valid := validated.valid
  value location := normalizeValue_idempotent shown (validated.value location)
  valueEnd location := normalizeEnd_idempotent shown (validated.valueEnd location)
  pattern := validated.pattern

/-- A stored group is validated to itself. -/
theorem ValidatedGroup.again (shown : FloatsShown engines) {raw : ConditionGroupInput}
    {group : ConditionGroup} (validated : ValidatedGroup engines raw group) :
    ValidatedGroup engines (groupInputOf group) group := by
  have length : raw.conditions.length = group.conditions.length := validated.conditions.length_eq
  have sameLength : (groupInputOf group).conditions.length = group.conditions.length :=
    List.length_map _
  refine ⟨?_, ?_, ?_⟩
  · rw [← List.length_pos_iff, sameLength, ← length, List.length_pos_iff]
    exact validated.present
  · rw [sameLength, ← length]
    exact validated.limited
  · rw [groupInputOf, List.forall₂_map_left_iff, List.forall₂_same]
    intro condition member
    obtain ⟨_, _, accepted⟩ := exists_left validated.conditions member
    exact accepted.again shown

/-- A stored tree is validated to itself. -/
theorem ValidatedTree.again (shown : FloatsShown engines) {body : RuleTreeBody} {tree : RuleTree}
    (validated : ValidatedTree engines body tree) : ValidatedTree engines (bodyOf tree) tree := by
  cases validated with
  | granted grant read => exact .granted rfl (parseMode_asStr _)
  | @grouped mode groups plain read present limited groupsValidated =>
      have length : body.groups.length = groups.length := groupsValidated.length_eq
      have sameLength : (bodyOf ⟨false, mode, groups⟩).groups.length = groups.length :=
        List.length_map _
      refine .grouped rfl (parseMode_asStr mode) ?_ ?_ ?_
      · rw [← List.length_pos_iff, sameLength, ← length, List.length_pos_iff]
        exact present
      · rw [sameLength, ← length]
        exact limited
      · change List.Forall₂ _ (groups.map groupInputOf) groups
        rw [List.forall₂_map_left_iff, List.forall₂_same]
        intro group member
        obtain ⟨_, _, accepted⟩ := exists_left groupsValidated member
        exact accepted.again shown

end Input

section Wire

/-! The form reads the config object of the page. -/

/-- The stored condition is read as its own input. -/
theorem ConditionInput.fromValue_toValue (condition : Condition)
    (proper : condition.valueEnd ≠ some .null) :
    ConditionInput.fromValue condition.toValue = some (inputOf condition) := by
  obtain ⟨target, operator, value, valueEnd⟩ := condition
  cases valueEnd with
  | none =>
      simp [fromValue, Condition.toValue, Value.field?, Value.asStr, Condition.endOfValue, inputOf,
        List.lookup_cons]
  | some last =>
      have kept : Condition.endOfValue (some last) = some last := by
        cases last <;> first | rfl | exact absurd rfl proper
      simp [fromValue, Condition.toValue, Value.field?, Value.asStr, kept, inputOf, List.lookup_cons]

/-- The stored tree is read as its own body. -/
theorem RuleTreeBody.fromValue_configValue (tree : RuleTree)
    (proper : ∀ group ∈ tree.groups, ∀ condition ∈ group.conditions,
      condition.valueEnd ≠ some .null) :
    RuleTreeBody.fromValue (Admin.configValue tree) = some (bodyOf tree) := by
  have read : (tree.groups.map ConditionGroup.toValue).mapM ConditionGroupInput.fromValue =
      some (tree.groups.map groupInputOf) := by
    refine mapM_written fun group member => ?_
    have conditions : (group.conditions.map Condition.toValue).mapM ConditionInput.fromValue =
        some (group.conditions.map inputOf) :=
      mapM_written fun condition inside =>
        ConditionInput.fromValue_toValue condition (proper group member condition inside)
    simp [ConditionGroupInput.fromValue, ConditionGroup.toValue, Value.field?, withDefault,
      Value.asArray, conditions, groupInputOf]
  simp [fromValue, Admin.configValue, Value.field?, List.lookup_cons, withDefault, Value.asArray,
    Value.asBool, optionalText, bodyOf, read]

end Wire

/-- A saved tree is loaded unchanged, and the page of its configuration can be saved again. -/
theorem saved_rule_survives (engines : Engines) (shown : FloatsShown engines) (body : RuleTreeBody)
    (tree : RuleTree) (parsed : parseRuleTree engines body = .ok tree) :
    RuleTree.fromValue tree.toValue = some tree ∧ RuleTree.ofColumn tree.toValue = tree ∧
      ∃ again, RuleTreeBody.fromValue (Admin.configValue tree) = some again ∧
        parseRuleTree engines again = .ok tree := by
  have shaped : ShapedTree engines tree := parseRuleTree_shaped parsed
  have validated : ValidatedTree engines body tree := parseRuleTree_eq_ok.mp parsed
  refine ⟨RuleTree.fromValue_toValue tree shaped.proper, ofColumn_toValue shaped, bodyOf tree, ?_, ?_⟩
  · exact RuleTreeBody.fromValue_configValue tree shaped.proper
  · exact parseRuleTree_eq_ok.mpr (validated.again shown)

/-- A rule of two groups survives the way through the editor. -/
theorem tiered_rule_survives :
    ∃ tree, parseRuleTree Sample.letterEngines Sample.tieredBody = .ok tree ∧
      RuleTree.ofColumn tree.toValue = tree ∧
      ∃ again, RuleTreeBody.fromValue (Admin.configValue tree) = some again ∧
        parseRuleTree Sample.letterEngines again = .ok tree := by
  obtain ⟨tree, parsed⟩ : ∃ tree, parseRuleTree Sample.letterEngines Sample.tieredBody = .ok tree :=
    ⟨_, rfl⟩
  exact ⟨tree, parsed,
    (saved_rule_survives Sample.letterEngines letterEngines_shown Sample.tieredBody tree parsed).2⟩

end OsuPlayerRole.RuleValidator

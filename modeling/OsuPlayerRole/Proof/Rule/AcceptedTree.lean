/-
This file describes the rule trees that the parser accepts.
-/
import OsuPlayerRole.Construction.Services.RuleValidator
import OsuPlayerRole.Library.Checked

namespace OsuPlayerRole.RuleValidator

open Json Checked

def InI64 (value : Int) : Prop := -2 ^ 63 ≤ value ∧ value < 2 ^ 63

/-- An accepted condition has a value of the kind of its target. -/
inductive Shaped (engines : Engines) : Condition → Prop where
  | bool {target : ConditionTarget} (kind : target.kind = .bool) (value : Bool) :
      Shaped engines ⟨target, .eq, .bool value, none⟩
  | int {target : ConditionTarget} {operator : ConditionOperator} (kind : target.kind = .int)
      (valid : operator.validFor .int) (single : operator ≠ .between) {value : Int}
      (inside : InI64 value) : Shaped engines ⟨target, operator, .ofI64 value, none⟩
  | range {target : ConditionTarget} (kind : target.kind = .int) {low high : Int}
      (first : InI64 low) (last : InI64 high) :
      Shaped engines ⟨target, .between, .ofI64 low, some (.ofI64 high)⟩
  | text {target : ConditionTarget} {operator : ConditionOperator} (kind : target.kind = .string)
      (valid : operator ∈ [.eq, .neq, .contains, .regex]) (text : String)
      (compiles : operator = .regex → (engines.regexBuild text).isSome) :
      Shaped engines ⟨target, operator, .string text, none⟩
  | list {target : ConditionTarget} {operator : ConditionOperator} (kind : target.kind = .string)
      (valid : operator ∈ [.isIn, .notIn]) (items : List Value) :
      Shaped engines ⟨target, operator, .array items, none⟩

/-- The parser reads integers of 64 bits only. -/
theorem integerOf_range {raw : Value} {value : Int} (integer : integerOf raw = some value) :
    InI64 value := by
  cases raw with
  | number number =>
      simp only [integerOf, Option.or_eq_some_iff, Option.some.injEq] at integer
      rcases integer with exact | ⟨_, rfl⟩
      · cases number with
        | posInt value =>
            simp only [Number.asI64, Option.ite_none_right_eq_some, Option.some.injEq] at exact
            unfold InI64
            omega
        | negInt below =>
            simp only [Number.asI64, Option.some.injEq] at exact
            unfold InI64
            omega
        | float value => cases exact
      · exact F64.asI64_range _
  | string text => exact RustText.parseI64_range integer
  | null => cases integer
  | bool value => cases integer
  | array items => cases integer
  | object fields => cases integer

/-- The bool kind stores a truth value. -/
theorem normalizeBool_ok {engines : Engines} {location : String} {raw value : Value}
    (normalized : normalizeBool engines location raw = .ok value) : ∃ flag, value = .bool flag := by
  unfold normalizeBool at normalized
  split at normalized
  · cases normalized
    exact ⟨_, rfl⟩
  · dsimp only at normalized
    split_ifs at normalized <;> cases normalized <;> exact ⟨_, rfl⟩
  · cases normalized

/-- The int kind stores an integer of 64 bits. -/
theorem normalizeInt_ok {engines : Engines} {location : String} {raw value : Value}
    (normalized : normalizeInt engines location raw = .ok value) :
    ∃ integer, InI64 integer ∧ value = .ofI64 integer := by
  unfold normalizeInt at normalized
  split at normalized
  · next integer found =>
      cases normalized
      exact ⟨integer, integerOf_range found, rfl⟩
  · cases normalized

/-- The single texts are stored as texts. -/
theorem normalizeString_ok {engines : Engines} {location : String} {raw value : Value}
    (normalized : normalizeString engines location raw = .ok value) :
    ∃ text, value = .string text := by
  unfold normalizeString at normalized
  split at normalized
  · split_ifs at normalized
    cases normalized
    exact ⟨_, rfl⟩
  · cases normalized
    exact ⟨_, rfl⟩
  · cases normalized
    exact ⟨_, rfl⟩
  · cases normalized

/-- The lists are stored as arrays. -/
theorem normalizeList_ok {location : String} {raw value : Value}
    (normalized : normalizeList location raw = .ok value) : ∃ items, value = .array items := by
  unfold normalizeList at normalized
  split_ifs at normalized
  cases normalized
  exact ⟨_, rfl⟩

/-- Exactly a range stores a second value, and it is validated like the first. -/
theorem normalizeEnd_ok {engines : Engines} {location : String} {kind : TargetKind}
    {operator : ConditionOperator} {raw valueEnd : Option Value}
    (normalized : normalizeEnd engines location kind operator raw = .ok valueEnd) :
    operator ≠ .between ∧ valueEnd = none ∨
      ∃ given last, operator = .between ∧ valueEnd = some last ∧
        normalizeValue engines location kind operator given = .ok last := by
  unfold normalizeEnd at normalized
  split at normalized
  · next given =>
      cases found : normalizeValue engines location kind .between given with
      | error error =>
          rw [found] at normalized
          cases normalized
      | ok last =>
          rw [found] at normalized
          cases normalized
          exact Or.inr ⟨given, last, rfl, rfl, found⟩
  · cases normalized
  · next some_excluded none_excluded =>
      cases normalized
      refine Or.inl ⟨fun same => ?_, rfl⟩
      cases raw with
      | none => exact none_excluded same rfl
      | some given => exact some_excluded given same rfl

/-- The list operators read a list. -/
theorem normalizeValue_list {engines : Engines} {location : String} {operator : ConditionOperator}
    {raw value : Value} (listed : operator ∈ [.isIn, .notIn])
    (normalized : normalizeValue engines location .string operator raw = .ok value) :
    normalizeList location raw = .ok value := by
  cases operator <;> first | exact normalized | simp at listed

/-- The other operators of a text read a single text. -/
theorem normalizeValue_text {engines : Engines} {location : String} {operator : ConditionOperator}
    {raw value : Value} (single : operator ∉ [.isIn, .notIn])
    (normalized : normalizeValue engines location .string operator raw = .ok value) :
    normalizeString engines location raw = .ok value := by
  cases operator <;> first | exact normalized | simp at single

/-- These operators of a text take a single text. -/
theorem validFor_text {operator : ConditionOperator} (valid : operator.validFor .string)
    (single : operator ∉ [.isIn, .notIn]) : operator ∈ [.eq, .neq, .contains, .regex] := by
  cases operator <;> first | decide | exact absurd (by decide) single | cases valid

/-- A stored pattern compiles. -/
theorem checkRegex_ok {engines : Engines} {location : String} {operator : ConditionOperator}
    {text : String} {nothing : Unit}
    (checked : checkRegex engines location operator (.string text) = .ok nothing)
    (same : operator = .regex) : (engines.regexBuild text).isSome := by
  unfold checkRegex at checked
  split at checked
  · cases checked
  · next compiled =>
      rw [not_and, Option.isNone_iff_eq_none] at compiled
      exact Option.isSome_iff_ne_none.mpr (compiled same)

/-- An accepted condition has the shape of its kind. -/
theorem validateCondition_shaped {engines : Engines} {groupNum condNum : Nat}
    {raw : ConditionInput} {condition : Condition}
    (validated : validateCondition engines groupNum condNum raw = .ok condition) :
    Shaped engines condition := by
  unfold validateCondition at validated
  dsimp only at validated
  split at validated
  · next target _ =>
      split at validated
      · next operator _ =>
          split at validated
          · cases validated
          · next accepted =>
              have valid : operator.validFor target.kind := by simpa using accepted
              obtain ⟨value, normalized, validated⟩ := bind_ok validated
              obtain ⟨valueEnd, ended, validated⟩ := bind_ok validated
              obtain ⟨_, compiled, validated⟩ := bind_ok validated
              cases validated
              cases kind : target.kind with
              | bool =>
                  rw [kind] at valid normalized ended
                  obtain rfl : operator = .eq := by simpa [ConditionOperator.validFor] using valid
                  obtain ⟨flag, rfl⟩ := normalizeBool_ok normalized
                  rcases normalizeEnd_ok ended with ⟨_, rfl⟩ | ⟨_, _, same, _⟩
                  · exact .bool kind flag
                  · cases same
              | int =>
                  rw [kind] at valid normalized ended
                  obtain ⟨integer, inside, rfl⟩ := normalizeInt_ok normalized
                  rcases normalizeEnd_ok ended with ⟨single, rfl⟩ | ⟨given, last, rfl, rfl, finished⟩
                  · exact .int kind valid single inside
                  · obtain ⟨high, above, rfl⟩ := normalizeInt_ok finished
                    exact .range kind inside above
              | string =>
                  rw [kind] at valid normalized ended
                  have plain : operator ≠ .between := by
                    rintro rfl
                    simp [ConditionOperator.validFor] at valid
                  obtain ⟨_, rfl⟩ : operator ≠ .between ∧ valueEnd = none := by
                    rcases normalizeEnd_ok ended with single | ⟨_, _, same, _⟩
                    · exact single
                    · exact absurd same plain
                  by_cases listed : operator ∈ [.isIn, .notIn]
                  · obtain ⟨items, rfl⟩ := normalizeList_ok (normalizeValue_list listed normalized)
                    exact .list kind listed items
                  · obtain ⟨text, rfl⟩ := normalizeString_ok (normalizeValue_text listed normalized)
                    refine .text kind (validFor_text valid listed) text fun same => ?_
                    exact checkRegex_ok compiled same
      · cases validated
  · cases validated

/-- No condition is dropped or added, and each has the shape of its kind. -/
theorem validateConditions_shaped {engines : Engines} {groupNum condNum : Nat}
    {raws : List ConditionInput} {conditions : List Condition}
    (validated : validateConditions engines groupNum condNum raws = .ok conditions) :
    conditions.length = raws.length ∧ ∀ condition ∈ conditions, Shaped engines condition := by
  induction raws generalizing condNum conditions with
  | nil =>
      cases validated
      simp
  | cons raw rest ih =>
      obtain ⟨condition, first, validated⟩ := bind_ok validated
      obtain ⟨others, remaining, validated⟩ := bind_ok validated
      cases validated
      obtain ⟨length, shaped⟩ := ih remaining
      refine ⟨by simp [length], ?_⟩
      rw [List.forall_mem_cons]
      exact ⟨validateCondition_shaped first, shaped⟩

/-- An accepted group has conditions, and each of them is shaped. -/
def ShapedGroup (engines : Engines) (group : ConditionGroup) : Prop :=
  group.conditions ≠ [] ∧ ∀ condition ∈ group.conditions, Shaped engines condition

/-- No group is dropped or added, and each keeps to the limits. -/
theorem validateGroups_shaped {engines : Engines} {groupNum : Nat}
    {raws : List ConditionGroupInput} {groups : List ConditionGroup}
    (validated : validateGroups engines groupNum raws = .ok groups) :
    groups.length = raws.length ∧ ∀ group ∈ groups, ShapedGroup engines group := by
  induction raws generalizing groupNum groups with
  | nil =>
      cases validated
      simp
  | cons raw rest ih =>
      unfold validateGroups at validated
      dsimp only at validated
      split at validated
      · cases validated
      · next present =>
          split at validated
          · cases validated
          · obtain ⟨conditions, first, validated⟩ := bind_ok validated
            obtain ⟨others, remaining, validated⟩ := bind_ok validated
            cases validated
            obtain ⟨length, shaped⟩ := ih remaining
            obtain ⟨same, inside⟩ := validateConditions_shaped first
            refine ⟨by simp [length], ?_⟩
            rw [List.forall_mem_cons]
            refine ⟨⟨?_, inside⟩, shaped⟩
            rintro rfl
            exact present (List.isEmpty_iff_length_eq_zero.mpr same.symm)

/-- An accepted tree without the grant has at least one group. -/
def ShapedTree (engines : Engines) (tree : RuleTree) : Prop :=
  (tree.grantOnAnyPlayer = true ∧ tree.groups = [] ∨
    tree.grantOnAnyPlayer = false ∧ tree.groups ≠ []) ∧
    ∀ group ∈ tree.groups, ShapedGroup engines group

/-- An accepted tree has the shape that both evaluators read. -/
theorem parseRuleTree_shaped {engines : Engines} {body : RuleTreeBody} {tree : RuleTree}
    (parsed : parseRuleTree engines body = .ok tree) : ShapedTree engines tree := by
  obtain ⟨mode, _, parsed⟩ := bind_ok parsed
  dsimp only at parsed
  split at parsed
  · cases parsed
    exact ⟨Or.inl ⟨rfl, rfl⟩, by simp⟩
  · split at parsed
    · cases parsed
    · next present =>
        split at parsed
        · cases parsed
        · obtain ⟨groups, validated, parsed⟩ := bind_ok parsed
          cases parsed
          obtain ⟨length, shaped⟩ := validateGroups_shaped validated
          refine ⟨Or.inr ⟨rfl, ?_⟩, shaped⟩
          rintro rfl
          exact present (List.isEmpty_iff_length_eq_zero.mpr length.symm)

/-- The end of an accepted condition is never null. -/
theorem ShapedTree.proper {engines : Engines} {tree : RuleTree} (shaped : ShapedTree engines tree) :
    ∀ group ∈ tree.groups, ∀ condition ∈ group.conditions, condition.valueEnd ≠ some .null := by
  intro group member condition inside null
  cases (shaped.2 group member).2 condition inside <;> cases null

/-- An accepted tree is stored and read back unchanged. -/
theorem ofColumn_toValue {engines : Engines} {tree : RuleTree} (shaped : ShapedTree engines tree) :
    RuleTree.ofColumn tree.toValue = tree := by
  rw [RuleTree.ofColumn, RuleTree.fromValue_toValue tree shaped.proper]
  rfl

end OsuPlayerRole.RuleValidator

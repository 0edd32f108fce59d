/-
This file gives the rule tree and its JSON form.
-/
import OsuPlayerRole.Construction.Models.Condition
import OsuPlayerRole.Library.Checked

namespace OsuPlayerRole

open Json

def maxGroups : Nat := 8

def maxConditionsPerGroup : Nat := 12

structure ConditionGroup where
  conditions : List Condition

/-- The tree is an OR of AND-groups with the mode of its targets. -/
structure RuleTree where
  grantOnAnyPlayer : Bool
  defaultMode : Mode
  groups : List ConditionGroup

/-- The default tree is the unconfigured tree. -/
instance : Inhabited RuleTree := ⟨⟨false, .osu, []⟩⟩

namespace Condition

def names : List String := ["target", "operator", "value", "value_end"]

/-- The serializer sorts the keys and skips a missing end. -/
def toValue (condition : Condition) : Value :=
  .object ([("operator", .string condition.operator.asStr), ("target", .string condition.target.asStr),
    ("value", condition.value)] ++ (condition.valueEnd.map fun value => ("value_end", value)).toList)

/-- A null end is read as a missing end. -/
def endOfValue : Option Value → Option Value
  | some .null => none
  | other => other

def fromValue (value : Value) : Option Condition := do
  let target ← ConditionTarget.fromName (← (← (← value.field? names "target")).variant?)
  let operator ← ConditionOperator.fromKey (← (← (← value.field? names "operator")).variant?)
  let operand ← (← value.field? names "value")
  let valueEnd ← value.field? names "value_end"
  return ⟨target, operator, operand, endOfValue valueEnd⟩

end Condition

/-- A default replaces a missing field and no other value. -/
def withDefault {A : Type} (read : Value → Option A) (default : A) : Option Value → Option A
  | none => some default
  | some value => read value

namespace ConditionGroup

def toValue (group : ConditionGroup) : Value :=
  .object [("conditions", .array (group.conditions.map Condition.toValue))]

def fromValue (value : Value) : Option ConditionGroup := do
  let conditions ← value.field? ["conditions"] "conditions"
  return ⟨← withDefault (fun items => items.asArray >>= List.mapM Condition.fromValue) [] conditions⟩

end ConditionGroup

namespace RuleTree

def names : List String := ["grant_on_any_player", "default_mode", "groups"]

def toValue (tree : RuleTree) : Value :=
  .object [("default_mode", .string tree.defaultMode.asStr),
    ("grant_on_any_player", .bool tree.grantOnAnyPlayer),
    ("groups", .array (tree.groups.map ConditionGroup.toValue))]

def fromValue (value : Value) : Option RuleTree := do
  let grant ← value.field? names "grant_on_any_player"
  let mode ← value.field? names "default_mode"
  let groups ← value.field? names "groups"
  return {
    grantOnAnyPlayer := ← withDefault Value.asBool false grant
    defaultMode := ← withDefault (fun value => value.variant? >>= Mode.fromName) .osu mode
    groups := ← withDefault (fun items => items.asArray >>= List.mapM ConditionGroup.fromValue) [] groups }

/-- An unreadable column counts as the unconfigured tree. -/
def ofColumn (value : Value) : RuleTree := (fromValue value).getD default

end RuleTree

theorem Condition.fromValue_toValue (condition : Condition)
    (proper : condition.valueEnd ≠ some .null) :
    Condition.fromValue condition.toValue = some condition := by
  obtain ⟨target, operator, value, valueEnd⟩ := condition
  cases valueEnd with
  | none =>
      simp [fromValue, toValue, Value.field?, Value.variant?, endOfValue, List.lookup_cons,
        ConditionTarget.fromName_asStr, ConditionOperator.fromKey_asStr]
  | some last =>
      have kept : endOfValue (some last) = some last := by
        cases last <;> first | rfl | exact absurd rfl proper
      simp [fromValue, toValue, Value.field?, Value.variant?, kept, List.lookup_cons,
        ConditionTarget.fromName_asStr, ConditionOperator.fromKey_asStr]

/-- A stored tree is read back unchanged. -/
theorem RuleTree.fromValue_toValue (tree : RuleTree)
    (proper : ∀ group ∈ tree.groups, ∀ condition ∈ group.conditions,
      condition.valueEnd ≠ some .null) :
    RuleTree.fromValue tree.toValue = some tree := by
  have read : (tree.groups.map ConditionGroup.toValue).mapM ConditionGroup.fromValue =
      some tree.groups := by
    refine Checked.mapM_inverse fun group member => ?_
    have conditions : (group.conditions.map Condition.toValue).mapM Condition.fromValue =
        some group.conditions :=
      Checked.mapM_inverse fun condition inside =>
        Condition.fromValue_toValue condition (proper group member condition inside)
    simp [ConditionGroup.fromValue, ConditionGroup.toValue, Value.field?, withDefault,
      Value.asArray, conditions]
  simp [fromValue, toValue, Value.field?, List.lookup_cons, withDefault, Value.asArray, Value.asBool,
    Value.variant?, Mode.fromName_asStr, read]

end OsuPlayerRole

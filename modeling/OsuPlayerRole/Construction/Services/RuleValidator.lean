/-
This file parses and validates the rule tree of a save request.
-/
import OsuPlayerRole.Construction.Externals
import OsuPlayerRole.Construction.Models.Rule
import OsuPlayerRole.Library.RustText

namespace OsuPlayerRole.RuleValidator

open Json

structure ConditionInput where
  target : String
  operator : String
  value : Value
  valueEnd : Option Value

structure ConditionGroupInput where
  conditions : List ConditionInput

structure RuleTreeBody where
  grantOnAnyPlayer : Bool
  defaultMode : Option String
  groups : List ConditionGroupInput

/-- A missing value is null, and a null end is missing. -/
def ConditionInput.fromValue (value : Value) : Option ConditionInput := do
  let target ← (← value.field? Condition.names "target")
  let operator ← (← value.field? Condition.names "operator")
  let operand ← value.field? Condition.names "value"
  let valueEnd ← value.field? Condition.names "value_end"
  return ⟨← target.asStr, ← operator.asStr, operand.getD .null, Condition.endOfValue valueEnd⟩

def ConditionGroupInput.fromValue (value : Value) : Option ConditionGroupInput := do
  let conditions ← value.field? ["conditions"] "conditions"
  return ⟨← withDefault (fun items => items.asArray >>= List.mapM ConditionInput.fromValue) []
    conditions⟩

/-- A null text is read as a missing text. -/
def optionalText : Value → Option (Option String)
  | .null => some none
  | .string text => some (some text)
  | _ => none

def RuleTreeBody.fromValue (value : Value) : Option RuleTreeBody := do
  let grant ← value.field? RuleTree.names "grant_on_any_player"
  let mode ← value.field? RuleTree.names "default_mode"
  let groups ← value.field? RuleTree.names "groups"
  return {
    grantOnAnyPlayer := ← withDefault Value.asBool false grant
    defaultMode := ← withDefault optionalText none mode
    groups := ← withDefault (fun items => items.asArray >>= List.mapM ConditionGroupInput.fromValue)
      [] groups }

def booleanRequired (engines : Engines) (location : String) (raw : Value) : AppError :=
  .badRequest (location ++ ": boolean value required (got " ++ raw.text engines.showFloat ++ ").")

def normalizeBool (engines : Engines) (location : String) : Value → Except AppError Value
  | .bool value => .ok (.bool value)
  | .string text =>
      let word := RustText.toAsciiLowercase (RustText.trim text)
      if word ∈ ["true", "1", "yes"] then .ok (.bool true)
      else if word ∈ ["false", "0", "no"] then .ok (.bool false)
      else .error (booleanRequired engines location (.string text))
  | raw => .error (booleanRequired engines location raw)

/-- A number beyond `i64` is cast through a float. -/
def integerOf : Value → Option Int
  | .number number => number.asI64.or (some number.asF64.asI64)
  | .string text => RustText.parseI64 (RustText.trim text)
  | _ => none

def normalizeInt (engines : Engines) (location : String) (raw : Value) : Except AppError Value :=
  match integerOf raw with
  | some value => .ok (.ofI64 value)
  | none =>
      .error (.badRequest
        (location ++ ": integer value required (got " ++ raw.text engines.showFloat ++ ")."))

/-- Nulls and empty texts leave the list. A text is split at its commas. -/
def listOf : Value → List Value
  | .array items => items.filter fun item =>
      match item with
      | .null => false
      | .string text => text ≠ ""
      | _ => true
  | .string text =>
      (((RustText.split ',' text).map RustText.trim).filter fun part => decide (part ≠ "")).map .string
  | .null => []
  | other => [other]

def normalizeList (location : String) (raw : Value) : Except AppError Value :=
  if (listOf raw).isEmpty then
    .error (.badRequest (location ++ ": list operator needs at least one value."))
  else .ok (.array (listOf raw))

def normalizeString (engines : Engines) (location : String) : Value → Except AppError Value
  | .string text =>
      if RustText.trim text = "" then .error (.badRequest (location ++ ": value required."))
      else .ok (.string text)
  | .number number => .ok (.string (number.text engines.showFloat))
  | .bool value => .ok (.string (if value then "true" else "false"))
  | _ => .error (.badRequest (location ++ ": value required."))

def normalizeValue (engines : Engines) (location : String) (kind : TargetKind)
    (operator : ConditionOperator) (raw : Value) : Except AppError Value :=
  match kind, operator with
  | .bool, _ => normalizeBool engines location raw
  | .int, _ => normalizeInt engines location raw
  | .string, .isIn | .string, .notIn => normalizeList location raw
  | .string, _ => normalizeString engines location raw

/-- Only `between` keeps its end. -/
def normalizeEnd (engines : Engines) (location : String) (kind : TargetKind)
    (operator : ConditionOperator) (raw : Option Value) : Except AppError (Option Value) :=
  match operator, raw with
  | .between, some last => some <$> normalizeValue engines location kind operator last
  | .between, none =>
      .error (.badRequest (location ++ ": \"between\" needs both a min and a max value."))
  | _, _ => .ok none

/-- The pattern is compiled when the tree is saved. -/
def checkRegex (engines : Engines) (location : String) (operator : ConditionOperator)
    (value : Value) : Except AppError Unit :=
  if operator = .regex ∧ (engines.regexBuild (value.asStr.getD "")).isNone then
    .error (.badRequest (location ++ ": regex pattern is invalid."))
  else .ok ()

def validateCondition (engines : Engines) (groupNum condNum : Nat) (raw : ConditionInput) :
    Except AppError Condition := do
  let location := "Group #" ++ toString groupNum ++ ", condition #" ++ toString condNum
  let some target := ConditionTarget.fromKey (RustText.trim raw.target)
    | .error (.badRequest (location ++ ": unknown target '" ++ raw.target ++ "'."))
  let some operator := ConditionOperator.fromKey (RustText.trim raw.operator)
    | .error (.badRequest (location ++ ": unknown operator '" ++ raw.operator ++ "'."))
  if !operator.validFor target.kind then
    .error (.badRequest (location ++ ": operator '" ++ operator.asStr ++ "' is not valid for '" ++
      target.asStr ++ "'."))
  let value ← normalizeValue engines location target.kind operator raw.value
  let valueEnd ← normalizeEnd engines location target.kind operator raw.valueEnd
  checkRegex engines location operator value
  return ⟨target, operator, value, valueEnd⟩

/-- The conditions are numbered from the given number on. -/
def validateConditions (engines : Engines) (groupNum : Nat) :
    Nat → List ConditionInput → Except AppError (List Condition)
  | _, [] => .ok []
  | condNum, raw :: rest => do
      let condition ← validateCondition engines groupNum condNum raw
      return condition :: (← validateConditions engines groupNum (condNum + 1) rest)

def validateGroups (engines : Engines) :
    Nat → List ConditionGroupInput → Except AppError (List ConditionGroup)
  | _, [] => .ok []
  | groupNum, raw :: rest => do
      if raw.conditions.isEmpty then
        .error (.badRequest ("Group #" ++ toString groupNum ++
          ": add at least one condition (or remove the group)."))
      if maxConditionsPerGroup < raw.conditions.length then
        .error (.badRequest ("Group #" ++ toString groupNum ++ ": at most " ++
          toString maxConditionsPerGroup ++ " conditions per group."))
      let conditions ← validateConditions engines groupNum 1 raw.conditions
      return ⟨conditions⟩ :: (← validateGroups engines (groupNum + 1) rest)

def parseMode : Option String → Except AppError Mode
  | none => .ok .osu
  | some text =>
      let key := RustText.trim text
      if key = "" then .ok .osu
      else match Mode.fromKey key with
        | some mode => .ok mode
        | none =>
            .error (.badRequest
              ("Unknown game mode '" ++ key ++ "'. Pick osu, taiko, fruits, or mania."))

def parseRuleTree (engines : Engines) (body : RuleTreeBody) : Except AppError RuleTree := do
  let defaultMode ← parseMode body.defaultMode
  if body.grantOnAnyPlayer then return ⟨true, defaultMode, []⟩
  if body.groups.isEmpty then
    .error (.badRequest "Add at least one OR-group, or pick \"any linked osu! player\".")
  if maxGroups < body.groups.length then
    .error (.badRequest ("At most " ++ toString maxGroups ++ " OR-groups per role."))
  return ⟨false, defaultMode, ← validateGroups engines 1 body.groups⟩

end OsuPlayerRole.RuleValidator

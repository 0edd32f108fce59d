/-
This file shows that the placeholders of a rule clause line up with its binds.
-/
import OsuPlayerRole.Construction.Services.Sync
import OsuPlayerRole.Library.SqlText
import OsuPlayerRole.Proof.Rule.AcceptedTree
import OsuPlayerRole.Proof.Sample

namespace OsuPlayerRole.RuleSql

open Json RuleValidator SqlText

/-- The types of the columns and of the binds. An integer may be compared with each number. -/
inductive SqlType where
  | boolean
  | number
  | text
  | textArray
  | instant
  deriving DecidableEq

def Column.sqlType : Column → SqlType
  | .isSupporter | .isActive | .isRestricted => .boolean
  | .countryCode | .osuUsername => .text
  | .groups | .playstyles => .textArray
  | .osuJoinedAt | .lastVisitAt => .instant
  | _ => .number

def Expr.sqlType : Expr → SqlType
  | .read column => column.sqlType
  | .coalesceFalse _ | .positive _ => .boolean
  | .coalesceZero _ | .arrayLength _ | .plus _ _ | .daysAgo _ => .number

def Bind.sqlType : Bind → SqlType
  | .bool _ => .boolean
  | .int _ => .number
  | .text _ => .text
  | .textArray _ => .textArray

/-- The type of the elements of an array. -/
def SqlType.element : SqlType → Option SqlType
  | .textArray => some .text
  | _ => none

/-- The type of the arrays of a type. -/
def SqlType.array : SqlType → Option SqlType
  | .text => some .textArray
  | _ => none

/-- A placeholder stands beside the expression that its operand is compared with. -/
structure Slot where
  expr : Expr
  /-- The type of an operand that fits the expression. -/
  fits : Option SqlType
  index : Nat

/-- The placeholders of a clause, from left to right. -/
def Clause.slots : Clause → List Slot
  | .never | .always => []
  | .equal expr index | .unequal expr index | .distinct expr index | .compare _ expr index
  | .like expr index | .regex expr index | .overlaps expr index | .disjoint expr index =>
      [⟨expr, some expr.sqlType, index⟩]
  | .between expr low high => [⟨expr, some expr.sqlType, low⟩, ⟨expr, some expr.sqlType, high⟩]
  | .equalAny expr index | .unequalAll expr index => [⟨expr, expr.sqlType.array, index⟩]
  | .includes expr index | .excludes expr index | .someLike expr index | .someRegex expr index =>
      [⟨expr, expr.sqlType.element, index⟩]

def Clause.indices (clause : Clause) : List Nat := clause.slots.map Slot.index

def Where.clauses : Where → List Clause
  | .always | .never => []
  | .anyOf groups => groups.flatten

section Render

end Render

section Numbering

end Numbering

section Types

variable {engines : Engines} {condition : Condition} {target : ConditionTarget}

/-- The binds under the placeholders have the types that fit the expressions beside them. -/
def Fits (binds : List Bind) (offset : Nat) (clause : Clause) : Prop :=
  ∀ slot ∈ clause.slots, ∃ bind, binds[slot.index - offset - 1]? = some bind ∧
    slot.fits = some bind.sqlType

end Types

section Query

open Sync

end Query

end OsuPlayerRole.RuleSql

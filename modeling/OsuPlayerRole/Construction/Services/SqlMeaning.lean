/-
This file gives the meaning of the rule clauses under three-valued logic.
-/
import OsuPlayerRole.Construction.Services.RuleSql
import OsuPlayerRole.Library.LikePattern
import OsuPlayerRole.Library.OrderedSet
import OsuPlayerRole.Library.ThreeValued

namespace OsuPlayerRole.RuleSql

open Json ThreeValued

def parameter (parameters : List Bind) (index : Nat) : Except DbError Bind :=
  match parameters[index - 1]? with
  | some bind => .ok bind
  | none => .error .typeMismatch

namespace Datum

/-- A null value makes the equality UNKNOWN. -/
def equals : Datum → Bind → Except DbError Truth
  | .null, _ => .ok none
  | .bool value, .bool other => .ok (some (value == other))
  | .int value, .int other => .ok (some (value == other))
  | .text value, .text other => .ok (some (value == other))
  | _, _ => .error .typeMismatch

/-- A null value is distinct from every parameter. -/
def distinctFrom : Datum → Bind → Except DbError Truth
  | .null, _ => .ok (some true)
  | value, bind => ThreeValued.not <$> value.equals bind

def compares (comparison : Comparison) : Datum → Bind → Except DbError Truth
  | .null, _ => .ok none
  | .int value, .int other => .ok (some (comparison.holds value other))
  | _, _ => .error .typeMismatch

def likeText (text pattern : String) : Except DbError Truth :=
  match LikePattern.like text.toList pattern.toList with
  | some matched => .ok (some matched)
  | none => .error .invalidEscape

def likes : Datum → Bind → Except DbError Truth
  | .null, _ => .ok none
  | .text value, .text pattern => likeText value pattern
  | _, _ => .error .typeMismatch

def regexText (engines : Engines) (text pattern : String) : Except DbError Truth :=
  some <$> engines.pgRegex text pattern

def matchesRegex (engines : Engines) : Datum → Bind → Except DbError Truth
  | .null, _ => .ok none
  | .text value, .text pattern => regexText engines value pattern
  | _, _ => .error .typeMismatch

/-- The predicate `= ANY` is an OR of equalities. -/
def equalsAny : Datum → Bind → Except DbError Truth
  | .null, .textArray [] => .ok (some false)
  | .null, _ => .ok none
  | .text value, .textArray others => .ok (some (others.contains value))
  | _, _ => .error .typeMismatch

/-- The predicate `IS NOT NULL AND <> ALL` is FALSE for a null value. -/
def unequalAll : Datum → Bind → Except DbError Truth
  | .null, _ => .ok (some false)
  | .text value, .textArray others => .ok (some !others.contains value)
  | _, _ => .error .typeMismatch

/-- The operator `@>` never matches a null element. -/
def includes : Datum → Bind → Except DbError Truth
  | .null, _ => .ok none
  | .array elements, .text value => .ok (some (elements.contains (some value)))
  | _, _ => .error .typeMismatch

/-- The operator `&&` never matches a null element. -/
def overlaps : Datum → Bind → Except DbError Truth
  | .null, _ => .ok none
  | .array elements, .textArray values =>
      .ok (some (elements.any fun element => values.any fun value => element == some value))
  | _, _ => .error .typeMismatch

/-- The elements of a null array are no rows, and a null element is an UNKNOWN row. -/
def exists' (condition : String → Except DbError Truth) : Datum → Except DbError Truth
  | .null => .ok (some false)
  | .array elements => do
      let truths ← elements.mapM fun element => element.elim (.ok none) condition
      return some (truths.any fun truth => decide (holds truth))
  | _ => .error .typeMismatch

/-- The pattern of an element search is a text. -/
def textOf : Bind → Except DbError String
  | .text value => .ok value
  | _ => .error .typeMismatch

end Datum

section Truth

variable (engines : Engines) (parameters : List Bind) (now : Timestamp) (row : JoinedRow)

/-- One expression is compared with one parameter. -/
def applied (relation : Datum → Bind → Except DbError Truth) (expr : Expr) (index : Nat) :
    Except DbError Truth := do
  relation (← expr.value now row) (← parameter parameters index)

def Clause.truth : Clause → Except DbError Truth
  | .never => .ok (some false)
  | .always => .ok (some true)
  | .equal expr index => applied parameters now row Datum.equals expr index
  | .unequal expr index => ThreeValued.not <$> applied parameters now row Datum.equals expr index
  | .distinct expr index => applied parameters now row Datum.distinctFrom expr index
  | .compare comparison expr index =>
      applied parameters now row (Datum.compares comparison) expr index
  | .between expr low high => do
      let above ← applied parameters now row (Datum.compares .gte) expr low
      let below ← applied parameters now row (Datum.compares .lte) expr high
      return and above below
  | .like expr index => applied parameters now row Datum.likes expr index
  | .regex expr index => applied parameters now row (Datum.matchesRegex engines) expr index
  | .equalAny expr index => applied parameters now row Datum.equalsAny expr index
  | .unequalAll expr index => applied parameters now row Datum.unequalAll expr index
  | .includes expr index => applied parameters now row Datum.includes expr index
  | .excludes expr index => ThreeValued.not <$> applied parameters now row Datum.includes expr index
  | .someLike expr index => do
      let pattern ← Datum.textOf (← parameter parameters index)
      Datum.exists' (fun text => Datum.likeText text pattern) (← expr.value now row)
  | .someRegex expr index => do
      let pattern ← Datum.textOf (← parameter parameters index)
      Datum.exists' (fun text => Datum.regexText engines text pattern) (← expr.value now row)
  | .overlaps expr index => applied parameters now row Datum.overlaps expr index
  | .disjoint expr index => ThreeValued.not <$> applied parameters now row Datum.overlaps expr index

def groupTruth : List Clause → Except DbError Truth
  | [] => .ok (some false)
  | clauses => all (Clause.truth engines parameters now row) clauses

def Where.truth : Where → Except DbError Truth
  | .always => .ok (some true)
  | .never => .ok (some false)
  | .anyOf groups => any (groupTruth engines parameters now row) groups

end Truth

/-- The database rejects a parameter with the character NUL. -/
def Bind.sendable : Bind → Bool
  | .text value => !value.toList.contains '\x00'
  | .textArray values => values.all fun value => !value.toList.contains '\x00'
  | _ => true

def send (parameters : List Bind) : Except DbError Unit :=
  if parameters.all Bind.sendable then .ok () else .error .invalidByteSequence

theorem send_ok_iff {binds : List Bind} : send binds = .ok () ↔ binds.all Bind.sendable = true := by
  unfold send
  split
  · next clean => exact ⟨fun _ => clean, fun _ => rfl⟩
  · next unclean =>
      constructor
      · intro impossible
        cases impossible
      · intro clean
        exact absurd clean unclean

/-- The statement fails for a payload that JSONB cannot hold. -/
def jsonb (value : Value) : Except DbError Jsonb :=
  if storable : value.storable = true then .ok ⟨value, storable⟩ else .error .invalidByteSequence

/-- The condition is evaluated for each row, and one error fails the statement. -/
def filterRows (condition : OsuUser → Except DbError Truth) : List OsuUser → Except DbError (List OsuUser)
  | [] => .ok []
  | user :: rest => do
      let truth ← condition user
      let kept ← filterRows condition rest
      return if holds truth then user :: kept else kept

def membersOf (tables : Tables) (members : List DiscordId) : List OsuUser :=
  tables.osuUsers.rows.filter fun user => members.contains user.discordId

def idsOf (users : List OsuUser) : List DiscordId :=
  OrderedSet.ordered (users.map OsuUser.discordId).toFinset

/-- This is the bulk query before its LIMIT. The first two parameters are the mode and the members. -/
def qualifyingIds (engines : Engines) (now : Timestamp) (tables : Tables) (mode : Mode)
    (members : List DiscordId) (clause : Where) (binds : List Bind) :
    Except DbError (List DiscordId) := do
  let parameters := [.text mode.asStr, .textArray members] ++ binds
  send parameters
  let kept ← filterRows
    (fun user => clause.truth engines parameters now ⟨user, tables.statsOf user mode⟩)
    (membersOf tables members)
  return idsOf kept

/-- This is the query of `grant_on_any_player` before its LIMIT. -/
def linkedIds (tables : Tables) (members : List DiscordId) : Except DbError (List DiscordId) := do
  send [.textArray members]
  return idsOf (membersOf tables members)

/-- The limit parameter is a signed integer. -/
def limited (limit : Nat) (ids : List DiscordId) : Except DbError (List DiscordId) :=
  if limit < 2 ^ 63 then .ok (ids.take limit) else .error .negativeLimit

end OsuPlayerRole.RuleSql

/-
This file gives the JSON values of requests and of JSONB columns.
-/
import Mathlib.Algebra.Group.Int.Defs
import Mathlib.Algebra.Group.Nat.Defs
import Mathlib.Data.Fin.Basic
import Mathlib.Data.Nat.Log

namespace OsuPlayerRole.Json

/-- JSON has finite floats only. The value is `± mantissa * 2 ^ exponent`. -/
structure F64 where
  negative : Bool
  mantissa : Fin (2 ^ 53)
  exponent : Int
  bounded : -1074 ≤ exponent ∧ exponent ≤ 971

/-- A negative integer `-(below + 1)` is kept apart from the integers of `u64`. -/
inductive Number where
  | posInt (value : Fin (2 ^ 64))
  | negInt (below : Fin (2 ^ 63))
  | float (value : F64)

inductive Value where
  | null
  | bool (value : Bool)
  | number (value : Number)
  | string (value : String)
  | array (items : List Value)
  | object (fields : List (String × Value))

namespace F64

/-- The cast `as i64` truncates toward zero and saturates. -/
def asI64 (value : F64) : Int :=
  let magnitude : Nat :=
    if 0 ≤ value.exponent then value.mantissa.val * 2 ^ value.exponent.toNat
    else value.mantissa.val / 2 ^ (-value.exponent).toNat
  max (-2 ^ 63) (min (if value.negative then -(magnitude : Int) else magnitude) (2 ^ 63 - 1))

theorem asI64_range (value : F64) : -2 ^ 63 ≤ value.asI64 ∧ value.asI64 < 2 ^ 63 := by
  unfold asI64
  dsimp only
  omega

/-- The method `f64::floor`. -/
def floor (value : F64) : Int :=
  let signed : Int := if value.negative then -(value.mantissa.val : Int) else value.mantissa.val
  if 0 ≤ value.exponent then signed * 2 ^ value.exponent.toNat
  else signed / 2 ^ (-value.exponent).toNat

/-- The method `f64::round` takes a tie away from zero. -/
def round (value : F64) : Int :=
  let magnitude : Nat :=
    if 0 ≤ value.exponent then value.mantissa.val * 2 ^ value.exponent.toNat
    else (2 * value.mantissa.val + 2 ^ (-value.exponent).toNat) / (2 * 2 ^ (-value.exponent).toNat)
  if value.negative then -(magnitude : Int) else magnitude

/-- The quotient is rounded to the nearest integer, and to the even one on a tie. -/
def roundedQuotient (value shift : Nat) : Nat :=
  let quotient := value / 2 ^ shift
  let twice := 2 * (value % 2 ^ shift)
  if 2 ^ shift < twice ∨ twice = 2 ^ shift ∧ quotient % 2 = 1 then quotient + 1 else quotient

/-- The cast of a magnitude below `2 ^ 64` to a float keeps 53 bits. -/
def ofMagnitude (negative : Bool) (value : Fin (2 ^ 64)) : F64 :=
  if exact : value.val < 2 ^ 53 then ⟨negative, ⟨value, exact⟩, 0, by omega⟩
  else
    let shift := Nat.log2 value - 52
    let mantissa := roundedQuotient value shift
    have shift_le : shift ≤ 11 := by
      have := (Nat.log2_lt (by omega)).mpr value.isLt
      omega
    if carried : mantissa < 2 ^ 53 then ⟨negative, ⟨mantissa, carried⟩, shift, by omega⟩
    else ⟨negative, ⟨2 ^ 52, by omega⟩, shift + 1, by omega⟩

end F64

namespace Number

/-- The method `Number::as_i64`. -/
def asI64 : Number → Option Int
  | .posInt value => if value.val < 2 ^ 63 then some value.val else none
  | .negInt below => some (-(below.val + 1))
  | .float _ => none

/-- The method `Number::as_f64`. -/
def asF64 : Number → F64
  | .posInt value => F64.ofMagnitude false value
  | .negInt below => F64.ofMagnitude true ⟨below.val + 1, by omega⟩
  | .float value => value

/-- The method `Number::as_u64`. -/
def asU64 : Number → Option Nat
  | .posInt value => some value.val
  | _ => none

/-- The conversion from `i64`. -/
def ofI64 (value : Int) : Number :=
  if 0 ≤ value then .posInt (Fin.ofNat (2 ^ 64) value.toNat)
  else .negInt (Fin.ofNat (2 ^ 63) (-value - 1).toNat)

theorem asI64_ofI64 {value : Int} (lower : -2 ^ 63 ≤ value) (upper : value < 2 ^ 63) :
    (ofI64 value).asI64 = some value := by
  unfold ofI64
  split
  · have small : value.toNat % 2 ^ 64 = value.toNat := Nat.mod_eq_of_lt (by omega)
    simp only [asI64, Fin.val_ofNat, small]
    rw [if_pos (by omega), Int.toNat_of_nonneg (by omega)]
  · have small : (-value - 1).toNat % 2 ^ 63 = (-value - 1).toNat := Nat.mod_eq_of_lt (by omega)
    simp only [asI64, Fin.val_ofNat, small, Option.some.injEq]
    omega

def text (showFloat : F64 → String) : Number → String
  | .posInt value => toString value.val
  | .negInt below => toString (-(below.val + 1 : Int))
  | .float value => showFloat value

end Number

namespace Value

def asBool : Value → Option Bool
  | .bool value => some value
  | _ => none

def asI64 : Value → Option Int
  | .number value => value.asI64
  | _ => none

def asU64 : Value → Option Nat
  | .number value => value.asU64
  | _ => none

def asStr : Value → Option String
  | .string value => some value
  | _ => none

def asArray : Value → Option (List Value)
  | .array items => some items
  | _ => none

/-- An index by a text gives null where there is no such key. -/
def index : Value → String → Value
  | .object fields, key => (fields.lookup key).getD .null
  | _, _ => .null

/-- The conversion from `i64`. -/
def ofI64 (value : Int) : Value := .number (.ofI64 value)

theorem asI64_ofI64 {value : Int} (lower : -2 ^ 63 ≤ value) (upper : value < 2 ^ 63) :
    (ofI64 value).asI64 = some value := Number.asI64_ofI64 lower upper

def hexDigit (value : Nat) : Char := "0123456789abcdef".toList.getD value '0'

/-- The compact formatter escapes quotes, backslashes, and control characters. -/
def escapeChar (character : Char) : List Char :=
  if character = '"' then ['\\', '"']
  else if character = '\\' then ['\\', '\\']
  else if character.toNat = 8 then ['\\', 'b']
  else if character.toNat = 9 then ['\\', 't']
  else if character.toNat = 10 then ['\\', 'n']
  else if character.toNat = 12 then ['\\', 'f']
  else if character.toNat = 13 then ['\\', 'r']
  else if character.toNat < 32 then
    ['\\', 'u', '0', '0', hexDigit (character.toNat / 16), hexDigit (character.toNat % 16)]
  else [character]

def quoted (text : String) : String :=
  "\"" ++ String.ofList (text.toList.flatMap escapeChar) ++ "\""

mutual

/-- The `Display` form of a value is compact JSON. -/
def text (showFloat : F64 → String) : Value → String
  | .null => "null"
  | .bool value => if value then "true" else "false"
  | .number value => value.text showFloat
  | .string value => quoted value
  | .array items => "[" ++ String.intercalate "," (itemTexts showFloat items) ++ "]"
  | .object fields => "\x7b" ++ String.intercalate "," (fieldTexts showFloat fields) ++ "\x7d"

def itemTexts (showFloat : F64 → String) : List Value → List String
  | [] => []
  | item :: rest => text showFloat item :: itemTexts showFloat rest

def fieldTexts (showFloat : F64 → String) : List (String × Value) → List String
  | [] => []
  | (key, value) :: rest => (quoted key ++ ":" ++ text showFloat value) :: fieldTexts showFloat rest

end

mutual

/-- A JSONB column rejects every text with the character NUL. -/
def storable : Value → Bool
  | .string value => !value.toList.contains '\x00'
  | .array items => storableItems items
  | .object fields => storableFields fields
  | _ => true

def storableItems : List Value → Bool
  | [] => true
  | item :: rest => storable item && storableItems rest

def storableFields : List (String × Value) → Bool
  | [] => true
  | (key, value) :: rest => !key.toList.contains '\x00' && storable value && storableFields rest

end

/-- A struct is read from an object by name, or from an array by position. -/
def field? (names : List String) (name : String) : Value → Option (Option Value)
  | .object fields => some (fields.lookup name)
  | .array items =>
      if items.length ≤ names.length then some ((names.zip items).lookup name) else none
  | _ => none

/-- A unit variant is its name, or an object with that one key and no payload. -/
def variant? : Value → Option String
  | .string name => some name
  | .object [(name, .null)] => some name
  | _ => none

end Value

/-- A JSONB value carries what its column checks. -/
structure Jsonb where
  value : Value
  storable : value.storable = true

end OsuPlayerRole.Json

/-
This file gives the numbered parameters of an SQL text.
-/
import Mathlib.Data.List.Basic

namespace SqlText

/-- A dollar sign continues a word. Elsewhere it begins a parameter. -/
inductive Place where
  | space
  | word
  | dollar
  | number (value : Nat)

def isWord (character : Char) : Bool :=
  character.isAlphanum || character = '_' || decide (127 < character.toNat)

/-- The place behind a character outside of a parameter. -/
def Place.after (inWord : Bool) (character : Char) : Place :=
  if isWord character then .word
  else if character = '$' then if inWord then .word else .dollar
  else .space

/-- The parameters are the numbers behind their dollar signs, from left to right. -/
def scan : Place → List Char → List Nat
  | .number value, [] => [value]
  | _, [] => []
  | .space, character :: rest => scan (.after false character) rest
  | .word, character :: rest => scan (.after true character) rest
  | .dollar, character :: rest =>
      if character.isDigit then scan (.number (character.toNat - 48)) rest
      else scan (.after false character) rest
  | .number value, character :: rest =>
      if character.isDigit then scan (.number (10 * value + (character.toNat - 48))) rest
      else value :: scan (.after false character) rest

def parameters (text : List Char) : List Nat := scan .space text

end SqlText

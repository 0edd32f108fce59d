/-
This file reads a JavaScript string literal in double quotes from a text with line feeds.
-/
import Mathlib.Data.List.Infix

namespace JsString

/-- A code point beyond the basic plane has two units. -/
def units (code : Nat) : List Nat :=
  if code < 0x10000 then [code]
  else [0xD800 + (code - 0x10000) / 0x400, 0xDC00 + (code - 0x10000) % 0x400]

def utf16 (text : List Char) : List Nat := text.flatMap fun character => units character.toNat

def hexDigit? (character : Char) : Option Nat :=
  if '0' ≤ character ∧ character ≤ '9' then some (character.toNat - 48)
  else if 'a' ≤ character ∧ character ≤ 'f' then some (character.toNat - 87)
  else if 'A' ≤ character ∧ character ≤ 'F' then some (character.toNat - 55)
  else none

def octalDigit? (character : Char) : Option Nat :=
  if '0' ≤ character ∧ character ≤ '7' then some (character.toNat - 48) else none

/-- An escape sequence keeps its value so far, and the digits that it still takes. -/
inductive Mode where
  | plain
  | escape
  | octal (more value : Nat)
  | hex (more value : Nat)
  | unicode
  | codePoint (value : Option Nat)

/-- A step gives the units of the value and the next mode. There is none behind the closing quote. -/
abbrev Step := Option (List Nat × Option Mode)

def plainStep (character : Char) : Step :=
  if character = '"' then some ([], none)
  else if character = '\\' then some ([], some .escape)
  else if character = '\n' ∨ character = '\r' then none
  else some (units character.toNat, some .plain)

/-- The characters that an escape sequence of one character stands for. -/
def escaped (character : Char) : List Nat :=
  match character with
  | '\n' | '\r' | '\u2028' | '\u2029' => []
  | 'b' => [8]
  | 't' => [9]
  | 'n' => [10]
  | 'v' => [11]
  | 'f' => [12]
  | 'r' => [13]
  | other => units other.toNat

def escapeStep (character : Char) : Step :=
  if character = 'x' then some ([], some (.hex 1 0))
  else if character = 'u' then some ([], some .unicode)
  else match octalDigit? character with
    | some digit => some ([], some (.octal (if digit < 4 then 1 else 0) digit))
    | none => some (escaped character, some .plain)

/-- An octal escape sequence ends before the first other character. -/
def octalStep (more value : Nat) (character : Char) : Step :=
  match octalDigit? character with
  | none => (plainStep character).map fun next => (value :: next.1, next.2)
  | some digit =>
      if more = 0 then some ([8 * value + digit], some .plain)
      else some ([], some (.octal (more - 1) (8 * value + digit)))

def hexStep (more value : Nat) (character : Char) : Step := do
  let digit ← hexDigit? character
  if more = 0 then some ([16 * value + digit], some .plain)
  else some ([], some (.hex (more - 1) (16 * value + digit)))

def unicodeStep (character : Char) : Step :=
  if character = '\x7b' then some ([], some (.codePoint none))
  else do
    let digit ← hexDigit? character
    some ([], some (.hex 2 digit))

/-- A code point has at least one digit, and a bound. -/
def codePointStep (value : Option Nat) (character : Char) : Step :=
  if character = '\x7d' then value.map fun code => (units code, some .plain)
  else do
    let digit ← hexDigit? character
    let code := 16 * value.getD 0 + digit
    if code ≤ 0x10FFFF then some ([], some (.codePoint (some code))) else none

def step : Mode → Char → Step
  | .plain => plainStep
  | .escape => escapeStep
  | .octal more value => octalStep more value
  | .hex more value => hexStep more value
  | .unicode => unicodeStep
  | .codePoint value => codePointStep value

/-- The units of the literal, and the text behind its closing quote. -/
def read : Mode → List Char → Option (List Nat × List Char)
  | _, [] => none
  | mode, character :: text =>
      match step mode character with
      | none => none
      | some (emitted, none) => some (emitted, text)
      | some (emitted, some next) =>
          (read next text).map fun result => (emitted ++ result.1, result.2)

section Length

/-- The units that a mode may still give beyond the text behind it. -/
def Mode.weight : Mode → Nat
  | .octal _ _ | .codePoint _ => 1
  | _ => 0

/-- The closing quote is a unit of the text that gives none. -/
def weight : Option Mode → Nat
  | none => 1
  | some mode => mode.weight

/-- Each character has a unit. -/
theorem units_pos (code : Nat) : 0 < (units code).length := by
  unfold units
  split <;> exact Nat.zero_lt_succ _

/-- Each character has two units at most. -/
theorem units_le (code : Nat) : (units code).length ≤ 2 := by
  unfold units
  split <;> simp

/-- A text has the units of its characters. -/
@[simp] theorem utf16_cons (character : Char) (text : List Char) :
    utf16 (character :: text) = units character.toNat ++ utf16 text := rfl

/-- A plain character emits no more than its units. -/
theorem plainStep_cost {character : Char} {emitted : List Nat} {next : Option Mode}
    (taken : plainStep character = some (emitted, next)) :
    emitted.length + weight next ≤ (units character.toNat).length := by
  unfold plainStep at taken
  split at taken
  · cases taken
    exact units_pos character.toNat
  · split at taken
    · cases taken
      exact Nat.zero_le _
    · split at taken
      · cases taken
      · cases taken
        exact le_rfl

/-- An escaped character emits no more than its units. -/
theorem escaped_length (character : Char) :
    (escaped character).length ≤ (units character.toNat).length := by
  unfold escaped
  split <;> first | exact Nat.zero_le _ | exact units_pos _ | exact le_rfl

/-- The character after a backslash emits no more than its units. -/
theorem escapeStep_cost {character : Char} {emitted : List Nat} {next : Option Mode}
    (taken : escapeStep character = some (emitted, next)) :
    emitted.length + weight next ≤ (units character.toNat).length := by
  unfold escapeStep at taken
  split at taken
  · cases taken
    exact Nat.zero_le _
  · split at taken
    · cases taken
      exact Nat.zero_le _
    · split at taken
      · cases taken
        exact units_pos character.toNat
      · cases taken
        exact escaped_length character

/-- An octal digit emits at most one unit more, which the backslash has paid for. -/
theorem octalStep_cost {more value : Nat} {character : Char} {emitted : List Nat}
    {next : Option Mode} (taken : octalStep more value character = some (emitted, next)) :
    emitted.length + weight next ≤ (units character.toNat).length + 1 := by
  have positive := units_pos character.toNat
  unfold octalStep at taken
  split at taken
  · obtain ⟨⟨given, mode⟩, plain, equal⟩ := Option.map_eq_some_iff.1 taken
    cases equal
    have cost := plainStep_cost plain
    change given.length + 1 + weight mode ≤ _
    omega
  · split at taken
    · cases taken
      exact Nat.le_add_left _ _
    · cases taken
      exact Nat.le_add_left _ _

/-- A hexadecimal digit emits no more than its units. -/
theorem hexStep_cost {more value : Nat} {character : Char} {emitted : List Nat}
    {next : Option Mode} (taken : hexStep more value character = some (emitted, next)) :
    emitted.length + weight next ≤ (units character.toNat).length := by
  obtain ⟨digit, _, taken⟩ := Option.bind_eq_some_iff.1 taken
  split at taken
  · cases taken
    exact units_pos character.toNat
  · cases taken
    exact Nat.zero_le _

/-- A digit of a code unit emits no more than its units. -/
theorem unicodeStep_cost {character : Char} {emitted : List Nat} {next : Option Mode}
    (taken : unicodeStep character = some (emitted, next)) :
    emitted.length + weight next ≤ (units character.toNat).length := by
  unfold unicodeStep at taken
  split at taken
  · cases taken
    exact units_pos character.toNat
  · obtain ⟨digit, _, taken⟩ := Option.bind_eq_some_iff.1 taken
    cases taken
    exact Nat.zero_le _

/-- A digit of a code point emits at most one unit more, which the brace has paid for. -/
theorem codePointStep_cost {value : Option Nat} {character : Char} {emitted : List Nat}
    {next : Option Mode} (taken : codePointStep value character = some (emitted, next)) :
    emitted.length + weight next ≤ (units character.toNat).length + 1 := by
  have positive := units_pos character.toNat
  unfold codePointStep at taken
  split at taken
  · obtain ⟨code, _, equal⟩ := Option.map_eq_some_iff.1 taken
    cases equal
    have bound := units_le code
    change (units code).length + 0 ≤ _
    omega
  · obtain ⟨digit, _, taken⟩ := Option.bind_eq_some_iff.1 taken
    simp only at taken
    split at taken
    · cases taken
      exact Nat.le_add_left _ _
    · cases taken

/-- A step gives no more units than it takes, up to the weights of its modes. -/
theorem step_cost {mode : Mode} {character : Char} {emitted : List Nat} {next : Option Mode}
    (taken : step mode character = some (emitted, next)) :
    emitted.length + weight next ≤ (units character.toNat).length + mode.weight := by
  cases mode with
  | plain => exact plainStep_cost taken
  | escape => exact escapeStep_cost taken
  | octal more value => exact octalStep_cost taken
  | hex more value => exact hexStep_cost taken
  | unicode => exact unicodeStep_cost taken
  | codePoint value => exact codePointStep_cost taken

/-- A literal has no more units than its text. The closing quote is one of them. -/
theorem read_length {mode : Mode} {text rest : List Char} {value : List Nat}
    (reading : read mode text = some (value, rest)) :
    value.length + (utf16 rest).length + 1 ≤ (utf16 text).length + mode.weight := by
  induction text generalizing mode value with
  | nil => cases reading
  | cons character text ih =>
      rw [utf16_cons, List.length_append]
      rw [read] at reading
      split at reading
      · cases reading
      · next emitted taken =>
          cases reading
          have cost := step_cost taken
          rw [weight] at cost
          omega
      · next emitted next taken =>
          obtain ⟨⟨later, behind⟩, tail, equal⟩ := Option.map_eq_some_iff.1 reading
          cases equal
          have cost := step_cost taken
          have bound := ih tail
          simp only [weight, List.length_append] at cost bound ⊢
          omega

end Length

/-- A character that stands for itself in the literal. -/
def Literal (character : Char) : Prop :=
  character ≠ '"' ∧ character ≠ '\\' ∧ character ≠ '\n' ∧ character ≠ '\r'

/-- A literal character emits its own units. -/
theorem plainStep_literal {character : Char} (literal : Literal character) :
    plainStep character = some (units character.toNat, some .plain) := by
  obtain ⟨noQuote, noBackslash, noFeed, noReturn⟩ := literal
  simp [plainStep, noQuote, noBackslash, noFeed, noReturn]

/-- Such characters are read up to the closing quote. -/
theorem read_literal {value : List Char} (literal : ∀ character ∈ value, Literal character)
    (rest : List Char) : read .plain (value ++ '"' :: rest) = some (utf16 value, rest) := by
  induction value with
  | nil => rfl
  | cons character value ih =>
      have tail := ih fun other member => literal other (List.mem_cons_of_mem _ member)
      rw [List.cons_append, read, step, plainStep_literal (literal _ List.mem_cons_self)]
      change (read .plain (value ++ '"' :: rest)).map _ = _
      rw [tail]
      rfl

/-- A literal with as many units as its text has no escape sequence. -/
theorem literal_of_read {text rest : List Char} {value : List Nat}
    (reading : read .plain text = some (value, rest))
    (full : (utf16 text).length ≤ value.length + (utf16 rest).length + 1) :
    ∃ plain, text = plain ++ '"' :: rest ∧ value = utf16 plain ∧
      ∀ character ∈ plain, Literal character := by
  induction text generalizing value with
  | nil => cases reading
  | cons character text ih =>
      by_cases quote : character = '"'
      · subst quote
        cases reading
        exact ⟨[], rfl, rfl, fun other member => absurd member List.not_mem_nil⟩
      by_cases backslash : character = '\\'
      · subst backslash
        obtain ⟨⟨later, behind⟩, tail, equal⟩ := Option.map_eq_some_iff.1
          (show (read .escape text).map (fun result => ([] ++ result.1, result.2)) = _ from reading)
        cases equal
        have bound := read_length tail
        have positive := units_pos '\\'.toNat
        simp only [utf16_cons, List.length_append, List.nil_append, Mode.weight] at full bound
        omega
      by_cases feed : character = '\n' ∨ character = '\r'
      · rw [read, step, plainStep, if_neg quote, if_neg backslash, if_pos feed] at reading
        cases reading
      · rw [not_or] at feed
        have literal : Literal character := ⟨quote, backslash, feed.1, feed.2⟩
        rw [read, step, plainStep_literal literal] at reading
        obtain ⟨⟨later, behind⟩, tail, equal⟩ := Option.map_eq_some_iff.1 reading
        cases equal
        change (utf16 (character :: text)).length ≤
          (units character.toNat ++ later).length + (utf16 behind).length + 1 at full
        rw [utf16_cons, List.length_append, List.length_append] at full
        have shorter : (utf16 text).length ≤ later.length + (utf16 behind).length + 1 := by omega
        obtain ⟨plain, joined, same, literals⟩ := ih tail shorter
        refine ⟨character :: plain, by rw [joined]; rfl, by rw [same]; rfl, ?_⟩
        exact List.forall_mem_cons.2 ⟨literal, literals⟩

end JsString

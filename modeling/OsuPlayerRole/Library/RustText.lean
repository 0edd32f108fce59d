/-
This file gives the text functions of the Rust standard library on sequences of characters.
-/
import Mathlib.Algebra.Group.Int.Defs
import Mathlib.Data.List.Infix
import OsuPlayerRole.Library.Fields

namespace RustText

/-- The predicate `char::is_whitespace` is the Unicode property White_Space. -/
def isWhitespace (character : Char) : Bool :=
  let code := character.toNat
  (9 ≤ code && code ≤ 13) || code == 32 || code == 0x85 || code == 0xA0 || code == 0x1680 ||
    (0x2000 ≤ code && code ≤ 0x200A) || code == 0x2028 || code == 0x2029 || code == 0x202F ||
    code == 0x205F || code == 0x3000

def trimChars (text : List Char) : List Char :=
  ((text.dropWhile isWhitespace).reverse.dropWhile isWhitespace).reverse

/-- The method `str::trim`. -/
def trim (text : String) : String := String.ofList (trimChars text.toList)

/-- The method `str::split` with one character as its pattern. -/
def split (separator : Char) (text : String) : List String :=
  (text.toList.splitOn separator).map String.ofList

/-- The method `str::splitn` with one character as its pattern. -/
def splitN (separator : Char) (count : Nat) (text : String) : List String :=
  (Fields.splitN separator count text.toList).map String.ofList

/-- The text of a format string whose arguments stand between separators. -/
def joined (separator : Char) (parts : List String) : String :=
  String.ofList (Fields.join separator (parts.map String.toList))

/-- The method `str::strip_prefix`. -/
def stripStart (start text : String) : Option String :=
  (text.toList.dropPrefix? start.toList).map String.ofList

/-- The method `str::trim_end_matches` with one character as its pattern. -/
def trimEnd (character : Char) (text : String) : String :=
  String.ofList (text.toList.reverse.dropWhile (fun other => other = character)).reverse

/-- The method `str::contains` with a text as its pattern. -/
def contains (text needle : String) : Bool := decide (needle.toList <:+: text.toList)

def asciiLowercase (character : Char) : Char :=
  if 'A' ≤ character ∧ character ≤ 'Z' then Char.ofNat (character.toNat + 32) else character

/-- The method `str::to_ascii_lowercase`. -/
def toAsciiLowercase (text : String) : String := String.ofList (text.toList.map asciiLowercase)

/-- The method `str::eq_ignore_ascii_case`. -/
def eqIgnoreAsciiCase (text other : String) : Bool :=
  toAsciiLowercase text == toAsciiLowercase other

def replaceChars (character : Char) (replacement text : List Char) : List Char :=
  text.flatMap fun other => if other = character then replacement else [other]

/-- The method `str::replace` with one character as its pattern. -/
def replace (character : Char) (replacement text : String) : String :=
  String.ofList (replaceChars character replacement.toList text.toList)

def digit? (character : Char) : Option Nat :=
  if '0' ≤ character ∧ character ≤ '9' then some (character.toNat - 48) else none

/-- The result is missing without digits and for every other character. -/
def digits? : List Char → Option Nat
  | [] => none
  | text => text.foldl (fun value character => do return 10 * (← value) + (← digit? character)) (some 0)

def signed? : List Char → Option Int
  | '+' :: rest => (digits? rest).map Int.ofNat
  | '-' :: rest => (digits? rest).map fun value => -(value : Int)
  | text => (digits? text).map Int.ofNat

/-- The method `str::parse::<i64>`. -/
def parseI64 (text : String) : Option Int :=
  (signed? text.toList).filter fun value => decide (-2 ^ 63 ≤ value ∧ value < 2 ^ 63)

/-- The parsed integer fits 64 bits. -/
theorem parseI64_range {text : String} {value : Int} (parsed : parseI64 text = some value) :
    -2 ^ 63 ≤ value ∧ value < 2 ^ 63 := by
  obtain ⟨_, inside⟩ := Option.filter_eq_some_iff.mp parsed
  simpa using inside

/-- The rest of a text is what follows the stripped start. -/
theorem stripStart_eq_some {start text rest : String} :
    stripStart start text = some rest ↔ text = start ++ rest := by
  unfold stripStart
  rw [Option.map_eq_some_iff]
  constructor
  · rintro ⟨back, found, rfl⟩
    obtain ⟨front, whole, same⟩ := List.dropPrefix?_eq_some_iff.mp found
    rw [beq_iff_eq.mp same] at whole
    rw [← String.toList_inj, whole, String.toList_append, String.toList_ofList]
  · intro whole
    refine ⟨rest.toList, ?_, String.ofList_toList⟩
    rw [List.dropPrefix?_eq_some_iff]
    exact ⟨start.toList, by rw [whole, String.toList_append], BEq.rfl⟩

section Fields

variable {separator : Char}

/-- The texts are back after the way over their characters. -/
theorem ofList_map_toList (parts : List String) :
    (parts.map String.toList).map String.ofList = parts := by
  simp [List.map_map, Function.comp_def]

/-- The characters are back after the way over their texts. -/
theorem toList_map_ofList (fields : List (List Char)) :
    (fields.map String.ofList).map String.toList = fields := by
  simp [List.map_map, Function.comp_def]

/-- The parts of a text join to it again. -/
theorem joined_splitN (separator : Char) (count : Nat) (text : String) :
    joined separator (splitN separator (count + 1) text) = text := by
  unfold joined splitN
  rw [toList_map_ofList, Fields.join_splitN, String.ofList_toList]

/-- Only the last part can hold the separator. -/
theorem splitN_clean (separator : Char) (count : Nat) (text : String) :
    ∀ part ∈ (splitN separator count text).dropLast, separator ∉ part.toList := by
  intro part member
  unfold splitN at member
  rw [← List.map_dropLast] at member
  obtain ⟨field, inside, rfl⟩ := List.mem_map.mp member
  rw [String.toList_ofList]
  exact Fields.splitN_clean count text.toList field inside

/-- The last part can be joined separately. -/
theorem joined_snoc {parts : List String} (present : parts ≠ []) (last : String) :
    joined separator [joined separator parts, last] = joined separator (parts ++ [last]) := by
  have fieldsPresent : parts.map String.toList ≠ [] := by simpa using present
  have fields := @Fields.join_snoc _ separator _ fieldsPresent last.toList
  unfold joined
  rw [List.map_append]
  exact congrArg String.ofList (by simpa using fields)

/-- Parts that hold no separator, the last one apart, are recovered from their text. -/
theorem splitN_joined {parts : List String} (present : parts ≠ [])
    (clean : ∀ part ∈ parts.dropLast, separator ∉ part.toList) :
    splitN separator parts.length (joined separator parts) = parts := by
  have fieldsPresent : parts.map String.toList ≠ [] := by simpa using present
  have fieldsClean : ∀ field ∈ (parts.map String.toList).dropLast, separator ∉ field := by
    intro field member
    rw [← List.map_dropLast] at member
    obtain ⟨part, inside, rfl⟩ := List.mem_map.mp member
    exact clean part inside
  have fields := Fields.splitN_join fieldsPresent fieldsClean
  rw [List.length_map] at fields
  unfold splitN joined
  rw [String.toList_ofList, fields, ofList_map_toList]

/-- A text of parts without the separator has no other parts of the same number. -/
theorem joined_injective {parts others : List String}
    (clean : ∀ part ∈ parts, separator ∉ part.toList) (same : parts.length = others.length)
    (equal : joined separator parts = joined separator others) : parts = others := by
  have fields : parts.map String.toList = others.map String.toList := by
    refine @Fields.join_injective Char _ separator _ _ ?_ (by simpa using same) ?_
    · intro field member
      obtain ⟨part, inside, rfl⟩ := List.mem_map.mp member
      exact clean part inside
    · exact String.ofList_injective equal
  exact List.map_injective_iff.mpr (fun _ _ => String.toList_inj.mp) fields

/-- A text of parts without the separator is the text of no more parts. -/
theorem length_le_of_joined {parts others : List String} (present : parts ≠ [])
    (clean : ∀ part ∈ parts, separator ∉ part.toList)
    (equal : joined separator parts = joined separator others) : others.length ≤ parts.length := by
  have fieldsPresent : parts.map String.toList ≠ [] := by simpa using present
  have fieldsClean : ∀ field ∈ parts.map String.toList, separator ∉ field := by
    intro field member
    obtain ⟨part, inside, rfl⟩ := List.mem_map.mp member
    exact clean part inside
  simpa using Fields.length_le_of_join fieldsPresent fieldsClean (String.ofList_injective equal)

end Fields

section Decimal

/-- A digit is read as its value. -/
theorem digit?_of_isDigit {character : Char} (decimal : character.isDigit = true) :
    digit? character = some (character.toNat - '0'.toNat) := by
  have bounds : '0' ≤ character ∧ character ≤ '9' := by
    simpa [Char.isDigit, Char.le_def] using decimal
  rw [digit?, if_pos bounds]
  rfl

/-- The digits of a text are read from the left. -/
theorem foldl_digits {text : List Char} (decimal : ∀ character ∈ text, character.isDigit = true)
    (start : Nat) :
    text.foldl (fun value character => do return 10 * (← value) + (← digit? character)) (some start) =
      some (Nat.ofDigitChars 10 text start) := by
  induction text generalizing start with
  | nil => rfl
  | cons head rest ih =>
      rw [List.foldl_cons, digit?_of_isDigit (decimal head List.mem_cons_self), Nat.ofDigitChars_cons]
      exact ih (fun character inside => decimal character (List.mem_cons_of_mem head inside)) _

/-- The digits of a number are decimal. -/
theorem toDigits_isDigit (value : Nat) : ∀ character ∈ Nat.toDigits 10 value, character.isDigit = true :=
  fun _ inside => Nat.isDigit_of_mem_toDigits (by decide) (by decide) inside

/-- The digits of a number are read back. -/
theorem digits?_toDigits (value : Nat) : digits? (Nat.toDigits 10 value) = some value := by
  cases digits : Nat.toDigits 10 value with
  | nil => exact absurd digits Nat.toDigits_ne_nil
  | cons head rest =>
      rw [digits?, ← digits, foldl_digits (toDigits_isDigit value), Nat.ofDigitChars_ten_toDigits]
      exact List.cons_ne_nil _ _

/-- The decimal text of an integer is read as the integer. -/
theorem signed?_toString (value : Int) : signed? (toString value).toList = some value := by
  cases value with
  | ofNat value =>
      change signed? (Nat.repr value).toList = _
      rw [Nat.toList_repr]
      cases digits : Nat.toDigits 10 value with
      | nil => exact absurd digits Nat.toDigits_ne_nil
      | cons head rest =>
          have decimal := toDigits_isDigit value head (by rw [digits]; exact List.mem_cons_self)
          unfold signed?
          split
          · next same =>
              cases same
              cases decimal
          · next same =>
              cases same
              cases decimal
          · rw [← digits, digits?_toDigits]
            rfl
  | negSucc value =>
      change signed? ("-" ++ Nat.repr (value + 1)).toList = _
      rw [String.toList_append, Nat.toList_repr, show ("-" : String).toList = ['-'] by decide,
        List.singleton_append, signed?, digits?_toDigits]
      rfl

/-- The text of an integer is read back. -/
theorem parseI64_toString {value : Int} (fits : -2 ^ 63 ≤ value ∧ value < 2 ^ 63) :
    parseI64 (toString value) = some value := by
  rw [parseI64, signed?_toString, Option.filter_some, if_pos (decide_eq_true fits)]

/-- The text of an integer is read as this integer or not at all. -/
theorem eq_of_parseI64_toString {value read : Int} (parsed : parseI64 (toString value) = some read) :
    read = value := by
  obtain ⟨same, _⟩ := Option.filter_eq_some_iff.mp parsed
  exact Option.some.inj (same.symm.trans (signed?_toString value))

/-- The text of an integer holds digits and a sign. -/
theorem not_mem_toString {character : Char} (decimal : character.isDigit = false) (sign : character ≠ '-')
    (value : Int) : character ∉ (toString value).toList := by
  have absent : ∀ number : Nat, character ∉ (Nat.repr number).toList := by
    intro number inside
    rw [Nat.toList_repr] at inside
    rw [toDigits_isDigit number character inside] at decimal
    cases decimal
  cases value with
  | ofNat value => exact absent value
  | negSucc value =>
      change character ∉ ("-" ++ Nat.repr (value + 1)).toList
      rw [String.toList_append, List.mem_append]
      rintro (head | tail)
      · exact sign (List.mem_singleton.mp head)
      · exact absent (value + 1) tail

end Decimal

section TrimEnd

/-- The two texts differ in the number of characters at their end only. -/
def SameUpTo (character : Char) (text other : String) : Prop :=
  ∃ base first second, text.toList = base ++ List.replicate first character ∧
    other.toList = base ++ List.replicate second character

variable {character : Char}

/-- Trimmed characters at the end make no difference. -/
theorem trimEnd_append (base : List Char) (count : Nat) :
    trimEnd character (String.ofList (base ++ List.replicate count character)) =
      trimEnd character (String.ofList base) := by
  have dropped : (List.replicate count character ++ base.reverse).dropWhile
      (fun other => decide (other = character)) =
      base.reverse.dropWhile fun other => decide (other = character) := by
    refine List.dropWhile_append_of_pos fun other member => ?_
    exact decide_eq_true (List.eq_of_mem_replicate member)
  unfold trimEnd
  rw [String.toList_ofList, String.toList_ofList, List.reverse_append, List.reverse_replicate, dropped]

/-- A text is its trimmed part with characters that were cut. -/
theorem exists_trimmed (character : Char) (text : String) :
    ∃ count, text.toList = (trimEnd character text).toList ++ List.replicate count character := by
  let ends := text.toList.reverse.takeWhile fun other => decide (other = character)
  let front := text.toList.reverse.dropWhile fun other => decide (other = character)
  have repeated : ends = List.replicate ends.length character := by
    refine List.eq_replicate_of_mem fun other member => ?_
    simpa using List.mem_takeWhile_imp member
  refine ⟨ends.length, ?_⟩
  calc
    text.toList = text.toList.reverse.reverse := (List.reverse_reverse _).symm
    _ = (ends ++ front).reverse := by rw [List.takeWhile_append_dropWhile]
    _ = front.reverse ++ ends.reverse := List.reverse_append
    _ = front.reverse ++ List.replicate ends.length character := by
      rw [repeated, List.reverse_replicate, List.length_replicate]
    _ = (trimEnd character text).toList ++ List.replicate ends.length character := by
      rw [trimEnd, String.toList_ofList]

/-- Two texts are trimmed alike exactly when they differ in the cut characters. -/
theorem trimEnd_eq_iff {text other : String} :
    trimEnd character text = trimEnd character other ↔ SameUpTo character text other := by
  constructor
  · intro same
    obtain ⟨first, whole⟩ := exists_trimmed character text
    obtain ⟨second, otherWhole⟩ := exists_trimmed character other
    rw [← same] at otherWhole
    exact ⟨_, first, second, whole, otherWhole⟩
  · rintro ⟨base, first, second, whole, otherWhole⟩
    rw [← String.ofList_toList (s := text), ← String.ofList_toList (s := other), whole, otherWhole,
      trimEnd_append, trimEnd_append]

end TrimEnd

section Blank

/-- A text loses no solid character with its leading blanks. -/
theorem mem_dropWhile_of_solid {text : List Char} {character : Char} (member : character ∈ text)
    (solid : isWhitespace character = false) : character ∈ text.dropWhile isWhitespace := by
  rw [← List.takeWhile_append_dropWhile (p := isWhitespace) (l := text), List.mem_append] at member
  rcases member with head | tail
  · have space : isWhitespace character = true := List.mem_takeWhile_imp head
    rw [solid] at space
    cases space
  · exact tail

/-- Trimming keeps every character that is no white space. -/
theorem mem_trim_of_solid {text : String} {character : Char} (member : character ∈ text.toList)
    (solid : isWhitespace character = false) : character ∈ (trim text).toList := by
  have front : character ∈ text.toList.dropWhile isWhitespace := mem_dropWhile_of_solid member solid
  have back : character ∈ (text.toList.dropWhile isWhitespace).reverse.dropWhile isWhitespace :=
    mem_dropWhile_of_solid (List.mem_reverse.mpr front) solid
  rw [trim, String.toList_ofList]
  exact List.mem_reverse.mpr back

/-- A text with a character is not empty. -/
theorem ne_empty_of_mem {text : String} {character : Char} (member : character ∈ text.toList) :
    text ≠ "" := by
  rintro rfl
  exact absurd member List.not_mem_nil

/-- A text with a solid character is not blank. -/
theorem trim_ne_empty {text : String} {character : Char} (member : character ∈ text.toList)
    (solid : isWhitespace character = false) : trim text ≠ "" :=
  ne_empty_of_mem (mem_trim_of_solid member solid)

/-- A text that is not blank has a character that is no white space. -/
theorem exists_solid {text : String} (present : trim text ≠ "") :
    ∃ character ∈ text.toList, isWhitespace character = false := by
  by_contra! blank
  have spaces : ∀ character ∈ text.toList, isWhitespace character = true := by
    intro character member
    rw [← Bool.not_eq_false]
    exact blank character member
  refine present ?_
  rw [trim, trimChars, List.dropWhile_eq_nil_iff.mpr spaces]
  rfl

/-- A text that is not blank stays so when it is trimmed. -/
theorem trim_trim_ne_empty {text : String} (present : trim text ≠ "") : trim (trim text) ≠ "" := by
  obtain ⟨character, member, solid⟩ := exists_solid present
  exact trim_ne_empty (mem_trim_of_solid member solid) solid

/-- A digit is no blank. -/
theorem isWhitespace_of_isDigit {character : Char} (decimal : character.isDigit = true) :
    isWhitespace character = false := by
  have bounds : '0' ≤ character ∧ character ≤ '9' := by
    simpa [Char.isDigit, Char.le_def] using decimal
  have low : 48 ≤ character.toNat := bounds.1
  have high : character.toNat ≤ 57 := bounds.2
  simp only [isWhitespace, Bool.or_eq_false_iff, Bool.and_eq_false_iff, decide_eq_false_iff_not,
    beq_eq_false_iff_ne]
  omega

/-- The text of a number is not blank. -/
theorem trim_repr_ne_empty (value : Nat) : trim (Nat.repr value) ≠ "" := by
  obtain ⟨head, member⟩ := List.exists_mem_of_ne_nil _ (Nat.toDigits_ne_nil (b := 10) (n := value))
  have decimal : head.isDigit = true := toDigits_isDigit value head member
  rw [← Nat.toList_repr] at member
  exact trim_ne_empty member (isWhitespace_of_isDigit decimal)

/-- The decimal text of an integer is not blank. -/
theorem trim_toString_ne_empty (value : Int) : trim (toString value) ≠ "" := by
  cases value with
  | ofNat value => exact trim_repr_ne_empty value
  | negSucc value =>
      have sign : '-' ∈ (toString (Int.negSucc value)).toList := by
        change '-' ∈ ("-" ++ Nat.repr (value + 1)).toList
        rw [String.toList_append]
        exact List.mem_append_left _ (by decide)
      exact trim_ne_empty sign (by decide)

end Blank

end RustText

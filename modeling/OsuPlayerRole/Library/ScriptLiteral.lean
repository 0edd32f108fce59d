/-
This file says which values the string literals in the script of a filled template denote.
-/
import OsuPlayerRole.Library.JsString
import OsuPlayerRole.Library.ScriptData
import OsuPlayerRole.Library.Substitution

namespace ScriptLiteral

open JsString ScriptData Substitution

/-- A value with such characters alone can stand between quotation marks in a script. -/
def Plain (value : List Char) : Prop :=
  ∀ character ∈ value, character ≠ '"' ∧ character ≠ '\\' ∧ character ≠ '\n' ∧
    character ≠ '\r' ∧ character ≠ '\x00'

instance (value : List Char) : Decidable (Plain value) :=
  List.decidableBAll (fun character => character ≠ '"' ∧ character ≠ '\\' ∧ character ≠ '\n' ∧
    character ≠ '\r' ∧ character ≠ '\x00') value

theorem utf16_append (text rest : List Char) : utf16 (text ++ rest) = utf16 text ++ utf16 rest :=
  List.flatMap_append

theorem units_shown (character : Char) :
    (units (shown character).toNat).length = (units character.toNat).length := by
  rw [shown]
  split
  · next null =>
      rw [null]
      rfl
  · rfl

/-- The tokenizer of a script makes no text longer. -/
theorem utf16_shown_newlines_length (returned : Bool) (text : List Char) :
    (utf16 ((newlines returned text).map shown)).length ≤ (utf16 text).length := by
  induction text generalizing returned with
  | nil => exact le_rfl
  | cons character text ih =>
      rw [newlines]
      split
      · next carriage =>
          have tail := ih true
          subst carriage
          exact Nat.succ_le_succ tail
      · split
        · have tail := ih false
          rw [utf16_cons, List.length_append]
          exact Nat.le_trans tail (Nat.le_add_left _ _)
        · have tail := ih false
          rw [List.map_cons, utf16_cons, utf16_cons, List.length_append, List.length_append,
            units_shown]
          exact Nat.add_le_add_left tail _

theorem zero_mem_units {code : Nat} : 0 ∈ units code ↔ code = 0 := by
  unfold units
  split
  · simp [eq_comm]
  · simp
    omega

/-- The null alone has the unit zero. -/
theorem zero_mem_utf16 {text : List Char} : 0 ∈ utf16 text ↔ '\x00' ∈ text := by
  rw [utf16, List.mem_flatMap]
  constructor
  · rintro ⟨character, member, zero⟩
    have null : character = '\x00' := Char.toNat_inj.1 (zero_mem_units.1 zero)
    exact null ▸ member
  · exact fun member => ⟨'\x00', member, zero_mem_units.2 rfl⟩

/-- The literal ends at its closing quote and denotes the value exactly for a plain value. -/
theorem read_quoted_iff (value rest : List Char) :
    read .plain (scriptText (value ++ '"' :: rest)) = some (utf16 value, scriptText rest) ↔
      Plain value := by
  rw [scriptText_quote]
  constructor
  · intro reading
    have shorter : (utf16 (scriptText value)).length ≤ (utf16 value).length :=
      utf16_shown_newlines_length false value
    have full : (utf16 (scriptText value ++ '"' :: scriptText rest)).length ≤
        (utf16 value).length + (utf16 (scriptText rest)).length + 1 := by
      rw [utf16_append, utf16_cons, List.length_append, List.length_append]
      change _ + (1 + _) ≤ _
      omega
    obtain ⟨plain, joined, same, literals⟩ := literal_of_read reading full
    obtain rfl : scriptText value = plain := List.append_cancel_right joined
    have noNull : '\x00' ∉ value := by
      rw [← zero_mem_utf16, same, zero_mem_utf16]
      exact null_not_mem_scriptText value
    have noFeed : '\n' ∉ scriptText value := fun member => (literals _ member).2.2.1 rfl
    rw [scriptText_verbatim (verbatim_of_scriptText noFeed noNull)] at literals
    intro character member
    obtain ⟨noQuote, noBackslash, noLine, noReturn⟩ := literals character member
    exact ⟨noQuote, noBackslash, noLine, noReturn, fun null => noNull (null ▸ member)⟩
  · intro plain
    have verbatim : Verbatim value := fun character member =>
      ⟨(plain character member).2.2.2.1, (plain character member).2.2.2.2⟩
    rw [scriptText_verbatim verbatim]
    refine read_literal (fun character member => ?_) _
    obtain ⟨noQuote, noBackslash, noFeed, noReturn, _⟩ := plain character member
    exact ⟨noQuote, noBackslash, noFeed, noReturn⟩

variable {Key : Type}

/-- Every slot of the key is a literal of the page that ends at the closing quote of the template
and denotes the content. -/
def Denotes (page : List Char) (template : Template Char Key) (content : Key → List Char)
    (key : Key) : Prop :=
  ∀ earlier slot later, template.slots = earlier ++ slot :: later → slot.key = key →
    let before := earlier.flatMap (Slot.fill content) ++ slot.before
    let after := later.flatMap (Slot.fill content) ++ template.last
    page = before ++ '"' :: (content key ++ '"' :: after) ∧
      read .plain (scriptText (content key ++ '"' :: after)) =
        some (utf16 (content key), scriptText after)

/-- The script element behind the text ends at its own end tag. -/
def Encloses (page before element foot : List Char) : Prop :=
  page = before ++ element ∧ afterEndTag .data (scriptText element) = some (scriptText foot)

theorem fill_split {template : Template Char Key} (content : Key → List Char)
    {earlier later : List (Slot Char Key)} {slot : Slot Char Key}
    (split : template.slots = earlier ++ slot :: later) :
    template.fill content = earlier.flatMap (Slot.fill content) ++ slot.before ++
      slot.left :: (content slot.key ++ slot.right ::
        (later.flatMap (Slot.fill content) ++ template.last)) := by
  rw [Template.fill, split]
  simp [Slot.fill]

/-- The literals of a key are right exactly for a plain content. -/
theorem denotes_iff {template : Template Char Key} (content : Key → List Char) {key : Key}
    (present : ∃ slot ∈ template.slots, slot.key = key)
    (quotes : ∀ slot ∈ template.slots, slot.key = key → slot.left = '"' ∧ slot.right = '"') :
    Denotes (template.fill content) template content key ↔ Plain (content key) := by
  constructor
  · intro denotes
    obtain ⟨slot, member, named⟩ := present
    obtain ⟨earlier, later, split⟩ := List.append_of_mem member
    exact (read_quoted_iff _ _).1 (denotes earlier slot later split named).2
  · intro plain earlier slot later split named
    have member : slot ∈ template.slots := split ▸ by simp
    obtain ⟨left, right⟩ := quotes slot member named
    have page := fill_split content split
    rw [left, right, named] at page
    exact ⟨page, (read_quoted_iff _ _).2 plain⟩

end ScriptLiteral

/-
This file reads the text of a script element as the HTML tokenizer does, up to its end tag.
-/
import Mathlib.Data.List.Infix

namespace ScriptData

section Input

/-- A carriage return becomes a line feed, and takes a line feed behind it away. -/
def newlines : Bool → List Char → List Char
  | _, [] => []
  | returned, character :: text =>
      if character = '\r' then '\n' :: newlines true text
      else if character = '\n' ∧ returned then newlines false text
      else character :: newlines false text

def shown (character : Char) : Char := if character = '\x00' then '\uFFFD' else character

/-- The text that the tokenizer of a script gives to the engine. -/
def scriptText (text : List Char) : List Char := (newlines false text).map shown

/-- The tokenizer gives such a text on as it is. -/
def Verbatim (text : List Char) : Prop := ∀ character ∈ text, character ≠ '\r' ∧ character ≠ '\x00'

instance (text : List Char) : Decidable (Verbatim text) :=
  List.decidableBAll (fun character => character ≠ '\r' ∧ character ≠ '\x00') text

/-- Two texts are verbatim together when each of them is. -/
theorem verbatim_append {text rest : List Char} :
    Verbatim (text ++ rest) ↔ Verbatim text ∧ Verbatim rest := List.forall_mem_append

/-- A verbatim text is read as it is written. -/
theorem scriptText_verbatim {text : List Char} (verbatim : Verbatim text) : scriptText text = text := by
  rw [scriptText]
  induction text with
  | nil => rfl
  | cons character text ih =>
      obtain ⟨noReturn, noNull⟩ := verbatim character List.mem_cons_self
      have rest := ih fun other member => verbatim other (List.mem_cons_of_mem _ member)
      simp [newlines, noReturn, shown, noNull, rest]

/-- The normalization of newlines does not look beyond another character. -/
theorem newlines_append {separator : Char} (text rest : List Char) (returned : Bool)
    (noReturn : separator ≠ '\r') (noFeed : separator ≠ '\n') :
    newlines returned (text ++ separator :: rest) =
      newlines returned text ++ separator :: newlines false rest := by
  induction text generalizing returned with
  | nil => simp [newlines, noReturn, noFeed]
  | cons character text ih =>
      simp only [List.cons_append, newlines, ih]
      split
      · rfl
      · split <;> rfl

/-- A text can be cut at a quotation mark. -/
theorem scriptText_quote (text rest : List Char) :
    scriptText (text ++ '"' :: rest) = scriptText text ++ '"' :: scriptText rest := by
  have cut : newlines false (text ++ '"' :: rest) =
      newlines false text ++ '"' :: newlines false rest :=
    newlines_append text rest false (by decide) (by decide)
  rw [scriptText, cut, List.map_append]
  rfl

/-- Every carriage return leaves a line feed. -/
theorem feed_of_return {text : List Char} (returned : Bool) (present : '\r' ∈ text) :
    '\n' ∈ newlines returned text := by
  induction text generalizing returned with
  | nil => exact absurd present List.not_mem_nil
  | cons character text ih =>
      rw [newlines]
      split
      · exact List.mem_cons_self
      · next other =>
          have later : '\r' ∈ text := (List.mem_cons.1 present).resolve_left (Ne.symm other)
          split
          · exact ih false later
          · exact List.mem_cons_of_mem _ (ih false later)

/-- A text that is given on without a carriage return or a null had none. -/
theorem verbatim_of_scriptText {text : List Char} (noFeed : '\n' ∉ scriptText text)
    (noNull : '\x00' ∉ text) : Verbatim text := by
  intro character member
  refine ⟨?_, ?_⟩
  · rintro rfl
    exact noFeed (List.mem_map.2 ⟨'\n', feed_of_return false member, by decide⟩)
  · rintro rfl
    exact noNull member

/-- The script has no NUL left. -/
theorem null_not_mem_scriptText (text : List Char) : '\x00' ∉ scriptText text := by
  intro present
  obtain ⟨character, _, null⟩ := List.mem_map.1 present
  rw [shown] at null
  split at null
  · exact absurd null (by decide)
  · next other => exact other null

end Input

section Tokenizer

/-- The states of the script data, in their order in the HTML standard. -/
inductive State where
  | data
  | lessThan
  | endTagOpen
  | endTagName (name : List Char)
  | escapeStart
  | escapeStartDash
  | escaped
  | escapedDash
  | escapedDashDash
  | escapedLessThan
  | escapedEndTagOpen
  | escapedEndTagName (name : List Char)
  | doubleEscapeStart (name : List Char)
  | doubleEscaped
  | doubleEscapedDash
  | doubleEscapedDashDash
  | doubleEscapedLessThan
  | doubleEscapeEnd (name : List Char)
  deriving DecidableEq

def inData (character : Char) : State := if character = '<' then .lessThan else .data

def inEscaped (character : Char) : State :=
  if character = '-' then .escapedDash else if character = '<' then .escapedLessThan else .escaped

def inDoubleEscaped (character : Char) : State :=
  if character = '-' then .doubleEscapedDash
  else if character = '<' then .doubleEscapedLessThan else .doubleEscaped

def endsName (character : Char) : Bool :=
  character ∈ ['\t', '\n', '\x0c', ' ', '/', '>']

def isScript (name : List Char) : Bool := name = ['s', 'c', 'r', 'i', 'p', 't']

/-- There is no next state when an end tag of the script leaves the script data. -/
def step : State → Char → Option State
  | .data, character => some (inData character)
  | .lessThan, character =>
      some (if character = '/' then .endTagOpen else if character = '!' then .escapeStart
        else inData character)
  | .endTagOpen, character =>
      some (if character.isAlpha then .endTagName [character.toLower] else inData character)
  | .endTagName name, character =>
      if character.isAlpha then some (.endTagName (name ++ [character.toLower]))
      else if endsName character ∧ isScript name then none else some (inData character)
  | .escapeStart, character =>
      some (if character = '-' then .escapeStartDash else inData character)
  | .escapeStartDash, character =>
      some (if character = '-' then .escapedDashDash else inData character)
  | .escaped, character => some (inEscaped character)
  | .escapedDash, character =>
      some (if character = '-' then .escapedDashDash else inEscaped character)
  | .escapedDashDash, character =>
      some (if character = '-' then .escapedDashDash else if character = '>' then .data
        else inEscaped character)
  | .escapedLessThan, character =>
      some (if character = '/' then .escapedEndTagOpen
        else if character.isAlpha then .doubleEscapeStart [character.toLower]
        else inEscaped character)
  | .escapedEndTagOpen, character =>
      some (if character.isAlpha then .escapedEndTagName [character.toLower] else inEscaped character)
  | .escapedEndTagName name, character =>
      if character.isAlpha then some (.escapedEndTagName (name ++ [character.toLower]))
      else if endsName character ∧ isScript name then none else some (inEscaped character)
  | .doubleEscapeStart name, character =>
      some (if endsName character then (if isScript name then .doubleEscaped else .escaped)
        else if character.isAlpha then .doubleEscapeStart (name ++ [character.toLower])
        else inEscaped character)
  | .doubleEscaped, character => some (inDoubleEscaped character)
  | .doubleEscapedDash, character =>
      some (if character = '-' then .doubleEscapedDashDash else inDoubleEscaped character)
  | .doubleEscapedDashDash, character =>
      some (if character = '-' then .doubleEscapedDashDash else if character = '>' then .data
        else inDoubleEscaped character)
  | .doubleEscapedLessThan, character =>
      some (if character = '/' then .doubleEscapeEnd [] else inDoubleEscaped character)
  | .doubleEscapeEnd name, character =>
      some (if endsName character then (if isScript name then .escaped else .doubleEscaped)
        else if character.isAlpha then .doubleEscapeEnd (name ++ [character.toLower])
        else inDoubleEscaped character)

def run : State → List Char → Option State
  | state, [] => some state
  | state, character :: text => (step state character).bind fun next => run next text

/-- The text behind the end tag, when there is one. -/
def afterEndTag : State → List Char → Option (List Char)
  | _, [] => none
  | state, character :: text =>
      match step state character with
      | none => some text
      | some next => afterEndTag next text

/-- The tokenizer reads a text piece by piece. -/
theorem run_append (state : State) (text rest : List Char) :
    run state (text ++ rest) = (run state text).bind fun next => run next rest := by
  induction text generalizing state with
  | nil => rfl
  | cons character text ih =>
      rw [List.cons_append, run, run, Option.bind_assoc]
      exact congrArg _ (funext fun next => ih next)

/-- Less of the text is left behind the end tag. -/
theorem afterEndTag_shorter {state : State} {text rest : List Char}
    (ended : afterEndTag state text = some rest) : rest.length < text.length := by
  induction text generalizing state with
  | nil => cases ended
  | cons character text ih =>
      rw [afterEndTag] at ended
      split at ended
      · cases ended
        exact Nat.lt_succ_self _
      · exact Nat.lt_succ_of_lt (ih ended)

/-- A script that ends behind a text reads the text first. -/
theorem afterEndTag_append {state : State} {text rest foot : List Char}
    (shorter : foot.length < rest.length) :
    afterEndTag state (text ++ rest) = some foot ↔
      ∃ next, run state text = some next ∧ afterEndTag next rest = some foot := by
  induction text generalizing state with
  | nil => simp [run]
  | cons character text ih =>
      rw [List.cons_append, afterEndTag, run]
      cases step state character with
      | some next => exact ih
      | none =>
          have early : ¬ text ++ rest = foot := by
            rintro rfl
            rw [List.length_append] at shorter
            omega
          simp [early]

/-- The states between two characters that no tag or comment needs. -/
def State.settle : State → State
  | .data | .lessThan | .endTagOpen | .endTagName _ | .escapeStart | .escapeStartDash => .data
  | .escaped | .escapedDash | .escapedDashDash | .escapedLessThan | .escapedEndTagOpen
  | .escapedEndTagName _ | .doubleEscapeStart _ => .escaped
  | .doubleEscaped | .doubleEscapedDash | .doubleEscapedDashDash | .doubleEscapedLessThan
  | .doubleEscapeEnd _ => .doubleEscaped

inductive Settled : State → Prop where
  | data : Settled .data
  | escaped : Settled .escaped
  | doubleEscaped : Settled .doubleEscaped

/-- A state that is settled stays settled. -/
theorem settled_settle (state : State) : Settled state.settle := by
  cases state <;> constructor

/-- A quotation mark settles every state. -/
theorem step_quote (state : State) : step state '"' = some state.settle := by
  cases state <;> rfl

/-- A quotation mark settles the tokenizer. -/
theorem run_quote (state : State) (text : List Char) :
    run state (text ++ ['"']) = (run state text).map State.settle := by
  rw [run_append]
  cases run state text with
  | none => rfl
  | some next => exact congrArg (Option.bind · some) (step_quote next)

/-- After a quotation mark the tokenizer is settled. -/
theorem settled_of_quote {state next : State} {text : List Char}
    (reading : run state (text ++ ['"']) = some next) : Settled next := by
  rw [run_quote] at reading
  obtain ⟨before, _, rfl⟩ := Option.map_eq_some_iff.1 reading
  exact settled_settle before

/-- The text leaves the settled states as they are. -/
structure Neutral (text : List Char) : Prop where
  data : run .data text = some .data
  escaped : run .escaped text = some .escaped
  doubleEscaped : run .doubleEscaped text = some .doubleEscaped

instance (text : List Char) : Decidable (Neutral text) :=
  decidable_of_iff (_ ∧ _ ∧ _) ⟨fun neutral => ⟨neutral.1, neutral.2.1, neutral.2.2⟩,
    fun neutral => ⟨neutral.data, neutral.escaped, neutral.doubleEscaped⟩⟩

/-- A neutral text brings a settled tokenizer back to its state. -/
theorem Neutral.run_eq {text : List Char} (neutral : Neutral text) {state : State}
    (settled : Settled state) : run state text = some state := by
  cases settled with
  | data => exact neutral.data
  | escaped => exact neutral.escaped
  | doubleEscaped => exact neutral.doubleEscaped

/-- Two neutral texts are neutral together. -/
theorem Neutral.append {text rest : List Char} (first : Neutral text) (second : Neutral rest) :
    Neutral (text ++ rest) where
  data := by rw [run_append, first.data]; exact second.data
  escaped := by rw [run_append, first.escaped]; exact second.escaped
  doubleEscaped := by rw [run_append, first.doubleEscaped]; exact second.doubleEscaped

/-- The tokenizer reads the quoted values one after the other. -/
def reads : State → List (List Char) → Option State
  | state, [] => some state
  | state, value :: values => (run state (value ++ ['"'])).bind fun next => reads next values

def endTag : List Char := ['<', '/', 's', 'c', 'r', 'i', 'p', 't', '>']

/-- Only the double escaped state goes past the end tag of the template. -/
theorem afterEndTag_endTag {state : State} (settled : Settled state) {text foot : List Char}
    (neutral : Neutral text) :
    afterEndTag state (text ++ (endTag ++ foot)) = some foot ↔ state ≠ .doubleEscaped := by
  have longer : foot.length < (endTag ++ foot).length := by
    rw [List.length_append]
    exact Nat.lt_add_of_pos_left (by decide)
  rw [afterEndTag_append longer, neutral.run_eq settled]
  cases settled with
  | data => exact iff_of_true ⟨_, rfl, rfl⟩ (by decide)
  | escaped => exact iff_of_true ⟨_, rfl, rfl⟩ (by decide)
  | doubleEscaped =>
      refine iff_of_false ?_ (fun other => other rfl)
      rintro ⟨next, same, ended⟩
      cases same
      exact absurd (afterEndTag_shorter (show afterEndTag .escaped foot = some foot from ended))
        (Nat.lt_irrefl _)

/-- Each value stands in quotation marks behind its text. -/
def quoted : List (List Char × List Char) → List Char → List Char
  | [], rest => rest
  | (text, value) :: parts, rest => text ++ '"' :: (value ++ '"' :: quoted parts rest)

/-- The rest is not longer than the whole text. -/
theorem length_le_quoted (parts : List (List Char × List Char)) (rest : List Char) :
    rest.length ≤ (quoted parts rest).length := by
  induction parts with
  | nil => exact le_rfl
  | cons part parts ih =>
      simp only [quoted, List.length_append, List.length_cons]
      omega

/-- The script ends at the end tag of the template when its values leave it neither closed nor
double escaped. -/
theorem afterEndTag_quoted {state : State} (settled : Settled state)
    {parts : List (List Char × List Char)} {text foot : List Char}
    (neutral : ∀ part ∈ parts, Neutral (part.1 ++ ['"'])) (closing : Neutral text) :
    afterEndTag state (quoted parts (text ++ (endTag ++ foot))) = some foot ↔
      ∃ next, reads state (parts.map Prod.snd) = some next ∧ next ≠ .doubleEscaped := by
  induction parts generalizing state with
  | nil =>
      rw [quoted, afterEndTag_endTag settled closing]
      simp [reads]
  | cons part parts ih =>
      have longer : foot.length < (quoted parts (text ++ (endTag ++ foot))).length := by
        have := length_le_quoted parts (text ++ (endTag ++ foot))
        simp only [List.length_append, endTag, List.length_cons] at this ⊢
        omega
      have split : quoted (part :: parts) (text ++ (endTag ++ foot)) =
          (part.1 ++ ['"'] ++ (part.2 ++ ['"'])) ++ quoted parts (text ++ (endTag ++ foot)) := by
        simp [quoted]
      rw [split, afterEndTag_append longer, run_append,
        (neutral part List.mem_cons_self).run_eq settled, Option.bind_some, List.map_cons, reads]
      have rest := fun other member => neutral other (List.mem_cons_of_mem part member)
      constructor
      · rintro ⟨next, reading, ended⟩
        rw [reading]
        exact (ih (settled_of_quote reading) rest).1 ended
      · rintro ⟨last, reading, unescaped⟩
        obtain ⟨next, first, later⟩ := Option.bind_eq_some_iff.1 reading
        exact ⟨next, first, (ih (settled_of_quote first) rest).2 ⟨last, later, unescaped⟩⟩

/-- The quoted values go through the input alone. -/
theorem scriptText_quoted {parts : List (List Char × List Char)} {rest : List Char}
    (verbatim : ∀ part ∈ parts, Verbatim part.1) :
    scriptText (quoted parts rest) =
      quoted (parts.map fun part => (part.1, scriptText part.2)) (scriptText rest) := by
  induction parts with
  | nil => rfl
  | cons part parts ih =>
      rw [quoted, scriptText_quote, scriptText_quote,
        scriptText_verbatim (verbatim part List.mem_cons_self),
        ih fun other member => verbatim other (List.mem_cons_of_mem _ member)]
      rfl

end Tokenizer

end ScriptData

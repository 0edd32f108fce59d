/-
This file gives regular expressions with their texts, and what they match for each reading of the
escape `\b`.
-/
import Mathlib.Data.List.Basic
import Mathlib.Logic.Relation

namespace RegexPattern

open Relation

section Syntax

/-- These characters have a meaning in a pattern. A backslash makes them literal. -/
def special : List Char := ['\\', '^', '$', '.', '[', '|', '(', ')', '?', '*', '+', '{']

/-- These characters may have a meaning in a class. A backslash makes them literal. -/
def reserved : List Char := ['\\', '[', ']', '^', '-', '&', '~']

inductive Shorthand where
  | digit
  | word
  | space

/-- A range is not empty. -/
inductive Item where
  | plain (character : { character : Char // character ∉ reserved })
  | escaped (character : { character : Char // character ∈ reserved })
  | range (low high : { character : Char // character ∉ reserved }) (ordered : low.val ≤ high.val)
  | shorthand (name : Shorthand)

/-- One character is tested. A class may end in a hyphen. -/
inductive Test where
  | literal (character : { character : Char // character ∉ special })
  | escaped (character : { character : Char // character ∈ special })
  | any
  | shorthand (name : Shorthand)
  | oneOf (negated : Bool) (first : Item) (rest : List Item) (hyphen : Bool)

inductive Symbol where
  | star
  | plus
  | optional

inductive Level where
  | atom
  | branch
  | whole

/-- The pieces of a branch follow each other, and the branches are alternatives. Symbols of repetition
may follow an atom or an anchor. -/
inductive Pattern : Level → Type where
  | test (test : Test) : Pattern .atom
  | escape : Pattern .atom
  | group (inner : Pattern .whole) : Pattern .atom
  | empty : Pattern .branch
  | piece (atom : Pattern .atom) (symbols : List Symbol) (rest : Pattern .branch) : Pattern .branch
  | start (symbols : List Symbol) (rest : Pattern .branch) : Pattern .branch
  | finish (symbols : List Symbol) (rest : Pattern .branch) : Pattern .branch
  | single (branch : Pattern .branch) : Pattern .whole
  | alternative (branch : Pattern .branch) (rest : Pattern .whole) : Pattern .whole

def Shorthand.render : Shorthand → List Char
  | .digit => ['\\', 'd']
  | .word => ['\\', 'w']
  | .space => ['\\', 's']

def Item.render : Item → List Char
  | .plain character => [character.val]
  | .escaped character => ['\\', character.val]
  | .range low high _ => [low.val, '-', high.val]
  | .shorthand name => name.render

def Test.render : Test → List Char
  | .literal character => [character.val]
  | .escaped character => ['\\', character.val]
  | .any => ['.']
  | .shorthand name => name.render
  | .oneOf negated first rest hyphen =>
      ['['] ++ (if negated then ['^'] else []) ++ first.render ++ rest.flatMap Item.render ++
        (if hyphen then ['-'] else []) ++ [']']

def Symbol.render : Symbol → Char
  | .star => '*'
  | .plus => '+'
  | .optional => '?'

def Pattern.render {level : Level} : Pattern level → List Char
  | .test check => check.render
  | .escape => ['\\', 'b']
  | .group inner => ['('] ++ inner.render ++ [')']
  | .empty => []
  | .piece atom symbols rest => atom.render ++ symbols.map Symbol.render ++ rest.render
  | .start symbols rest => ['^'] ++ symbols.map Symbol.render ++ rest.render
  | .finish symbols rest => ['$'] ++ symbols.map Symbol.render ++ rest.render
  | .single branch => branch.render
  | .alternative branch rest => branch.render ++ ['|'] ++ rest.render

/-- The pattern without the escape. -/
def Pattern.escapeFree {level : Level} : Pattern level → Bool
  | .test _ => true
  | .escape => false
  | .group inner => inner.escapeFree
  | .empty => true
  | .piece atom _ rest => atom.escapeFree && rest.escapeFree
  | .start _ rest => rest.escapeFree
  | .finish _ rest => rest.escapeFree
  | .single branch => branch.escapeFree
  | .alternative branch rest => branch.escapeFree && rest.escapeFree

/-- A question mark after another symbol prefers the shortest match, and it repeats nothing. -/
def quantifiers : List Symbol → List Symbol
  | [] => []
  | symbol :: .optional :: rest => symbol :: quantifiers rest
  | symbol :: rest => symbol :: quantifiers rest

/-- In the stricter grammar an atom has one quantifier at most, and an anchor has none. -/
def Pattern.strict {level : Level} : Pattern level → Bool
  | .test _ => true
  | .escape => true
  | .group inner => inner.strict
  | .empty => true
  | .piece atom symbols rest => atom.strict && (quantifiers symbols).length ≤ 1 && rest.strict
  | .start symbols rest => symbols.isEmpty && rest.strict
  | .finish symbols rest => symbols.isEmpty && rest.strict
  | .single branch => branch.strict
  | .alternative branch rest => branch.strict && rest.strict

end Syntax

section Meaning

/-- Which spans of a text the escape covers. -/
abbrev Reading := List Char → Nat → Nat → Bool

variable (classes : Shorthand → Char → Bool)

def Item.accepts (character : Char) : Item → Bool
  | .plain other => character == other.val
  | .escaped other => character == other.val
  | .range low high _ => low.val ≤ character && character ≤ high.val
  | .shorthand name => classes name character

def Test.accepts (character : Char) : Test → Bool
  | .literal other => character == other.val
  | .escaped other => character == other.val
  | .any => true
  | .shorthand name => classes name character
  | .oneOf negated first rest hyphen =>
      negated != ((first :: rest).any (Item.accepts classes character) || (hyphen && character == '-'))

def wordAt (text : List Char) (index : Nat) : Bool := text[index]?.any (classes .word)

/-- The escape matches between a word character and another character, or an end of the text. -/
def boundary : Reading := fun text first last =>
  first == last && (decide (0 < first) && wordAt classes text (first - 1)) != wordAt classes text first

/-- The escape matches the character U+0008. -/
def backspace : Reading := fun text first last => last == first + 1 && text[first]? == some '\x08'

def never : Reading := fun _ _ _ => false

def repeated (relation : Nat → Nat → Prop) : Symbol → Nat → Nat → Prop
  | .star => ReflTransGen relation
  | .plus => TransGen relation
  | .optional => ReflGen relation

/-- Each quantifier repeats what stands before it. -/
def quantified (relation : Nat → Nat → Prop) (symbols : List Symbol) : Nat → Nat → Prop :=
  (quantifiers symbols).foldl repeated relation

variable (reading : Reading) (text : List Char)

/-- The pattern matches the text from the first position to the last one. -/
def Spans {level : Level} : Pattern level → Nat → Nat → Prop
  | .test check => fun first last =>
      last = first + 1 ∧ ∃ character, text[first]? = some character ∧ check.accepts classes character
  | .escape => fun first last =>
      first ≤ last ∧ last ≤ text.length ∧ reading text first last = true
  | .group inner => Spans inner
  | .empty => fun first last => first = last
  | .piece atom symbols rest => fun first last =>
      ∃ middle, quantified (Spans atom) symbols first middle ∧ Spans rest middle last
  | .start symbols rest => fun first last =>
      ∃ middle, quantified (fun one other => one = 0 ∧ other = one) symbols first middle ∧
        Spans rest middle last
  | .finish symbols rest => fun first last =>
      ∃ middle, quantified (fun one other => one = text.length ∧ other = one) symbols first middle ∧
        Spans rest middle last
  | .single branch => Spans branch
  | .alternative branch rest => fun first last => Spans branch first last ∨ Spans rest first last

/-- The pattern matches some part of the text. -/
def Found {level : Level} (pattern : Pattern level) : Prop :=
  ∃ first last, first ≤ text.length ∧ Spans classes reading text pattern first last

end Meaning

section Readings

variable {classes : Shorthand → Char → Bool} {first second : Reading} {text : List Char}
  {relation larger : Nat → Nat → Prop}

/-- A weaker step allows more repetitions. -/
theorem repeated_mono (symbol : Symbol) (weaker : ∀ one other, relation one other → larger one other)
    {one other : Nat} (steps : repeated relation symbol one other) : repeated larger symbol one other := by
  cases symbol with
  | star => exact ReflTransGen.mono weaker one other steps
  | plus => exact TransGen.mono weaker one other steps
  | optional => exact ReflGen.mono weaker one other steps

/-- A weaker step allows more under each quantifier. -/
theorem quantified_mono (symbols : List Symbol)
    (weaker : ∀ one other, relation one other → larger one other) {one other : Nat}
    (steps : quantified relation symbols one other) : quantified larger symbols one other := by
  unfold quantified at steps ⊢
  generalize quantifiers symbols = repetitions at steps ⊢
  induction repetitions generalizing relation larger with
  | nil => exact weaker one other steps
  | cons symbol rest ih => exact ih (fun _ _ => repeated_mono symbol weaker) steps

/-- A reading that covers more lets a pattern match more, because no construct negates another. -/
theorem spans_mono (weaker : ∀ one other, first text one other = true → second text one other = true)
    {level : Level} {pattern : Pattern level} {one other : Nat}
    (spans : Spans classes first text pattern one other) : Spans classes second text pattern one other := by
  induction pattern generalizing one other with
  | test check => exact spans
  | escape => exact ⟨spans.1, spans.2.1, weaker one other spans.2.2⟩
  | group inner ih => exact ih spans
  | empty => exact spans
  | piece atom symbols rest inner ih =>
      obtain ⟨middle, steps, later⟩ := spans
      exact ⟨middle, quantified_mono symbols (fun _ _ => inner) steps, ih later⟩
  | start symbols rest ih =>
      obtain ⟨middle, steps, later⟩ := spans
      exact ⟨middle, steps, ih later⟩
  | finish symbols rest ih =>
      obtain ⟨middle, steps, later⟩ := spans
      exact ⟨middle, steps, ih later⟩
  | single branch ih => exact ih spans
  | alternative branch rest inner ih => exact spans.imp inner ih

/-- A pattern without the escape means the same in all readings. -/
theorem spans_escapeFree {level : Level} {pattern : Pattern level} (free : pattern.escapeFree = true)
    {one other : Nat} (spans : Spans classes first text pattern one other) :
    Spans classes second text pattern one other := by
  induction pattern generalizing one other with
  | test check => exact spans
  | escape => cases free
  | group inner ih => exact ih free spans
  | empty => exact spans
  | piece atom symbols rest inner ih =>
      obtain ⟨left, right⟩ := Bool.and_eq_true_iff.mp free
      obtain ⟨middle, steps, later⟩ := spans
      exact ⟨middle, quantified_mono symbols (fun _ _ => inner left) steps, ih right later⟩
  | start symbols rest ih =>
      obtain ⟨middle, steps, later⟩ := spans
      exact ⟨middle, steps, ih free later⟩
  | finish symbols rest ih =>
      obtain ⟨middle, steps, later⟩ := spans
      exact ⟨middle, steps, ih free later⟩
  | single branch ih => exact ih free spans
  | alternative branch rest inner ih =>
      obtain ⟨left, right⟩ := Bool.and_eq_true_iff.mp free
      exact spans.imp (inner left) (ih right)

/-- A weaker reading of the escape finds more. -/
theorem found_mono (weaker : ∀ one other, first text one other = true → second text one other = true)
    {level : Level} {pattern : Pattern level} (found : Found classes first text pattern) :
    Found classes second text pattern := by
  obtain ⟨one, other, inside, spans⟩ := found
  exact ⟨one, other, inside, spans_mono weaker spans⟩

/-- What is found without the escape is found in every reading of it. -/
theorem found_of_never {level : Level} {pattern : Pattern level}
    (found : Found classes never text pattern) : Found classes first text pattern :=
  found_mono (fun _ _ impossible => absurd impossible Bool.false_ne_true) found

/-- A text without the character U+0008 has no place for the escape. -/
theorem never_of_backspace {level : Level} {pattern : Pattern level} (absent : '\x08' ∉ text)
    (found : Found classes backspace text pattern) : Found classes never text pattern := by
  refine found_mono (fun one other covers => ?_) found
  have here : text[one]? = some '\x08' := beq_iff_eq.mp (Bool.and_eq_true_iff.mp covers).2
  exact absurd (List.mem_of_getElem? here) absent

/-- A pattern without the escape finds the same under every reading. -/
theorem never_of_escapeFree {level : Level} {pattern : Pattern level} (free : pattern.escapeFree = true)
    (found : Found classes first text pattern) : Found classes never text pattern := by
  obtain ⟨one, other, inside, spans⟩ := found
  exact ⟨one, other, inside, spans_escapeFree free spans⟩

end Readings

section Matcher

/-- The steps go forward and stay within the text. -/
def reach (step : Nat → List Nat) : Nat → Nat → List Nat
  | 0, first => [first]
  | fuel + 1, first => first :: (step first).flatMap (reach step fuel)

def again (length : Nat) (step : Nat → List Nat) : Symbol → Nat → List Nat
  | .star => reach step length
  | .plus => fun first => (step first).flatMap (reach step length)
  | .optional => fun first => first :: step first

variable (classes : Shorthand → Char → Bool) (reading : Reading) (text : List Char)

/-- The positions where a match from the given position may end. -/
def ends {level : Level} : Pattern level → Nat → List Nat
  | .test check => fun first => if text[first]?.any (check.accepts classes) then [first + 1] else []
  | .escape => fun first =>
      (List.range (text.length + 1)).filter fun last => first ≤ last && reading text first last
  | .group inner => ends inner
  | .empty => fun first => [first]
  | .piece atom symbols rest => fun first =>
      ((quantifiers symbols).foldl (again text.length) (ends atom) first).flatMap (ends rest)
  | .start symbols rest => fun first =>
      ((quantifiers symbols).foldl (again text.length)
        (fun one => if one = 0 then [one] else []) first).flatMap (ends rest)
  | .finish symbols rest => fun first =>
      ((quantifiers symbols).foldl (again text.length)
        (fun one => if one = text.length then [one] else []) first).flatMap (ends rest)
  | .single branch => ends branch
  | .alternative branch rest => fun first => ends branch first ++ ends rest first

def isMatch {level : Level} (pattern : Pattern level) : Bool :=
  (List.range (text.length + 1)).any fun first => !(ends classes reading text pattern first).isEmpty

/-- The steps compute the relation on the positions of the text, and they go forward in it. -/
def Computes (length : Nat) (step : Nat → List Nat) (relation : Nat → Nat → Prop) : Prop :=
  ∀ first ≤ length, ∀ last, (last ∈ step first ↔ relation first last) ∧
    (relation first last → first ≤ last ∧ last ≤ length)

variable {length : Nat} {step : Nat → List Nat} {relation : Nat → Nat → Prop}

/-- Each position reaches itself. -/
theorem mem_reach_self (fuel first : Nat) : first ∈ reach step fuel first := by
  cases fuel <;> exact List.mem_cons_self

/-- The length of the text is fuel enough, because a step that stays is left out. -/
theorem mem_reach (computes : Computes length step relation) {fuel first last : Nat}
    (inside : first ≤ length) (enough : length - first ≤ fuel) :
    last ∈ reach step fuel first ↔ ReflTransGen relation first last := by
  constructor
  · intro member
    clear enough
    induction fuel generalizing first with
    | zero =>
        obtain rfl := List.mem_singleton.mp member
        exact .refl
    | succ fuel ih =>
        rcases List.mem_cons.mp member with rfl | later
        · exact .refl
        · obtain ⟨middle, stepped, reached⟩ := List.mem_flatMap.mp later
          have related := ((computes first inside middle).1).mp stepped
          exact .head related (ih ((computes first inside middle).2 related).2 reached)
  · intro path
    induction path using ReflTransGen.head_induction_on generalizing fuel with
    | refl => exact mem_reach_self fuel last
    | @head first middle related _ ih =>
        obtain ⟨forward, bound⟩ := (computes first inside middle).2 related
        rcases Nat.lt_or_eq_of_le forward with later | rfl
        · cases fuel with
          | zero => omega
          | succ fuel =>
              refine List.mem_cons_of_mem _ (List.mem_flatMap.mpr ⟨middle, ?_, ih bound (by omega)⟩)
              exact ((computes first inside middle).1).mpr related
        · exact ih inside enough

/-- The computed repetition is the relation. -/
theorem computes_repeat (computes : Computes length step relation) (symbol : Symbol) :
    Computes length (again length step symbol) (repeated relation symbol) := by
  have bounded {first last : Nat} (inside : first ≤ length) (path : ReflTransGen relation first last) :
      first ≤ last ∧ last ≤ length := by
    induction path with
    | refl => exact ⟨Nat.le_refl first, inside⟩
    | tail _ related ih =>
        obtain ⟨forward, bound⟩ := (computes _ ih.2 _).2 related
        exact ⟨Nat.le_trans ih.1 forward, bound⟩
  intro first inside last
  cases symbol with
  | star => exact ⟨mem_reach computes inside (Nat.sub_le _ _), bounded inside⟩
  | plus =>
      refine ⟨?_, fun path => bounded inside path.to_reflTransGen⟩
      change last ∈ (step first).flatMap _ ↔ TransGen relation first last
      rw [List.mem_flatMap, TransGen.head'_iff]
      refine exists_congr fun middle => ?_
      constructor
      · rintro ⟨stepped, reached⟩
        have related := ((computes first inside middle).1).mp stepped
        have bound := ((computes first inside middle).2 related).2
        exact ⟨related, (mem_reach computes bound (Nat.sub_le _ _)).mp reached⟩
      · rintro ⟨related, path⟩
        have bound := ((computes first inside middle).2 related).2
        exact ⟨((computes first inside middle).1).mpr related,
          (mem_reach computes bound (Nat.sub_le _ _)).mpr path⟩
  | optional =>
      constructor
      · change last ∈ first :: step first ↔ ReflGen relation first last
        rw [List.mem_cons, reflGen_iff, (computes first inside last).1]
      · intro path
        cases path with
        | refl => exact ⟨Nat.le_refl first, inside⟩
        | single related => exact (computes first inside last).2 related

/-- The computed quantifiers are the relation. -/
theorem computes_quantified (computes : Computes length step relation) (symbols : List Symbol) :
    Computes length ((quantifiers symbols).foldl (again length) step) (quantified relation symbols) := by
  unfold quantified
  generalize quantifiers symbols = repetitions
  induction repetitions generalizing step relation with
  | nil => exact computes
  | cons symbol rest ih => exact ih (computes_repeat computes symbol)

/-- One computed step after another is the composed relation. -/
theorem computes_then {next : Nat → List Nat} {continued : Nat → Nat → Prop}
    (computes : Computes length step relation) (continues : Computes length next continued) :
    Computes length (fun first => (step first).flatMap next)
      fun first last => ∃ middle, relation first middle ∧ continued middle last := by
  intro first inside last
  constructor
  · rw [List.mem_flatMap]
    refine exists_congr fun middle => ?_
    constructor
    · rintro ⟨stepped, later⟩
      have related := ((computes first inside middle).1).mp stepped
      have bound := ((computes first inside middle).2 related).2
      exact ⟨related, ((continues middle bound last).1).mp later⟩
    · rintro ⟨related, later⟩
      have bound := ((computes first inside middle).2 related).2
      exact ⟨((computes first inside middle).1).mpr related, ((continues middle bound last).1).mpr later⟩
  · rintro ⟨middle, related, later⟩
    obtain ⟨forward, bound⟩ := (computes first inside middle).2 related
    obtain ⟨further, final⟩ := (continues middle bound last).2 later
    exact ⟨Nat.le_trans forward further, final⟩

/-- An anchor stays at one position. -/
theorem computes_anchor (position : Nat) :
    Computes length (fun one => if one = position then [one] else [])
      fun one other => one = position ∧ other = one := by
  intro first inside last
  constructor
  · by_cases here : first = position <;> simp [here]
  · rintro ⟨_, rfl⟩
    exact ⟨Nat.le_refl _, inside⟩

variable {classes reading text}

/-- The matcher computes the spans of the pattern. -/
theorem computes_ends {level : Level} (pattern : Pattern level) :
    Computes text.length (ends classes reading text pattern) (Spans classes reading text pattern) := by
  induction pattern with
  | test check =>
      intro first inside last
      constructor
      · change last ∈ (if _ then _ else _) ↔ last = first + 1 ∧ _
        cases found : text[first]? with
        | none => simp
        | some character => by_cases accepted : check.accepts classes character = true <;> simp [accepted]
      · rintro ⟨rfl, character, found, _⟩
        exact ⟨Nat.le_succ first, (List.getElem?_eq_some_iff.mp found).1⟩
  | escape =>
      intro first inside last
      constructor
      · change last ∈ List.filter _ _ ↔ _ ∧ _ ∧ _
        rw [List.mem_filter, List.mem_range, Nat.lt_succ_iff, Bool.and_eq_true, decide_eq_true_iff]
        exact and_left_comm
      · rintro ⟨forward, bound, _⟩
        exact ⟨forward, bound⟩
  | group inner ih => exact ih
  | empty =>
      intro first inside last
      constructor
      · change last ∈ [first] ↔ first = last
        rw [List.mem_singleton]
        exact eq_comm
      · rintro rfl
        exact ⟨Nat.le_refl first, inside⟩
  | piece atom symbols rest inner ih => exact computes_then (computes_quantified inner symbols) ih
  | start symbols rest ih => exact computes_then (computes_quantified (computes_anchor 0) symbols) ih
  | finish symbols rest ih =>
      exact computes_then (computes_quantified (computes_anchor text.length) symbols) ih
  | single branch ih => exact ih
  | alternative branch rest inner ih =>
      intro first inside last
      refine ⟨?_, fun spans => spans.elim ((inner first inside last).2) ((ih first inside last).2)⟩
      change last ∈ _ ++ _ ↔ _ ∨ _
      rw [List.mem_append, (inner first inside last).1, (ih first inside last).1]

/-- The matcher decides whether the pattern is found. -/
theorem isMatch_iff {level : Level} (pattern : Pattern level) :
    isMatch classes reading text pattern = true ↔ Found classes reading text pattern := by
  unfold isMatch Found
  rw [List.any_eq_true]
  refine exists_congr fun first => ?_
  rw [List.mem_range, Nat.lt_succ_iff, Bool.not_eq_true', List.isEmpty_eq_false_iff_exists_mem]
  constructor
  · rintro ⟨inside, last, member⟩
    exact ⟨last, inside, ((computes_ends pattern first inside last).1).mp member⟩
  · rintro ⟨last, inside, spans⟩
    exact ⟨inside, last, ((computes_ends pattern first inside last).1).mpr spans⟩

instance {level : Level} (pattern : Pattern level) : Decidable (Found classes reading text pattern) :=
  decidable_of_iff _ (isMatch_iff pattern)

end Matcher

end RegexPattern

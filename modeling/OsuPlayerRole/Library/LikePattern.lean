/-
This file gives the pattern language of the LIKE operator with its escape character.
-/
import Mathlib.Data.List.Infix

namespace LikePattern

/-- A pattern is a sequence of free runs, free characters, and fixed characters. -/
inductive Token where
  | anyRun
  | anyOne
  | exactly (character : Char)
  deriving DecidableEq

/-- The backslash takes the next character literally. A pattern cannot end in it. -/
def tokens : List Char → Option (List Token)
  | [] => some []
  | '\\' :: character :: rest => (tokens rest).map (.exactly character :: ·)
  | ['\\'] => none
  | '%' :: rest => (tokens rest).map (.anyRun :: ·)
  | '_' :: rest => (tokens rest).map (.anyOne :: ·)
  | character :: rest => (tokens rest).map (.exactly character :: ·)

/-- The tokens must cover the whole text. A free run tries every suffix. -/
def covers : List Token → List Char → Bool
  | [], text => text.isEmpty
  | .anyRun :: rest, text => text.tails.any (covers rest)
  | .anyOne :: _, [] => false
  | .anyOne :: rest, _ :: text => covers rest text
  | .exactly _ :: _, [] => false
  | .exactly character :: rest, first :: text => character == first && covers rest text

/-- The result is missing for a pattern that ends in its escape character. -/
def like (text pattern : List Char) : Option Bool := (tokens pattern).map (covers · text)

/-- A special character is quoted. -/
def quote (character : Char) : List Char :=
  if character = '\\' ∨ character = '%' ∨ character = '_' then ['\\', character] else [character]

def escape (text : List Char) : List Char := text.flatMap quote

/-- A quoted character stands for itself. -/
theorem tokens_quote (character : Char) (rest : List Char) :
    tokens (quote character ++ rest) = (tokens rest).map (.exactly character :: ·) := by
  unfold quote
  split
  · rfl
  · next plain =>
      rw [not_or, not_or] at plain
      rw [List.singleton_append, tokens]
      · intro next tail equal
        exact absurd equal plain.1
      · intro equal
        exact absurd equal plain.1
      · exact plain.2.1
      · exact plain.2.2

/-- The escaped text is a pattern of fixed characters and has no dangling escape. -/
theorem tokens_escape (text rest : List Char) :
    tokens (escape text ++ rest) = (tokens rest).map (text.map Token.exactly ++ ·) := by
  induction text with
  | nil => simp [escape]
  | cons character text ih =>
      rw [escape, List.flatMap_cons, List.append_assoc, tokens_quote, ← escape, ih, Option.map_map]
      rfl

theorem covers_anyRun (text : List Char) : covers [.anyRun] text = true := by
  simp [covers, List.any_eq_true]

/-- Fixed characters before a free run ask for a prefix. -/
theorem covers_leading (fixed text : List Char) :
    covers (fixed.map Token.exactly ++ [.anyRun]) text = true ↔ fixed <+: text := by
  induction fixed generalizing text with
  | nil => simp [covers_anyRun]
  | cons character fixed ih =>
      cases text with
      | nil => simp [covers]
      | cons first text => simp [covers, ih, List.cons_prefix_cons]

/-- Fixed characters between two free runs ask for a factor of the text. -/
theorem covers_inside (fixed text : List Char) :
    covers (.anyRun :: (fixed.map Token.exactly ++ [.anyRun])) text = true ↔ fixed <:+: text := by
  rw [covers, List.any_eq_true, List.infix_iff_prefix_suffix]
  constructor
  · rintro ⟨suffix, member, covered⟩
    exact ⟨suffix, (covers_leading fixed suffix).mp covered, (List.mem_tails _ _).mp member⟩
  · rintro ⟨suffix, leading, trailing⟩
    exact ⟨suffix, (List.mem_tails _ _).mpr trailing, (covers_leading fixed suffix).mpr leading⟩

/-- The escaped text between two free runs is an exact search for that text. -/
theorem like_escape (value text : List Char) :
    like text ('%' :: (escape value ++ ['%'])) = some (decide (value <:+: text)) := by
  have parsed : tokens ('%' :: (escape value ++ ['%'])) =
      some (.anyRun :: (value.map Token.exactly ++ [.anyRun])) := by
    rw [tokens, tokens_escape]
    rfl
  rw [like, parsed, Option.map_some]
  congr 1
  rw [Bool.eq_iff_iff, decide_eq_true_iff]
  exact covers_inside value text

/-- The pattern covers the text by the rules of the operator. -/
inductive Matches : List Char → List Char → Prop where
  | nil : Matches [] []
  | run {pattern text : List Char} (skipped : List Char) (matched : Matches pattern text) :
      Matches ('%' :: pattern) (skipped ++ text)
  | one {pattern text : List Char} (character : Char) (matched : Matches pattern text) :
      Matches ('_' :: pattern) (character :: text)
  | quoted {pattern text : List Char} (character : Char) (matched : Matches pattern text) :
      Matches ('\\' :: character :: pattern) (character :: text)
  | plain {pattern text : List Char} {character : Char} (backslash : character ≠ '\\')
      (percent : character ≠ '%') (underscore : character ≠ '_') (matched : Matches pattern text) :
      Matches (character :: pattern) (character :: text)

/-- A run of characters covers any front of the text. -/
theorem covers_run {rest : List Token} {text : List Char} :
    covers (.anyRun :: rest) text = true ↔
      ∃ skipped left, text = skipped ++ left ∧ covers rest left = true := by
  rw [covers, List.any_eq_true]
  constructor
  · rintro ⟨left, member, covered⟩
    obtain ⟨skipped, whole⟩ := (List.mem_tails _ _).mp member
    exact ⟨skipped, left, whole.symm, covered⟩
  · rintro ⟨skipped, left, rfl, covered⟩
    exact ⟨left, (List.mem_tails _ _).mpr (List.suffix_append _ _), covered⟩

theorem covers_one {rest : List Token} {text : List Char} :
    covers (.anyOne :: rest) text = true ↔
      ∃ character left, text = character :: left ∧ covers rest left = true := by
  cases text with
  | nil => simp [covers]
  | cons character left => simp [covers]

theorem covers_exactly {rest : List Token} {character : Char} {text : List Char} :
    covers (.exactly character :: rest) text = true ↔
      ∃ left, text = character :: left ∧ covers rest left = true := by
  cases text with
  | nil => simp [covers]
  | cons first left =>
      rw [covers, Bool.and_eq_true, beq_iff_eq]
      constructor
      · rintro ⟨rfl, covered⟩
        exact ⟨left, rfl, covered⟩
      · rintro ⟨other, same, covered⟩
        obtain ⟨rfl, rfl⟩ := List.cons.inj same
        exact ⟨rfl, covered⟩

/-- What the rules match the tokens cover. -/
theorem Matches.covers_tokens {pattern text : List Char} (matched : Matches pattern text) :
    ∃ parsed, tokens pattern = some parsed ∧ covers parsed text = true := by
  induction matched with
  | nil => exact ⟨[], rfl, rfl⟩
  | run skipped _ ih =>
      obtain ⟨parsed, found, covered⟩ := ih
      exact ⟨.anyRun :: parsed, by rw [tokens, found]; rfl, covers_run.mpr ⟨skipped, _, rfl, covered⟩⟩
  | one character _ ih =>
      obtain ⟨parsed, found, covered⟩ := ih
      exact ⟨.anyOne :: parsed, by rw [tokens, found]; rfl, covers_one.mpr ⟨character, _, rfl, covered⟩⟩
  | quoted character _ ih =>
      obtain ⟨parsed, found, covered⟩ := ih
      exact ⟨.exactly character :: parsed, by rw [tokens, found]; rfl,
        covers_exactly.mpr ⟨_, rfl, covered⟩⟩
  | @plain pattern _ character backslash percent underscore _ ih =>
      obtain ⟨parsed, found, covered⟩ := ih
      have itself : quote character = [character] := by simp [quote, backslash, percent, underscore]
      refine ⟨.exactly character :: parsed, ?_, covers_exactly.mpr ⟨_, rfl, covered⟩⟩
      have step := tokens_quote character pattern
      rw [itself, List.singleton_append, found] at step
      exact step

/-- What the tokens cover the rules match. -/
theorem matches_of_covers {pattern : List Char} {parsed : List Token}
    (found : tokens pattern = some parsed) {text : List Char} (covered : covers parsed text = true) :
    Matches pattern text := by
  fun_induction tokens pattern generalizing parsed text with
  | case1 =>
      obtain rfl := Option.some.inj found
      obtain rfl := List.isEmpty_iff.mp covered
      exact .nil
  | case2 character rest ih =>
      obtain ⟨others, later, rfl⟩ := Option.map_eq_some_iff.mp found
      obtain ⟨left, rfl, remaining⟩ := covers_exactly.mp covered
      exact .quoted character (ih later remaining)
  | case3 => cases found
  | case4 rest ih =>
      obtain ⟨others, later, rfl⟩ := Option.map_eq_some_iff.mp found
      obtain ⟨skipped, left, rfl, remaining⟩ := covers_run.mp covered
      exact .run skipped (ih later remaining)
  | case5 rest ih =>
      obtain ⟨others, later, rfl⟩ := Option.map_eq_some_iff.mp found
      obtain ⟨character, left, rfl, remaining⟩ := covers_one.mp covered
      exact .one character (ih later remaining)
  | case6 character rest escaped alone percent underscore ih =>
      obtain ⟨others, later, rfl⟩ := Option.map_eq_some_iff.mp found
      obtain ⟨left, rfl, remaining⟩ := covers_exactly.mp covered
      refine .plain (fun same => ?_) percent underscore (ih later remaining)
      cases rest with
      | nil => exact alone same rfl
      | cons next tail => exact escaped next tail same rfl

/-- The search decides the rules of the operator. -/
theorem like_iff_matches (text pattern : List Char) :
    like text pattern = some true ↔ Matches pattern text := by
  constructor
  · intro decided
    obtain ⟨parsed, found, covered⟩ := Option.map_eq_some_iff.mp decided
    exact matches_of_covers found covered
  · intro matched
    obtain ⟨parsed, found, covered⟩ := matched.covers_tokens
    rw [like, found, Option.map_some, covered]

end LikePattern

/-
This file replaces the placeholders of a template by their values, one placeholder after the other.
-/
import Mathlib.Data.List.Infix

namespace Substitution

variable {Symbol Key : Type} [DecidableEq Symbol]

section Replacement

variable (pattern value : List Symbol)

/-- The scan skips the rest of a match before it looks for the next one. -/
def scan : Nat → List Symbol → List Symbol
  | _, [] => []
  | skipped + 1, _ :: text => scan skipped text
  | 0, symbol :: text =>
      if pattern <+: symbol :: text then value ++ scan (pattern.length - 1) text
      else symbol :: scan 0 text

/-- The matches are disjoint and are found from the left. -/
def replaceAll (text : List Symbol) : List Symbol := scan pattern value 0 text

variable {pattern value}

theorem scan_nil (skipped : Nat) : scan pattern value skipped [] = [] := by
  cases skipped with
  | zero => rfl
  | succ skipped => rfl

/-- A match is replaced, and its symbols are skipped. -/
theorem scan_matched {symbol : Symbol} {text : List Symbol} (matched : pattern <+: symbol :: text) :
    scan pattern value 0 (symbol :: text) = value ++ scan pattern value (pattern.length - 1) text :=
  if_pos matched

/-- A symbol without a match is copied. -/
theorem scan_unmatched {symbol : Symbol} {text : List Symbol} (unmatched : ¬ pattern <+: symbol :: text) :
    scan pattern value 0 (symbol :: text) = symbol :: scan pattern value 0 text :=
  if_neg unmatched

/-- The symbols of a match are skipped. -/
theorem scan_skips (passed text : List Symbol) :
    scan pattern value passed.length (passed ++ text) = replaceAll pattern value text := by
  induction passed with
  | nil => rfl
  | cons symbol passed ih => exact ih

/-- The pattern at the front is replaced. -/
theorem replaceAll_match (text : List Symbol) (nonempty : pattern ≠ []) :
    replaceAll pattern value (pattern ++ text) = value ++ replaceAll pattern value text := by
  cases pattern with
  | nil => exact absurd rfl nonempty
  | cons symbol pattern =>
      have matched : symbol :: pattern <+: symbol :: (pattern ++ text) := List.prefix_append _ _
      exact (scan_matched matched).trans (congrArg (value ++ ·) (scan_skips pattern text))

/-- The pattern is replaced by the value. -/
theorem replaceAll_itself (nonempty : pattern ≠ []) : replaceAll pattern value pattern = value := by
  have matched := @replaceAll_match _ _ pattern value [] nonempty
  rwa [List.append_nil, show replaceAll pattern value [] = [] from rfl, List.append_nil] at matched

/-- A text without the pattern stays as it is. -/
theorem replaceAll_absent {text : List Symbol} (absent : ¬ pattern <:+: text) :
    replaceAll pattern value text = text := by
  induction text with
  | nil => rfl
  | cons symbol text ih =>
      have unmatched : ¬ pattern <+: symbol :: text := fun start => absent start.isInfix
      have kept := ih fun within => absent (List.infix_cons within)
      exact (scan_unmatched unmatched).trans (congrArg (symbol :: ·) kept)

omit [DecidableEq Symbol] in
/-- A symbol outside the pattern ends every match that starts before it. -/
theorem prefix_before {symbol : Symbol} (text rest : List Symbol) (outside : symbol ∉ pattern) :
    pattern <+: text ++ symbol :: rest ↔ pattern <+: text := by
  constructor
  · intro start
    rcases List.prefix_or_prefix_of_prefix start (List.prefix_append text (symbol :: rest)) with
      shorter | longer
    · exact shorter
    · obtain ⟨tail, same⟩ := longer
      subst same
      rw [List.prefix_append_right_inj] at start
      cases tail with
      | nil => simp
      | cons first tail =>
          obtain ⟨equal, _⟩ := List.cons_prefix_cons.1 start
          exact absurd (by simp [equal]) outside
  · exact fun start => List.prefix_append_of_prefix start

/-- No match crosses a symbol outside of the pattern. -/
theorem scan_separated {symbol : Symbol} {text rest : List Symbol} (nonempty : pattern ≠ [])
    (outside : symbol ∉ pattern) (skipped : Nat) (within : skipped ≤ text.length) :
    scan pattern value skipped (text ++ symbol :: rest) =
      scan pattern value skipped text ++ symbol :: replaceAll pattern value rest := by
  induction text generalizing skipped with
  | nil =>
      obtain rfl : skipped = 0 := Nat.le_zero.1 within
      have unmatched : ¬ pattern <+: symbol :: rest := by
        rw [← List.nil_append (symbol :: rest), prefix_before [] rest outside, List.prefix_nil]
        exact nonempty
      rw [List.nil_append, scan_unmatched unmatched, scan_nil]
      rfl
  | cons first text ih =>
      cases skipped with
      | succ skipped => exact ih skipped (Nat.le_of_succ_le_succ within)
      | zero =>
          have start := prefix_before (first :: text) rest outside
          rw [List.cons_append] at start ⊢
          by_cases matched : pattern <+: first :: text
          · have fits : pattern.length - 1 ≤ text.length := by
              have := matched.length_le
              rw [List.length_cons] at this
              omega
            rw [scan_matched (start.2 matched), scan_matched matched, ih _ fits, List.append_assoc]
          · rw [scan_unmatched (fun matching => matched (start.1 matching)), scan_unmatched matched,
              ih 0 (Nat.zero_le _), List.cons_append]

/-- No match goes across a symbol outside the pattern. -/
theorem replaceAll_separated {symbol : Symbol} (text rest : List Symbol) (nonempty : pattern ≠ [])
    (outside : symbol ∉ pattern) :
    replaceAll pattern value (text ++ symbol :: rest) =
      replaceAll pattern value text ++ symbol :: replaceAll pattern value rest :=
  scan_separated nonempty outside 0 (Nat.zero_le _)

/-- A pattern that replaces itself changes nothing. -/
theorem scan_identity (nonempty : pattern ≠ []) (skipped : Nat) (text : List Symbol) :
    scan pattern pattern skipped text = text.drop skipped := by
  induction text generalizing skipped with
  | nil => rw [scan_nil, List.drop_nil]
  | cons symbol text ih =>
      cases skipped with
      | succ skipped => exact ih skipped
      | zero =>
          rw [List.drop_zero]
          by_cases matched : pattern <+: symbol :: text
          · have joined := List.prefix_iff_eq_append.1 matched
            rw [scan_matched matched, ih]
            cases pattern with
            | nil => exact absurd rfl nonempty
            | cons first pattern => simpa using joined
          · rw [scan_unmatched matched, ih, List.drop_zero]

/-- Every match adds one value and takes one pattern away. -/
theorem length_scan (nonempty : pattern ≠ []) (skipped : Nat) (text : List Symbol) :
    ∃ count, (scan pattern value skipped text).length + count * pattern.length =
      (text.length - skipped) + count * value.length := by
  induction text generalizing skipped with
  | nil => exact ⟨0, by rw [scan_nil]; simp⟩
  | cons symbol text ih =>
      cases skipped with
      | succ skipped =>
          obtain ⟨count, balance⟩ := ih skipped
          exact ⟨count, by rw [List.length_cons, Nat.add_sub_add_right]; exact balance⟩
      | zero =>
          by_cases matched : pattern <+: symbol :: text
          · obtain ⟨count, balance⟩ := ih (pattern.length - 1)
            have fits := matched.length_le
            have positive := List.length_pos_of_ne_nil nonempty
            refine ⟨count + 1, ?_⟩
            rw [scan_matched matched, List.length_append, List.length_cons, Nat.succ_mul, Nat.succ_mul]
            rw [List.length_cons] at fits
            omega
          · obtain ⟨count, balance⟩ := ih 0
            refine ⟨count, ?_⟩
            rw [scan_unmatched matched, List.length_cons, List.length_cons]
            omega

/-- The first match of a text is replaced, and the search goes on behind it. -/
theorem replaceAll_first {text : List Symbol} (nonempty : pattern ≠ []) (present : pattern <:+: text) :
    ∃ before after, text = before ++ (pattern ++ after) ∧
      replaceAll pattern value text = before ++ (value ++ replaceAll pattern value after) := by
  induction text with
  | nil => exact absurd (List.infix_nil.1 present) nonempty
  | cons symbol text ih =>
      by_cases matched : pattern <+: symbol :: text
      · obtain ⟨after, joined⟩ := matched
        refine ⟨[], after, joined.symm, ?_⟩
        rw [← joined]
        exact replaceAll_match after nonempty
      · have later : pattern <:+: text := (List.infix_cons_iff.1 present).resolve_left matched
        obtain ⟨before, after, joined, replaced⟩ := ih later
        refine ⟨symbol :: before, after, by rw [joined]; rfl, ?_⟩
        exact (scan_unmatched matched).trans (congrArg (symbol :: ·) replaced)

/-- A replacement keeps a text exactly when it finds no match, or puts the pattern back. -/
theorem replaceAll_eq_self (text : List Symbol) (nonempty : pattern ≠ []) :
    replaceAll pattern value text = text ↔ ¬ pattern <:+: text ∨ value = pattern := by
  constructor
  · intro kept
    rw [or_iff_not_imp_left, not_not]
    intro present
    obtain ⟨before, after, joined, replaced⟩ := @replaceAll_first _ _ _ value _ nonempty present
    rw [kept, joined, List.append_cancel_left_eq] at replaced
    obtain ⟨count, balance⟩ := @length_scan _ _ _ value nonempty 0 after
    have lengths := congrArg List.length replaced
    rw [List.length_append, List.length_append, replaceAll] at lengths
    have same : (count + 1) * pattern.length = (count + 1) * value.length := by
      rw [Nat.succ_mul, Nat.succ_mul]
      omega
    have equal := Nat.eq_of_mul_eq_mul_left (Nat.succ_pos count) same
    exact (List.append_inj_left replaced equal).symm
  · intro spared
    rcases spared with absent | rfl
    · exact replaceAll_absent absent
    · exact (scan_identity nonempty 0 text).trans List.drop_zero

end Replacement

section Template

/-- A slot is a placeholder between two separators, and the text before them. -/
structure Slot (Symbol Key : Type) where
  before : List Symbol
  left : Symbol
  key : Key
  right : Symbol

structure Template (Symbol Key : Type) where
  slots : List (Slot Symbol Key)
  last : List Symbol

def Slot.fill (content : Key → List Symbol) (slot : Slot Symbol Key) : List Symbol :=
  slot.before ++ slot.left :: (content slot.key ++ [slot.right])

/-- All placeholders get their contents at once. -/
def Template.fill (content : Key → List Symbol) (template : Template Symbol Key) : List Symbol :=
  template.slots.flatMap (Slot.fill content) ++ template.last

/-- The pattern is in no text of the template, and it has no separator. -/
structure Template.Free (pattern : List Symbol) (template : Template Symbol Key) : Prop where
  slots : ∀ slot ∈ template.slots,
    ¬ pattern <:+: slot.before ∧ slot.left ∉ pattern ∧ slot.right ∉ pattern
  last : ¬ pattern <:+: template.last

instance (pattern : List Symbol) (template : Template Symbol Key) :
    Decidable (template.Free pattern) :=
  decidable_of_iff (_ ∧ _) ⟨fun free => ⟨free.1, free.2⟩, fun free => ⟨free.slots, free.last⟩⟩

variable {pattern value : List Symbol}

/-- A replacement in a filled template is a replacement in each content. -/
theorem replaceAll_fill {template : Template Symbol Key} (content : Key → List Symbol)
    (nonempty : pattern ≠ []) (free : template.Free pattern) :
    replaceAll pattern value (template.fill content) =
      template.fill fun key => replaceAll pattern value (content key) := by
  obtain ⟨slots, last⟩ := template
  induction slots with
  | nil => exact replaceAll_absent free.last
  | cons slot slots ih =>
      obtain ⟨absent, left, right⟩ := free.slots slot List.mem_cons_self
      have rest := ih ⟨fun other member => free.slots other (List.mem_cons_of_mem _ member), free.last⟩
      simp only [Template.fill, List.flatMap_cons, Slot.fill, List.append_assoc, List.cons_append,
        List.nil_append] at rest ⊢
      rw [replaceAll_separated _ _ nonempty left, replaceAll_absent absent,
        replaceAll_separated _ _ nonempty right, rest]

/-- The substitutions take place in their order. -/
def substitute (substitutions : List (List Symbol × List Symbol)) (text : List Symbol) : List Symbol :=
  substitutions.foldl (fun text substitution => replaceAll substitution.1 substitution.2 text) text

/-- A free template is filled in behind its placeholders. -/
theorem substitute_fill {template : Template Symbol Key} (content : Key → List Symbol)
    {substitutions : List (List Symbol × List Symbol)}
    (free : ∀ substitution ∈ substitutions, substitution.1 ≠ [] ∧ template.Free substitution.1) :
    substitute substitutions (template.fill content) =
      template.fill fun key => substitute substitutions (content key) := by
  induction substitutions generalizing content with
  | nil => rfl
  | cons substitution substitutions ih =>
      obtain ⟨nonempty, first⟩ := free substitution List.mem_cons_self
      have rest := fun content =>
        ih content fun other member => free other (List.mem_cons_of_mem _ member)
      calc substitute (substitution :: substitutions) (template.fill content)
          = substitute substitutions (template.fill fun key =>
              replaceAll substitution.1 substitution.2 (content key)) :=
            congrArg (substitute substitutions) (replaceAll_fill content nonempty first)
        _ = _ := rest _

variable (placeholder content : Key → List Symbol)

/-- Each placeholder of the order is replaced by its content. -/
def substitutions (order : List Key) : List (List Symbol × List Symbol) :=
  order.map fun key => (placeholder key, content key)

/-- A later substitution rewrites no content that an earlier one has filled in. -/
def Spared (order : List Key) : Prop :=
  order.Pairwise fun key later =>
    replaceAll (placeholder later) (content later) (content key) = content key

/-- The contents hold no later placeholder, up to one that is its own content. -/
def Absent (order : List Key) : Prop :=
  order.Pairwise fun key later =>
    ¬ placeholder later <:+: content key ∨ content later = placeholder later

instance (order : List Key) : Decidable (Absent placeholder content order) :=
  inferInstanceAs (Decidable (List.Pairwise _ _))

/-- A placeholder does not hold one that is replaced before it. -/
def Apart (order : List Key) : Prop :=
  order.Pairwise fun earlier key => ¬ placeholder earlier <:+: placeholder key

instance (order : List Key) : Decidable (Apart placeholder order) :=
  inferInstanceAs (Decidable (List.Pairwise _ _))

variable {placeholder content}

/-- A value is spared exactly when the later placeholders do not occur in it. -/
theorem spared_iff_absent {order : List Key} (nonempty : ∀ key, placeholder key ≠ []) :
    Spared placeholder content order ↔ Absent placeholder content order :=
  List.Pairwise.iff fun key later => replaceAll_eq_self (content key) (nonempty later)

/-- A spared text goes through all later substitutions. -/
theorem substitute_content {later : List Key} {text : List Symbol}
    (spared : ∀ key ∈ later, replaceAll (placeholder key) (content key) text = text) :
    substitute (substitutions placeholder content later) text = text := by
  induction later with
  | nil => rfl
  | cons key later ih =>
      rw [substitute, substitutions, List.map_cons, List.foldl_cons, spared _ List.mem_cons_self]
      exact ih fun other member => spared other (List.mem_cons_of_mem _ member)

/-- A placeholder waits for its own substitution. Its content then meets the later ones. -/
theorem substitute_placeholder {order : List Key} (nonempty : ∀ key, placeholder key ≠ [])
    (apart : Apart placeholder order) (spared : Spared placeholder content order) {key : Key}
    (member : key ∈ order) :
    substitute (substitutions placeholder content order) (placeholder key) = content key := by
  induction order with
  | nil => exact absurd member List.not_mem_nil
  | cons first order ih =>
      obtain ⟨apart, laterApart⟩ := List.pairwise_cons.1 apart
      obtain ⟨spared, laterSpared⟩ := List.pairwise_cons.1 spared
      change substitute (substitutions placeholder content order)
        (replaceAll (placeholder first) (content first) (placeholder key)) = content key
      by_cases later : key ∈ order
      · rw [replaceAll_absent (apart key later)]
        exact ih laterApart laterSpared later
      · obtain rfl : key = first := (List.mem_cons.1 member).resolve_right later
        rw [replaceAll_itself (nonempty key)]
        exact substitute_content spared

/-- One substitution after the other fills a template, when none rewrites an earlier content. -/
theorem substitute_template {template : Template Symbol Key} {order : List Key}
    (nonempty : ∀ key, placeholder key ≠ []) (free : ∀ key, template.Free (placeholder key))
    (complete : ∀ key, key ∈ order) (apart : Apart placeholder order)
    (spared : Spared placeholder content order) :
    substitute (substitutions placeholder content order) (template.fill placeholder) =
      template.fill content := by
  have allFree : ∀ substitution ∈ substitutions placeholder content order,
      substitution.1 ≠ [] ∧ template.Free substitution.1 := by
    intro substitution member
    obtain ⟨key, _, rfl⟩ := List.mem_map.1 member
    exact ⟨nonempty key, free key⟩
  rw [substitute_fill placeholder allFree]
  exact congrArg (template.fill ·) (funext fun key =>
    substitute_placeholder nonempty apart spared (complete key))

end Template

end Substitution

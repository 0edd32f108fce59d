/-
This file gives the log that several parties write together.
-/
import Mathlib.Data.List.Induction
import Mathlib.Data.List.Pairwise

namespace SharedLog

variable {Entry : Type} (party : Entry → Nat)

/-- The entries of one party. -/
def past (log : List Entry) (index : Nat) : List Entry := log.filter fun entry => party entry = index

section Past

variable {party} {log before : List Entry} {entry last : Entry} {index : Nat}

/-- An entry of a party is the last of its own past. -/
theorem past_append_self :
    past party (log ++ [entry]) (party entry) = past party log (party entry) ++ [entry] := by
  simp [past, List.filter_append]

/-- An entry of another party leaves a past alone. -/
theorem past_append_of_ne (other : party entry ≠ index) :
    past party (log ++ [entry]) index = past party log index := by
  simp [past, List.filter_append, other]

theorem past_eq_nil (absent : ∀ entry ∈ log, party entry ≠ index) : past party log index = [] := by
  refine List.filter_eq_nil_iff.mpr fun entry member => ?_
  rw [decide_eq_true_eq]
  exact absent entry member

theorem mem_past : entry ∈ past party log index ↔ entry ∈ log ∧ party entry = index := by
  rw [past, List.mem_filter, decide_eq_true_eq]

/-- The first entry of a party splits the log. -/
theorem split_of_past {rest : List Entry} (own : past party log index = entry :: rest) :
    ∃ before later, log = before ++ entry :: later ∧ party entry = index ∧
      past party later index = rest := by
  obtain ⟨before, later, split, _, same, remaining⟩ := List.filter_eq_cons_iff.mp own
  exact ⟨before, later, split, of_decide_eq_true same, remaining⟩

end Past

section Places

variable {Party : Type} {parties : List Party} {found moved : Party} {index place : Nat}

/-- A party of a longer list is an older one or the new one. -/
theorem found_append (present : (parties ++ [moved])[index]? = some found) :
    parties[index]? = some found ∨ index = parties.length ∧ found = moved := by
  by_cases early : index < parties.length
  · rw [List.getElem?_append_left early] at present
    exact Or.inl present
  · have bound := (List.getElem?_eq_some_iff.mp present).1
    have last : index = parties.length := by
      rw [List.length_append, List.length_singleton] at bound
      omega
    rw [last, List.getElem?_concat_length] at present
    exact Or.inr ⟨last, (Option.some.inj present).symm⟩

/-- A replaced party is at its own place alone. -/
theorem found_set (present : (parties.set index moved)[place]? = some found) :
    index = place ∧ found = moved ∨ index ≠ place ∧ parties[place]? = some found := by
  by_cases same : index = place
  · subst same
    have bound := (List.getElem?_eq_some_iff.mp present).1
    rw [List.length_set] at bound
    rw [List.getElem?_set_self bound] at present
    exact Or.inl ⟨rfl, (Option.some.inj present).symm⟩
  · rw [List.getElem?_set_ne same] at present
    exact Or.inr ⟨same, present⟩

end Places

section Splits

variable {log before later : List Entry} {entry last : Entry}

/-- An entry of a longer log is an older entry or the new one. -/
theorem split_append (split : log ++ [last] = before ++ entry :: later) :
    (∃ rest, log = before ++ entry :: rest ∧ later = rest ++ [last]) ∨
      log = before ∧ last = entry ∧ later = [] := by
  rcases List.eq_nil_or_concat later with rfl | ⟨rest, final, rfl⟩
  · obtain ⟨rfl, same⟩ := List.append_inj' split rfl
    exact Or.inr ⟨rfl, List.singleton_inj.mp same, rfl⟩
  · have whole : log ++ [last] = (before ++ entry :: rest) ++ [final] := by
      rw [split, List.concat_eq_append, List.append_assoc, List.cons_append]
    obtain ⟨rfl, same⟩ := List.append_inj' whole rfl
    exact Or.inl ⟨rest, rfl, by rw [List.concat_eq_append, List.singleton_inj.mp same]⟩

/-- Each entry meets the guard after the entries before it. -/
def Admitted (guard : List Entry → Entry → Prop) (log : List Entry) : Prop :=
  ∀ before entry later, log = before ++ entry :: later → guard before entry

variable {guard stronger : List Entry → Entry → Prop}

theorem admitted_nil : Admitted guard [] := by
  intro before entry later split
  cases before <;> cases split

/-- An entry that meets the guard keeps the log admitted. -/
theorem admitted_append (admitted : Admitted guard log) (met : guard log last) :
    Admitted guard (log ++ [last]) := by
  intro before entry later split
  obtain ⟨rest, older, _⟩ | ⟨rfl, rfl, _⟩ := split_append split
  · exact admitted before entry rest older
  · exact met

/-- A log admitted by a guard is admitted by a weaker one. -/
theorem admitted_mono (implied : ∀ before entry, guard before entry → stronger before entry)
    (admitted : Admitted guard log) : Admitted stronger log :=
  fun before entry later split => implied before entry (admitted before entry later split)

/-- What stands before an entry of a log is admitted. -/
theorem admitted_of_append {rest : List Entry} (admitted : Admitted guard (log ++ rest)) :
    Admitted guard log := by
  intro before entry later split
  exact admitted before entry (later ++ rest) (by rw [split, List.append_assoc, List.cons_append])

/-- A relation of each entry to the earlier ones is a relation of every pair. -/
theorem pairwise_of_admitted {relation : Entry → Entry → Prop}
    (admitted : Admitted (fun before entry => ∀ earlier ∈ before, relation earlier entry) log) :
    log.Pairwise relation := by
  induction log using List.reverseRecOn with
  | nil => exact List.Pairwise.nil
  | append_singleton front final ih =>
      refine List.pairwise_append.mpr ⟨ih (admitted_of_append admitted), List.pairwise_singleton _ _, ?_⟩
      intro earlier member later same
      rw [List.mem_singleton.mp same]
      exact admitted front final [] rfl earlier member

section Marks

variable {Mark : Type} (mark : Entry → Option Mark)

/-- The entry has no mark of an earlier entry. -/
def Fresh (before : List Entry) (entry : Entry) : Prop :=
  ∀ value ∈ mark entry, ∀ earlier ∈ before, value ∉ mark earlier

/-- No two entries share a mark. -/
def Apart (first second : Entry) : Prop := ∀ value ∈ mark first, value ∉ mark second

instance : Std.Symm (Apart mark) :=
  ⟨fun _ _ apart value own other => apart value other own⟩

variable {mark}

/-- A fresh mark belongs to one entry. -/
theorem eq_of_mark {first second : Entry} {value : Mark} (fresh : Admitted (Fresh mark) log)
    (left : first ∈ log) (right : second ∈ log) (own : value ∈ mark first) (other : value ∈ mark second) :
    first = second := by
  have apart : log.Pairwise (Apart mark) := pairwise_of_admitted fun before entry later split earlier inside
      value own => fun again => fresh before entry later split value again earlier inside own
  by_contra different
  exact apart.forall left right different value own other

end Marks

end Splits

end SharedLog

/-
This file gives the finished runs of programs as lists of their answers, and programs over smaller
operations.
-/
import OsuPlayerRole.Library.Resumption
import Mathlib.Data.List.Basic
import Mathlib.Data.List.Forall2

namespace Resumption

variable {Op Part : Type} {Value : Op → Type} {PartValue : Part → Type} {Error A B : Type}

namespace Program

/-- A finished run of the program, with its operations and their answers. The surroundings give
possible answers alone. -/
inductive Ran (possible : (operation : Op) → Except Error (Value operation) → Prop) {A : Type} :
    Program Op Value Error A → List (Performed Op Value Error) → Except Error A → Prop where
  | done (value : A) : Ran possible (.done value) [] (.ok value)
  | fail (error : Error) : Ran possible (.fail error) [] (.error error)
  | call {operation : Op} {next : Except Error (Value operation) → Program Op Value Error A}
      {answer : Except Error (Value operation)} {log : List (Performed Op Value Error)}
      {result : Except Error A} (answered : possible operation answer)
      (continued : Ran possible (next answer) log result) :
      Ran possible (.call operation next) (⟨operation, answer⟩ :: log) result

section Ran

variable {possible : (operation : Op) → Except Error (Value operation) → Prop}
  {log : List (Performed Op Value Error)} {operation : Op}

/-- A value is returned without an operation. -/
theorem ran_done {value : A} {result : Except Error A} (ran : Ran possible (.done value) log result) :
    log = [] ∧ result = .ok value := by
  cases ran
  exact ⟨rfl, rfl⟩

/-- An error is returned without an operation. -/
theorem ran_fail {error : Error} {result : Except Error A} (ran : Ran possible (.fail error) log result) :
    log = [] ∧ result = .error error := by
  cases ran
  exact ⟨rfl, rfl⟩

/-- A run of an operation goes on with a possible answer. -/
theorem ran_call {next : Except Error (Value operation) → Program Op Value Error A}
    {result : Except Error A} (ran : Ran possible (.call operation next) log result) :
    ∃ answer rest, log = ⟨operation, answer⟩ :: rest ∧ possible operation answer ∧
      Ran possible (next answer) rest result := by
  cases ran with
  | call answered continued => exact ⟨_, _, rfl, answered, continued⟩

/-- A run of a sequence is a run of its first part and one of the rest, unless the first part fails. -/
theorem ran_bind {program : Program Op Value Error A} {rest : A → Program Op Value Error B}
    {result : Except Error B} (ran : Ran possible (program >>= rest) log result) :
    (∃ value first last, log = first ++ last ∧ Ran possible program first (.ok value) ∧
        Ran possible (rest value) last result) ∨
      ∃ error, result = .error error ∧ Ran possible program log (.error error) := by
  induction program generalizing log with
  | done value => exact Or.inl ⟨value, [], log, rfl, .done value, ran⟩
  | fail error =>
      obtain ⟨rfl, rfl⟩ := ran_fail ran
      exact Or.inr ⟨error, rfl, .fail error⟩
  | call operation next ih =>
      obtain ⟨answer, others, rfl, answered, continued⟩ := ran_call ran
      rcases ih answer continued with ⟨value, first, last, rfl, begun, finished⟩ | ⟨error, rfl, failed⟩
      · exact Or.inl ⟨value, ⟨operation, answer⟩ :: first, last, rfl, .call answered begun, finished⟩
      · exact Or.inr ⟨error, rfl, .call answered failed⟩

/-- A caught program runs as the program itself. -/
theorem ran_attempt {program : Program Op Value Error A} {result : Except Error (Except Error A)}
    (ran : Ran possible program.attempt log result) :
    ∃ inner, result = .ok inner ∧ Ran possible program log inner := by
  induction program generalizing log with
  | done value =>
      obtain ⟨rfl, rfl⟩ := ran_done ran
      exact ⟨.ok value, rfl, .done value⟩
  | fail error =>
      obtain ⟨rfl, rfl⟩ := ran_done ran
      exact ⟨.error error, rfl, .fail error⟩
  | call operation next ih =>
      obtain ⟨answer, others, rfl, answered, continued⟩ := ran_call ran
      obtain ⟨inner, rfl, finished⟩ := ih answer continued
      exact ⟨inner, rfl, .call answered finished⟩

/-- A caught program runs first, and its result is handed on. -/
theorem ran_attempt_bind {program : Program Op Value Error A}
    {rest : Except Error A → Program Op Value Error B} {result : Except Error B}
    (ran : Ran possible (program.attempt >>= rest) log result) :
    ∃ inner first last, log = first ++ last ∧ Ran possible program first inner ∧
      Ran possible (rest inner) last result := by
  rcases ran_bind ran with ⟨value, first, last, rfl, begun, finished⟩ | ⟨error, rfl, failed⟩
  · obtain ⟨inner, same, begun⟩ := ran_attempt begun
    cases same
    exact ⟨_, first, last, rfl, begun, finished⟩
  · obtain ⟨inner, same, _⟩ := ran_attempt failed
    cases same

/-- An asked operation runs with one possible answer. -/
theorem ran_ask {result : Except Error (Value operation)} (ran : Ran possible (ask operation) log result) :
    log = [⟨operation, result⟩] ∧ possible operation result := by
  obtain ⟨answer, rest, rfl, answered, continued⟩ := ran_call ran
  cases answer with
  | ok value =>
      obtain ⟨rfl, rfl⟩ := ran_done continued
      exact ⟨rfl, answered⟩
  | error error =>
      obtain ⟨rfl, rfl⟩ := ran_fail continued
      exact ⟨rfl, answered⟩

/-- The run goes on with the value, or it ends with the error. -/
theorem ran_ask_bind {rest : Value operation → Program Op Value Error A} {result : Except Error A}
    (ran : Ran possible (ask operation >>= rest) log result) :
    (∃ value last, log = ⟨operation, .ok value⟩ :: last ∧ Ran possible (rest value) last result) ∨
      ∃ error, log = [⟨operation, .error error⟩] ∧ result = .error error := by
  rcases ran_bind ran with ⟨value, first, last, rfl, asked, finished⟩ | ⟨error, rfl, failed⟩
  · obtain ⟨rfl, _⟩ := ran_ask asked
    exact Or.inl ⟨value, last, rfl, finished⟩
  · exact Or.inr ⟨error, (ran_ask failed).1, rfl⟩

/-- A caught operation hands its answer on. -/
theorem ran_result_bind {rest : Except Error (Value operation) → Program Op Value Error A}
    {result : Except Error A} (ran : Ran possible (Program.result operation >>= rest) log result) :
    ∃ answer last, log = ⟨operation, answer⟩ :: last ∧ possible operation answer ∧
      Ran possible (rest answer) last result := ran_call ran

/-- More answers allow more runs. -/
theorem ran_mono {wider : (operation : Op) → Except Error (Value operation) → Prop}
    (implied : ∀ operation answer, possible operation answer → wider operation answer)
    {program : Program Op Value Error A} {result : Except Error A} (ran : Ran possible program log result) :
    Ran wider program log result := by
  induction ran with
  | done value => exact .done value
  | fail error => exact .fail error
  | call answered continued ih => exact .call (implied _ _ answered) ih

/-- A run performs only what its program may ask for, and it gets possible answers. -/
theorem ran_only {allowed : Op → Prop} {program : Program Op Value Error A} {result : Except Error A}
    (only : program.Only allowed) (ran : Ran possible program log result) :
    ∀ performed ∈ log, allowed performed.1 ∧ possible performed.1 performed.2 := by
  induction ran with
  | done value => exact fun _ => nofun
  | fail error => exact fun _ => nofun
  | call answered continued ih =>
      exact List.forall_mem_cons.mpr ⟨⟨only.1, answered⟩, ih (only.2 _)⟩

/-- Each possible answer is a run of the asked operation. -/
theorem ran_asked {answer : Except Error (Value operation)} (answered : possible operation answer) :
    Ran possible (ask operation) [⟨operation, answer⟩] answer := by
  refine .call answered ?_
  cases answer with
  | ok value => exact .done value
  | error error => exact .fail error

end Ran

/-- Each operation is carried out by a program over smaller operations. -/
def expand (parts : (operation : Op) → Program Part PartValue Error (Value operation)) :
    Program Op Value Error A → Program Part PartValue Error A
  | .done value => .done value
  | .fail error => .fail error
  | .call operation next => (parts operation).attempt >>= fun answer => (next answer).expand parts

/-- A finished run of the larger program is one whose operations have finished runs of their own. -/
theorem ran_expand {possible : (part : Part) → Except Error (PartValue part) → Prop}
    {parts : (operation : Op) → Program Part PartValue Error (Value operation)}
    {program : Program Op Value Error A} {log : List (Performed Part PartValue Error)}
    {result : Except Error A} (ran : Ran possible (program.expand parts) log result) :
    ∃ (history : List (Performed Op Value Error)) (logs : List (List (Performed Part PartValue Error))),
      log = logs.flatten ∧
      List.Forall₂ (fun performed part => Ran possible (parts performed.1) part performed.2) history logs ∧
      Ran (fun operation answer => ∃ part, Ran possible (parts operation) part answer) program history
        result := by
  induction program generalizing log with
  | done value =>
      obtain ⟨rfl, rfl⟩ := ran_done ran
      exact ⟨[], [], rfl, .nil, .done value⟩
  | fail error =>
      obtain ⟨rfl, rfl⟩ := ran_fail ran
      exact ⟨[], [], rfl, .nil, .fail error⟩
  | call operation next ih =>
      obtain ⟨answer, first, last, rfl, own, continued⟩ := ran_attempt_bind ran
      obtain ⟨history, logs, rfl, each, finished⟩ := ih answer continued
      exact ⟨⟨operation, answer⟩ :: history, first :: logs, rfl, .cons own each, .call ⟨first, own⟩ finished⟩

section Expand

variable {possible : (part : Part) → Except Error (PartValue part) → Prop}
  {parts : (operation : Op) → Program Part PartValue Error (Value operation)}

/-- The run of a caught program and the run of its rest join. -/
theorem ran_attempt_then {program : Program Part PartValue Error A}
    {rest : Except Error A → Program Part PartValue Error B}
    {first last : List (Performed Part PartValue Error)} {inner : Except Error A} {result : Except Error B}
    (begun : Ran possible program first inner) (finished : Ran possible (rest inner) last result) :
    Ran possible (program.attempt >>= rest) (first ++ last) result := by
  induction begun with
  | done value => exact finished
  | fail error => exact finished
  | call answered _ ih => exact .call answered (ih finished)

/-- An operation is carried out by its program, and the rest goes on. -/
theorem ran_expand_call {operation : Op} {next : Except Error (Value operation) → Program Op Value Error A}
    {answer : Except Error (Value operation)} {first last : List (Performed Part PartValue Error)}
    {result : Except Error A} (own : Ran possible (parts operation) first answer)
    (continued : Ran possible ((next answer).expand parts) last result) :
    Ran possible ((Program.call operation next).expand parts) (first ++ last) result :=
  ran_attempt_then own continued

end Expand

end Program

/-- The lists are merged, and each of them keeps its order. -/
inductive Interleaves : List (List A) → List A → Prop where
  | done {lists : List (List A)} (empty : ∀ list ∈ lists, list = []) : Interleaves lists []
  | step {before after : List (List A)} {item : A} {rest whole : List A}
      (merged : Interleaves (before ++ rest :: after) whole) :
      Interleaves (before ++ (item :: rest) :: after) (item :: whole)

/-- Nothing is lost, and nothing is added. -/
theorem Interleaves.mem_iff {lists : List (List A)} {whole : List A} (merged : Interleaves lists whole)
    (wanted : A) : wanted ∈ whole ↔ ∃ list ∈ lists, wanted ∈ list := by
  induction merged with
  | done empty =>
      constructor
      · exact nofun
      · rintro ⟨list, member, inside⟩
        rw [empty list member] at inside
        cases inside
  | step merged ih =>
      simp only [List.mem_cons, ih, List.mem_append, or_and_right, exists_or, exists_eq_left]
      rw [or_left_comm, or_assoc]

end Resumption

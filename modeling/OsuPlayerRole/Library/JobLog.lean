/-
This file gives what the threads of one job have learned together.
-/
import OsuPlayerRole.Library.SharedLog
import OsuPlayerRole.Library.ThreadPool

namespace Resumption

open Program SharedLog

variable {Op : Type} {Value : Op → Type} {Error Entry A : Type}

/-- A permission is not lost when more is learned. -/
def Growing (guard : List (Performed Op Value Error) → Op → Prop) : Prop :=
  ∀ performed longer operation, performed ⊆ longer → guard performed operation → guard longer operation

/-- Each branch may go on with what has been learned so far. -/
def Backs (guard : List (Performed Op Value Error) → Op → Prop)
    (answer : Except Error (List (Program Op Value Error Unit)))
    (performed : List (Performed Op Value Error)) : Prop :=
  ∀ branches, answer = .ok branches → ∀ branch ∈ branches,
    branch.Follows (recorded guard) (fun _ _ => True) performed

section Longer

variable {guard : List (Performed Op Value Error) → Op → Prop}

/-- A program that may go on may do so when more has been learned. -/
theorem follows_longer (growing : Growing guard)
    {post : Except Error A → List (Performed Op Value Error) → Prop}
    (kept : ∀ answer performed longer, performed ⊆ longer → post answer performed → post answer longer)
    {program : Program Op Value Error A} {performed longer : List (Performed Op Value Error)}
    (more : performed ⊆ longer) (follows : program.Follows (recorded guard) post performed) :
    program.Follows (recorded guard) post longer := by
  induction program generalizing performed longer with
  | done value => exact kept _ _ _ more follows
  | fail error => exact kept _ _ _ more follows
  | call operation next ih =>
      refine ⟨growing performed longer operation more follows.1, fun answer possible => ?_⟩
      exact ih answer (List.append_subset.mpr ⟨List.Subset.trans more (List.subset_append_left _ _),
        List.subset_append_right _ _⟩) (follows.2 answer possible)

theorem backs_longer (growing : Growing guard) (answer : Except Error (List (Program Op Value Error Unit)))
    (performed longer : List (Performed Op Value Error)) (more : performed ⊆ longer)
    (backs : Backs guard answer performed) : Backs guard answer longer :=
  fun branches listed branch inside =>
    follows_longer growing (fun _ _ _ _ _ => trivial) more (backs branches listed branch inside)

end Longer

section Jobs

variable (party : Entry → Nat) (performed : Entry → Performed Op Value Error)
  (guard : List (Performed Op Value Error) → Op → Prop)

/-- The operations of one job with their answers. -/
def learned (log : List Entry) (job : Nat) : List (Performed Op Value Error) :=
  (past party log job).map performed

/-- The thread may go on with what its job has learned. -/
def Thread.Backed (log : List Entry) (thread : Thread Op Value Error) : Prop :=
  thread.program.Follows (recorded guard) (Backs guard) (learned party performed log thread.job)

variable {party performed guard} {log : List Entry} {entry : Entry}

theorem learned_append (log : List Entry) (entry : Entry) (job : Nat) :
    learned party performed log job ⊆ learned party performed (log ++ [entry]) job := by
  refine List.map_subset performed ?_
  rw [past, past, List.filter_append]
  exact List.subset_append_left _ _

theorem learned_append_self :
    learned party performed (log ++ [entry]) (party entry) =
      learned party performed log (party entry) ++ [performed entry] := by
  rw [learned, past_append_self, List.map_append]
  rfl

/-- A thread and its branches may go on. -/
theorem backed_settled {job : Nat} {program : Program Op Value Error (List (Program Op Value Error Unit))}
    (follows : program.Follows (recorded guard) (Backs guard) (learned party performed log job)) :
    ∀ thread ∈ (⟨job, program⟩ : Thread Op Value Error).settled,
      thread.Backed party performed guard log := by
  intro thread member
  cases program with
  | done branches =>
      obtain ⟨branch, inside, rfl⟩ := List.mem_map.mp member
      refine follows_bind (follows branches rfl branch inside) (fun _ _ _ others listed => ?_)
        fun error _ _ others listed => ?_
      · cases listed
        exact fun other impossible => absurd impossible List.not_mem_nil
      · cases listed
  | fail error => exact absurd member List.not_mem_nil
  | call operation next =>
      obtain rfl := List.mem_singleton.mp member
      exact follows

/-- The other threads learn from the operation of one thread, and none of them is held back. -/
theorem backed_append (growing : Growing guard) {thread : Thread Op Value Error}
    (backed : thread.Backed party performed guard log) (entry : Entry) :
    thread.Backed party performed guard (log ++ [entry]) :=
  follows_longer growing (backs_longer growing) (learned_append log entry thread.job) backed

/-- The thread that performs its operation may go on with the answer, and so may the others. -/
theorem backed_advanced (growing : Growing guard) {front back : List (Thread Op Value Error)}
    {operation : Op} {next : Except Error (Value operation) →
      Program Op Value Error (List (Program Op Value Error Unit))}
    (backed : ∀ thread ∈ front ++ ⟨party entry, .call operation next⟩ :: back,
      thread.Backed party performed guard log)
    {answer : Except Error (Value operation)} (entered : performed entry = ⟨operation, answer⟩) :
    ∀ thread ∈ front ++ ((⟨party entry, next answer⟩ : Thread Op Value Error).settled ++ back),
      thread.Backed party performed guard (log ++ [entry]) := by
  intro thread member
  obtain old | fresh := mem_advanced member
  · exact backed_append growing (backed thread old) entry
  · refine backed_settled ?_ thread fresh
    rw [learned_append_self, entered]
    exact (backed _ (List.mem_append_right front List.mem_cons_self)).2 answer trivial

end Jobs

end Resumption

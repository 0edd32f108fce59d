/-
This file gives programs that stop at each operation of their surroundings.
-/

namespace Resumption

/-- A program finishes, fails, or asks for one operation and waits for its answer. -/
inductive Program (Op : Type) (Value : Op → Type) (Error A : Type) where
  | done (value : A)
  | fail (error : Error)
  | call (operation : Op) (next : Except Error (Value operation) → Program Op Value Error A)

variable {Op : Type} {Value : Op → Type} {Error A B Status World : Type}

namespace Program

def bind : Program Op Value Error A → (A → Program Op Value Error B) → Program Op Value Error B
  | .done value, rest => rest value
  | .fail error, _ => .fail error
  | .call operation next, rest => .call operation fun answer => (next answer).bind rest

instance : Monad (Program Op Value Error) where
  pure := .done
  bind := .bind

@[simp] theorem pure_eq (value : A) :
    (pure value : Program Op Value Error A) = .done value := rfl

@[simp] theorem bind_done (value : A) (rest : A → Program Op Value Error B) :
    (Program.done value >>= rest) = rest value := rfl

@[simp] theorem bind_fail (error : Error) (rest : A → Program Op Value Error B) :
    (Program.fail error >>= rest) = .fail error := rfl

/-- What follows a program waits for its remaining part. -/
@[simp] theorem bind_call (operation : Op)
    (next : Except Error (Value operation) → Program Op Value Error A)
    (rest : A → Program Op Value Error B) :
    (Program.call operation next >>= rest) =
      .call operation fun answer => next answer >>= rest := rfl

/-- This is the operation with an early return of its error. -/
def ask (operation : Op) : Program Op Value Error (Value operation) :=
  .call operation fun
    | .ok value => .done value
    | .error error => .fail error

/-- This is the operation with its result handed on, error or not. -/
def result (operation : Op) : Program Op Value Error (Except Error (Value operation)) :=
  .call operation .done

/-- The caller of the inner program inspects its error instead of returning it. -/
def attempt : Program Op Value Error A → Program Op Value Error (Except Error A)
  | .done value => .done (.ok value)
  | .fail error => .done (.error error)
  | .call operation next => .call operation fun answer => (next answer).attempt

@[simp] theorem attempt_done (value : A) :
    (Program.done value : Program Op Value Error A).attempt = .done (.ok value) := rfl

@[simp] theorem attempt_fail (error : Error) :
    (Program.fail error : Program Op Value Error A).attempt = .done (.error error) := rfl

/-- The caught result waits for the remaining part. -/
@[simp] theorem attempt_call (operation : Op)
    (next : Except Error (Value operation) → Program Op Value Error A) :
    (Program.call operation next).attempt =
      .call operation fun answer => (next answer).attempt := rfl

/-- The operation a program waits for. -/
def head? : Program Op Value Error A → Option Op
  | .call operation _ => some operation
  | _ => none

/-- A program without a waiting operation is over. -/
def finished (program : Program Op Value Error A) : Bool := program.head?.isNone

@[simp] theorem finished_done (value : A) :
    (Program.done value : Program Op Value Error A).finished = true := rfl

@[simp] theorem finished_fail (error : Error) :
    (Program.fail error : Program Op Value Error A).finished = true := rfl

@[simp] theorem finished_call (operation : Op)
    (next : Except Error (Value operation) → Program Op Value Error A) :
    (Program.call operation next).finished = false := rfl

/-- This run answers every operation at once, with no other party between two operations. -/
def run (perform : World → (operation : Op) → Except Error (Value operation) × World) :
    World → Program Op Value Error A → Except Error A × World
  | world, .done value => (.ok value, world)
  | world, .fail error => (.error error, world)
  | world, .call operation next =>
      run perform (perform world operation).2 (next (perform world operation).1)

section Run

variable (perform : World → (operation : Op) → Except Error (Value operation) × World)

@[simp] theorem run_done (world : World) (value : A) :
    run perform world (Program.done value) = (.ok value, world) := rfl

@[simp] theorem run_fail (world : World) (error : Error) :
    run perform world (Program.fail error : Program Op Value Error A) = (.error error, world) := rfl

/-- A run performs the next operation and goes on with its answer. -/
@[simp] theorem run_call (world : World) (operation : Op)
    (next : Except Error (Value operation) → Program Op Value Error A) :
    run perform world (.call operation next) =
      run perform (perform world operation).2 (next (perform world operation).1) := rfl

/-- A sequence runs its first part, then the rest in the world that part leaves. -/
theorem run_bind (world : World) (program : Program Op Value Error A)
    (rest : A → Program Op Value Error B) :
    run perform world (program >>= rest) =
      match run perform world program with
      | (.ok value, after) => run perform after (rest value)
      | (.error error, after) => (.error error, after) := by
  induction program generalizing world with
  | done value => rfl
  | fail error => rfl
  | call operation next ih =>
      rw [bind_call, run_call, run_call]
      exact ih _ _

/-- What a program does with its result leaves the world alone. -/
theorem run_return (world : World) (program : Program Op Value Error A) (image : A → B) :
    (run perform world (program >>= fun value => .done (image value))).2 =
      (run perform world program).2 := by
  rw [run_bind]
  rcases run perform world program with ⟨answer | value, after⟩ <;> rfl

/-- A run with a mapped value comes from a run with the value itself. -/
theorem run_return_ok {perform} {world last : World} {program : Program Op Value Error A}
    {image : A → B} {value : B}
    (ran : run perform world (program >>= fun first => .done (image first)) = (.ok value, last)) :
    ∃ first, run perform world program = (.ok first, last) ∧ value = image first := by
  rw [run_bind] at ran
  rcases found : run perform world program with ⟨answer, after⟩
  rw [found] at ran
  cases answer with
  | ok first =>
      cases ran
      exact ⟨first, rfl, rfl⟩
  | error error => cases ran

/-- A sequence that succeeds has succeeded in both of its parts. -/
theorem run_bind_ok {perform} {world last : World} {program : Program Op Value Error A}
    {rest : A → Program Op Value Error B} {value : B}
    (ran : run perform world (program >>= rest) = (.ok value, last)) :
    ∃ first after, run perform world program = (.ok first, after) ∧
      run perform after (rest first) = (.ok value, last) := by
  rw [run_bind] at ran
  rcases found : run perform world program with ⟨answer, after⟩
  rw [found] at ran
  cases answer with
  | ok first => exact ⟨first, after, rfl, ran⟩
  | error error => cases ran

/-- An asked operation runs as its performance. -/
@[simp] theorem run_ask (world : World) (operation : Op) :
    run perform world (ask operation) = perform world operation := by
  rw [ask, run_call]
  rcases perform world operation with ⟨answer | answer, after⟩ <;> rfl

/-- A caught operation never fails, whatever its answer is. -/
@[simp] theorem run_result (world : World) (operation : Op) :
    run perform world (result operation) =
      (.ok (perform world operation).1, (perform world operation).2) := rfl

/-- A caught program never fails and leaves the same world. -/
theorem run_attempt (world : World) (program : Program Op Value Error A) :
    run perform world program.attempt =
      (.ok (run perform world program).1, (run perform world program).2) := by
  induction program generalizing world with
  | done value => rfl
  | fail error => rfl
  | call operation next ih => exact ih _ _

end Run

/-- A run that is stopped after a number of operations has no result unless it is over by then. -/
def runFor (perform : World → (operation : Op) → Except Error (Value operation) × World) :
    Nat → World → Program Op Value Error A → Option (Except Error A) × World
  | _, world, .done value => (some (.ok value), world)
  | _, world, .fail error => (some (.error error), world)
  | 0, world, .call _ _ => (none, world)
  | count + 1, world, .call operation next =>
      runFor perform count (perform world operation).2 (next (perform world operation).1)

/-- Every operation of the run meets the guard in the world before it. The guard sees how many
operations are left. -/
def AlongFor (perform : World → (operation : Op) → Except Error (Value operation) × World)
    (guard : Nat → World → Op → Prop) : Nat → World → Program Op Value Error A → Prop
  | count + 1, world, .call operation next =>
      guard count world operation ∧
        AlongFor perform guard count (perform world operation).2 (next (perform world operation).1)
  | _, _, _ => True

section RunFor

variable {perform : World → (operation : Op) → Except Error (Value operation) × World}
  {guard : Nat → World → Op → Prop}

@[simp] theorem runFor_done (count : Nat) (world : World) (value : A) :
    runFor perform count world (Program.done value) = (some (.ok value), world) := by
  cases count <;> rfl

@[simp] theorem runFor_fail (count : Nat) (world : World) (error : Error) :
    runFor perform count world (Program.fail error : Program Op Value Error A) =
      (some (.error error), world) := by
  cases count <;> rfl

@[simp] theorem alongFor_done (count : Nat) (world : World) (value : A) :
    AlongFor perform guard count world (Program.done value) := by
  cases count <;> trivial

@[simp] theorem alongFor_fail (count : Nat) (world : World) (error : Error) :
    AlongFor perform guard count world (Program.fail error : Program Op Value Error A) := by
  cases count <;> trivial

end RunFor

/-- Every operation of this run succeeds, and the run leaves the last world. -/
def Serves (perform : World → (operation : Op) → Except Error (Value operation) × World) :
    World → Program Op Value Error A → World → Prop
  | world, .done _, last => last = world
  | world, .fail _, last => last = world
  | world, .call operation next, last =>
      ∃ value, (perform world operation).1 = .ok value ∧
        Serves perform (perform world operation).2 (next (.ok value)) last

section Serves

variable {perform : World → (operation : Op) → Except Error (Value operation) × World}
  {world last : World} {operation : Op}

/-- A served operation has answered with a value. -/
theorem serves_ask (serves : Serves perform world (ask operation) last) :
    ∃ value, (perform world operation).1 = .ok value ∧ last = (perform world operation).2 := serves

/-- A served program has been served its first operation. -/
theorem serves_ask_bind {rest : Value operation → Program Op Value Error A}
    (serves : Serves perform world (ask operation >>= rest) last) :
    ∃ value, (perform world operation).1 = .ok value ∧
      Serves perform (perform world operation).2 (rest value) last := serves

/-- A caught operation is served as well. -/
theorem serves_result_bind {rest : Except Error (Value operation) → Program Op Value Error A}
    (serves : Serves perform world (result operation >>= rest) last) :
    ∃ value, (perform world operation).1 = .ok value ∧
      Serves perform (perform world operation).2 (rest (.ok value)) last := serves

end Serves

section Along

/-- Every operation on every path of the program is allowed. -/
def Only (allowed : Op → Prop) : Program Op Value Error A → Prop
  | .done _ => True
  | .fail _ => True
  | .call operation next => allowed operation ∧ ∀ answer, Only allowed (next answer)

/-- Every operation of this one run meets the guard in the world before it. -/
def Along (perform : World → (operation : Op) → Except Error (Value operation) × World)
    (guard : World → Op → Prop) : World → Program Op Value Error A → Prop
  | _, .done _ => True
  | _, .fail _ => True
  | world, .call operation next =>
      guard world operation ∧
        Along perform guard (perform world operation).2 (next (perform world operation).1)

variable {allowed : Op → Prop}

/-- A sequence performs what its parts perform. -/
theorem only_bind {program : Program Op Value Error A} {rest : A → Program Op Value Error B}
    (first : program.Only allowed) (continued : ∀ value, (rest value).Only allowed) :
    (program >>= rest).Only allowed := by
  induction program with
  | done value => exact continued value
  | fail error => trivial
  | call operation next ih => exact ⟨first.1, fun answer => ih answer (first.2 answer)⟩

/-- An asked operation performs itself alone. -/
theorem only_ask {operation : Op} (named : allowed operation) :
    (ask operation : Program Op Value Error _).Only allowed := by
  refine ⟨named, fun answer => ?_⟩
  cases answer <;> trivial

/-- A caught operation performs itself alone. -/
theorem only_result {operation : Op} (named : allowed operation) :
    (result operation : Program Op Value Error _).Only allowed := ⟨named, fun _ => trivial⟩

/-- The catch of an error performs nothing more. -/
theorem only_attempt {program : Program Op Value Error A} (inner : program.Only allowed) :
    program.attempt.Only allowed := by
  induction program with
  | done value => trivial
  | fail error => trivial
  | call operation next ih => exact ⟨inner.1, fun answer => ih answer (inner.2 answer)⟩

/-- A program within a narrow range is within each wider one. -/
theorem only_mono {wider : Op → Prop} (implied : ∀ operation, allowed operation → wider operation)
    {program : Program Op Value Error A} (inner : program.Only allowed) : program.Only wider := by
  induction program with
  | done value => trivial
  | fail error => trivial
  | call operation next ih => exact ⟨implied operation inner.1, fun answer => ih answer (inner.2 answer)⟩

/-- What each of several rules allows, all of them allow. -/
theorem only_forall {Index : Type} {rules : Index → Op → Prop} {program : Program Op Value Error A}
    (each : ∀ index, program.Only (rules index)) :
    program.Only fun operation => ∀ index, rules index operation := by
  induction program with
  | done value => trivial
  | fail error => trivial
  | call operation next ih =>
      exact ⟨fun index => (each index).1, fun answer => ih answer fun index => (each index).2 answer⟩

variable {perform : World → (operation : Op) → Except Error (Value operation) × World}
  {guard : World → Op → Prop}

/-- A guard of all allowed operations holds along the whole run. -/
theorem along_of_only (implied : ∀ world operation, allowed operation → guard world operation)
    {program : Program Op Value Error A} (only : program.Only allowed) (world : World) :
    Along perform guard world program := by
  induction program generalizing world with
  | done value => trivial
  | fail error => trivial
  | call operation next ih => exact ⟨implied world operation only.1, ih _ (only.2 _) _⟩

/-- The rest of a sequence is run where its first part ends. -/
theorem along_bind {program : Program Op Value Error A} {rest : A → Program Op Value Error B}
    {world : World} (first : Along perform guard world program)
    (continued : ∀ value after, run perform world program = (.ok value, after) →
      Along perform guard after (rest value)) :
    Along perform guard world (program >>= rest) := by
  induction program generalizing world with
  | done value => exact continued value world rfl
  | fail error => trivial
  | call operation next ih => exact ⟨first.1, ih _ first.2 continued⟩

/-- A guard of one operation holds along its run. -/
theorem along_ask {operation : Op} {world : World} (met : guard world operation) :
    Along perform guard world (ask operation) := by
  refine ⟨met, ?_⟩
  cases (perform world operation).1 <;> trivial

/-- A guard holds along a sequence when it holds at its first operation and after its value. -/
theorem along_ask_bind {operation : Op} {rest : Value operation → Program Op Value Error A}
    {world : World} (met : guard world operation)
    (continued : ∀ value, (perform world operation).1 = .ok value →
      Along perform guard (perform world operation).2 (rest value)) :
    Along perform guard world (ask operation >>= rest) := by
  refine ⟨met, ?_⟩
  cases answer : (perform world operation).1 with
  | ok value => exact continued value answer
  | error error => trivial

/-- The guard is owed after an error too when the operation is caught. -/
theorem along_result_bind {operation : Op} {rest : Except Error (Value operation) → Program Op Value Error A}
    {world : World} (met : guard world operation)
    (continued : Along perform guard (perform world operation).2 (rest (perform world operation).1)) :
    Along perform guard world (result operation >>= rest) := ⟨met, continued⟩

/-- What each operation of the run preserves, the run preserves. -/
theorem run_along (invariant : World → Prop)
    (preserved : ∀ world operation, invariant world → guard world operation →
      invariant (perform world operation).2)
    {program : Program Op Value Error A} {world : World} (start : invariant world)
    (along : Along perform guard world program) : invariant (run perform world program).2 := by
  induction program generalizing world with
  | done value => exact start
  | fail error => exact start
  | call operation next ih => exact ih _ (preserved world operation start along.1) along.2

end Along

section Ends

variable {perform : World → (operation : Op) → Except Error (Value operation) × World}

/-- The run of the program ends in the postcondition. -/
def Ends (perform : World → (operation : Op) → Except Error (Value operation) × World)
    (post : Except Error A → World → Prop) (world : World) (program : Program Op Value Error A) : Prop :=
  post (run perform world program).1 (run perform world program).2

/-- A stronger end implies a weaker one. -/
theorem ends_mono {post weaker : Except Error A → World → Prop}
    (implied : ∀ answer after, post answer after → weaker answer after)
    {program : Program Op Value Error A} {world : World} (ends : Ends perform post world program) :
    Ends perform weaker world program := implied _ _ ends

/-- A sequence ends as its last part does, or with the error of its first part. -/
theorem ends_bind {middle : Except Error A → World → Prop} {post : Except Error B → World → Prop}
    {program : Program Op Value Error A} {rest : A → Program Op Value Error B} {world : World}
    (first : Ends perform middle world program)
    (continued : ∀ value after, middle (.ok value) after → Ends perform post after (rest value))
    (failed : ∀ error after, middle (.error error) after → post (.error error) after) :
    Ends perform post world (program >>= rest) := by
  unfold Ends at first ⊢
  rw [run_bind]
  rcases found : run perform world program with ⟨answer, after⟩
  rw [found] at first
  cases answer with
  | ok value => exact continued value after first
  | error error => exact failed error after first

/-- A sequence ends as its rest does after the value, or with the error of its operation. -/
theorem ends_ask_bind {operation : Op} {rest : Value operation → Program Op Value Error A}
    {post : Except Error A → World → Prop} {world : World}
    (continued : ∀ value, (perform world operation).1 = .ok value →
      Ends perform post (perform world operation).2 (rest value))
    (failed : ∀ error, (perform world operation).1 = .error error →
      post (.error error) (perform world operation).2) :
    Ends perform post world (ask operation >>= rest) := by
  unfold Ends
  rw [run_bind, run_ask]
  rcases found : perform world operation with ⟨answer, after⟩
  rw [found] at continued failed
  cases answer with
  | ok value => exact continued value rfl
  | error error => exact failed error rfl

/-- A caught program hands its result on. -/
theorem ends_attempt_bind {program : Program Op Value Error A}
    {rest : Except Error A → Program Op Value Error B} {middle : Except Error A → World → Prop}
    {post : Except Error B → World → Prop} {world : World} (first : Ends perform middle world program)
    (continued : ∀ answer after, middle answer after → Ends perform post after (rest answer)) :
    Ends perform post world (program.attempt >>= rest) := by
  unfold Ends
  rw [run_bind, run_attempt]
  exact continued _ _ first

end Ends

section Strict

/-- The program returns the error of any of its operations. -/
def Strict : Program Op Value Error A → Prop
  | .done _ => True
  | .fail _ => True
  | .call _ next => (∀ error, next (.error error) = .fail error) ∧ ∀ value, Strict (next (.ok value))

/-- A sequence of strict programs is strict. -/
theorem strict_bind {program : Program Op Value Error A} {rest : A → Program Op Value Error B}
    (first : program.Strict) (continued : ∀ value, (rest value).Strict) :
    (program >>= rest).Strict := by
  induction program with
  | done value => exact continued value
  | fail error => trivial
  | call operation next ih =>
      refine ⟨fun error => ?_, fun value => ih (.ok value) (first.2 value)⟩
      change (next (.error error)).bind rest = .fail error
      rw [first.1 error]
      rfl

/-- An asked operation lets its error through. -/
theorem strict_ask (operation : Op) : (ask operation : Program Op Value Error _).Strict :=
  ⟨fun _ => rfl, fun _ => trivial⟩

end Strict

end Program

/-- A protocol says which operation a status admits, which answers it may get, and
which status follows. -/
structure Protocol (Op : Type) (Value : Op → Type) (Error Status : Type) where
  allowed : Status → Op → Prop
  possible : Status → (operation : Op) → Except Error (Value operation) → Prop
  next : Status → (operation : Op) → Except Error (Value operation) → Status

namespace Program

/-- Every path of the program keeps to the protocol and ends in the postcondition. -/
def Follows (protocol : Protocol Op Value Error Status) (post : Except Error A → Status → Prop) :
    Status → Program Op Value Error A → Prop
  | status, .done value => post (.ok value) status
  | status, .fail error => post (.error error) status
  | status, .call operation next =>
      protocol.allowed status operation ∧
        ∀ answer, protocol.possible status operation answer →
          Follows protocol post (protocol.next status operation answer) (next answer)

section Follows

variable {protocol : Protocol Op Value Error Status}

/-- A stronger end of a protocol implies a weaker one. -/
theorem follows_mono {post weaker : Except Error A → Status → Prop}
    (implied : ∀ result status, post result status → weaker result status)
    {program : Program Op Value Error A} {status : Status}
    (follows : Follows protocol post status program) : Follows protocol weaker status program := by
  induction program generalizing status with
  | done value => exact implied _ _ follows
  | fail error => exact implied _ _ follows
  | call operation next ih =>
      exact ⟨follows.1, fun answer possible => ih answer (follows.2 answer possible)⟩

/-- The rule of sequence: the first part establishes what the rest assumes. -/
theorem follows_bind {middle : Except Error A → Status → Prop}
    {post : Except Error B → Status → Prop} {program : Program Op Value Error A}
    {rest : A → Program Op Value Error B} {status : Status}
    (first : Follows protocol middle status program)
    (continued : ∀ value after, middle (.ok value) after → Follows protocol post after (rest value))
    (failed : ∀ error after, middle (.error error) after → post (.error error) after) :
    Follows protocol post status (program >>= rest) := by
  induction program generalizing status with
  | done value => exact continued value status first
  | fail error => exact failed error status first
  | call operation next ih =>
      exact ⟨first.1, fun answer possible => ih answer (first.2 answer possible)⟩

/-- The rule of one operation with an early return. -/
theorem follows_ask {operation : Op} {post : Except Error (Value operation) → Status → Prop}
    {status : Status} (allowed : protocol.allowed status operation)
    (answered : ∀ answer, protocol.possible status operation answer →
      post answer (protocol.next status operation answer)) :
    Follows protocol post status (ask operation) := by
  refine ⟨allowed, fun answer possible => ?_⟩
  cases answer with
  | ok value => exact answered _ possible
  | error error => exact answered _ possible

/-- The rule of one operation and the rest of its sequence. -/
theorem follows_ask_bind {operation : Op} {rest : Value operation → Program Op Value Error B}
    {post : Except Error B → Status → Prop} {status : Status}
    (allowed : protocol.allowed status operation)
    (continued : ∀ value, protocol.possible status operation (.ok value) →
      Follows protocol post (protocol.next status operation (.ok value)) (rest value))
    (failed : ∀ error, protocol.possible status operation (.error error) →
      post (.error error) (protocol.next status operation (.error error))) :
    Follows protocol post status (ask operation >>= rest) := by
  refine ⟨allowed, fun answer possible => ?_⟩
  cases answer with
  | ok value => exact continued value possible
  | error error => exact failed error possible

/-- A world that keeps the relation to the status ends in the postcondition. -/
theorem run_follows (perform : World → (operation : Op) → Except Error (Value operation) × World)
    (related : World → Status → Prop)
    (sound : ∀ world status operation, related world status → protocol.allowed status operation →
      protocol.possible status operation (perform world operation).1 ∧
        related (perform world operation).2
          (protocol.next status operation (perform world operation).1))
    {post : Except Error A → Status → Prop} {program : Program Op Value Error A}
    {world : World} {status : Status} (start : related world status)
    (follows : Follows protocol post status program) :
    ∃ last, related (run perform world program).2 last ∧
      post (run perform world program).1 last := by
  induction program generalizing world status with
  | done value => exact ⟨status, start, follows⟩
  | fail error => exact ⟨status, start, follows⟩
  | call operation next ih =>
      obtain ⟨possible, kept⟩ := sound world status operation start follows.1
      exact ih _ kept (follows.2 _ possible)

/-- A guard that the relation implies for each allowed operation holds along the run. -/
theorem along_of_follows (perform : World → (operation : Op) → Except Error (Value operation) × World)
    (related : World → Status → Prop)
    (sound : ∀ world status operation, related world status → protocol.allowed status operation →
      protocol.possible status operation (perform world operation).1 ∧
        related (perform world operation).2
          (protocol.next status operation (perform world operation).1))
    {guard : World → Op → Prop}
    (implied : ∀ world status operation, related world status → protocol.allowed status operation →
      guard world operation)
    {post : Except Error A → Status → Prop} {program : Program Op Value Error A}
    {world : World} {status : Status} (start : related world status)
    (follows : Follows protocol post status program) : Along perform guard world program := by
  induction program generalizing world status with
  | done value => trivial
  | fail error => trivial
  | call operation next ih =>
      obtain ⟨possible, kept⟩ := sound world status operation start follows.1
      exact ⟨implied world status operation start follows.1, ih _ kept (follows.2 _ possible)⟩

/-- A program whose operations leave the status as it is ends in the same status. -/
theorem follows_of_only {allowed : Op → Prop} {status : Status}
    (admits : ∀ operation, allowed operation →
      protocol.allowed status operation ∧ ∀ answer, protocol.next status operation answer = status)
    {program : Program Op Value Error A} (only : program.Only allowed) :
    Follows protocol (fun _ last => last = status) status program := by
  induction program with
  | done value => rfl
  | fail error => rfl
  | call operation next ih =>
      obtain ⟨admitted, same⟩ := admits operation only.1
      refine ⟨admitted, fun answer _ => ?_⟩
      rw [same]
      exact ih answer (only.2 answer)

/-- An attempt does not fail. -/
theorem follows_attempt {post : Except Error A → Status → Prop} {program : Program Op Value Error A}
    {status : Status} (follows : Follows protocol post status program) :
    Follows protocol (fun answer last => ∃ result, answer = .ok result ∧ post result last) status
      program.attempt := by
  induction program generalizing status with
  | done value => exact ⟨_, rfl, follows⟩
  | fail error => exact ⟨_, rfl, follows⟩
  | call operation next ih => exact ⟨follows.1, fun answer possible => ih answer (follows.2 answer possible)⟩

/-- A program keeps to a protocol that admits as much and expects fewer answers. -/
theorem follows_narrow {narrower : Protocol Op Value Error Status}
    (admits : ∀ status operation, protocol.allowed status operation → narrower.allowed status operation)
    (fewer : ∀ status operation answer, narrower.possible status operation answer →
      protocol.possible status operation answer)
    (same : ∀ status operation answer,
      narrower.next status operation answer = protocol.next status operation answer)
    {post : Except Error A → Status → Prop} {program : Program Op Value Error A} {status : Status}
    (follows : Follows protocol post status program) : Follows narrower post status program := by
  induction program generalizing status with
  | done value => exact follows
  | fail error => exact follows
  | call operation next ih =>
      refine ⟨admits status operation follows.1, fun answer possible => ?_⟩
      rw [same]
      exact ih answer (follows.2 answer (fewer status operation answer possible))

end Follows

/-- An operation with the answer that it got. -/
abbrev Performed (Op : Type) (Value : Op → Type) (Error : Type) :=
  (operation : Op) × Except Error (Value operation)

/-- The status lists what has been performed. The guard limits the next operation by it. -/
def recorded (guard : List (Performed Op Value Error) → Op → Prop) :
    Protocol Op Value Error (List (Performed Op Value Error)) where
  allowed := guard
  possible _ _ _ := True
  next performed operation answer := performed ++ [⟨operation, answer⟩]

/-- A program whose operations the guard always admits only adds to the record. -/
theorem follows_recorded {guard : List (Performed Op Value Error) → Op → Prop} {allowed : Op → Prop}
    (admits : ∀ performed operation, allowed operation → guard performed operation)
    {program : Program Op Value Error A} (only : program.Only allowed)
    (performed : List (Performed Op Value Error)) :
    Follows (recorded guard) (fun _ last => ∃ rest, last = performed ++ rest) performed program := by
  induction program generalizing performed with
  | done value => exact ⟨[], (List.append_nil performed).symm⟩
  | fail error => exact ⟨[], (List.append_nil performed).symm⟩
  | call operation next ih =>
      refine ⟨admits performed operation only.1, fun answer _ => ?_⟩
      refine follows_mono (fun _ last ⟨rest, longer⟩ => ?_)
        (ih answer (only.2 answer) (performed ++ [⟨operation, answer⟩]))
      exact ⟨⟨operation, answer⟩ :: rest, by rw [longer, List.append_assoc, List.singleton_append]⟩

/-- This protocol has one status and limits the operations alone. -/
def confined (allowed : Op → Prop) : Protocol Op Value Error Unit where
  allowed _ := allowed
  possible _ _ _ := True
  next _ _ _ := ()

end Program

end Resumption

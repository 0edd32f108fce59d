/-
This file gives pools of threads that run programs and interleave at each operation.
-/
import OsuPlayerRole.Library.EventRun
import OsuPlayerRole.Library.Resumption

namespace Resumption

/-- A thread belongs to a job. When its program is over, it goes on as the branches it returns. -/
structure Thread (Op : Type) (Value : Op → Type) (Error : Type) where
  job : Nat
  program : Program Op Value Error (List (Program Op Value Error Unit))

variable {Op : Type} {Value : Op → Type} {Error A Status World : Type}

namespace Thread

/-- A branch has no branches of its own. -/
def branch (job : Nat) (program : Program Op Value Error Unit) : Thread Op Value Error :=
  ⟨job, program >>= fun _ => .done []⟩

/-- A finished thread gives way to its branches. -/
def settled (thread : Thread Op Value Error) : List (Thread Op Value Error) :=
  match thread.program with
  | .done branches => branches.map (branch thread.job)
  | .fail _ => []
  | .call _ _ => [thread]

/-- A thread without branches goes on alone, or it is over. -/
theorem settled_alone {protocol : Protocol Op Value Error Status} {job : Nat}
    {program : Program Op Value Error (List (Program Op Value Error Unit))}
    {post : Except Error (List (Program Op Value Error Unit)) → Status → Prop} {status : Status}
    (branchless : ∀ branches, post (.ok branches) status → branches = [])
    (follows : Program.Follows protocol post status program) :
    settled ⟨job, program⟩ = [⟨job, program⟩] ∨
      settled ⟨job, program⟩ = [] ∧ ∃ answer, post answer status := by
  cases program with
  | done branches =>
      refine .inr ⟨?_, _, follows⟩
      rw [branchless branches follows]
      rfl
  | fail error => exact .inr ⟨rfl, _, follows⟩
  | call operation next => exact .inl rfl

/-- The branches of a thread belong to its job. -/
theorem job_settled {thread other : Thread Op Value Error} (member : other ∈ thread.settled) :
    other.job = thread.job := by
  unfold settled at member
  split at member
  · obtain ⟨program, _, rfl⟩ := List.mem_map.mp member
    rfl
  · exact absurd member List.not_mem_nil
  · rw [List.mem_singleton.mp member]

end Thread

section Advance

variable (perform : World → (operation : Op) → Except Error (Value operation) × World)

/-- One thread performs its operation. At most `width` threads of a job are under way. -/
def advance (width : Nat) (world : World) (threads : List (Thread Op Value Error)) (index : Nat) :
    Option (World × List (Thread Op Value Error)) :=
  match threads.drop index with
  | ⟨job, .call operation next⟩ :: back =>
      if (threads.take index).countP (fun thread => thread.job = job) < width then
        some ((perform world operation).2, threads.take index ++
          (Thread.settled ⟨job, next (perform world operation).1⟩ ++ back))
      else none
  | _ => none

variable {perform}

/-- An advance answers the waiting operation of one thread and keeps the others. -/
theorem advance_cases {width : Nat} {world after : World}
    {threads remaining : List (Thread Op Value Error)} {index : Nat}
    (advanced : advance perform width world threads index = some (after, remaining)) :
    ∃ front job operation next back,
      threads = front ++ ⟨job, .call operation next⟩ :: back ∧
      threads[index]? = some ⟨job, .call operation next⟩ ∧
      after = (perform world operation).2 ∧
      remaining = front ++ (Thread.settled ⟨job, next (perform world operation).1⟩ ++ back) := by
  unfold advance at advanced
  split at advanced
  next job operation next back found =>
    by_cases free : (threads.take index).countP (fun thread => thread.job = job) < width
    · rw [if_pos free] at advanced
      obtain ⟨rfl, rfl⟩ := Prod.mk.inj (Option.some.inj advanced)
      refine ⟨threads.take index, job, operation, next, back, ?_, ?_, rfl, rfl⟩
      · rw [← found, List.take_append_drop]
      · rw [← List.head?_drop, found, List.head?_cons]
    · rw [if_neg free] at advanced
      cases advanced
  next => cases advanced

/-- After an advance a thread is an old one, or it comes from the thread that advanced. -/
theorem mem_advanced {front fresh back : List (Thread Op Value Error)} {old thread : Thread Op Value Error}
    (member : thread ∈ front ++ (fresh ++ back)) : thread ∈ front ++ old :: back ∨ thread ∈ fresh := by
  obtain early | later := List.mem_append.mp member
  · exact Or.inl (List.mem_append_left _ early)
  · obtain inside | late := List.mem_append.mp later
    · exact Or.inr inside
    · exact Or.inl (List.mem_append_right front (List.mem_cons_of_mem old late))

end Advance

section Sound

variable (protocol : Protocol Op Value Error Status) (needs : Op → Status) (rest : Status)

/-- A thread ends at rest, and so does each branch it leaves. -/
def Spawns (answer : Except Error (List (Program Op Value Error Unit))) (status : Status) : Prop :=
  status = rest ∧ ∀ branches, answer = .ok branches → ∀ branch ∈ branches,
    Program.Follows protocol (fun _ last => last = rest) rest branch

/-- The waiting operation of a thread tells its status. -/
def Thread.status (thread : Thread Op Value Error) : Status :=
  match thread.program with
  | .call operation _ => needs operation
  | _ => rest

def Thread.Sound (thread : Thread Op Value Error) : Prop :=
  Program.Follows protocol (Spawns protocol rest) (thread.status needs rest) thread.program

variable {protocol needs rest}

theorem follows_branch {program : Program Op Value Error Unit}
    (follows : Program.Follows protocol (fun _ last => last = rest) rest program) :
    Program.Follows protocol (Spawns protocol rest) rest (program >>= fun _ => .done []) := by
  have ended : ∀ error last, last = rest → Spawns protocol rest (.error error) last :=
    fun error last same => ⟨same, fun branches impossible => by cases impossible⟩
  refine Program.follows_bind follows (fun _ last same => ⟨same, fun branches listed => ?_⟩) ended
  cases listed
  exact fun branch inside => absurd inside List.not_mem_nil

variable (directed : ∀ status operation, protocol.allowed status operation → status = needs operation)

include directed

/-- The status of a thread that keeps to the protocol is the one its operation needs. -/
theorem status_of_follows (job : Nat)
    {program : Program Op Value Error (List (Program Op Value Error Unit))} {status : Status}
    (follows : Program.Follows protocol (Spawns protocol rest) status program) :
    (⟨job, program⟩ : Thread Op Value Error).status needs rest = status := by
  cases program with
  | done branches => exact follows.1.symm
  | fail error => exact follows.1.symm
  | call operation next => exact (directed status operation follows.1).symm

theorem sound_of_follows {job : Nat}
    {program : Program Op Value Error (List (Program Op Value Error Unit))} {status : Status}
    (follows : Program.Follows protocol (Spawns protocol rest) status program) :
    (⟨job, program⟩ : Thread Op Value Error).Sound protocol needs rest := by
  have same := status_of_follows directed job follows
  unfold Thread.Sound
  rw [same]
  exact follows

/-- A thread and the branches that replace it keep to the protocol. -/
theorem sound_settled {job : Nat}
    {program : Program Op Value Error (List (Program Op Value Error Unit))} {status : Status}
    (follows : Program.Follows protocol (Spawns protocol rest) status program) :
    ∀ thread ∈ (⟨job, program⟩ : Thread Op Value Error).settled,
      thread.Sound protocol needs rest := by
  intro thread member
  cases program with
  | done branches =>
      obtain ⟨branch, inside, rfl⟩ := List.mem_map.mp member
      exact sound_of_follows directed (follows_branch (follows.2 branches rfl branch inside))
  | fail error => exact absurd member List.not_mem_nil
  | call operation next =>
      obtain rfl := List.mem_singleton.mp member
      exact sound_of_follows directed follows

/-- A thread that goes on has the new status, and its branches start at rest. -/
theorem status_settled {job : Nat}
    {program : Program Op Value Error (List (Program Op Value Error Unit))} {status : Status}
    (follows : Program.Follows protocol (Spawns protocol rest) status program) :
    ∀ thread ∈ (⟨job, program⟩ : Thread Op Value Error).settled,
      thread.status needs rest = rest ∨ thread.status needs rest = status := by
  intro thread member
  cases program with
  | done branches =>
      obtain ⟨branch, inside, rfl⟩ := List.mem_map.mp member
      have branched := follows_branch (follows.2 branches rfl branch inside)
      exact Or.inl (status_of_follows directed _ branched)
  | fail error => exact absurd member List.not_mem_nil
  | call operation next =>
      obtain rfl := List.mem_singleton.mp member
      exact Or.inr (status_of_follows directed job follows)

/-- Only a thread that still runs has a mark. Its branches start at rest, without one. -/
theorem marks_settled {Mark : Type} (mark : Status → Option Mark) (unmarked : mark rest = none)
    (job : Nat) {program : Program Op Value Error (List (Program Op Value Error Unit))}
    {status : Status}
    (follows : Program.Follows protocol (Spawns protocol rest) status program) :
    (⟨job, program⟩ : Thread Op Value Error).settled.filterMap
      (fun thread => mark (thread.status needs rest)) = (mark status).toList := by
  cases program with
  | done branches =>
      have none_marked : ∀ thread ∈ (⟨job, .done branches⟩ : Thread Op Value Error).settled,
          mark (thread.status needs rest) = none := by
        intro thread member
        obtain ⟨branch, inside, rfl⟩ := List.mem_map.mp member
        rw [Thread.branch,
          status_of_follows directed _ (follows_branch (follows.2 branches rfl branch inside))]
        exact unmarked
      rw [List.filterMap_eq_nil_iff.mpr none_marked, follows.1, unmarked]
      rfl
  | fail error =>
      rw [follows.1, unmarked]
      rfl
  | call operation next =>
      have same := status_of_follows directed job follows
      simp only [Thread.settled, List.filterMap_cons, List.filterMap_nil, same]
      cases mark status <;> rfl

end Sound

section Confined

/-- A thread performs only allowed operations, and so does each branch it leaves. -/
def Thread.Confined (allowed : Op → Prop) (thread : Thread Op Value Error) : Prop :=
  Program.Follows (Program.confined allowed) (Spawns (Program.confined allowed) ()) () thread.program

variable {allowed : Op → Prop}

theorem follows_confined_mono {wider : Op → Prop} (implied : ∀ operation, allowed operation → wider operation)
    {post : Except Error A → Unit → Prop} {program : Program Op Value Error A}
    (follows : Program.Follows (Program.confined allowed) post () program) :
    Program.Follows (Program.confined wider) post () program := by
  induction program with
  | done value => exact follows
  | fail error => exact follows
  | call operation next ih =>
      exact ⟨implied operation follows.1, fun answer _ => ih answer (follows.2 answer trivial)⟩

theorem Thread.Confined.mono {wider : Op → Prop} (implied : ∀ operation, allowed operation → wider operation)
    {thread : Thread Op Value Error} (confined : thread.Confined allowed) : thread.Confined wider := by
  refine Program.follows_mono (fun answer _ spawns => ?_) (follows_confined_mono implied confined)
  exact ⟨rfl, fun branches same branch member =>
    follows_confined_mono implied (spawns.2 branches same branch member)⟩

theorem confined_settled {job : Nat}
    {program : Program Op Value Error (List (Program Op Value Error Unit))}
    (confined : (⟨job, program⟩ : Thread Op Value Error).Confined allowed) :
    ∀ thread ∈ (⟨job, program⟩ : Thread Op Value Error).settled, thread.Confined allowed := by
  have settled := @sound_settled Op Value Error Unit (Program.confined allowed) (fun _ => ()) ()
    (fun _ _ _ => rfl) job program () confined
  exact fun thread member => settled thread member

/-- An advance performs an allowed operation, and every thread stays confined. -/
theorem confined_advance {perform : World → (operation : Op) → Except Error (Value operation) × World}
    {width : Nat} {world after : World} {threads remaining : List (Thread Op Value Error)} {index : Nat}
    (confined : ∀ thread ∈ threads, thread.Confined allowed)
    (advanced : advance perform width world threads index = some (after, remaining)) :
    (∃ operation, allowed operation ∧ after = (perform world operation).2) ∧
      ∀ thread ∈ remaining, thread.Confined allowed := by
  obtain ⟨front, job, operation, next, back, rfl, _, rfl, rfl⟩ := advance_cases advanced
  have own := confined ⟨job, .call operation next⟩ (List.mem_append_right _ List.mem_cons_self)
  refine ⟨⟨operation, own.1, rfl⟩, fun thread member => ?_⟩
  obtain old | fresh := mem_advanced member
  · exact confined thread old
  · exact confined_settled (own.2 _ trivial) thread fresh

end Confined

section Independent

variable (perform : World → (operation : Op) → Except Error (Value operation) × World)

/-- Neither operation changes the answer of the other, and their order does not matter. -/
def Interchange (first second : Op) : Prop :=
  ∀ world, (perform (perform world first).2 second).1 = (perform world second).1 ∧
    (perform (perform world second).2 first).1 = (perform world first).1 ∧
    (perform (perform world first).2 second).2 = (perform (perform world second).2 first).2

/-- Every operation of one program may be interchanged with every operation of the other. -/
def Apart (first second : Program Op Value Error Unit) : Prop :=
  ∃ left right : Op → Prop, first.Only left ∧ second.Only right ∧
    ∀ one other, left one → right other → Interchange perform one other

/-- The programs run one after another. -/
def inTurn (world : World) (programs : List (Program Op Value Error Unit)) : World :=
  programs.foldl (fun before program => (Program.run perform before program).2) world

/-- The threads of one job advance in the order of the schedule. -/
def interleave (width : Nat) (pool : World × List (Thread Op Value Error)) (index : Nat) :
    Option (World × List (Thread Op Value Error)) :=
  advance perform width pool.1 pool.2 index

variable {perform}

/-- An operation and a program that is apart from it may be interchanged. -/
theorem run_interchange {allowed : Op → Prop} {operation : Op}
    (interchange : ∀ other, allowed other → Interchange perform other operation)
    {program : Program Op Value Error Unit} (only : program.Only allowed) (world : World) :
    (perform (Program.run perform world program).2 operation).1 = (perform world operation).1 ∧
      Program.run perform (perform world operation).2 program =
        ((Program.run perform world program).1,
          (perform (Program.run perform world program).2 operation).2) := by
  induction program generalizing world with
  | done value => exact ⟨rfl, rfl⟩
  | fail error => exact ⟨rfl, rfl⟩
  | call other next ih =>
      obtain ⟨later, earlier, same⟩ := interchange other only.1 world
      obtain ⟨answer, swapped⟩ := ih _ (only.2 _) (perform world other).2
      refine ⟨answer.trans later, ?_⟩
      rw [Program.run_call, Program.run_call, earlier, ← same]
      exact swapped

/-- The operation of a later program may come before the earlier programs. -/
theorem inTurn_interchange {operation : Op}
    {next : Except Error (Value operation) → Program Op Value Error Unit}
    {front back : List (Program Op Value Error Unit)}
    (apart : ∀ program ∈ front, Apart perform program (.call operation next)) (world : World) :
    inTurn perform world (front ++ .call operation next :: back) =
      inTurn perform (perform world operation).2 (front ++ next (perform world operation).1 :: back) := by
  induction front generalizing world with
  | nil => rfl
  | cons program rest ih =>
      obtain ⟨left, right, only, other, interchange⟩ := apart program List.mem_cons_self
      obtain ⟨answer, swapped⟩ :=
        run_interchange (fun one allowed => interchange one operation allowed other.1) only world
      have later := ih (fun one inside => apart one (List.mem_cons_of_mem _ inside))
        (Program.run perform world program).2
      simp only [inTurn, List.cons_append, List.foldl_cons] at later ⊢
      rw [later, answer, swapped]

theorem apart_next {operation : Op} {next : Except Error (Value operation) → Program Op Value Error Unit}
    {program : Program Op Value Error Unit} (apart : Apart perform program (.call operation next))
    (answer : Except Error (Value operation)) : Apart perform program (next answer) := by
  obtain ⟨left, right, only, other, interchange⟩ := apart
  exact ⟨left, right, only, other.2 answer, interchange⟩

theorem next_apart {operation : Op} {next : Except Error (Value operation) → Program Op Value Error Unit}
    {program : Program Op Value Error Unit} (apart : Apart perform (.call operation next) program)
    (answer : Except Error (Value operation)) : Apart perform (next answer) program := by
  obtain ⟨left, right, only, other, interchange⟩ := apart
  exact ⟨left, right, only.2 answer, other, interchange⟩

/-- The programs stay apart when one of them goes on. -/
theorem apart_middle {operation : Op}
    {next : Except Error (Value operation) → Program Op Value Error Unit}
    {front back : List (Program Op Value Error Unit)}
    (apart : (front ++ .call operation next :: back).Pairwise (Apart perform))
    (answer : Except Error (Value operation)) :
    (front ++ next answer :: back).Pairwise (Apart perform) := by
  rw [List.pairwise_append, List.pairwise_cons] at apart ⊢
  obtain ⟨early, ⟨here, late⟩, across⟩ := apart
  refine ⟨early, ⟨fun program inside => next_apart (here program inside) answer, late⟩, ?_⟩
  intro program inside other member
  rcases List.mem_cons.mp member with rfl | later
  · exact apart_next (across program inside _ List.mem_cons_self) answer
  · exact across program inside other (List.mem_cons_of_mem _ later)

/-- A program that is over leaves the pool, and another one waits in it. -/
theorem settled_branch (job : Nat) (program : Program Op Value Error Unit) :
    (Thread.branch job program).settled = if program.finished then [] else [Thread.branch job program] := by
  cases program <;> rfl

/-- A program that is over does nothing. -/
theorem inTurn_finished {program : Program Op Value Error Unit} (finished : program.finished = true)
    (front back : List (Program Op Value Error Unit)) (world : World) :
    inTurn perform world (front ++ program :: back) = inTurn perform world (front ++ back) := by
  have still (before : World) : (Program.run perform before program).2 = before := by
    cases program with
    | done value => rfl
    | fail error => rfl
    | call operation next => cases finished
  simp only [inTurn, List.foldl_append, List.foldl_cons, still]

/-- Programs that are apart leave the same world in every interleaving, which is the world of running
them one after another. -/
theorem interleaved_inTurn {width job : Nat} {programs : List (Program Op Value Error Unit)}
    {world after : World} {schedule : List Nat}
    (waiting : ∀ program ∈ programs, program.finished = false)
    (apart : programs.Pairwise (Apart perform))
    (ran : EventRun.run (interleave perform width) (world, programs.map (Thread.branch job)) schedule =
      some (after, [])) : after = inTurn perform world programs := by
  induction schedule generalizing world programs with
  | nil =>
      obtain ⟨rfl, none⟩ := Prod.mk.inj (Option.some.inj ran)
      obtain rfl := List.map_eq_nil_iff.mp none
      rfl
  | cons index rest ih =>
      obtain ⟨⟨between, threads⟩, stepped, remaining⟩ := EventRun.run_cons ran
      obtain ⟨front, owner, operation, next, back, whole, _, rfl, rfl⟩ := advance_cases stepped
      obtain ⟨early, later, rfl, rfl, laterThreads⟩ := List.map_eq_append_iff.mp whole
      obtain ⟨program, late, rfl, here, rfl⟩ := List.map_eq_cons_iff.mp laterThreads
      have member : program ∈ early ++ program :: late := List.mem_append_right _ List.mem_cons_self
      cases program with
      | done value => cases here
      | fail error => cases here
      | call waits continues =>
          cases here
          have others : ∀ program ∈ early ++ late, program.finished = false := by
            intro program inside
            refine waiting program ?_
            rcases List.mem_append.mp inside with first | last
            · exact List.mem_append_left _ first
            · exact List.mem_append_right _ (List.mem_cons_of_mem _ last)
          have before : ∀ program ∈ early, Apart perform program (.call operation continues) := by
            intro program inside
            exact (List.pairwise_append.mp apart).2.2 program inside _ List.mem_cons_self
          rw [inTurn_interchange before]
          have moved := apart_middle apart (perform world operation).1
          change EventRun.run _ (_, early.map (Thread.branch job) ++
            ((Thread.branch job (continues (perform world operation).1)).settled ++
              late.map (Thread.branch job))) rest = _ at remaining
          rw [settled_branch] at remaining
          cases finished : (continues (perform world operation).1).finished with
          | true =>
              rw [finished, if_pos rfl, List.nil_append, ← List.map_append] at remaining
              rw [inTurn_finished finished]
              refine ih others (moved.sublist ?_) remaining
              exact List.Sublist.append (List.Sublist.refl _) (List.sublist_cons_self _ _)
          | false =>
              rw [finished, if_neg Bool.false_ne_true, List.singleton_append, ← List.map_cons,
                ← List.map_append] at remaining
              refine ih ?_ moved remaining
              intro program inside
              rcases List.mem_append.mp inside with first | last
              · exact others program (List.mem_append_left _ first)
              · rcases List.mem_cons.mp last with rfl | further
                · exact finished
                · exact others program (List.mem_append_right _ further)

/-- The first program of a pool can always be run to its end. -/
theorem interleave_first {width : Nat} (free : 0 < width) (job : Nat)
    (program : Program Op Value Error Unit) (rest : List (Thread Op Value Error)) (world : World) :
    ∃ schedule, EventRun.run (interleave perform width)
      (world, (Thread.branch job program).settled ++ rest) schedule =
        some ((Program.run perform world program).2, rest) := by
  induction program generalizing world with
  | done value => exact ⟨[], rfl⟩
  | fail error => exact ⟨[], rfl⟩
  | call operation next ih =>
      obtain ⟨schedule, ran⟩ := ih (perform world operation).1 (perform world operation).2
      have stepped : interleave perform width
          (world, (Thread.branch job (.call operation next)).settled ++ rest) 0 =
            some ((perform world operation).2,
              (Thread.branch job (next (perform world operation).1)).settled ++ rest) := if_pos free
      exact ⟨0 :: schedule, (EventRun.run_step stepped).trans ran⟩

/-- Some schedule runs all the programs to their ends. -/
theorem interleave_completes {width : Nat} (free : 0 < width) (job : Nat)
    {programs : List (Program Op Value Error Unit)}
    (waiting : ∀ program ∈ programs, program.finished = false) (world : World) :
    ∃ schedule, EventRun.run (interleave perform width)
      (world, programs.map (Thread.branch job)) schedule = some (inTurn perform world programs, []) := by
  induction programs generalizing world with
  | nil => exact ⟨[], rfl⟩
  | cons program rest ih =>
      obtain ⟨first, started⟩ := interleave_first free job program (rest.map (Thread.branch job)) world
      obtain ⟨last, ended⟩ := ih (fun other inside => waiting other (List.mem_cons_of_mem _ inside))
        (Program.run perform world program).2
      rw [settled_branch, waiting program List.mem_cons_self] at started
      refine ⟨first ++ last, ?_⟩
      rw [EventRun.run_append, List.map_cons]
      change EventRun.run _ (world, Thread.branch job program :: rest.map (Thread.branch job)) first =
        some _ at started
      rw [started, Option.bind_some]
      exact ended

end Independent

end Resumption

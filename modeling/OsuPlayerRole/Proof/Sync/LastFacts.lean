/-
This file shows when the last facts of a player win.
-/
import OsuPlayerRole.Construction.Tasks.PlayerRuns
import OsuPlayerRole.Proof.Sample
import OsuPlayerRole.Proof.Sync.OpenActions
import OsuPlayerRole.Proof.Web.StatementFrame

namespace OsuPlayerRole.Sync

open Resumption Program KeyedTable

/-- The thread has asked whether the player is linked, and it is not over. -/
def entered (thread : SyncThread) : Bool :=
  match thread.program with
  | .call operation _ => decide (operation.entered? ≠ some false)
  | _ => true

/-- Some job of the player will still enter. -/
def PlayerSystem.coming (player : PlayerSystem) : Prop :=
  0 < player.owed ∨ 0 < player.pending ∨ ∃ thread ∈ player.threads, entered thread = false

/-- No job enters while another one of the player is inside. Where no job will still enter, the clock
moves past no bound of a rule. -/
def InTurn (engines : Engines) (discordId : DiscordId) (player : PlayerSystem) : PlayerEvent → Prop
  | .advance index => ∀ thread ∈ player.threads[index]?,
      thread.program.head?.any SyncOp.enters = true → ∀ other ∈ player.threads, entered other = false
  | .tick now => player.coming ∨ Steady engines discordId player.world now
  | _ => True

section Inside

variable (engines : Engines) (discordId : DiscordId) (base world : World) (coming : Prop)

/-- The mirror agrees with RoleLogic about the player. -/
def Agrees (row : RoleLink) : Prop :=
  discordId ∈ world.tables.roleAssignments row.link ↔ discordId ∈ world.remote row.link

/-- A link without an open action has the verdict of the current facts, unless a job will enter. -/
def Settled (row : RoleLink) : Prop :=
  Agrees discordId world row ∧
    (coming ∨ (discordId ∈ world.remote row.link ↔ meets engines discordId world row = true))

/-- An open action leads to the verdict of the current facts, unless a job will enter. -/
def Underway (row : RoleLink) (act : Act) : Prop :=
  (act.called = true → (discordId ∈ world.remote row.link ↔ act.action.adds = true)) ∧
    (coming ∨ act.action.adds = meets engines discordId world row)

def Balanced (acts : List Act) : Prop :=
  ∀ row ∈ linksOf discordId base,
    Course row.link acts (Underway engines discordId world coming row)
      (Settled engines discordId world coming row)

/-- The job keeps to its reads in all worlds with these links, and it decides by the current facts,
unless another job will enter. -/
def Reading (thread : SyncThread) : Prop :=
  linksOf discordId base ≠ [] ∧ (∀ row ∈ linksOf discordId base, Agrees discordId world row) ∧
    Follows (reads engines discordId base {other | Fixed base other})
      (Finishes engines discordId base {other | Fixed base other}) true thread.program ∧
    (coming ∨ Follows (reads engines discordId base (variants engines discordId world))
      (Finishes engines discordId base (variants engines discordId world)) true thread.program)

/-- At most one job is inside: it still reads, or its actions are open. -/
def Inside (insiders : List SyncThread) : Prop :=
  (∃ thread, insiders = [thread] ∧ Reading engines discordId base world coming thread) ∨
    ∃ job acts, insiders = acts.map (Act.thread discordId job) ∧
      (acts.map fun act => act.action.link).Nodup ∧
      (∀ act ∈ acts, act.action.link ∈ (linksOf discordId base).map RoleLink.link) ∧
      Balanced engines discordId base world coming acts

/-- A job that has not entered decides by the worlds that will answer its reads. -/
def Prepared (thread : SyncThread) : Prop :=
  ∀ worlds : Set World, worlds.Nonempty → (∀ other ∈ worlds, Fixed base other) →
    Follows (reads engines discordId base worlds) (Finishes engines discordId base worlds) false
      thread.program

end Inside

structure Tidy (engines : Engines) (discordId : DiscordId) (base : World) (player : PlayerSystem) :
    Prop where
  fixed : Fixed base player.world
  prepared : ∀ thread ∈ player.threads, entered thread = false →
    Prepared engines discordId base thread
  inside : Inside engines discordId base player.world player.coming (player.threads.filter entered)

section Lemmas

variable {engines : Engines} {discordId : DiscordId} {base world : World} {coming : Prop}

/-- A thread that will read again later still will. -/
theorem inside_mono {later : Prop} (implied : coming → later) {insiders : List SyncThread}
    (inside : Inside engines discordId base world coming insiders) :
    Inside engines discordId base world later insiders := by
  obtain ⟨thread, rfl, present, agrees, structured, fresh⟩ | ⟨job, acts, rfl, distinct, stored, balanced⟩ := inside
  · exact Or.inl ⟨thread, rfl, present, agrees, structured, fresh.imp_left implied⟩
  · refine Or.inr ⟨job, acts, rfl, distinct, stored, fun row inside => ?_⟩
    obtain ⟨open', closed⟩ := balanced row inside
    refine ⟨fun act member same => ?_, fun none => ?_⟩
    · exact ⟨(open' act member same).1, (open' act member same).2.imp_left implied⟩
    · exact ⟨(closed none).1, (closed none).2.imp_left implied⟩

/-- The variants of a fixed surrounding are fixed. -/
theorem fixed_variants (fixed : Fixed base world) :
    ∀ other ∈ variants engines discordId world, Fixed base other := by
  rintro other ⟨now, _, rfl⟩
  exact ⟨fixed.roleLinks, fixed.guildsOf⟩

/-- The variants of a fixed surrounding change nothing but the facts. -/
theorem frozen_variants (fixed : Fixed base world) :
    Frozen engines discordId base (variants engines discordId world) world :=
  ⟨fixed, subset_rfl⟩

/-- The wanted actions lead each link to its verdict. -/
theorem balanced_wanted (fixed : Fixed base world)
    (agrees : ∀ row ∈ linksOf discordId base, Agrees discordId world row) {actions : List Action}
    (planned : coming ∨ actions = wanted engines discordId world) :
    Balanced engines discordId base world coming (actions.map fun action => ⟨action, false⟩) := by
  intro row inside
  obtain later | rfl := planned
  · refine ⟨fun act member _ => ⟨fun called => ?_, Or.inl later⟩, fun _ =>
      ⟨agrees row inside, Or.inl later⟩⟩
    obtain ⟨action, _, rfl⟩ := List.mem_map.mp member
    cases called
  · have present : row ∈ linksOf discordId world := fixed.linksOf_eq ▸ inside
    refine course_wanted (List.mem_filter.mp present).1 (fun action _ corrected => ⟨?_, ?_⟩)
      fun untouched => ⟨agrees row inside, Or.inr ?_⟩
    · intro called
      cases called
    · exact Or.inr (correctionOf_some corrected).2.1
    · have level : decide (discordId ∈ world.tables.roleAssignments row.link) =
          meets engines discordId world row := correctionOf_none (untouched present)
      rw [← level, decide_eq_true_iff]
      exact (agrees row inside).symm

/-- A job that has read everything has planned what the current facts want, unless a job will enter. -/
theorem planned_of_reading (fixed : Fixed base world) {job : Nat}
    {branches : List (SyncProgram Unit)}
    (reading : Reading engines discordId base world coming ⟨job, .done branches⟩) :
    ∃ actions, branches = actions.map (performAction discordId) ∧
      (actions.map Action.link).Sublist ((linksOf discordId base).map RoleLink.link) ∧
      (coming ∨ actions = wanted engines discordId world) := by
  obtain ⟨_, _, structured, later | fresh⟩ := reading
  · obtain ⟨actions, same, ordered, _⟩ := structured
    exact ⟨actions, Except.ok.inj same, ordered, Or.inl later⟩
  · obtain ⟨actions, same, ordered, decided, _⟩ := fresh
    exact ⟨actions, Except.ok.inj same, ordered, Or.inr (decided world (frozen_variants fixed)).1⟩

/-- A thread that acts has entered. -/
theorem entered_act (job : Nat) (act : Act) : entered (act.thread discordId job) = true := by
  obtain ⟨action, called⟩ := act
  cases action <;> cases called <;> rfl

/-- A job that has just read stays inside, alone or as its actions. -/
theorem inside_settled {job : Nat} {program : SyncProgram (List (SyncProgram Unit))}
    (fixed : Fixed base world)
    (reading : Reading engines discordId base world coming ⟨job, program⟩) :
    Inside engines discordId base world coming (⟨job, program⟩ : SyncThread).settled ∧
      ∀ thread ∈ (⟨job, program⟩ : SyncThread).settled, entered thread = true := by
  cases program with
  | call operation next =>
      refine ⟨Or.inl ⟨_, rfl, reading⟩, fun thread member => ?_⟩
      obtain rfl := List.mem_singleton.mp member
      have named : operation.entered? = some true := reading.2.2.1.1.1
      simp [entered, named]
  | fail error =>
      obtain ⟨actions, impossible, _⟩ := reading.2.2.1
      cases impossible
  | done branches =>
      obtain ⟨actions, rfl, ordered, planned⟩ := planned_of_reading fixed reading
      rw [settled_actions]
      refine ⟨Or.inr ⟨job, _, rfl, ?_, ?_, balanced_wanted fixed reading.2.1 planned⟩, ?_⟩
      · rw [List.map_map]
        exact links_nodup.sublist ordered
      · intro act member
        obtain ⟨action, chosen, rfl⟩ := List.mem_map.mp member
        exact ordered.subset (List.mem_map_of_mem chosen)
      · intro thread member
        obtain ⟨act, _, rfl⟩ := List.mem_map.mp member
        exact entered_act job act

/-- The step of an action keeps the balance: its call brings RoleLogic to the value of the action, and
its write to the mirror closes it. -/
theorem balanced_acted {after : World} {front back left : List Act} {act : Act}
    (acted : Acted discordId world after act left)
    (distinct : ((front ++ act :: back).map fun act => act.action.link).Nodup)
    (balanced : Balanced engines discordId base world coming (front ++ act :: back)) :
    Balanced engines discordId base after coming (front ++ (left ++ back)) := by
  intro row inside
  have verdict : meets engines discordId after row = meets engines discordId world row :=
    acted.change.lists.meets engines row
  refine course_acted acted distinct (fun different => ⟨fun other underway => ?_, fun settled => ?_⟩)
    (fun same underway => ?_) (balanced row inside)
  · unfold Underway at *
    rw [verdict, acted.change.remote _ different]
    exact underway
  · unfold Settled Agrees at *
    rw [verdict, acted.change.remote _ different, acted.change.assignments _ different]
    exact settled
  · obtain ⟨level, decided⟩ := underway
    obtain ⟨rfl, _, remote, _⟩ | ⟨rfl, called, remote, assigned⟩ := acted.effect
    · refine ⟨fun other member => ?_, fun impossible => by cases impossible⟩
      obtain rfl := List.mem_singleton.mp member
      refine ⟨fun _ => ?_, ?_⟩
      · rw [← same, remote]
        exact mem_adjust
      · rw [verdict]
        exact decided
    · refine ⟨fun other member => absurd member List.not_mem_nil, fun _ => ?_⟩
      have value : discordId ∈ after.remote row.link ↔ act.action.adds = true := by
        rw [remote]
        exact level called
      refine ⟨?_, decided.imp_right fun equal => ?_⟩
      · rw [Agrees, value, ← same, assigned]
        exact mem_adjust
      · rw [verdict, ← equal]
        exact value

end Lemmas

section Steps

variable {state : Web.AppState} {discordId : DiscordId} {base : World} {player after : PlayerSystem}

/-- An advance answers the operation of one thread with success. -/
theorem advanced_cases {index : Nat} (stepped : player.step state discordId (.advance index) = some after) :
    ∃ front job operation next back value,
      player.threads = front ++ ⟨job, .call operation next⟩ :: back ∧
      player.threads[index]? = some ⟨job, .call operation next⟩ ∧
      (perform state.engines player.world operation).1 = .ok value ∧
      after.world = (perform state.engines player.world operation).2 ∧
      after.threads = front ++ (Thread.settled ⟨job, next (.ok value)⟩ ++ back) ∧
      after.owed = player.owed ∧ after.pending = player.pending := by
  have served : player.step state discordId (.advance index) =
      (player.system.serve state.engines index).map fun system => { player with system := system } := by
    unfold PlayerSystem.step System.serve
    dsimp only
    split <;> rfl
  rw [served] at stepped
  obtain ⟨system, moved, rfl⟩ := Option.map_eq_some_iff.mp stepped
  obtain ⟨front, job, operation, next, back, value, whole, found, answer, world, remaining⟩ :=
    serve_cases moved
  exact ⟨front, job, operation, next, back, value, whole, found, answer, world, remaining, rfl, rfl⟩

/-- The reads before a job enters have the same answers in all worlds with these links. -/
theorem same_answer {engines : Engines} {operation : SyncOp} {world other : World}
    (named : operation.entered? = some false) (apart : operation.enters = false)
    (fixed : Fixed base world) (otherFixed : Fixed base other) :
    (perform engines other operation).1 = (perform engines world operation).1 := by
  cases operation with
  | fetchUserGuildIds id =>
      change Except.ok (other.guildsOf id) = Except.ok (world.guildsOf id)
      rw [fixed.guildsOf, otherFixed.guildsOf]
  | selectRoleLinks guildIds =>
      change (selectRoleLinks other.tables guildIds).mapError _ =
        (selectRoleLinks world.tables guildIds).mapError _
      unfold selectRoleLinks
      rw [fixed.roleLinks, otherFixed.roleLinks]
  | existsOsuUser id => cases apart
  | _ => cases named

/-- A thread that has not entered does not count. -/
theorem filter_front {front back : List SyncThread} {thread : SyncThread}
    (outside : entered thread = false) :
    (front ++ thread :: back).filter entered = front.filter entered ++ back.filter entered := by
  rw [List.filter_append, List.filter_cons_of_neg (by simp [outside])]

/-- The threads around an advance stay as they are. -/
theorem coming_advance {front back fresh : List SyncThread} {thread : SyncThread}
    (inside : entered thread = true) (threads : player.threads = front ++ thread :: back)
    (remaining : after.threads = front ++ (fresh ++ back)) (owed : after.owed = player.owed)
    (pending : after.pending = player.pending) (coming : player.coming) : after.coming := by
  unfold PlayerSystem.coming at *
  rw [owed, pending]
  refine coming.imp_right fun queued => queued.imp_right ?_
  rintro ⟨other, member, outside⟩
  rw [threads] at member
  have kept : other ∈ front ++ (fresh ++ back) := by
    obtain early | later := List.mem_append.mp member
    · exact List.mem_append_left _ early
    · obtain rfl | late := List.mem_cons.mp later
      · rw [inside] at outside
        cases outside
      · exact List.mem_append_right _ (List.mem_append_right _ late)
  exact ⟨other, remaining ▸ kept, outside⟩

section Advance

variable {front back : List SyncThread} {job : Nat} {operation : SyncOp} {value : operation.Value}
  {next : Except AppError operation.Value → SyncProgram (List (SyncProgram Unit))}

/-- The threads around an advance stay prepared, and the new ones must be. -/
theorem prepared_advanced (tidy : Tidy state.engines discordId base player) {fresh : List SyncThread}
    (threads : player.threads = front ++ ⟨job, .call operation next⟩ :: back)
    (remaining : after.threads = front ++ (fresh ++ back))
    (ready : ∀ thread ∈ fresh, entered thread = false →
      Prepared state.engines discordId base thread) :
    ∀ thread ∈ after.threads, entered thread = false →
      Prepared state.engines discordId base thread := by
  intro thread member outside
  rw [remaining] at member
  obtain old | new := @mem_advanced _ _ _ _ _ _ ⟨job, .call operation next⟩ _ member
  · exact tidy.prepared thread (threads ▸ old) outside
  · exact ready thread new outside

/-- The threads around an advance stay prepared where the new ones are inside. -/
theorem prepared_entered (tidy : Tidy state.engines discordId base player) {fresh : List SyncThread}
    (threads : player.threads = front ++ ⟨job, .call operation next⟩ :: back)
    (remaining : after.threads = front ++ (fresh ++ back))
    (enters : ∀ thread ∈ fresh, entered thread = true) :
    ∀ thread ∈ after.threads, entered thread = false →
      Prepared state.engines discordId base thread := by
  refine prepared_advanced tidy threads remaining fun thread new outside => ?_
  rw [enters thread new] at outside
  cases outside

/-- The step of a job that reads about the player leaves it alone inside. -/
theorem tidy_reading (tidy : Tidy state.engines discordId base player)
    (threads : player.threads = front ++ ⟨job, .call operation next⟩ :: back)
    (answered : (perform state.engines player.world operation).1 = .ok value)
    (world : after.world = (perform state.engines player.world operation).2)
    (remaining : after.threads = front ++ (Thread.settled ⟨job, next (.ok value)⟩ ++ back))
    (coming : player.coming → after.coming)
    (alone : front.filter entered = [] ∧ back.filter entered = [])
    (reading : Reading state.engines discordId base player.world player.coming
      ⟨job, .call operation next⟩) :
    Tidy state.engines discordId base after := by
  obtain ⟨present, agrees, structured, fresh⟩ := reading
  have named : operation.entered? = some true := structured.1.1
  have same : after.world = player.world := world.trans (perform_other (part_of_entered named))
  have moved : Reading state.engines discordId base after.world after.coming ⟨job, next (.ok value)⟩ := by
    rw [same]
    refine ⟨present, agrees, ?_, fresh.imp coming fun decides => ?_⟩
    · exact structured.2 _ ⟨⟨player.world, tidy.fixed, answered⟩, value, rfl⟩
    · exact decides.2 _ ⟨⟨player.world, variants_self, answered⟩, value, rfl⟩
  have fixed : Fixed base after.world := same ▸ tidy.fixed
  obtain ⟨inside, enters⟩ := inside_settled fixed moved
  refine ⟨fixed, prepared_entered tidy threads remaining enters, ?_⟩
  rw [remaining, List.filter_append, List.filter_append, alone.1, alone.2, List.nil_append,
    List.append_nil, List.filter_eq_self.mpr enters]
  exact inside

/-- The step of an open action. -/
theorem tidy_acting (tidy : Tidy state.engines discordId base player)
    (threads : player.threads = front ++ ⟨job, .call operation next⟩ :: back)
    (answered : (perform state.engines player.world operation).1 = .ok value)
    (world : after.world = (perform state.engines player.world operation).2)
    (remaining : after.threads = front ++ (Thread.settled ⟨job, next (.ok value)⟩ ++ back))
    (coming : player.coming → after.coming) {acts : List Act} {owner : Nat}
    (insiders : front.filter entered ++ ⟨job, .call operation next⟩ :: back.filter entered =
      acts.map (Act.thread discordId owner))
    (distinct : (acts.map fun act => act.action.link).Nodup)
    (stored : ∀ act ∈ acts, act.action.link ∈ (linksOf discordId base).map RoleLink.link)
    (balanced : Balanced state.engines discordId base player.world player.coming acts) :
    Tidy state.engines discordId base after := by
  obtain ⟨early, later, rfl, earlyThreads, laterThreads⟩ := List.map_eq_append_iff.mp insiders.symm
  obtain ⟨act, late, rfl, here, lateThreads⟩ := List.map_eq_cons_iff.mp laterThreads
  obtain rfl : owner = job := congrArg Thread.job here
  obtain ⟨left, settled, acted⟩ := acted_of_step (congrArg Thread.program here) answered
  rw [← world] at acted
  have fixed : Fixed base after.world :=
    ⟨acted.change.lists.roleLinks.trans tidy.fixed.roleLinks,
      acted.change.lists.guildsOf.trans tidy.fixed.guildsOf⟩
  have enters : ∀ thread ∈ left.map (Act.thread discordId owner), entered thread = true := by
    intro thread member
    obtain ⟨other, _, rfl⟩ := List.mem_map.mp member
    exact entered_act owner other
  rw [settled] at remaining
  refine ⟨fixed, prepared_entered tidy threads remaining enters, inside_mono coming ?_⟩
  · rw [remaining, List.filter_append, List.filter_append, List.filter_eq_self.mpr enters,
      ← earlyThreads, ← lateThreads, ← List.map_append, ← List.map_append]
    refine Or.inr ⟨owner, _, rfl, acted_nodup acted distinct, fun other member => ?_,
      balanced_acted acted distinct balanced⟩
    obtain fresh | old := mem_acted member
    · rw [acted_link acted other fresh]
      exact stored act (List.mem_append_right _ List.mem_cons_self)
    · exact stored other (mem_middle_of_mem old)

/-- Where no job is inside, the mirror agrees with RoleLogic. -/
theorem agrees_of_empty {engines : Engines} {world : World} {coming : Prop}
    (inside : Inside engines discordId base world coming []) :
    ∀ row ∈ linksOf discordId base, Settled engines discordId world coming row := by
  intro row stored
  obtain ⟨thread, impossible, _⟩ | ⟨job, acts, same, _, _, balanced⟩ := inside
  · cases impossible
  · obtain rfl := List.map_eq_nil_iff.mp same.symm
    exact (balanced row stored).2 fun act member => absurd member List.not_mem_nil

/-- The job that enters is alone inside. -/
theorem tidy_entering (tidy : Tidy state.engines discordId base player)
    (threads : player.threads = front ++ ⟨job, .call operation next⟩ :: back)
    (answered : (perform state.engines player.world operation).1 = .ok value)
    (world : after.world = (perform state.engines player.world operation).2)
    (remaining : after.threads = front ++ (Thread.settled ⟨job, next (.ok value)⟩ ++ back))
    (enters : operation.enters = true) (alone : ∀ other ∈ player.threads, entered other = false) :
    Tidy state.engines discordId base after := by
  have member : (⟨job, .call operation next⟩ : SyncThread) ∈ player.threads := by
    rw [threads]
    exact List.mem_append_right _ List.mem_cons_self
  have prepared := tidy.prepared _ member (alone _ member)
  have structured := prepared {other | Fixed base other} ⟨player.world, tidy.fixed⟩ fun _ fixed => fixed
  have fresh := prepared (variants state.engines discordId player.world) ⟨player.world, variants_self⟩
    (fixed_variants tidy.fixed)
  have named : operation.entered? = some false := structured.1.1
  have same : after.world = player.world := world.trans (perform_other (part_of_entered named))
  have empty : player.threads.filter entered = [] :=
    List.filter_eq_nil_iff.mpr fun other inside => by simp [alone other inside]
  have level := agrees_of_empty (empty ▸ tidy.inside)
  have moved : Reading state.engines discordId base after.world after.coming ⟨job, next (.ok value)⟩ := by
    have inner : (false || operation.enters) = true := enters
    rw [same]
    refine ⟨structured.1.2 enters, fun row stored => (level row stored).1, ?_, Or.inr ?_⟩
    · exact inner ▸ structured.2 _ ⟨⟨player.world, tidy.fixed, answered⟩, value, rfl⟩
    · exact inner ▸ fresh.2 _ ⟨⟨player.world, variants_self, answered⟩, value, rfl⟩
  have fixed : Fixed base after.world := same ▸ tidy.fixed
  obtain ⟨inside, entersAll⟩ := inside_settled fixed moved
  rw [threads] at alone
  have outside : ∀ others : List SyncThread, others ⊆ front ++ ⟨job, .call operation next⟩ :: back →
      others.filter entered = [] :=
    fun others kept => List.filter_eq_nil_iff.mpr fun other inside => by simp [alone other (kept inside)]
  refine ⟨fixed, prepared_entered tidy threads remaining entersAll, ?_⟩
  rw [remaining, List.filter_append, List.filter_append, outside front (List.subset_append_left _ _),
    outside back fun other inside => List.mem_append_right _ (List.mem_cons_of_mem _ inside),
    List.nil_append, List.append_nil, List.filter_eq_self.mpr entersAll]
  exact inside

/-- The reads before a job enters change nothing inside. -/
theorem tidy_before (tidy : Tidy state.engines discordId base player)
    (threads : player.threads = front ++ ⟨job, .call operation next⟩ :: back)
    (answered : (perform state.engines player.world operation).1 = .ok value)
    (world : after.world = (perform state.engines player.world operation).2)
    (remaining : after.threads = front ++ (Thread.settled ⟨job, next (.ok value)⟩ ++ back))
    (notYet : entered ⟨job, .call operation next⟩ = false) (apart : operation.enters = false) :
    Tidy state.engines discordId base after := by
  have member : (⟨job, .call operation next⟩ : SyncThread) ∈ player.threads := by
    rw [threads]
    exact List.mem_append_right _ List.mem_cons_self
  have prepared := tidy.prepared _ member notYet
  have continued : ∀ worlds : Set World, worlds.Nonempty → (∀ other ∈ worlds, Fixed base other) →
      Follows (reads state.engines discordId base worlds) (Finishes state.engines discordId base worlds)
        false (next (.ok value)) := by
    intro worlds some fixed
    have follows := prepared worlds some fixed
    obtain ⟨other, inside⟩ := some
    have reading : (perform state.engines other operation).1 = .ok value :=
      (same_answer follows.1.1 apart tidy.fixed (fixed other inside)).trans answered
    have moved := follows.2 _ ⟨⟨other, inside, reading⟩, value, rfl⟩
    have outer : (false || operation.enters) = false := apart
    exact outer ▸ moved
  have named := (prepared {player.world} ⟨player.world, rfl⟩ fun other same => same ▸ tidy.fixed).1.1
  have same : after.world = player.world := world.trans (perform_other (part_of_entered named))
  have fixed : Fixed base after.world := same ▸ tidy.fixed
  have first := continued {player.world} ⟨player.world, rfl⟩ fun other equal => equal ▸ tidy.fixed
  have inside := tidy.inside
  rw [threads, filter_front notYet] at inside
  cases program : next (.ok value) with
  | fail error =>
      rw [program] at first
      obtain ⟨actions, impossible, _⟩ := first
      cases impossible
  | call operation' next' =>
      rw [program] at first remaining
      have outside : entered ⟨job, .call operation' next'⟩ = false := by
        have later : operation'.entered? = some false := first.1.1
        simp [entered, later]
      have fresh : ∀ thread ∈ Thread.settled ⟨job, .call operation' next'⟩,
          thread = (⟨job, .call operation' next'⟩ : SyncThread) := fun thread inside =>
        List.mem_singleton.mp inside
      refine ⟨fixed, prepared_advanced tidy threads remaining fun thread new _ => ?_, ?_⟩
      · obtain rfl := fresh thread new
        intro worlds some kept
        exact program ▸ continued worlds some kept
      · have coming : after.coming := Or.inr (Or.inr ⟨_, by
          rw [remaining]
          exact List.mem_append_right _ (List.mem_append_left _ (List.mem_singleton_self _)), outside⟩)
        rw [remaining, same]
        change Inside _ _ _ _ _ ((front ++ _ :: back).filter entered)
        rw [filter_front outside]
        exact inside_mono (fun _ => coming) inside
  | done branches =>
      rw [program] at first remaining
      obtain ⟨actions, same', ordered, _, nowhere⟩ := first
      have none := nowhere rfl
      rw [none, List.map_nil, List.sublist_nil, List.map_eq_nil_iff] at ordered
      rw [ordered] at same'
      obtain rfl := Except.ok.inj same'
      refine ⟨fixed, prepared_advanced tidy threads remaining fun thread new => ?_, ?_⟩
      · exact absurd new List.not_mem_nil
      · rw [remaining, same]
        change Inside _ _ _ _ _ ((front ++ back).filter entered)
        rw [List.filter_append]
        obtain ⟨thread, _, present, _⟩ | ⟨owner, acts, insiders, distinct, stored, _⟩ := inside
        · exact absurd none present
        · refine Or.inr ⟨owner, acts, insiders, distinct, stored, fun row impossible => ?_⟩
          rw [none] at impossible
          exact absurd impossible List.not_mem_nil

end Advance

/-- An operation of a job keeps the order of the verdicts. -/
theorem tidy_advance (tidy : Tidy state.engines discordId base player) {index : Nat}
    (inTurn : InTurn state.engines discordId player (.advance index))
    (stepped : player.step state discordId (.advance index) = some after) :
    Tidy state.engines discordId base after := by
  obtain ⟨front, job, operation, next, back, value, threads, found, answered, world, remaining, owed,
    pending⟩ := advanced_cases stepped
  by_cases inside : entered ⟨job, .call operation next⟩ = true
  · have coming := coming_advance inside threads remaining owed pending
    have insiders : player.threads.filter entered =
        front.filter entered ++ ⟨job, .call operation next⟩ :: back.filter entered := by
      rw [threads, List.filter_append, List.filter_cons_of_pos inside]
    obtain ⟨thread, only, reading⟩ | ⟨owner, acts, listed, distinct, stored, balanced⟩ := tidy.inside
    · rw [insiders] at only
      obtain ⟨early, late⟩ | ⟨_, impossible⟩ := List.append_eq_singleton_iff.mp only
      · obtain ⟨rfl, last⟩ := List.cons_eq_cons.mp late
        exact tidy_reading tidy threads answered world remaining coming ⟨early, last⟩ reading
      · cases impossible
    · rw [insiders] at listed
      exact tidy_acting tidy threads answered world remaining coming listed distinct stored balanced
  · rw [Bool.not_eq_true] at inside
    cases enters : operation.enters with
    | false => exact tidy_before tidy threads answered world remaining inside enters
    | true =>
        have alone := inTurn _ found (by simpa [head?] using enters)
        exact tidy_entering tidy threads answered world remaining enters alone

/-- A change of the world that keeps the lists keeps the order inside. -/
theorem inside_changed {engines : Engines} {before world : World} {coming : Prop}
    {insiders : List SyncThread}
    (assignments : world.tables.roleAssignments = before.tables.roleAssignments)
    (remote : world.remote = before.remote)
    (inside : Inside engines discordId base before coming insiders) (later : coming) :
    Inside engines discordId base world coming insiders := by
  obtain ⟨thread, same, present, agrees, structured, _⟩ | ⟨job, acts, same, distinct, stored, balanced⟩ := inside
  · refine Or.inl ⟨thread, same, present, fun row inside => ?_, structured, Or.inl later⟩
    rw [Agrees, assignments, remote]
    exact agrees row inside
  · refine Or.inr ⟨job, acts, same, distinct, stored, fun row inside => ?_⟩
    obtain ⟨opened, closed⟩ := balanced row inside
    refine ⟨fun act member target => ⟨?_, Or.inl later⟩, fun untouched => ⟨?_, Or.inl later⟩⟩
    · rw [remote]
      exact (opened act member target).1
    · rw [Agrees, assignments, remote]
      exact (closed untouched).1

/-- A write of the facts is followed by a job that reads them. -/
theorem tidy_write (tidy : Tidy state.engines discordId base player) {outside : Web.Outside}
    {write : AccountWrite} (stepped : player.step state discordId (.write outside write) = some after) :
    Tidy state.engines discordId base after := by
  have apart : ¬(write.operation discordId).writesLinks := by
    cases write <;> exact not_false
  have kept := Web.perform_kept state outside player.world.tables apart
  unfold PlayerSystem.step at stepped
  dsimp only at stepped
  split at stepped
  · next value tables performed =>
      cases stepped
      rw [performed] at kept
      refine ⟨⟨kept.roleLinks.trans tidy.fixed.roleLinks, tidy.fixed.guildsOf⟩, tidy.prepared, ?_⟩
      have coming : 0 < player.owed + 1 := Nat.succ_pos _
      exact inside_changed kept.roleAssignments rfl
        (inside_mono (fun _ => Or.inl coming) tidy.inside) (Or.inl coming)
  · cases stepped

/-- An enqueued job will read the facts. -/
theorem tidy_enqueue (tidy : Tidy state.engines discordId base player)
    (stepped : player.step state discordId .enqueue = some after) :
    Tidy state.engines discordId base after := by
  unfold PlayerSystem.step at stepped
  dsimp only at stepped
  split at stepped
  · cases stepped
  · cases stepped
    exact ⟨tidy.fixed, tidy.prepared, inside_mono (fun _ => Or.inr (Or.inl (Nat.succ_pos _))) tidy.inside⟩

/-- A claimed job reads the facts after the claim. -/
theorem tidy_claim (tidy : Tidy state.engines discordId base player)
    (stepped : player.step state discordId .claim = some after) :
    Tidy state.engines discordId base after := by
  unfold PlayerSystem.step at stepped
  dsimp only at stepped
  split at stepped
  · cases stepped
  · cases stepped
    have outside : ∀ thread ∈ (⟨player.system.jobs,
        (Dispatch.playerSync discordId).program state.engines⟩ : SyncThread).settled,
        entered thread = false ∧ Prepared state.engines discordId base thread := by
      intro thread member
      obtain rfl := List.mem_singleton.mp member
      exact ⟨rfl, fun worlds _ within => playerSync_reads within⟩
    refine ⟨tidy.fixed, fun thread member notYet => ?_, ?_⟩
    · obtain old | fresh := List.mem_append.mp member
      · exact tidy.prepared thread old notYet
      · exact (outside thread fresh).2
    · have fresh : ((⟨player.system.jobs,
          (Dispatch.playerSync discordId).program state.engines⟩ : SyncThread).settled).filter entered = [] :=
        List.filter_eq_nil_iff.mpr fun thread member => by simp [(outside thread member).1]
      rw [List.filter_append, fresh, List.append_nil]
      refine inside_mono (fun _ => Or.inr (Or.inr ?_)) tidy.inside
      refine ⟨_, List.mem_append_right _ (List.mem_singleton_self _), ?_⟩
      exact (outside _ (List.mem_singleton_self _)).1

section Clock

variable {engines : Engines} {world : World} {now : Timestamp}

/-- The wanted actions do not depend on the clock where the verdicts do not. -/
theorem wanted_clocked (steady : Steady engines discordId world now) :
    wanted engines discordId (world.clocked now) = wanted engines discordId world := by
  refine List.filterMap_congr fun row inside => ?_
  rw [correction, correction, steady row inside]
  rfl

/-- A later clock offers no further verdict where the rules are steady. -/
theorem variants_clocked (steady : Steady engines discordId world now) :
    variants engines discordId (world.clocked now) ⊆ variants engines discordId world := by
  rintro other ⟨later, again, rfl⟩
  exact ⟨later, fun row inside => (again row inside).trans (steady row inside), rfl⟩

/-- A job that decides by the current facts still does when the clock moves past no bound. -/
theorem fresh_clocked (fixed : Fixed base world) (steady : Steady engines discordId world now)
    {program : SyncProgram (List (SyncProgram Unit))}
    (fresh : Follows (reads engines discordId base (variants engines discordId world))
      (Finishes engines discordId base (variants engines discordId world)) true program) :
    Follows (reads engines discordId base (variants engines discordId (world.clocked now)))
      (Finishes engines discordId base (variants engines discordId (world.clocked now))) true
      program := by
  have narrowed : Follows (reads engines discordId base (variants engines discordId (world.clocked now)))
      (Finishes engines discordId base (variants engines discordId world)) true program := by
    refine follows_narrow ?_ ?_ ?_ fresh
    · exact fun _ _ allowed => allowed
    · rintro entered operation answer ⟨⟨other, inside, answered⟩, succeeded⟩
      exact ⟨⟨other, variants_clocked steady inside, answered⟩, succeeded⟩
    · exact fun _ _ _ => rfl
  refine follows_mono ?_ narrowed
  rintro answer entered ⟨actions, same, ordered, decided, nowhere⟩
  refine ⟨actions, same, ordered, fun other frozen => ?_, nowhere⟩
  obtain ⟨moment, agreeing, equal⟩ := frozen.within variants_self
  obtain ⟨wants, legible⟩ := decided world (frozen_variants fixed)
  have kept := wanted_clocked agreeing
  rw [← equal, wanted_clocked steady] at kept
  have tables : other.tables = world.tables := (congrArg World.tables equal).symm
  refine ⟨wants.trans kept, fun row inside => (legible row inside).of_facts ?_ ?_⟩
  · rw [tables]
  · rw [tables]

/-- A later clock keeps the threads in order. -/
theorem inside_clocked {coming : Prop} {insiders : List SyncThread} (fixed : Fixed base world)
    (steady : Steady engines discordId world now)
    (inside : Inside engines discordId base world coming insiders) :
    Inside engines discordId base (world.clocked now) coming insiders := by
  obtain ⟨thread, same, present, agrees, structured, fresh⟩ | ⟨job, acts, same, distinct, stored, balanced⟩ := inside
  · exact Or.inl ⟨thread, same, present, agrees, structured, fresh.imp_right (fresh_clocked fixed steady)⟩
  · refine Or.inr ⟨job, acts, same, distinct, stored, fun row inside => ?_⟩
    have equal := steady row (fixed.linksOf_eq ▸ inside)
    have rows := balanced row inside
    unfold Underway Settled at *
    rw [equal]
    exact rows

end Clock

/-- A tick keeps the order of the verdicts where the rules are steady. -/
theorem tidy_tick (tidy : Tidy state.engines discordId base player) {now : Timestamp}
    (inTurn : InTurn state.engines discordId player (.tick now))
    (stepped : player.step state discordId (.tick now) = some after) :
    Tidy state.engines discordId base after := by
  cases stepped
  refine ⟨⟨tidy.fixed.roleLinks, tidy.fixed.guildsOf⟩, tidy.prepared, ?_⟩
  have kept : Inside state.engines discordId base (player.world.clocked now) player.coming
      (player.threads.filter entered) := by
    obtain later | steady := inTurn
    · refine inside_changed ?_ ?_ tidy.inside later
      · rfl
      · rfl
    · exact inside_clocked tidy.fixed steady tidy.inside
  exact kept

/-- Each step in turn keeps the order of the verdicts. -/
theorem tidy_step (tidy : Tidy state.engines discordId base player) {event : PlayerEvent}
    (inTurn : InTurn state.engines discordId player event)
    (stepped : player.step state discordId event = some after) :
    Tidy state.engines discordId base after := by
  cases event with
  | write outside write => exact tidy_write tidy stepped
  | enqueue => exact tidy_enqueue tidy stepped
  | claim => exact tidy_claim tidy stepped
  | advance index => exact tidy_advance tidy inTurn stepped
  | tick now => exact tidy_tick tidy inTurn stepped

end Steps

section Run

variable (engines : Engines) (discordId : DiscordId) (player : PlayerSystem)

/-- The player is on the list of a link of its guilds exactly if its facts satisfy the rule. -/
def FactsWin : Prop :=
  ∀ row ∈ linksOf discordId player.world,
    (discordId ∈ player.world.remote row.link ↔ meets engines discordId player.world row = true)

/-- At the start the facts have won, and the mirror agrees with RoleLogic. -/
structure SettledAtStart (world : World) : Prop where
  agrees : ∀ row ∈ linksOf discordId world, Agrees discordId world row
  wins : FactsWin engines discordId (PlayerSystem.start world)

variable {engines discordId player}

/-- A settled start is in order. -/
theorem tidy_start {world : World} (settled : SettledAtStart engines discordId world) :
    Tidy engines discordId world (PlayerSystem.start world) := by
  refine ⟨⟨rfl, rfl⟩, fun thread member => absurd member List.not_mem_nil, Or.inr ⟨0, [], rfl, ?_⟩⟩
  refine ⟨List.nodup_nil, fun act member => absurd member List.not_mem_nil, fun row inside => ?_⟩
  exact ⟨fun act member => absurd member List.not_mem_nil, fun _ =>
    ⟨settled.agrees row inside, Or.inr (settled.wins row inside)⟩⟩

/-- At rest the roles follow the last facts. -/
theorem factsWin_of_tidy {base : World} (tidy : Tidy engines discordId base player)
    (rest : player.atRest = true) : FactsWin engines discordId player := by
  simp only [PlayerSystem.atRest, Bool.and_eq_true, decide_eq_true_eq, List.isEmpty_iff] at rest
  obtain ⟨⟨none, unclaimed⟩, paid⟩ := rest
  intro row inside
  have ended : ¬player.coming := by
    rintro (owed | pending | ⟨thread, member, _⟩)
    · omega
    · omega
    · rw [none] at member
      exact absurd member List.not_mem_nil
  have empty := tidy.inside
  rw [none] at empty
  exact (agrees_of_empty empty row (tidy.fixed.linksOf_eq ▸ inside)).2.resolve_left ended

/-- Where the jobs of a player take turns, its last facts win. -/
theorem last_facts_win (state : Web.AppState) (discordId : DiscordId) (world : World)
    (events : List PlayerEvent) (last : PlayerSystem)
    (settled : SettledAtStart state.engines discordId world)
    (inTurn : EventRun.Guarded (PlayerSystem.step state discordId) (InTurn state.engines discordId)
      (PlayerSystem.start world) events)
    (ran : EventRun.run (PlayerSystem.step state discordId) (PlayerSystem.start world) events = some last)
    (rest : last.atRest = true) :
    FactsWin state.engines discordId last :=
  factsWin_of_tidy (EventRun.run_invariant (Tidy state.engines discordId world)
    (fun _ _ _ tidy inTurn stepped => tidy_step tidy inTurn stepped) (tidy_start settled) inTurn ran) rest

end Run

section Overtaken

instance (engines : Engines) (discordId : DiscordId) (player : PlayerSystem) :
    Decidable (FactsWin engines discordId player) :=
  inferInstanceAs (Decidable (∀ row ∈ linksOf discordId player.world,
    (discordId ∈ player.world.remote row.link ↔ meets engines discordId player.world row = true)))

instance (engines : Engines) (discordId : DiscordId) (player : PlayerSystem) :
    ∀ event, Decidable (InTurn engines discordId player event)
  | .advance index => inferInstanceAs (Decidable (∀ thread ∈ player.threads[index]?,
      thread.program.head?.any SyncOp.enters = true →
        ∀ other ∈ player.threads, entered other = false))
  | .tick now => inferInstanceAs (Decidable
      ((0 < player.owed ∨ 0 < player.pending ∨ ∃ thread ∈ player.threads, entered thread = false) ∨
        ∀ row ∈ linksOf discordId player.world, meets engines discordId (player.world.clocked now) row =
          meets engines discordId player.world row))
  | .write _ _ => isTrue trivial
  | .enqueue => isTrue trivial
  | .claim => isTrue trivial

/-- The link grants the role to every player, and nobody is linked. -/
def grantingStart : World :=
  Sample.grantingWorld "token" KeyedTable.Table.empty List.nodup_nil 10

def enqueues (write : AccountWrite) : List PlayerEvent :=
  [.write (Sample.alone 0) write, .enqueue, .claim]

def advances (index count : Nat) : List PlayerEvent := List.replicate count (.advance index)

def linking : AccountWrite := .link (Sample.payload 7) fun _ => none

/-- The job of the link ends before the job of the unlink enters. -/
def takingTurns : List PlayerEvent :=
  enqueues linking ++ advances 0 6 ++ enqueues .unlink ++ advances 0 6 ++ [.tick 1]

/-- The job of the link has planned its action, and the job of the unlink finds nothing to remove. -/
def overtaken : List PlayerEvent :=
  enqueues linking ++ advances 0 4 ++ enqueues .unlink ++ advances 1 4 ++ advances 0 2

/-- The sample start is settled. -/
theorem granting_settled : SettledAtStart Sample.letterEngines "1" grantingStart := by
  refine ⟨fun row _ => iff_of_false ?_ ?_, by decide +kernel⟩
  · exact Finset.notMem_empty _
  · exact Finset.notMem_empty _

/-- Two jobs of the sample take turns, and the last facts win. -/
theorem last_facts_win_in_turn :
    ∃ last, EventRun.run (PlayerSystem.step Sample.appState "1") (PlayerSystem.start grantingStart)
        takingTurns = some last ∧ FactsWin Sample.letterEngines "1" last := by
  have present : ∃ last ∈ EventRun.run (PlayerSystem.step Sample.appState "1")
      (PlayerSystem.start grantingStart) takingTurns, last.atRest = true := by decide +kernel
  obtain ⟨last, ran, rest⟩ := present
  exact ⟨last, ran, last_facts_win Sample.appState "1" grantingStart takingTurns last granting_settled
    (by decide +kernel) ran rest⟩

/-- The late action gives the role to a player that is not linked, and no job will take it away. -/
theorem last_facts_lose :
    SettledAtStart Sample.letterEngines "1" grantingStart ∧
      ∃ last ∈ EventRun.run (PlayerSystem.step Sample.appState "1") (PlayerSystem.start grantingStart)
        overtaken, last.atRest = true ∧ ¬FactsWin Sample.letterEngines "1" last :=
  ⟨granting_settled, by decide +kernel⟩

end Overtaken

end OsuPlayerRole.Sync

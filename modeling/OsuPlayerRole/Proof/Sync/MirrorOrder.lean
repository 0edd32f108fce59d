/-
This file shows when the mirror follows RoleLogic through every interleaving of the jobs.
-/
import OsuPlayerRole.Library.Replication
import OsuPlayerRole.Proof.Sample
import OsuPlayerRole.Proof.Sync.ServedWorld

namespace OsuPlayerRole.Sync

open Resumption Program Replication

/-- A status owes an update to one link. -/
def Status.owedTo (link : Link) : Status → Option Update
  | .owes other update => if other = link then some update else none
  | _ => none

/-- Every operation is served, no process stops, and only facts and rules change. -/
def Calm (system : System) : Event → Prop
  | .begin _ => True
  | .advance _ outcome => outcome = .served
  | .stop _ => False
  | .change world => FactsChange system.world world
  | .register _ _ => False

def System.statusAt (system : System) (index : Nat) : Status :=
  (system.threads[index]?.map statusOf).getD .idle

/-- A write to the mirror overtakes an earlier update of its link only if the two commute. -/
def InOrder (system : System) : Event → Prop
  | .advance index _ =>
      match system.statusAt index with
      | .owes link update => Overtakes Update.apply update (system.traced.outstanding link)
      | _ => True
  | _ => True

/-- The update that the status owes is the only one outstanding for its link. -/
def Status.Unopposed (outstanding : Link → List Update) : Status → Prop
  | .owes link update => outstanding link = [update]
  | _ => True

instance (outstanding : Link → List Update) : ∀ status, Decidable (Status.Unopposed outstanding status)
  | .owes _ _ => inferInstanceAs (Decidable (_ = _))
  | .idle => isTrue trivial
  | .rejected _ => isTrue trivial

/-- A write to the mirror finds no other update of its link outstanding. -/
def Unopposed (system : System) : Event → Prop
  | .advance index _ => (system.statusAt index).Unopposed system.traced.outstanding
  | _ => True

instance (system : System) : ∀ event, Decidable (Unopposed system event)
  | .advance index _ =>
      inferInstanceAs (Decidable ((system.statusAt index).Unopposed system.traced.outstanding))
  | .begin _ => isTrue trivial
  | .stop _ => isTrue trivial
  | .change _ => isTrue trivial
  | .register _ _ => isTrue trivial

/-- A write that no open update opposes is in order. -/
theorem inOrder_of_unopposed (system : System) (event : Event) (unopposed : Unopposed system event) :
    InOrder system event := by
  cases event with
  | advance index outcome =>
      cases status : system.statusAt index with
      | owes link update =>
          simp only [Unopposed, InOrder, Status.Unopposed, status] at unopposed ⊢
          rw [unopposed]
          exact Or.inl rfl
      | _ => simp only [InOrder, status]
  | _ => trivial

/-- The mirror and the updates that the threads still owe give the list of RoleLogic. -/
structure Accounted (known : Link → Prop) (system : System) : Prop where
  sound : ∀ thread ∈ system.threads, thread.Sound (exchange known) needs .idle
  accepted : ∀ thread ∈ system.threads, ∀ link, statusOf thread ≠ .rejected link
  stored : ∀ link, (system.world.tables.roleLinks.find link).isSome ↔ known link
  owed : ∀ link, (system.traced.outstanding link).Perm
    (system.threads.filterMap fun thread => (statusOf thread).owedTo link)
  agrees : ∀ link, Agrees Update.apply (system.world.remote link)
    (system.world.tables.roleAssignments link) (system.traced.outstanding link)

section Answered

variable {engines : Engines} {known : Link → Prop} {traced : Traced} {operation : SyncOp}

/-- The exchange of one served operation with the trace of the run. -/
structure Exchanged (engines : Engines) (traced : Traced) (operation : SyncOp) (link : Link) :
    Prop where
  accepted : ∀ other, operation.part.after (Traced.answer engines .served traced operation).1 ≠
    .rejected other
  agrees : Agrees Update.apply (traced.world.remote link) (traced.world.tables.roleAssignments link)
      (traced.outstanding link) →
    Agrees Update.apply ((Traced.answer engines .served traced operation).2.world.remote link)
      ((Traced.answer engines .served traced operation).2.world.tables.roleAssignments link)
      ((Traced.answer engines .served traced operation).2.outstanding link)
  owed : ∀ front back : List Update,
    (traced.outstanding link).Perm
      (front ++ (((needs operation).owedTo link).toList ++ back)) →
    ((Traced.answer engines .served traced operation).2.outstanding link).Perm
      (front ++ (((operation.part.after
        (Traced.answer engines .served traced operation).1).owedTo link).toList ++ back))

/-- A served operation leaves its own update open. -/
theorem answered_outstanding {value : operation.Value}
    (served : (perform engines traced.world operation).1 = .ok value) :
    (Traced.answer engines .served traced operation).2.outstanding =
      Traced.record traced.outstanding operation.part := by
  simp only [Traced.answer, answer, served]

/-- An operation outside the exchange changes nothing in it. -/
theorem exchanged_other (part : operation.part = .other) (link : Link) :
    Exchanged engines traced operation link := by
  have world : (Traced.answer engines .served traced operation).2.world = traced.world :=
    perform_other part
  have outstanding : (Traced.answer engines .served traced operation).2.outstanding =
      traced.outstanding := by
    simp only [Traced.answer, part]
    split
    · rfl
    · rfl
  have idle : operation.part.after (Traced.answer engines .served traced operation).1 = .idle := by
    rw [part]
    rfl
  have needed : needs operation = .idle := by
    unfold needs
    rw [part]
    rfl
  refine ⟨fun other => ?_, fun agrees => ?_, fun front back owed => ?_⟩
  · rw [idle]
    exact Status.noConfusion
  · rw [world, outstanding]
    exact agrees
  · rw [idle, outstanding]
    rwa [needed] at owed

/-- An accepted RoleLogic call leaves its update outstanding. -/
theorem exchanged_roleLogic {target : Link} {update : Option Update}
    (part : operation.part = .roleLogic target update) (link : Link) :
    Exchanged engines traced operation link := by
  obtain ⟨⟨value, served⟩, tables⟩ := perform_roleLogic engines traced.world part
  have remote : (Traced.answer engines .served traced operation).2.world.remote =
      (Part.roleLogic target update).onRemote traced.world.remote :=
    part ▸ perform_remote engines traced.world operation
  have mirror : (Traced.answer engines .served traced operation).2.world.tables =
      traced.world.tables := tables
  have outstanding := answered_outstanding served
  rw [part] at outstanding
  have answered : (Traced.answer engines .served traced operation).1 = .ok value := served
  have needed : needs operation = .idle := by
    unfold needs
    rw [part]
    rfl
  cases update with
  | none =>
      refine ⟨fun other => ?_, fun agrees => ?_, fun front back owed => ?_⟩
      · rw [answered, part]
        exact Status.noConfusion
      · rw [remote, mirror, outstanding]
        exact agrees
      · rw [answered, part, outstanding]
        rwa [needed] at owed
  | some update =>
      refine ⟨fun other => ?_, fun agrees => ?_, fun front back owed => ?_⟩
      · rw [answered, part]
        exact Status.noConfusion
      · rw [remote, mirror, outstanding]
        by_cases same : link = target
        · subst same
          simp only [Part.onRemote, Traced.record, Function.update_self]
          exact agrees_issue agrees update
        · simp only [Part.onRemote, Traced.record, Function.update_of_ne same]
          exact agrees
      · rw [answered, part, outstanding]
        rw [needed] at owed
        by_cases same : link = target
        · subst same
          simp only [Traced.record, Function.update_self, Part.after, Status.owedTo, if_pos]
          exact owed_issue owed update
        · simp only [Traced.record, Function.update_of_ne same, Part.after, Status.owedTo,
            if_neg (Ne.symm same)]
          exact owed

/-- A write to the mirror that overtakes only commuting updates lands in the mirror. -/
theorem exchanged_mirror {target : Link} {update : Update}
    (part : operation.part = .mirror target update)
    (stored : (traced.world.tables.roleLinks.find target).isSome)
    (distinct : ∀ other ids, operation = .replaceAssignments other ids → ids.Nodup)
    (overtakes : Overtakes Update.apply update (traced.outstanding target))
    (member : update ∈ traced.outstanding target) (link : Link) :
    Exchanged engines traced operation link := by
  obtain ⟨⟨value, served⟩, assignments⟩ :=
    perform_mirror engines traced.world part stored distinct
  have remote : (Traced.answer engines .served traced operation).2.world.remote =
      (Part.mirror target update).onRemote traced.world.remote :=
    part ▸ perform_remote engines traced.world operation
  have mirror : (Traced.answer engines .served traced operation).2.world.tables.roleAssignments =
      Function.update traced.world.tables.roleAssignments target
        (update.apply (traced.world.tables.roleAssignments target)) := assignments
  have outstanding := answered_outstanding served
  rw [part] at outstanding
  have idle : operation.part.after (Traced.answer engines .served traced operation).1 = .idle := by
    rw [part]
    rfl
  have needed : needs operation = .owes target update := by
    unfold needs
    rw [part]
    rfl
  refine ⟨fun other => ?_, fun agrees => ?_, fun front back owed => ?_⟩
  · rw [idle]
    exact Status.noConfusion
  · rw [remote, mirror, outstanding]
    by_cases same : link = target
    · subst same
      simp only [Part.onRemote, Traced.record, Function.update_self]
      exact agrees_land agrees member overtakes
    · simp only [Part.onRemote, Traced.record, Function.update_of_ne same]
      exact agrees
  · rw [idle, outstanding]
    rw [needed] at owed
    by_cases same : link = target
    · subst same
      simp only [Traced.record, Function.update_self, Status.owedTo, if_pos] at owed ⊢
      exact owed_land owed
    · simp only [Traced.record, Function.update_of_ne same, Status.owedTo,
        if_neg (Ne.symm same)] at owed ⊢
      exact owed

end Answered

section Step

variable {engines : Engines} {known : Link → Prop} {system after : System}

/-- A new job owes nothing. -/
theorem accounted_begin (accounted : Accounted known system) (dispatch : Dispatch) :
    Accounted known { system with
      threads := system.threads ++
        (⟨system.jobs, dispatch.program engines⟩ : SyncThread).settled
      jobs := system.jobs + 1 } := by
  have follows := dispatch_follows known engines dispatch
  refine ⟨fun thread member => ?_, fun thread member link => ?_, accounted.stored,
    fun link => ?_, accounted.agrees⟩
  · obtain old | fresh := List.mem_append.mp member
    · exact accounted.sound thread old
    · exact sound_settled exchange_directed follows thread fresh
  · obtain old | fresh := List.mem_append.mp member
    · exact accounted.accepted thread old link
    · have idle : statusOf thread = .idle := by
        obtain same | same := status_settled exchange_directed follows thread fresh <;> exact same
      rw [idle]
      exact Status.noConfusion
  · have none_owed := marks_settled exchange_directed (Status.owedTo link) rfl system.jobs follows
    have added : (Status.owedTo link .idle).toList = [] := rfl
    rw [List.filterMap_append, none_owed, added, List.append_nil]
    exact accounted.owed link

/-- A change of the facts keeps the account of the mirrors. -/
theorem accounted_change (accounted : Accounted known system) {world : World}
    (change : FactsChange system.world world) :
    Accounted known { system with traced := { system.traced with world } } := by
  refine ⟨accounted.sound, accounted.accepted, fun link => ?_, accounted.owed, fun link => ?_⟩
  · rw [change.links]
    exact accounted.stored link
  · change Agrees Update.apply (world.remote link) (world.tables.roleAssignments link) _
    rw [change.remote, change.assignments]
    exact accounted.agrees link

/-- The thread at hand owes its update, and the trace lists it. -/
theorem owed_of_mirror (accounted : Accounted known system) {thread : SyncThread}
    (member : thread ∈ system.threads) {link : Link} {update : Update}
    (owes : (statusOf thread).owedTo link = some update) :
    update ∈ system.traced.outstanding link :=
  (accounted.owed link).mem_iff.mpr (List.mem_filterMap.mpr ⟨thread, member, owes⟩)

/-- An operation in order keeps the account of the mirrors. -/
theorem accounted_advance (accounted : Accounted known system) {index : Nat}
    (inOrder : InOrder system (.advance index .served))
    (stepped : system.step engines (.advance index .served) = some after) :
    Accounted known after := by
  obtain ⟨⟨traced, threads⟩, advanced, rfl⟩ := Option.map_eq_some_iff.mp stepped
  obtain ⟨front, job, operation, next, back, split, found, rfl, rfl⟩ := advance_cases advanced
  have member : (⟨job, .call operation next⟩ : SyncThread) ∈ system.threads := by
    rw [split]
    exact List.mem_append_right front List.mem_cons_self
  obtain ⟨⟨_, admissible⟩, continued⟩ := accounted.sound _ member
  have expected : Plausible known operation
      (Traced.answer engines .served system.traced operation).1 :=
    plausible_perform fun link => (accounted.stored link).mp
  have follows := continued _ expected
  have exchanged : ∀ link, Exchanged engines system.traced operation link := by
    intro link
    cases part : operation.part with
    | other => exact exchanged_other part link
    | roleLogic target update => exact exchanged_roleLogic part link
    | orphan target =>
        have rejected : statusOf ⟨job, .call operation next⟩ = .rejected target := by
          change operation.part.needs = _
          rw [part]
          rfl
        exact absurd rejected (accounted.accepted _ member target)
    | mirror target update =>
        have owes : statusOf ⟨job, .call operation next⟩ = .owes target update := by
          change operation.part.needs = _
          rw [part]
          rfl
        have overtakes : Overtakes Update.apply update (system.traced.outstanding target) := by
          have here : system.statusAt index = .owes target update := by
            rw [System.statusAt, found, Option.map_some, Option.getD_some, owes]
          simpa only [InOrder, here] using inOrder
        have listed : (statusOf ⟨job, .call operation next⟩).owedTo target = some update := by
          rw [owes]
          exact if_pos rfl
        exact exchanged_mirror part
          ((accounted.stored target).mpr (admissible.stored target update part))
          admissible.distinct overtakes (owed_of_mirror accounted member listed) link
  have kept : ∀ target, operation.part ≠ .orphan target := by
    intro target part
    refine accounted.accepted _ member target ?_
    change operation.part.needs = _
    rw [part]
    rfl
  refine ⟨fun thread inside => ?_, fun thread inside link => ?_, fun link => ?_, fun link => ?_,
    fun link => (exchanged link).agrees (accounted.agrees link)⟩
  · obtain old | fresh := mem_advanced inside
    · exact accounted.sound thread (split ▸ old)
    · exact sound_settled exchange_directed follows thread fresh
  · obtain old | fresh := mem_advanced inside
    · exact accounted.accepted thread (split ▸ old) link
    · obtain idle | same := status_settled exchange_directed follows thread fresh
      · rw [show statusOf thread = .idle from idle]
        exact Status.noConfusion
      · rw [show statusOf thread = operation.part.after _ from same]
        exact (exchanged link).accepted link
  · have links : (perform engines system.world operation).2.tables.roleLinks =
        system.world.tables.roleLinks := perform_links kept
    change ((perform engines system.world operation).2.tables.roleLinks.find link).isSome ↔ _
    rw [links]
    exact accounted.stored link
  · have marks := marks_settled exchange_directed (Status.owedTo link) rfl job follows
    have owed := accounted.owed link
    have cell : ∀ others : List SyncThread,
        (((⟨job, .call operation next⟩ : SyncThread) :: others).filterMap fun thread =>
          (statusOf thread).owedTo link) =
        ((needs operation).owedTo link).toList ++
          others.filterMap fun thread => (statusOf thread).owedTo link := by
      intro others
      have status : statusOf ⟨job, .call operation next⟩ = needs operation := rfl
      rw [List.filterMap_cons, status]
      cases (needs operation).owedTo link <;> rfl
    rw [split, List.filterMap_append, cell] at owed
    change ((Traced.answer engines .served system.traced operation).2.outstanding link).Perm
      ((front ++ (_ ++ back)).filterMap _)
    rw [List.filterMap_append, List.filterMap_append, marks]
    exact (exchanged link).owed _ _ owed

/-- So does every calm step. -/
theorem accounted_step (accounted : Accounted known system) {event : Event}
    (calm : Calm system event) (inOrder : InOrder system event)
    (stepped : system.step engines event = some after) : Accounted known after := by
  cases event with
  | begin dispatch =>
      cases stepped
      exact accounted_begin accounted dispatch
  | advance index outcome =>
      cases calm
      exact accounted_advance accounted inOrder stepped
  | stop job => exact calm.elim
  | change world =>
      cases stepped
      exact accounted_change accounted calm
  | register link token => exact calm.elim

end Step

/-- The account holds at the start, where the mirrors agree with RoleLogic. -/
theorem accounted_start {world : World}
    (agree : ∀ link, world.tables.roleAssignments link = world.remote link) :
    Accounted (fun link => (world.tables.roleLinks.find link).isSome) (System.start world) where
  sound _ member := absurd member List.not_mem_nil
  accepted _ member := absurd member List.not_mem_nil
  stored _ := Iff.rfl
  owed _ := List.Perm.nil
  agrees link := (agree link).symm

/-- Without open updates the mirror is the list of RoleLogic. -/
theorem accounted_quiet {known : Link → Prop} {system : System} (accounted : Accounted known system)
    (quiet : system.quiet) (link : Link) :
    system.world.tables.roleAssignments link = system.world.remote link := by
  have ended : system.threads = [] := List.isEmpty_iff.mp quiet
  have settled : system.traced.outstanding link = [] := by
    have owed := accounted.owed link
    rw [ended] at owed
    exact owed.eq_nil
  have agrees := accounted.agrees link
  rw [settled] at agrees
  exact agrees_settled agrees

/-- An event of a job whose operations are all served. -/
def Event.ordinary : Event → Bool
  | .begin _ => true
  | .advance _ outcome => outcome = .served
  | _ => false

/-- A run of ordinary events is calm. -/
theorem calm_of_ordinary {engines : Engines} {system : System} {events : List Event}
    (ordinary : events.all Event.ordinary) :
    EventRun.Guarded (System.step engines) Calm system events := by
  refine EventRun.guarded_of_events fun event inside before => ?_
  have plain := List.all_eq_true.mp ordinary event inside
  cases event with
  | begin dispatch => trivial
  | advance index outcome => simpa [Event.ordinary, Calm] using plain
  | _ => cases plain

/-- When every write to the mirror is in order, the mirror agrees with RoleLogic whenever no job is in
the middle of its steps. -/
theorem mirror_agrees_in_order (engines : Engines) (world : World) (events : List Event) (last : System)
    (agree : ∀ link, world.tables.roleAssignments link = world.remote link)
    (calm : EventRun.Guarded (System.step engines) Calm (System.start world) events)
    (inOrder : EventRun.Guarded (System.step engines) InOrder (System.start world) events)
    (ran : EventRun.run (System.step engines) (System.start world) events = some last)
    (quiet : last.quiet) (link : Link) :
    last.world.tables.roleAssignments link = last.world.remote link := by
  have both := EventRun.guarded_and calm inOrder
  have accounted := EventRun.run_invariant _
    (fun system event after invariant guarded stepped =>
      accounted_step invariant guarded.1 guarded.2 stepped)
    (accounted_start agree) both ran
  exact accounted_quiet accounted quiet link

section Overtaken

/-- Two linked players are members of a guild whose link has room for one. -/
def crowdedWorld : World :=
  Sample.grantingWorld "token" ⟨[Sample.user "1" 7, Sample.user "2" 8], by decide⟩ (by decide) 1

/-- The link job reads the mirror, the player job adds its user upstream, the link job replaces both
lists, and the player job writes its user last. -/
def overtaking : List Event :=
  .begin (.configSync Sample.link) :: List.replicate 5 (.advance 0 .served) ++
    .begin (.playerSync "2") :: List.replicate 5 (.advance 1 .served) ++
      List.replicate 3 (.advance 0 .served)

/-- The mirror keeps a user that RoleLogic no longer lists, and every job is over. -/
theorem mirror_overtaken :
    (∀ link, crowdedWorld.tables.roleAssignments link = crowdedWorld.remote link) ∧
      EventRun.Guarded (System.step Sample.letterEngines) Calm (System.start crowdedWorld) overtaking ∧
      (EventRun.run (System.step Sample.letterEngines) (System.start crowdedWorld) overtaking).map
        (fun last => (last.quiet, last.world.tables.roleAssignments Sample.link,
          last.world.remote Sample.link)) = some (true, {"1", "2"}, {"1"}) := by
  refine ⟨fun _ => rfl, calm_of_ordinary (by decide), by decide +kernel⟩

/-- The player job finishes before the link job begins. -/
def oneByOne : List Event :=
  .begin (.playerSync "2") :: List.replicate 6 (.advance 0 .served) ++
    .begin (.configSync Sample.link) :: List.replicate 7 (.advance 0 .served)

def oneByOneLast : System :=
  (EventRun.run (System.step Sample.letterEngines) (System.start crowdedWorld) oneByOne).get
    (by decide +kernel)

theorem mirror_agrees_one_by_one :
    oneByOneLast.world.tables.roleAssignments Sample.link = oneByOneLast.world.remote Sample.link :=
  mirror_agrees_in_order Sample.letterEngines crowdedWorld oneByOne oneByOneLast (fun _ => rfl)
    (calm_of_ordinary (by decide))
    (EventRun.guarded_mono inOrder_of_unopposed (by decide +kernel))
    (Option.some_get _).symm (by decide +kernel) Sample.link

end Overtaken

end OsuPlayerRole.Sync

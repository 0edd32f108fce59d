/-
This file shows when the config syncs of one link collapse into one pending job.
-/
import OsuPlayerRole.Library.EventRun
import OsuPlayerRole.Proof.Jobs.QueueStep
import OsuPlayerRole.Proof.Sample

namespace OsuPlayerRole.JobWorker

open Jobs KeyedTable

/-- The debounce of `enqueue_config_sync`. -/
def debounce : Int := 5 * second

/-- The link that a config sync is about. -/
def linkOf (kind : String) (payload : Json.Value) : Option Link :=
  if kind = "config_sync" then
    match textOf payload "guild_id", textOf payload "role_id" with
    | some guildId, some roleId => some (guildId, roleId)
    | _, _ => none
  else none

def configLink (row : Job) : Option Link := linkOf row.kind row.payload.value

/-- Every config sync is enqueued by `enqueue_config_sync`. -/
def Event.debounced : Event → Prop
  | .enqueue kind _ delaySecs => kind = "config_sync" → delaySecs = 5
  | _ => True

/-- The step makes no config sync pending beside another one of its link. -/
def Rivalless (system : System) : Event → Prop
  | .enqueue kind payload _ => ∀ link, linkOf kind payload = some link →
      ∀ row ∈ system.tables.jobs.rows, configLink row = some link → row.status ≠ .pending
  | .step index input => ∀ worker ∈ system.workers[index]?, input.refused = false →
      ∀ row ∈ system.tables.jobs.rows, returns system.now worker row = true →
        ∀ link, configLink row = some link →
          ∀ other ∈ system.tables.jobs.rows, configLink other = some link → other.id ≠ row.id →
            other.status ≠ .pending ∧ returns system.now worker other = false
  | _ => True

instance decidableDebounced (event : Event) : Decidable event.debounced :=
  match event with
  | .enqueue kind _ delaySecs => inferInstanceAs (Decidable (kind = "config_sync" → delaySecs = 5))
  | .tick _ | .start _ | .trigger _ | .crash _ | .step _ _ | .gcDead | .gcCompleted => isTrue trivial

instance decidableRivalless (system : System) (event : Event) : Decidable (Rivalless system event) :=
  match event with
  | .enqueue kind payload _ => inferInstanceAs (Decidable (∀ link ∈ linkOf kind payload,
      ∀ row ∈ system.tables.jobs.rows, configLink row = some link → row.status ≠ .pending))
  | .step index input => inferInstanceAs (Decidable (∀ worker ∈ system.workers[index]?,
      input.refused = false → ∀ row ∈ system.tables.jobs.rows, returns system.now worker row = true →
        ∀ link ∈ configLink row, ∀ other ∈ system.tables.jobs.rows, configLink other = some link →
          other.id ≠ row.id → other.status ≠ .pending ∧ returns system.now worker other = false))
  | .tick _ | .start _ | .trigger _ | .crash _ | .gcDead | .gcCompleted => isTrue trivial

/-- At most one config sync of a link is pending, and two of them were enqueued apart. -/
structure Collapsed (tables : Tables) : Prop where
  single : ∀ link, ∀ row ∈ tables.jobs.rows, ∀ other ∈ tables.jobs.rows,
    configLink row = some link → configLink other = some link →
      row.status = .pending → other.status = .pending → row = other
  apart : ∀ link, ∀ row ∈ tables.jobs.rows, ∀ other ∈ tables.jobs.rows,
    configLink row = some link → configLink other = some link →
      row.id < other.id → row.createdAt + debounce ≤ other.createdAt

/-- A config sync that the step claims has waited for every job of its link to be old enough. -/
def ClaimsLate (texts : ErrorTexts) (batchSize : Nat) (system : System) (event : Event) : Prop :=
  ∀ after ∈ system.step texts batchSize event, ∀ link,
    ∀ row ∈ system.tables.jobs.rows, configLink row = some link →
      after.claims row.id ≠ system.claims row.id →
        ∀ other ∈ system.tables.jobs.rows, configLink other = some link →
          other.createdAt + debounce ≤ system.now

/-- The jobs of the batch that the worker still has to report. -/
def Phase.held : Phase → List ClaimedJob
  | .batch rest => rest
  | .running job rest | .settle job _ rest => job :: rest
  | _ => []

/-- A row keeps its job. -/
structure SameJob (old row : Job) : Prop where
  id : row.id = old.id
  link : configLink row = configLink old
  createdAt : row.createdAt = old.createdAt

/-- What one step of a worker does to a row. -/
inductive Moves (now : Timestamp) (worker : Worker) (old : Job) : Job → Prop where
  | kept : Moves now worker old old
  | claimed {row : Job} (same : SameJob old row) (waited : old.status = .pending)
      (due : old.nextRunAt ≤ now) (taken : row.status ≠ .pending) : Moves now worker old row
  | returned {row : Job} (same : SameJob old row) (returned : returns now worker old = true)
      (begun : old.status ≠ .pending ∨ ∃ job ∈ worker.phase.held, job.id = old.id)
      (delayed : now ≤ row.nextRunAt) : Moves now worker old row
  | ended {row : Job} (same : SameJob old row) (held : ∃ job ∈ worker.phase.held, job.id = old.id)
      (finished : row.status ≠ .pending) : Moves now worker old row

section Steps

variable {texts : ErrorTexts} {batchSize : Nat} {now : Timestamp} {worker moved : Worker}
  {tables written : Tables} {old row : Job}

theorem Moves.same (moves : Moves now worker old row) : SameJob old row := by
  cases moves with
  | kept => exact ⟨rfl, rfl, rfl⟩
  | claimed same _ _ _ => exact same
  | returned same _ _ _ => exact same
  | ended same _ _ => exact same

theorem backoffDelay_nonneg (attempt : Int4) (jitterMs : Nat) : 0 ≤ backoffDelay attempt jitterMs := by
  have base : (0 : Int) ≤ 2 ^ (max 1 (min 8 attempt.val)).toNat := Int.pow_nonneg (by decide)
  unfold backoffDelay
  omega

/-- A claim moves the rows that it takes, and they were pending and due. -/
theorem moves_claim {workerId : String} {skipped : List Nat} {order : RowOrder} {jobs : List ClaimedJob}
    (claimed : claimBatch now workerId batchSize skipped order tables = .ok (jobs, written))
    (member : row ∈ written.jobs.rows) : ∃ old ∈ tables.jobs.rows, Moves now worker old row := by
  obtain ⟨_, _, rfl⟩ := claimBatch_ok claimed
  obtain ⟨old, _⟩ | ⟨old, inside, named, rfl⟩ := mem_changeWhere member
  · exact ⟨row, old, .kept⟩
  · obtain ⟨_, due⟩ := mem_toClaim (taken_of_id inside named)
    rw [ready, Bool.and_eq_true, Bool.and_eq_true, decide_eq_true_eq, decide_eq_true_eq] at due
    exact ⟨old, inside, .claimed ⟨rfl, rfl, rfl⟩ due.1.1 due.1.2 fun same => by cases same⟩

/-- Every row comes from an old row in one of these ways. -/
theorem moves_of_steps (steps : Steps texts batchSize now tables worker moved written)
    (member : row ∈ written.jobs.rows) : ∃ old ∈ tables.jobs.rows, Moves now worker old row := by
  cases steps with
  | reaped place due =>
      obtain ⟨old, _⟩ | ⟨old, inside, stale, rfl⟩ := mem_changeWhere member
      · exact ⟨row, old, .kept⟩
      · have begun : old.status ≠ .pending := by
          rw [stuck, Bool.and_eq_true, decide_eq_true_eq] at stale
          rw [stale.1]
          intro same
          cases same
        refine ⟨old, inside, .returned ⟨rfl, rfl, rfl⟩ ?_ (Or.inl begun) le_rfl⟩
        simp only [returns, place, due, stale, decide_true, Bool.and_self]
  | idle skipped after place claimed | claimed skipped job rest after place claimed =>
      exact moves_claim claimed member
  | reported job outcome rest jitterMs after place performed =>
      rw [perform_ok performed] at member
      obtain ⟨old, _⟩ | ⟨old, inside, named, rfl⟩ := mem_changeWhere member
      · exact ⟨row, old, .kept⟩
      · have mine : ∃ job ∈ worker.phase.held, job.id = old.id := by
          rw [place]
          exact ⟨job, List.mem_cons_self, (of_decide_eq_true named).symm⟩
        refine ⟨old, inside, ?_⟩
        cases outcome with
        | complete => exact .ended ⟨rfl, rfl, rfl⟩ mine fun same => by cases same
        | failDead message => exact .ended ⟨rfl, rfl, rfl⟩ mine fun same => by cases same
        | failRetry message =>
            refine .returned ⟨rfl, rfl, rfl⟩ ?_ (Or.inr mine) ?_
            · rw [returns, place]
              exact named
            · exact Int.le_add_of_nonneg_right (backoffDelay_nonneg _ _)
  | _ => exact ⟨row, member, .kept⟩

/-- A job that the worker holds has been held before, or the step has claimed it. -/
theorem held_of_steps {job : ClaimedJob} (steps : Steps texts batchSize now tables worker moved written)
    (held : job ∈ moved.phase.held) : job ∈ worker.phase.held ∨ job.id ∈ newClaims worker moved := by
  cases steps with
  | claimed skipped head rest after place claimed =>
      refine Or.inr ?_
      rw [newClaims_batch place rfl]
      exact List.mem_map_of_mem held
  | released guard head rest place told | started guard head rest place told
  | ended head rest result place =>
      refine Or.inl ?_
      rw [place]
      exact held
  | reported head outcome rest jitterMs after place performed | unreported head outcome rest place =>
      refine Or.inl ?_
      rw [place]
      exact List.mem_cons_of_mem _ held
  | observed | polled | reaped | spared | unclaimed | idle | woken | again => cases held

/-- A claimed row was pending and due. -/
theorem due_of_claim {id : Nat} (steps : Steps texts batchSize now tables worker moved written)
    (new : id ∈ newClaims worker moved) :
    ∃ row ∈ tables.jobs.rows, row.id = id ∧ row.status = .pending ∧ row.nextRunAt ≤ now := by
  obtain ⟨skipped, order, jobs, claimed, named⟩ := claims_of_steps steps new
  obtain ⟨row, taken, rfl⟩ := List.mem_map.mp ((claimBatch_ids claimed id).mp named)
  obtain ⟨member, due⟩ := mem_toClaim taken
  rw [ready, Bool.and_eq_true, Bool.and_eq_true, decide_eq_true_eq, decide_eq_true_eq] at due
  exact ⟨row, member, rfl, due.1.1, due.1.2⟩

end Steps

section Invariant

/-- The state of the queue while no config sync has had a rival. -/
structure Spread (tables : Tables) (now : Timestamp) (workers : List Worker) : Prop
    extends Collapsed tables where
  due : ∀ row ∈ tables.jobs.rows, (configLink row).isSome → row.status = .pending →
    row.createdAt + debounce ≤ row.nextRunAt
  late : ∀ row ∈ tables.jobs.rows, (configLink row).isSome → row.status ≠ .pending →
    row.createdAt + debounce ≤ now
  held : ∀ worker ∈ workers, ∀ job ∈ worker.phase.held, job.id < tables.jobSequence ∧
    ∀ row ∈ tables.jobs.rows, row.id = job.id → (configLink row).isSome → row.createdAt + debounce ≤ now

variable {texts : ErrorTexts} {batchSize : Nat} {now later : Timestamp} {workers others : List Worker}
  {tables written : Tables} {system after : System}

/-- A shorter queue and a later moment leave the queue spread. -/
theorem Spread.mono (spread : Spread tables now workers) (time : now ≤ later)
    (rows : ∀ row ∈ written.jobs.rows, row ∈ tables.jobs.rows)
    (sequence : written.jobSequence = tables.jobSequence)
    (busy : ∀ worker ∈ others, ∀ job ∈ worker.phase.held, ∃ old ∈ workers, job ∈ old.phase.held) :
    Spread written later others where
  single link row member other second := spread.single link row (rows row member) other (rows other second)
  apart link row member other second := spread.apart link row (rows row member) other (rows other second)
  due row member := spread.due row (rows row member)
  late row member named begun := (spread.late row (rows row member) named begun).trans time
  held worker member job held := by
    obtain ⟨old, inside, before⟩ := busy worker member job held
    obtain ⟨drawn, aged⟩ := spread.held old inside job before
    rw [sequence]
    exact ⟨drawn, fun row stored same named => (aged row (rows row stored) same named).trans time⟩

/-- The enqueued row has what the statement writes. -/
theorem enqueued_row {kind : String} {payload : Json.Value} {delaySecs : Nat}
    (enqueued : tables.enqueue now kind payload delaySecs = .ok written) :
    ∃ fresh : Job, fresh.id = tables.jobSequence ∧ fresh.status = .pending ∧
      configLink fresh = linkOf kind payload ∧ fresh.createdAt = now ∧
      fresh.nextRunAt = now + delaySecs * second ∧
      ∀ row, row ∈ written.jobs.rows ↔ row ∈ tables.jobs.rows ∨ row = fresh := by
  obtain ⟨stored, accepted, remaining⟩ := Checked.bind_ok enqueued
  cases remaining
  have same : stored.value = payload := by
    unfold RuleSql.jsonb at accepted
    split at accepted
    · cases accepted
      rfl
    · cases accepted
  have below : ∀ other ∈ tables.jobs.rows, other.id ≠ tables.jobSequence :=
    fun other member => Nat.ne_of_lt (tables.jobsBelow other member)
  refine ⟨Tables.freshJob now tables.jobSequence kind stored delaySecs, rfl, rfl, ?_, rfl, rfl,
    fun row => ?_⟩
  · rw [← same]
    rfl
  · change row ∈ (tables.jobs.insertNew
      (Tables.freshJob now tables.jobSequence kind stored delaySecs) below).rows ↔ _
    exact Table.mem_insertNew

theorem config_of_link {kind : String} {payload : Json.Value} (named : (linkOf kind payload).isSome) :
    kind = "config_sync" := by
  unfold linkOf at named
  split at named
  · next same => exact same
  · cases named

/-- A config sync is enqueued while no other one of its link is pending. -/
theorem Spread.enqueued {kind : String} {payload : Json.Value} {delaySecs : Nat}
    (spread : Spread tables now workers) (delayed : kind = "config_sync" → delaySecs = 5)
    (rivalless : ∀ link, linkOf kind payload = some link →
      ∀ row ∈ tables.jobs.rows, configLink row = some link → row.status ≠ .pending)
    (enqueued : tables.enqueue now kind payload delaySecs = .ok written) :
    Spread written now workers := by
  have sequence := enqueue_sequence enqueued
  obtain ⟨fresh, new, pending, about, created, next, rows⟩ := enqueued_row enqueued
  -- The older jobs of the link have been claimed, so they are old enough.
  have older {link : Link} {row : Job} (named : configLink row = some link)
      (renamed : configLink fresh = some link) (member : row ∈ tables.jobs.rows) :
      row.createdAt + debounce ≤ now := by
    refine spread.late row member (by rw [named]; rfl) ?_
    exact rivalless link (about.symm.trans renamed) row member named
  have unused {row : Job} (member : row ∈ tables.jobs.rows) : row.id < fresh.id := by
    rw [new]
    exact tables.jobsBelow row member
  constructor
  · constructor
    · intro link row member other second named renamed waits waiting
      rcases (rows row).mp member with old | rfl
      · rcases (rows other).mp second with before | rfl
        · exact spread.single link row old other before named renamed waits waiting
        · exact absurd waits (rivalless link (about.symm.trans renamed) row old named)
      · rcases (rows other).mp second with before | rfl
        · exact absurd waiting (rivalless link (about.symm.trans named) other before renamed)
        · rfl
    · intro link row member other second named renamed order
      rcases (rows row).mp member with old | rfl
      · rcases (rows other).mp second with before | rfl
        · exact spread.apart link row old other before named renamed order
        · rw [created]
          exact older named renamed old
      · rcases (rows other).mp second with before | rfl
        · exact absurd order (Nat.lt_asymm (unused before))
        · exact absurd order (Nat.lt_irrefl _)
  · intro row member named waits
    rcases (rows row).mp member with old | rfl
    · exact spread.due row old named waits
    · rw [about] at named
      rw [created, next, delayed (config_of_link named), debounce]
      exact le_rfl
  · intro row member named begun
    rcases (rows row).mp member with old | rfl
    · exact spread.late row old named begun
    · exact absurd pending begun
  · intro worker member job held
    obtain ⟨drawn, aged⟩ := spread.held worker member job held
    refine ⟨by omega, fun row inside same named => ?_⟩
    rcases (rows row).mp inside with old | rfl
    · exact aged row old same named
    · omega

/-- A claimed row is old enough. -/
theorem Spread.aged_of_due {row : Job} (spread : Spread tables now workers)
    (member : row ∈ tables.jobs.rows) (named : (configLink row).isSome) (pending : row.status = .pending)
    (due : row.nextRunAt ≤ now) : row.createdAt + debounce ≤ now :=
  (spread.due row member named pending).trans due

/-- A row that has been begun is old enough. -/
theorem Spread.aged_of_begun {row : Job} {worker : Worker} (spread : Spread tables now workers)
    (busy : worker ∈ workers) (member : row ∈ tables.jobs.rows) (named : (configLink row).isSome)
    (begun : row.status ≠ .pending ∨ ∃ job ∈ worker.phase.held, job.id = row.id) :
    row.createdAt + debounce ≤ now := by
  rcases begun with taken | ⟨job, held, same⟩
  · exact spread.late row member named taken
  · exact (spread.held worker busy job held).2 row member same.symm named

/-- A step of a worker returns no config sync beside a pending one of its link. -/
theorem Spread.steps {worker moved : Worker} {index : Nat} (spread : Spread tables now workers)
    (found : workers[index]? = some worker)
    (steps : Steps texts batchSize now tables worker moved written)
    (rivalless : written = tables ∨ ∀ row ∈ tables.jobs.rows, returns now worker row = true →
      ∀ link, configLink row = some link →
        ∀ other ∈ tables.jobs.rows, configLink other = some link → other.id ≠ row.id →
          other.status ≠ .pending ∧ returns now worker other = false) :
    Spread written now (workers.set index moved) := by
  have busy : worker ∈ workers := List.mem_of_getElem? found
  have origin {row : Job} (member : row ∈ written.jobs.rows) :
      ∃ old ∈ tables.jobs.rows, Moves now worker old row := moves_of_steps steps member
  constructor
  · constructor
    · intro link row member other second named renamed waits waiting
      rcases rivalless with same | rivalless
      · rw [same] at member second
        exact spread.single link row member other second named renamed waits waiting
      · obtain ⟨old, inside, moves⟩ := origin member
        obtain ⟨before, within, shifts⟩ := origin second
        have first : configLink old = some link := moves.same.link.symm.trans named
        have last : configLink before = some link := shifts.same.link.symm.trans renamed
        by_cases equal : row.id = other.id
        · exact written.jobs.eq_of_key member second equal
        · have distinct : old.id ≠ before.id := by
            rw [← moves.same.id, ← shifts.same.id]
            exact equal
          cases moves with
          | kept =>
              cases shifts with
              | kept => exact spread.single link _ inside _ within named renamed waits waiting
              | claimed _ _ _ taken => exact absurd waiting taken
              | returned _ returned _ _ =>
                  exact absurd waits (rivalless _ within returned link last _ inside first distinct).1
              | ended _ _ finished => exact absurd waiting finished
          | claimed _ _ _ taken => exact absurd waits taken
          | returned _ returned _ _ =>
              obtain ⟨idle, unreturned⟩ :=
                rivalless _ inside returned link first _ within last distinct.symm
              cases shifts with
              | kept => exact absurd waiting idle
              | claimed _ _ _ taken => exact absurd waiting taken
              | returned _ again _ _ =>
                  rw [unreturned] at again
                  cases again
              | ended _ _ finished => exact absurd waiting finished
          | ended _ _ finished => exact absurd waits finished
    · intro link row member other second named renamed order
      obtain ⟨old, inside, moves⟩ := origin member
      obtain ⟨before, within, shifts⟩ := origin second
      rw [moves.same.link] at named
      rw [shifts.same.link] at renamed
      rw [moves.same.id, shifts.same.id] at order
      rw [moves.same.createdAt, shifts.same.createdAt]
      exact spread.apart link old inside before within named renamed order
  · intro row member named waits
    obtain ⟨old, inside, moves⟩ := origin member
    rw [moves.same.link] at named
    cases moves with
    | kept => exact spread.due row inside named waits
    | claimed _ _ _ taken => exact absurd waits taken
    | returned same _ begun delayed =>
        rw [same.createdAt]
        exact (spread.aged_of_begun busy inside named begun).trans delayed
    | ended _ _ finished => exact absurd waits finished
  · intro row member named taken
    obtain ⟨old, inside, moves⟩ := origin member
    rw [moves.same.link] at named
    cases moves with
    | kept => exact spread.late row inside named taken
    | claimed same waited due _ =>
        rw [same.createdAt]
        exact spread.aged_of_due inside named waited due
    | returned same _ begun _ =>
        rw [same.createdAt]
        exact spread.aged_of_begun busy inside named begun
    | ended same held _ =>
        rw [same.createdAt]
        exact spread.aged_of_begun busy inside named (Or.inr held)
  · intro other member job held
    rw [jobSequence_of_steps steps]
    have before {waiter : Worker} (present : waiter ∈ workers) (holds : job ∈ waiter.phase.held) :
        job.id < tables.jobSequence ∧ ∀ row ∈ written.jobs.rows, row.id = job.id →
          (configLink row).isSome → row.createdAt + debounce ≤ now := by
      obtain ⟨drawn, aged⟩ := spread.held waiter present job holds
      refine ⟨drawn, fun row stored same named => ?_⟩
      obtain ⟨old, inside, moves⟩ := origin stored
      rw [moves.same.link] at named
      rw [moves.same.createdAt]
      exact aged old inside (moves.same.id.symm.trans same) named
    rcases List.mem_or_eq_of_mem_set member with present | rfl
    · exact before present held
    · rcases held_of_steps steps held with holds | new
      · exact before busy holds
      · obtain ⟨claimed, stored, own, waited, due⟩ := due_of_claim steps new
        refine ⟨own ▸ tables.jobsBelow claimed stored, fun row written same named => ?_⟩
        obtain ⟨old, inside, moves⟩ := origin written
        obtain rfl : old = claimed :=
          tables.jobs.eq_of_key inside stored ((moves.same.id.symm.trans same).trans own.symm)
        rw [moves.same.link] at named
        rw [moves.same.createdAt]
        exact spread.aged_of_due inside named waited due

theorem Spread.step {event : Event} (spread : Spread system.tables system.now system.workers)
    (debounced : event.debounced) (rivalless : Rivalless system event)
    (stepped : system.step texts batchSize event = some after) :
    Spread after.tables after.now after.workers := by
  cases event with
  | tick elapsed =>
      cases stepped
      refine spread.mono (Int.le_add_of_nonneg_right (Int.natCast_nonneg elapsed))
        (fun _ member => member) rfl fun worker member job held => ⟨worker, member, held⟩
  | enqueue kind payload delaySecs =>
      cases stepped
      dsimp only
      split
      · next enqueued => exact spread.enqueued debounced rivalless enqueued
      · exact spread
  | start workerId =>
      cases stepped
      refine spread.mono le_rfl (fun _ member => member) rfl fun worker member job held => ?_
      rcases List.mem_append.mp member with old | new
      · exact ⟨worker, old, held⟩
      · rw [List.mem_singleton.mp new] at held
        cases held
  | trigger index =>
      obtain ⟨worker, found, rfl⟩ := Option.map_eq_some_iff.mp stepped
      refine spread.mono le_rfl (fun _ member => member) rfl fun other member job held => ?_
      rcases List.mem_or_eq_of_mem_set member with old | rfl
      · exact ⟨other, old, held⟩
      · exact ⟨worker, List.mem_of_getElem? found, held⟩
  | crash index =>
      obtain ⟨worker, found, rfl⟩ := Option.map_eq_some_iff.mp stepped
      refine spread.mono le_rfl (fun _ member => member) rfl fun other member job held => ?_
      rcases List.mem_or_eq_of_mem_set member with old | rfl
      · exact ⟨other, old, held⟩
      · cases held
  | step index input =>
      obtain ⟨worker, moved, written, found, performed, rfl⟩ := step_worker stepped
      refine spread.steps found (steps_of_step performed) ?_
      cases refused : input.refused with
      | true => exact Or.inl (step_refused refused performed)
      | false => exact Or.inr (rivalless worker found refused)
  | gcDead | gcCompleted =>
      cases stepped
      refine spread.mono le_rfl (fun _ member => (Table.mem_delete.mp member).1) rfl ?_
      exact fun worker member job held => ⟨worker, member, held⟩

/-- A claim finds every job of the link old enough. -/
theorem Spread.claimsLate (spread : Spread system.tables system.now system.workers) (event : Event) :
    ClaimsLate texts batchSize system event := by
  intro after stepped link row member named counted other second renamed
  cases event with
  | step index input =>
      obtain ⟨worker, moved, written, found, performed, rfl⟩ := step_worker stepped
      have new : row.id ∈ newClaims worker moved := by
        by_contra unclaimed
        exact counted (if_neg unclaimed)
      obtain ⟨claimed, stored, own, waited, due⟩ := due_of_claim (steps_of_step performed) new
      obtain rfl : row = claimed := system.tables.jobs.eq_of_key member stored own.symm
      by_cases pending : other.status = .pending
      · obtain rfl := spread.single link row member other second named renamed waited pending
        exact spread.aged_of_due second (by rw [renamed]; rfl) pending due
      · exact spread.late other second (by rw [renamed]; rfl) pending
  | tick | enqueue | start | gcDead | gcCompleted =>
      cases stepped
      exact absurd rfl counted
  | trigger | crash =>
      obtain ⟨worker, found, rfl⟩ := Option.map_eq_some_iff.mp stepped
      exact absurd rfl counted

end Invariant

section Run

/-- One config sync of each link is pending at most, and it is claimed late. -/
def Collapses (texts : ErrorTexts) (batchSize : Nat) (system : System) (event : Event) : Prop :=
  Collapsed system.tables ∧ ClaimsLate texts batchSize system event

/-- In a run that makes no config sync pending beside another one, bursts collapse. -/
theorem bursts_collapse (texts : ErrorTexts) (batchSize : Nat) (tables : Tables) (now : Timestamp)
    (events : List Event) (debounced : ∀ event ∈ events, event.debounced)
    (rivalless : EventRun.Guarded (System.step texts batchSize) Rivalless
      (System.begin tables now) events) :
    EventRun.Guarded (System.step texts batchSize) (Collapses texts batchSize)
        (System.begin tables now) events ∧
      ∀ last, EventRun.run (System.step texts batchSize) (System.begin tables now) events = some last →
        Collapsed last.tables := by
  have start : Spread (System.begin tables now).tables now [] :=
    { single := fun _ _ impossible => absurd impossible List.not_mem_nil
      apart := fun _ _ impossible => absurd impossible List.not_mem_nil
      due := fun _ impossible => absurd impossible List.not_mem_nil
      late := fun _ impossible => absurd impossible List.not_mem_nil
      held := fun _ impossible => absurd impossible List.not_mem_nil }
  have delayed : EventRun.Guarded (System.step texts batchSize) (fun _ event => event.debounced)
      (System.begin tables now) events :=
    EventRun.guarded_of_events fun event inside _ => debounced event inside
  have guarded := EventRun.guarded_and delayed rivalless
  have kept : ∀ system event after, Spread system.tables system.now system.workers →
      event.debounced ∧ Rivalless system event →
        System.step texts batchSize system event = some after →
          Spread after.tables after.now after.workers :=
    fun _ _ _ spread met stepped => spread.step met.1 met.2 stepped
  constructor
  · refine EventRun.guarded_of_invariant (fun system => Spread system.tables system.now system.workers)
      kept (fun system event spread _ => ?_) start guarded
    exact ⟨spread.toCollapsed, spread.claimsLate event⟩
  · intro last ran
    have spread := EventRun.run_invariant
      (fun system => Spread system.tables system.now system.workers) kept start guarded ran
    exact spread.toCollapsed

end Run

section Saves

/-- A save enqueues a config sync of its link. -/
def saved : Event :=
  .enqueue "config_sync" (.object [("guild_id", .string "1"), ("role_id", .string "2")]) 5

/-- A worker claims the config sync six seconds after the save, and the next save comes then. -/
def savedApart : List Event :=
  [saved, .tick (6 * 1000000), .start "job-worker-0"] ++ Sample.steps 0 3 ++ [saved]

/-- Saves that a claim keeps apart collapse. -/
theorem claimed_saves_collapse :
    EventRun.Guarded (System.step Sample.texts batchSize) (Collapses Sample.texts batchSize)
        Sample.noJobs savedApart ∧
      ∀ last, EventRun.run (System.step Sample.texts batchSize) Sample.noJobs savedApart = some last →
        Collapsed last.tables :=
  bursts_collapse Sample.texts batchSize Tables.empty 0 _ (by decide) (by decide +kernel)

/-- Two saves of one link within a second leave two pending config syncs. -/
theorem saves_uncollapsed :
    ¬∀ last, EventRun.run (System.step Sample.texts batchSize) Sample.noJobs
      [saved, .tick 1000000, saved] = some last → Collapsed last.tables := by
  intro collapse
  obtain ⟨last, ran, row, member, other, second, named, renamed, waits, waiting, distinct⟩ :
      ∃ last, EventRun.run (System.step Sample.texts batchSize) Sample.noJobs
        [saved, .tick 1000000, saved] = some last ∧
          ∃ row ∈ last.tables.jobs.rows, ∃ other ∈ last.tables.jobs.rows,
            configLink row = some ("1", "2") ∧ configLink other = some ("1", "2") ∧
              row.status = .pending ∧ other.status = .pending ∧ row.id ≠ other.id := by
    exact ⟨_, rfl, by decide +kernel⟩
  have same := (collapse last ran).single _ row member other second named renamed waits waiting
  exact distinct (congrArg Job.id same)

end Saves

end OsuPlayerRole.JobWorker

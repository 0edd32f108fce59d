/-
This file shows that a worker dispatches each due job once, batch by batch, whatever the size of its
batches and the order of their rows.
-/
import OsuPlayerRole.Construction.Tasks.Draining
import OsuPlayerRole.Proof.Jobs.TerminalStates

namespace OsuPlayerRole.JobWorker

open Jobs RuleSql EventRun KeyedTable Shutdown

/-- The jobs that are due, in the order of their identifiers. -/
def due (now : Timestamp) (tables : Tables) : List Job :=
  (tables.jobs.rows.filter (ready now [])).insertionSort fun first second => first.id ≤ second.id

/-- The database after the reaping that comes before the first claim. -/
def swept (now : Timestamp) (worker : Worker) (tables : Tables) : Tables :=
  if now - worker.lastReap ≥ reapEvery then (reapStuck now stuckLockSecs tables).2 else tables

instance (outcome : Report) : Decidable outcome.Sendable :=
  match outcome with
  | .complete => isTrue trivial
  | .failDead message => inferInstanceAs (Decidable ([Bind.text message].all Bind.sendable = true))
  | .failRetry message => inferInstanceAs (Decidable ([Bind.text message].all Bind.sendable = true))

section Rows

variable (texts : ErrorTexts) (now : Timestamp) (course : Course) (workerId : String)

/-- The job as the worker holds it. -/
def taken (row : Job) : ClaimedJob := .ofRow (claimed now workerId row)

def outcomeOf (row : Job) : Report :=
  report (taken now workerId row) (dispatch texts (taken now workerId row) (course.synchronized row.id))

/-- The row of a due job after the worker has claimed, dispatched and reported it. -/
def workedOff (row : Job) : Job :=
  let outcome := outcomeOf texts now course workerId row
  if outcome.Sendable then
    outcome.rewritten now (course.jitterMs row.id) (taken now workerId row) (claimed now workerId row)
  else claimed now workerId row

/-- A row while the first jobs are worked off and the next ones are claimed. -/
def placed (front batch : List Nat) (row : Job) : Job :=
  if row.id ∈ front then workedOff texts now course workerId row
  else if row.id ∈ batch then claimed now workerId row
  else row

variable {texts now course workerId} {row : Job} {front batch : List Nat}

theorem workedOff_id : (workedOff texts now course workerId row).id = row.id := by
  unfold workedOff
  dsimp only
  split
  · exact Report.rewritten_id _
  · rfl

/-- A row worked off before stands as its worker left it. -/
theorem placed_front (early : row.id ∈ front) :
    placed texts now course workerId front batch row = workedOff texts now course workerId row :=
  if_pos early

/-- A row of the batch in hand stands as the claim left it. -/
theorem placed_batch (late : row.id ∉ front) (held : row.id ∈ batch) :
    placed texts now course workerId front batch row = claimed now workerId row :=
  (if_neg late).trans (if_pos held)

/-- Every other row is as it was. -/
theorem placed_rest (late : row.id ∉ front) (unheld : row.id ∉ batch) :
    placed texts now course workerId front batch row = row :=
  (if_neg late).trans (if_neg unheld)

/-- Only the first jobs have moved. -/
theorem placed_none (late : row.id ∉ front) : placed texts now course workerId front [] row = row :=
  placed_rest late List.not_mem_nil

theorem placed_id : (placed texts now course workerId front batch row).id = row.id := by
  unfold placed
  split
  · exact workedOff_id
  · split <;> rfl

/-- A retried job always waits. -/
theorem backoffDelay_pos (attempt : Int4) (jitterMs : Nat) : 0 < backoffDelay attempt jitterMs := by
  have base : (0 : Int) < 2 ^ (max 1 (min 8 attempt.val)).toNat := Int.pow_pos (by decide)
  unfold backoffDelay
  omega

/-- A claimed job is not due, and a retry is delayed. -/
theorem workedOff_unready : ready now [] (workedOff texts now course workerId row) = false := by
  unfold workedOff
  dsimp only
  split
  · cases outcomeOf texts now course workerId row with
    | complete => rfl
    | failDead message => rfl
    | failRetry message =>
        have delayed := backoffDelay_pos (taken now workerId row).attempts (course.jitterMs row.id)
        have late : ¬now + backoffDelay (taken now workerId row).attempts (course.jitterMs row.id) ≤ now :=
          not_le_of_gt (Int.lt_add_of_pos_right now delayed)
        simp only [Report.rewritten, retriedRow, ready, late, decide_false, Bool.and_false, Bool.false_and]
  · rfl

end Rows

section Due

variable {now : Timestamp} {tables : Tables} {row : Job}

/-- The rows that are due are the rows of the table that a claim may take. -/
theorem mem_due : row ∈ due now tables ↔ row ∈ tables.jobs.rows ∧ ready now [] row = true := by
  rw [due, List.mem_insertionSort, List.mem_filter]

/-- The rows that are due come in the order of their identifiers, none twice. -/
theorem due_strict (now : Timestamp) (tables : Tables) :
    (due now tables).Pairwise fun first second => first.id < second.id := by
  have sorted : (due now tables).Pairwise fun first second => first.id ≤ second.id :=
    List.pairwise_insertionSort _ _
  have distinct : ((due now tables).map Job.id).Nodup := by
    have kept : ((tables.jobs.rows.filter (ready now [])).map Job.id).Nodup :=
      tables.jobs.unique.sublist (List.filter_sublist.map Job.id)
    exact ((List.perm_insertionSort _ _).map Job.id).nodup_iff.mpr kept
  exact sorted.imp₂ (fun _ _ order different => Nat.lt_of_le_of_ne order different)
    (List.pairwise_map.mp distinct)

/-- The jobs of an ordered list are determined by its members. -/
theorem strict_unique {rows others : List Job}
    (strict : rows.Pairwise fun first second => first.id < second.id)
    (ordered : others.Pairwise fun first second => first.id < second.id)
    (same : ∀ row, row ∈ rows ↔ row ∈ others) : rows = others := by
  have distinct {rows : List Job} (strict : rows.Pairwise fun first second => first.id < second.id) :
      rows.Nodup :=
    strict.imp fun {first second} order same => Nat.ne_of_lt order (congrArg Job.id same)
  have permuted : rows.Perm others :=
    (List.perm_ext_iff_of_nodup (distinct strict) (distinct ordered)).mpr same
  exact permuted.eq_of_pairwise
    (fun first second _ _ left right => absurd left (Nat.lt_asymm right)) strict ordered

/-- The identifiers of the due jobs are distinct. -/
theorem due_distinct (now : Timestamp) (tables : Tables) : ((due now tables).map Job.id).Nodup :=
  List.pairwise_map.mpr ((due_strict now tables).imp Nat.ne_of_lt)

/-- The earlier due jobs have other identifiers than the later ones. -/
theorem due_apart {front later : List Job} (split : (front ++ later).Perm (due now tables)) :
    ∀ row ∈ later, row.id ∉ front.map Job.id := by
  have distinct : ((front ++ later).map Job.id).Nodup :=
    (split.map Job.id).nodup_iff.mpr (due_distinct now tables)
  rw [List.map_append, List.nodup_append] at distinct
  intro row member named
  exact distinct.2.2 _ named _ (List.mem_map_of_mem member) rfl

end Due

section Batches

variable {A : Type} {size : Nat} {batch sequence rest rows : List A}

/-- After each number of batches, the sequence has gone through the first rows and no others. -/
def Batchwise (size : Nat) (sequence rows : List A) : Prop :=
  ∀ count, (sequence.take (count * size)).Perm (rows.take (count * size))

/-- Enough batches go through all rows. -/
theorem Batchwise.perm (batches : Batchwise size sequence rows) (positive : 0 < size) :
    sequence.Perm rows := by
  have enough : ∀ length, length ≤ sequence.length + rows.length →
      length ≤ (sequence.length + rows.length) * size :=
    fun _ short => short.trans (Nat.le_mul_of_pos_right _ positive)
  have all := batches (sequence.length + rows.length)
  rwa [List.take_of_length_le (enough _ (Nat.le_add_right _ _)),
    List.take_of_length_le (enough _ (Nat.le_add_left _ _))] at all

/-- The first batch comes before the others. -/
theorem batchwise_append (positive : 0 < size) (first : batch.Perm (rows.take size))
    (others : Batchwise size rest (rows.drop size)) : Batchwise size (batch ++ rest) rows := by
  intro count
  cases count with
  | zero =>
      rw [Nat.zero_mul, List.take_zero, List.take_zero]
  | succ count =>
      have length : batch.length = min size rows.length := first.length_eq.trans List.length_take
      have begun : (batch ++ rest).take (size + count * size) =
          batch ++ rest.take (size + count * size - batch.length) := by
        rw [List.take_append, List.take_of_length_le (by omega)]
      rw [Nat.succ_mul, Nat.add_comm, begun, List.take_add]
      refine first.append ?_
      by_cases full : size ≤ rows.length
      · have left : size + count * size - batch.length = count * size := by omega
        rw [left]
        exact others count
      · have short : rows.drop size = [] := List.drop_eq_nil_of_le (by omega)
        have none_left : rest = [] := List.perm_nil.mp (short ▸ others.perm positive)
        rw [none_left, short, List.take_nil, List.take_nil]

end Batches

section Progress

variable {texts : ErrorTexts} {now : Timestamp} {course : Course} {workerId : String}
  {start tables after : Tables} {front batch later : List Job} {row : Job}

/-- The first jobs are worked off, the next ones are claimed, and the others are as at the start. -/
def At (texts : ErrorTexts) (now : Timestamp) (course : Course) (workerId : String) (start : Tables)
    (front batch : List Job) (tables : Tables) : Prop :=
  tables.jobs.rows =
    start.jobs.rows.map (placed texts now course workerId (front.map Job.id) (batch.map Job.id))

/-- The jobs that are due after the first ones are the remaining ones. -/
theorem due_at (split : (front ++ later).Perm (due now start))
    (ordered : later.Pairwise fun first second => first.id < second.id)
    (reached : At texts now course workerId start front [] tables) : due now tables = later := by
  have apart := due_apart split
  refine strict_unique (due_strict now tables) ordered fun row => ?_
  unfold At at reached
  rw [List.map_nil] at reached
  rw [mem_due, reached, List.mem_map]
  constructor
  · rintro ⟨⟨old, inside, rfl⟩, waits⟩
    by_cases early : old.id ∈ front.map Job.id
    · rw [placed_front early, workedOff_unready] at waits
      cases waits
    · rw [placed_none early] at waits ⊢
      have listed : old ∈ front ++ later := split.mem_iff.mpr (mem_due.mpr ⟨inside, waits⟩)
      refine (List.mem_append.mp listed).resolve_left fun first => early (List.mem_map_of_mem first)
  · intro member
    have listed : row ∈ due now start := split.mem_iff.mp (List.mem_append_right _ member)
    obtain ⟨inside, waits⟩ := mem_due.mp listed
    exact ⟨⟨row, inside, placed_none (apart row member)⟩, waits⟩

/-- A claim takes the next jobs. -/
theorem claimBatch_at (batchSize : Nat) (split : (front ++ later).Perm (due now start))
    (ordered : later.Pairwise fun first second => first.id < second.id)
    (reached : At texts now course workerId start front [] tables)
    (named : send [.text workerId] = .ok ())
    (fits : ∀ row ∈ later, row.attempts.val + 1 < 2 ^ 31) :
    ∃ batch after, batch.Perm (later.take batchSize) ∧
      claimBatch now workerId batchSize [] course.order tables =
        .ok (batch.map (taken now workerId), after) ∧
      At texts now course workerId start front batch after := by
  have chosen : toClaim now batchSize [] tables = later.take batchSize :=
    congrArg (List.take batchSize) (due_at split ordered reached)
  have permuted := course.order.permutes (later.take batchSize)
  have counted : (later.take batchSize).all (fun row => decide (row.attempts.val + 1 < 2 ^ 31)) = true :=
    List.all_eq_true.mpr fun row member => decide_eq_true (fits row (List.mem_of_mem_take member))
  refine ⟨course.order.arrange (later.take batchSize), updateJobs tables (changeWhere
    (fun row => ((later.take batchSize).map Job.id).contains row.id) (claimed now workerId))
      (changeWhere_id fun _ => rfl), permuted, ?_, ?_⟩
  · unfold claimBatch
    rw [named]
    change (if (toClaim now batchSize [] tables).all _ = true then _ else _) = _
    simp only [chosen, counted]
    rfl
  · unfold At at reached ⊢
    rw [List.map_nil] at reached
    change tables.jobs.rows.map _ = _
    rw [reached, List.map_map]
    refine List.map_congr_left fun row _ => ?_
    have apart := due_apart split
    rw [Function.comp_apply, changeWhere, placed_id]
    by_cases early : row.id ∈ front.map Job.id
    · have unheld : ((later.take batchSize).map Job.id).contains row.id = false := by
        rw [← Bool.not_eq_true, List.contains_iff_mem]
        intro held
        obtain ⟨other, member, same⟩ := List.mem_map.mp held
        exact apart other (List.mem_of_mem_take member) (same ▸ early)
      rw [unheld, if_neg Bool.false_ne_true, placed_front early, placed_front early]
    · rw [placed_none early, placed, if_neg early]
      simp only [List.contains_iff_mem, (permuted.map Job.id).mem_iff]

/-- A report works off the first job of the batch. -/
theorem report_at (split : (front ++ row :: later).Perm (due now start))
    (reached : At texts now course workerId start front (row :: batch) tables) :
    At texts now course workerId start (front ++ [row]) batch
      (match (outcomeOf texts now course workerId row).perform now (course.jitterMs row.id)
          (taken now workerId row) tables with
        | .ok after => after
        | .error _ => tables) := by
  have unmoved : row.id ∉ front.map Job.id := due_apart split row List.mem_cons_self
  have inside : row ∈ start.jobs.rows := by
    have listed : row ∈ due now start :=
      split.mem_iff.mp (List.mem_append_right _ List.mem_cons_self)
    exact (mem_due.mp listed).1
  have others : ∀ old ∈ start.jobs.rows, old.id ≠ row.id →
      placed texts now course workerId ((front ++ [row]).map Job.id) (batch.map Job.id) old =
        placed texts now course workerId (front.map Job.id) ((row :: batch).map Job.id) old := by
    intro old _ different
    simp only [placed, List.map_append, List.map_cons, List.map_nil, List.mem_append, List.mem_cons,
      different, List.not_mem_nil, or_false, false_or]
  have own : placed texts now course workerId (front.map Job.id) ((row :: batch).map Job.id) row =
      claimed now workerId row := placed_batch unmoved List.mem_cons_self
  have done : placed texts now course workerId ((front ++ [row]).map Job.id) (batch.map Job.id) row =
      workedOff texts now course workerId row :=
    placed_front (List.mem_map_of_mem (List.mem_append_right _ List.mem_cons_self))
  unfold At at reached ⊢
  by_cases sendable : (outcomeOf texts now course workerId row).Sendable
  · obtain ⟨after, performed⟩ := perform_ok_iff.mpr sendable
    rw [performed]
    dsimp only
    rw [perform_ok performed]
    change tables.jobs.rows.map _ = _
    rw [reached, List.map_map]
    refine List.map_congr_left fun old member => ?_
    rw [Function.comp_apply, changeWhere, placed_id]
    by_cases same : old.id = row.id
    · obtain rfl := start.jobs.eq_of_key inside member same.symm
      rw [own, done, workedOff, if_pos sendable]
      exact if_pos (decide_eq_true rfl)
    · rw [others old member same]
      exact if_neg fun named => same (of_decide_eq_true named)
  · have refused : ∀ after, (outcomeOf texts now course workerId row).perform now (course.jitterMs row.id)
        (taken now workerId row) tables ≠ .ok after :=
      fun after performed => sendable (perform_ok_iff.mp ⟨after, performed⟩)
    split
    · next performed => exact (refused _ performed).elim
    · rw [reached]
      refine List.map_congr_left fun old member => ?_
      by_cases same : old.id = row.id
      · obtain rfl := start.jobs.eq_of_key inside member same.symm
        rw [own, done, workedOff, if_neg sendable]
      · exact (others old member same).symm

end Progress

section Course

variable {texts : ErrorTexts} {batchSize : Nat} {now : Timestamp} {course : Course} {workerId : String}
  {start tables : Tables} {worker : Worker} {dispatched : List ClaimedJob}

/-- The worker stands at the phase, it has not been told of a shutdown, and it has just reaped. -/
structure Stands (now : Timestamp) (workerId : String) (worker : Worker) (phase : Phase) : Prop where
  named : worker.id = workerId
  place : worker.phase = phase
  untold : worker.guard = subscribe
  rested : ¬now - worker.lastReap ≥ reapEvery

/-- A job takes three steps. -/
theorem job_runs (texts : ErrorTexts) (batchSize : Nat) (course : Course) (tables : Tables)
    (dispatched : List ClaimedJob) {row : Job} {rest : List ClaimedJob}
    (stands : Stands now workerId worker (.batch (taken now workerId row :: rest))) :
    ∃ moved, Reaches (Draining.step texts batchSize now course) ⟨worker, tables, dispatched⟩
        ⟨moved, match (outcomeOf texts now course workerId row).perform now (course.jitterMs row.id)
            (taken now workerId row) tables with
          | .ok after => after
          | .error _ => tables, dispatched ++ [taken now workerId row]⟩ ∧
      Stands now workerId moved (.batch rest) := by
  obtain ⟨rfl, place, untold, rested⟩ := stands
  refine ⟨{ worker with phase := .batch rest, guard := subscribe, startedAt := now }, ⟨[(), (), ()], ?_⟩,
    ⟨rfl, rfl, rfl, rested⟩⟩
  simp only [run, Draining.step, Worker.step, Course.input, Worker.starting, place, untold, subscribe,
    Guard.isTriggered, Guard.tryRecv, if_true, Bool.false_eq_true, if_false, Option.map_some,
    Option.bind_some, List.append_nil]
  rfl

/-- A batch is dispatched in its order. -/
theorem batch_runs (batchSize : Nat) (dispatched : List ClaimedJob) {front batch later : List Job}
    (split : (front ++ (batch ++ later)).Perm (due now start))
    (stands : Stands now workerId worker (.batch (batch.map (taken now workerId))))
    (reached : At texts now course workerId start front batch tables) :
    ∃ moved after, Reaches (Draining.step texts batchSize now course) ⟨worker, tables, dispatched⟩
        ⟨moved, after, dispatched ++ batch.map (taken now workerId)⟩ ∧
      Stands now workerId moved (.batch []) ∧
      At texts now course workerId start (front ++ batch) [] after := by
  induction batch generalizing front worker tables dispatched with
  | nil =>
      refine ⟨worker, tables, ?_, stands, ?_⟩
      · rw [List.map_nil, List.append_nil]
        exact Reaches.refl _
      · rw [List.append_nil]
        exact reached
  | cons row batch ih =>
      obtain ⟨next, ran, nextStands⟩ := job_runs texts batchSize course tables dispatched stands
      have parts : ((front ++ [row]) ++ (batch ++ later)).Perm (due now start) := by
        rwa [List.append_assoc, List.cons_append, List.nil_append]
      obtain ⟨moved, after, rest, movedStands, movedAt⟩ :=
        ih (dispatched ++ [taken now workerId row]) parts nextStands (report_at split reached)
      rw [List.append_assoc, List.cons_append, List.nil_append] at rest movedAt
      exact ⟨moved, after, ran.trans rest, movedStands, movedAt⟩

/-- From the end of a batch the worker comes back to a claim. -/
theorem round_ends (texts : ErrorTexts) (batchSize : Nat) (course : Course) (tables : Tables)
    (dispatched : List ClaimedJob) (stands : Stands now workerId worker (.batch [])) :
    ∃ moved, Reaches (Draining.step texts batchSize now course) ⟨worker, tables, dispatched⟩
        ⟨moved, tables, dispatched⟩ ∧ Stands now workerId moved .claim := by
  obtain ⟨rfl, place, untold, rested⟩ := stands
  refine ⟨{ worker with phase := .claim, guard := subscribe }, ⟨[(), (), ()], ?_⟩, ⟨rfl, rfl, rfl, rested⟩⟩
  simp only [run, Draining.step, Worker.step, Course.input, Worker.starting, place, untold, subscribe,
    Guard.isTriggered, Guard.tryRecv, rested, if_true, Bool.false_eq_true, if_false, Option.map_some,
    Option.bind_some, List.append_nil]

/-- The claims go through the jobs that are due, one batch after another. -/
theorem claims_run (dispatched : List ClaimedJob) (positive : 0 < batchSize) {front later : List Job}
    (split : (front ++ later).Perm (due now start))
    (ordered : later.Pairwise fun first second => first.id < second.id)
    (stands : Stands now workerId worker .claim)
    (reached : At texts now course workerId start front [] tables)
    (named : send [.text workerId] = .ok ())
    (fits : ∀ row ∈ later, row.attempts.val + 1 < 2 ^ 31) :
    ∃ moved after sequence, Reaches (Draining.step texts batchSize now course)
        ⟨worker, tables, dispatched⟩ ⟨moved, after, dispatched ++ sequence.map (taken now workerId)⟩ ∧
      Stands now workerId moved .emptyPause ∧ Batchwise batchSize sequence later ∧
      At texts now course workerId start (front ++ sequence) [] after := by
  induction remaining : later.length using Nat.strong_induction_on
    generalizing front later worker tables dispatched with
  | _ count ih =>
      obtain ⟨batch, after, permuted, claimed, claimedAt⟩ :=
        claimBatch_at batchSize split ordered reached named fits
      obtain ⟨rfl, place, untold, rested⟩ := stands
      cases batch with
      | nil =>
          have finished : later = [] := by
            have short := permuted.length_eq
            rw [List.length_nil, List.length_take] at short
            exact List.length_eq_zero_iff.mp (by omega)
          refine ⟨{ worker with phase := .emptyPause }, after, [], ⟨[()], ?_⟩, ⟨rfl, rfl, untold, rested⟩,
            ?_, ?_⟩
          · rw [List.map_nil] at claimed
            simp only [run, Draining.step, Worker.step, Course.input, Worker.starting, place,
              Bool.false_eq_true, if_false, claimed, Option.map_some, Option.bind_some, List.map_nil]
          · rw [finished]
            exact fun _ => .refl _
          · rw [List.append_nil]
            exact claimedAt
      | cons first others =>
          have opened : run (Draining.step texts batchSize now course) ⟨worker, tables, dispatched⟩ [()] =
              some ⟨{ worker with
                phase := .batch ((first :: others).map (taken now worker.id))
                claimedAt := now }, after, dispatched⟩ := by
            rw [List.map_cons] at claimed ⊢
            simp only [run, Draining.step, Worker.step, Course.input, Worker.starting, place,
              Bool.false_eq_true, if_false, claimed, Option.map_some, Option.bind_some, List.append_nil]
          -- The batch is the front of the jobs that are left, in another order.
          have parts : (front ++ (first :: others ++ later.drop batchSize)).Perm (due now start) := by
            refine (List.Perm.append_left front ?_).trans split
            exact (permuted.append_right _).trans (.of_eq (List.take_append_drop _ _))
          have openedStands : Stands now worker.id { worker with
              phase := .batch ((first :: others).map (taken now worker.id))
              claimedAt := now } (.batch ((first :: others).map (taken now worker.id))) :=
            ⟨rfl, rfl, untold, rested⟩
          obtain ⟨finished, written, ran, finishedStands, finishedAt⟩ :=
            batch_runs batchSize dispatched parts openedStands claimedAt
          obtain ⟨returned, back, returnedStands⟩ := round_ends texts batchSize course written
            (dispatched ++ (first :: others).map (taken now worker.id)) finishedStands
          have fewer : (later.drop batchSize).length < count := by
            have held := permuted.length_eq
            rw [List.length_cons, List.length_take] at held
            rw [← remaining, List.length_drop]
            omega
          have remains : ((front ++ first :: others) ++ later.drop batchSize).Perm (due now start) := by
            rwa [List.append_assoc]
          obtain ⟨moved, last, sequence, rest, movedStands, batches, movedAt⟩ := ih _ fewer
            (dispatched ++ (first :: others).map (taken now worker.id)) remains
            (ordered.sublist (List.drop_sublist _ _)) returnedStands finishedAt
            (fun other member => fits other (List.mem_of_mem_drop member)) rfl
          rw [List.append_assoc, ← List.map_append] at rest
          rw [List.append_assoc] at movedAt
          exact ⟨moved, last, _, Reaches.trans ⟨[()], opened⟩ (ran.trans (back.trans rest)), movedStands,
            batchwise_append positive permuted batches, movedAt⟩

/-- A poll leads to a claim, and the stuck jobs are reaped on the way when it is time. -/
theorem poll_runs (texts : ErrorTexts) (batchSize : Nat) (course : Course) (tables : Tables)
    (place : worker.phase = .top) (untold : worker.guard = subscribe) :
    ∃ moved, Reaches (Draining.step texts batchSize now course) ⟨worker, tables, []⟩
        ⟨moved, swept now worker tables, []⟩ ∧ Stands now worker.id moved .claim := by
  by_cases late : now - worker.lastReap ≥ reapEvery
  · have fresh : ¬now - now ≥ reapEvery := by
      rw [Int.sub_self]
      decide
    refine ⟨{ worker with phase := .claim, guard := subscribe, lastReap := now }, ⟨[(), ()], ?_⟩,
      ⟨rfl, rfl, rfl, fresh⟩⟩
    simp only [run, Draining.step, Worker.step, Course.input, Worker.starting, place, untold, subscribe,
      Guard.isTriggered, Guard.tryRecv, swept, late, if_true, Bool.false_eq_true, if_false,
      Option.map_some, Option.bind_some, List.append_nil]
  · refine ⟨{ worker with phase := .claim, guard := subscribe }, ⟨[(), ()], ?_⟩, ⟨rfl, rfl, rfl, late⟩⟩
    simp only [run, Draining.step, Worker.step, Course.input, Worker.starting, place, untold, subscribe,
      Guard.isTriggered, Guard.tryRecv, swept, late, if_true, Bool.false_eq_true, if_false,
      Option.map_some, Option.bind_some, List.append_nil]

end Course

/-- Nothing is due after the worker has worked off the queue. -/
theorem due_workedOff {texts : ErrorTexts} {now : Timestamp} {course : Course} {workerId : String}
    {tables after : Tables}
    (rows : after.jobs.rows = tables.jobs.rows.map fun row =>
      if ready now [] row then workedOff texts now course workerId row else row) : due now after = [] := by
  rw [List.eq_nil_iff_forall_not_mem]
  intro row member
  obtain ⟨inside, waits⟩ := mem_due.mp member
  rw [rows, List.mem_map] at inside
  obtain ⟨old, _, rfl⟩ := inside
  split at waits
  · rw [workedOff_unready] at waits
    cases waits
  · next unready => exact unready waits

/-- The worker comes to its pause when each due job has been worked off. -/
theorem drain_runs (texts : ErrorTexts) (course : Course) {batchSize : Nat} {now : Timestamp}
    {worker : Worker} {tables : Tables} (positive : 0 < batchSize) (place : worker.phase = .top)
    (untold : worker.guard = subscribe) (named : send [.text worker.id] = .ok ())
    (fits : ∀ row ∈ due now (swept now worker tables), row.attempts.val + 1 < 2 ^ 31) :
    ∃ moved after sequence, Reaches (Draining.step texts batchSize now course) ⟨worker, tables, []⟩
        ⟨moved, after, sequence.map (taken now worker.id)⟩ ∧
      Stands now worker.id moved .emptyPause ∧
      Batchwise batchSize sequence (due now (swept now worker tables)) ∧
      after.jobs.rows = (swept now worker tables).jobs.rows.map fun row =>
        if ready now [] row then workedOff texts now course worker.id row else row := by
  have swept_at : At texts now course worker.id (swept now worker tables) [] []
      (swept now worker tables) :=
    ((List.map_congr_left fun row _ => placed_none List.not_mem_nil).trans (List.map_id _)).symm
  obtain ⟨claiming, polled, claimingStands⟩ := poll_runs texts batchSize course tables place untold
  obtain ⟨moved, after, sequence, ran, movedStands, batches, movedAt⟩ :=
    claims_run [] positive (.refl _) (due_strict now _) claimingStands swept_at named fits
  refine ⟨moved, after, sequence, polled.trans ran, movedStands, batches, ?_⟩
  have whole := (batches.perm positive).map Job.id
  rw [movedAt, List.nil_append, List.map_nil]
  refine List.map_congr_left fun row member => ?_
  by_cases waits : ready now [] row = true
  · rw [if_pos waits, placed_front]
    exact whole.mem_iff.mpr (List.mem_map_of_mem (mem_due.mpr ⟨member, waits⟩))
  · rw [if_neg waits, placed_none]
    intro listed
    obtain ⟨other, inside, same⟩ := List.mem_map.mp (whole.mem_iff.mp listed)
    obtain ⟨stored, ready⟩ := mem_due.mp inside
    exact waits ((swept now worker tables).jobs.eq_of_key stored member same ▸ ready)

/-- A worker that polls the queue at one moment dispatches each due job once, and the jobs of each batch are
the first ones that are left. Neither the size nor the order of the batches matters for the rows, and
nothing is due at the end. -/
theorem drained_in_batches (texts : ErrorTexts) (course : Course) {batchSize : Nat} {now : Timestamp}
    {worker : Worker} {tables : Tables} (positive : 0 < batchSize) (place : worker.phase = .top)
    (untold : worker.guard = subscribe) (named : send [.text worker.id] = .ok ())
    (fits : ∀ row ∈ due now (swept now worker tables), row.attempts.val + 1 < 2 ^ 31) :
    ∃ last, Reaches (Draining.step texts batchSize now course) ⟨worker, tables, []⟩ last ∧
      last.worker.phase = .emptyPause ∧
      (∃ sequence, sequence.Perm (due now (swept now worker tables)) ∧
        Batchwise batchSize sequence (due now (swept now worker tables)) ∧
        last.dispatched = sequence.map (taken now worker.id)) ∧
      (last.tables.jobs.rows = (swept now worker tables).jobs.rows.map fun row =>
        if ready now [] row then workedOff texts now course worker.id row else row) ∧
      due now last.tables = [] := by
  obtain ⟨moved, after, sequence, ran, stands, batches, rows⟩ :=
    drain_runs texts course positive place untold named fits
  exact ⟨_, ran, stands.place, ⟨sequence, batches.perm positive, batches, rfl⟩, rows, due_workedOff rows⟩

section TwoJobs

/-- Two jobs wait since a minute. -/
def twoWaiting : Tables :=
  ((run (System.step Sample.texts batchSize) Sample.noJobs [Sample.enqueued, Sample.enqueued]).map
    System.tables).getD Sample.noJobs.tables

def newWorker : Worker := ⟨"job-worker-0", .top, subscribe, 0, 0, 0, false⟩

/-- Every job ends well, and the database returns the rows of a batch from the last to the first. -/
def smooth : Course := ⟨fun _ => .ok (), fun _ => 0, ⟨List.reverse, List.reverse_perm⟩⟩

/-- One batch serves both. -/
theorem two_jobs_in_one_batch :
    (due (60 * second) (swept (60 * second) newWorker twoWaiting)).map Job.id = [1, 2] ∧
      ∃ last, Reaches (Draining.step Sample.texts 2 (60 * second) smooth) ⟨newWorker, twoWaiting, []⟩ last ∧
        last.worker.phase = .emptyPause ∧
        (∃ sequence, sequence.Perm (due (60 * second) (swept (60 * second) newWorker twoWaiting)) ∧
          Batchwise 2 sequence (due (60 * second) (swept (60 * second) newWorker twoWaiting)) ∧
          last.dispatched = sequence.map (taken (60 * second) newWorker.id)) ∧
        (last.tables.jobs.rows = (swept (60 * second) newWorker twoWaiting).jobs.rows.map fun row =>
          if ready (60 * second) [] row then
            workedOff Sample.texts (60 * second) smooth newWorker.id row
          else row) ∧
        due (60 * second) last.tables = [] := by
  refine ⟨by decide +kernel, ?_⟩
  exact drained_in_batches Sample.texts smooth Nat.two_pos rfl rfl (by decide +kernel) (by decide +kernel)

end TwoJobs

end OsuPlayerRole.JobWorker

/-
This file gives tables whose rows are unique by a key.
-/
import Mathlib.Data.List.Nodup

namespace KeyedTable

/-- The key of each row occurs once. -/
@[ext] structure Table (Row Key : Type) (key : Row → Key) where
  rows : List Row
  unique : (rows.map key).Nodup

variable {Row Key : Type} {key : Row → Key}

namespace Table

def empty : Table Row Key key := ⟨[], List.nodup_nil⟩

/-- Two rows with one key are one row. -/
theorem eq_of_key (table : Table Row Key key) {first second : Row} (left : first ∈ table.rows)
    (right : second ∈ table.rows) (same : key first = key second) : first = second :=
  List.inj_on_of_nodup_map table.unique left right same

/-- This statement removes every row that meets the condition. -/
def delete (table : Table Row Key key) (condition : Row → Bool) : Table Row Key key where
  rows := table.rows.filter fun row => !condition row
  unique := table.unique.sublist (List.filter_sublist.map key)

/-- This statement changes rows without changing their keys. -/
def update (table : Table Row Key key) (change : Row → Row)
    (keeps : ∀ row, key (change row) = key row) : Table Row Key key where
  rows := table.rows.map change
  unique := by
    have same : (table.rows.map change).map key = table.rows.map key := by
      rw [List.map_map]
      exact List.map_congr_left fun row _ => keeps row
    rw [same]
    exact table.unique

/-- A deletion leaves the rows that miss the condition. -/
@[simp] theorem mem_delete {table : Table Row Key key} {condition : Row → Bool} {row : Row} :
    row ∈ (table.delete condition).rows ↔ row ∈ table.rows ∧ condition row = false := by
  simp [delete]

/-- A deletion that meets no row changes nothing. -/
theorem delete_eq_self {table : Table Row Key key} {condition : Row → Bool}
    (spares : ∀ row ∈ table.rows, condition row = false) : table.delete condition = table := by
  have rows : table.rows.filter (fun row => !condition row) = table.rows := by
    rw [List.filter_eq_self]
    intro row member
    rw [spares row member]
    rfl
  unfold delete
  congr 1

/-- An update changes each row in its place. -/
@[simp] theorem mem_update {table : Table Row Key key} {change : Row → Row}
    {keeps : ∀ row, key (change row) = key row} {row : Row} :
    row ∈ (table.update change keeps).rows ↔ ∃ old ∈ table.rows, change old = row := by
  simp [update]

variable [DecidableEq Key]

def find (table : Table Row Key key) (wanted : Key) : Option Row :=
  table.rows.find? fun row => decide (key row = wanted)

@[simp] theorem find_empty (wanted : Key) :
    (empty : Table Row Key key).find wanted = none := rfl

/-- A lookup returns exactly the row with the key. -/
theorem find_eq_some {table : Table Row Key key} {wanted : Key} {row : Row} :
    table.find wanted = some row ↔ row ∈ table.rows ∧ key row = wanted := by
  constructor
  · intro found
    exact ⟨List.mem_of_find?_eq_some found, by simpa using List.find?_some found⟩
  · rintro ⟨member, same⟩
    cases found : table.find wanted with
    | none =>
        have missing := List.find?_eq_none.mp found row member
        simp [same] at missing
    | some other =>
        have otherMember := List.mem_of_find?_eq_some found
        have otherSame : key other = wanted := by simpa using List.find?_some found
        rw [table.eq_of_key otherMember member (otherSame.trans same.symm)]

/-- A key is not found exactly when no row has it. -/
theorem find_eq_none {table : Table Row Key key} {wanted : Key} :
    table.find wanted = none ↔ ∀ row ∈ table.rows, key row ≠ wanted := by
  simp [find, List.find?_eq_none]

/-- A row is found by its key. -/
theorem find_of_mem {table : Table Row Key key} {row : Row} (member : row ∈ table.rows) :
    table.find (key row) = some row :=
  find_eq_some.mpr ⟨member, rfl⟩

/-- A key is found exactly when a row has it. -/
theorem find_isSome {table : Table Row Key key} {wanted : Key} :
    (table.find wanted).isSome ↔ ∃ row ∈ table.rows, key row = wanted := by
  rw [Option.isSome_iff_exists]
  exact exists_congr fun row => find_eq_some

/-- A deletion hides the found row that meets the condition. -/
theorem find_delete (table : Table Row Key key) (condition : Row → Bool) (wanted : Key) :
    (table.delete condition).find wanted = (table.find wanted).filter fun row => !condition row := by
  cases found : table.find wanted with
  | none =>
      rw [Option.filter_none, find_eq_none]
      intro row member
      exact find_eq_none.mp found row (mem_delete.mp member).1
  | some row =>
      obtain ⟨member, same⟩ := find_eq_some.mp found
      by_cases removed : condition row
      · rw [Option.filter_some, if_neg (by simp [removed]), find_eq_none]
        intro other otherMember otherSame
        obtain ⟨inside, kept⟩ := mem_delete.mp otherMember
        rw [table.eq_of_key inside member (otherSame.trans same.symm)] at kept
        simp [removed] at kept
      · rw [Option.filter_some, if_pos (by simp [removed]), find_eq_some]
        exact ⟨mem_delete.mpr ⟨member, by simpa using removed⟩, same⟩

/-- An update changes the found row. -/
theorem find_update (table : Table Row Key key) (change : Row → Row)
    (keeps : ∀ row, key (change row) = key row) (wanted : Key) :
    (table.update change keeps).find wanted = (table.find wanted).map change := by
  cases found : table.find wanted with
  | none =>
      rw [Option.map_none, find_eq_none]
      intro row member
      obtain ⟨old, inside, rfl⟩ := mem_update.mp member
      rw [keeps]
      exact find_eq_none.mp found old inside
  | some row =>
      obtain ⟨member, same⟩ := find_eq_some.mp found
      rw [Option.map_some, find_eq_some]
      exact ⟨mem_update.mpr ⟨row, member, rfl⟩, (keeps row).trans same⟩

/-- This statement inserts a row with a fresh key. -/
def insertNew (table : Table Row Key key) (row : Row)
    (fresh : ∀ other ∈ table.rows, key other ≠ key row) : Table Row Key key where
  rows := table.rows ++ [row]
  unique := by
    rw [List.map_append, List.map_singleton]
    refine List.nodup_append.mpr ⟨table.unique, List.nodup_singleton _, ?_⟩
    intro first inside second last equal
    obtain ⟨old, member, rfl⟩ := List.mem_map.mp inside
    rw [List.mem_singleton] at last
    exact fresh old member (equal.trans last)

omit [DecidableEq Key] in
/-- A new row stands beside the old ones. -/
theorem mem_insertNew {table : Table Row Key key} {row other : Row}
    {fresh : ∀ other ∈ table.rows, key other ≠ key row} :
    other ∈ (table.insertNew row fresh).rows ↔ other ∈ table.rows ∨ other = row := by
  unfold insertNew
  rw [List.mem_append, List.mem_singleton]

/-- An insertion of a row whose key is taken violates the key. -/
def insert? (table : Table Row Key key) (row : Row) : Option (Table Row Key key) :=
  match found : table.find (key row) with
  | some _ => none
  | none => some (table.insertNew row fun _ member => find_eq_none.mp found _ member)

/-- An insert conflicts exactly with a row of its key. -/
theorem insert?_eq_none {table : Table Row Key key} {row : Row} :
    table.insert? row = none ↔ (table.find (key row)).isSome := by
  unfold insert?
  split <;> simp_all

/-- An insert without conflict adds its row. -/
theorem mem_insert? {table after : Table Row Key key} {row other : Row}
    (inserted : table.insert? row = some after) :
    other ∈ after.rows ↔ other ∈ table.rows ∨ other = row := by
  unfold insert? at inserted
  split at inserted
  · cases inserted
  · cases inserted
    exact mem_insertNew

/-- This statement inserts a row, or merges it into the row that has its key. -/
def upsert (table : Table Row Key key) (fresh : Row) (merge : Row → Row)
    (keeps : ∀ row, key (merge row) = key row) : Table Row Key key :=
  match table.insert? fresh with
  | some after => after
  | none => table.update (fun row => if key row = key fresh then merge row else row) fun row => by
      split
      · exact keeps row
      · rfl

/-- The upsert decides the row of one key and leaves every other key alone. -/
theorem find_upsert (table : Table Row Key key) (fresh : Row) (merge : Row → Row)
    (keeps : ∀ row, key (merge row) = key row) (wanted : Key) :
    (table.upsert fresh merge keeps).find wanted =
      if wanted = key fresh then some ((table.find wanted).elim fresh merge)
      else table.find wanted := by
  unfold upsert
  cases inserted : table.insert? fresh with
  | some after =>
      have absent : table.find (key fresh) = none := by
        by_contra present
        rw [← ne_eq, Option.ne_none_iff_isSome, ← insert?_eq_none, inserted] at present
        cases present
      by_cases same : wanted = key fresh
      · subst same
        rw [if_pos rfl, absent, Option.elim_none]
        exact find_eq_some.mpr ⟨(mem_insert? inserted).mpr (Or.inr rfl), rfl⟩
      · rw [if_neg same]
        apply Option.ext
        intro row
        rw [find_eq_some, find_eq_some, mem_insert? inserted]
        constructor
        · rintro ⟨member | rfl, keyed⟩
          · exact ⟨member, keyed⟩
          · exact absurd keyed.symm same
        · rintro ⟨member, keyed⟩
          exact ⟨Or.inl member, keyed⟩
  | none =>
      have present := insert?_eq_none.mp inserted
      rw [find_update]
      by_cases same : wanted = key fresh
      · subst same
        obtain ⟨row, found⟩ := Option.isSome_iff_exists.mp present
        rw [if_pos rfl, found, Option.map_some, Option.elim_some, if_pos (find_eq_some.mp found).2]
      · rw [if_neg same]
        cases found : table.find wanted with
        | none => rfl
        | some row =>
            rw [Option.map_some, if_neg fun equal => same ((find_eq_some.mp found).2.symm.trans equal)]

/-- The row that an upsert leaves under its key. -/
def upserted (table : Table Row Key key) (fresh : Row) (merge : Row → Row) : Row :=
  (table.find (key fresh)).elim fresh merge

/-- The upserted row has the key of the new one. -/
theorem key_upserted (table : Table Row Key key) (fresh : Row) {merge : Row → Row}
    (keeps : ∀ row, key (merge row) = key row) : key (table.upserted fresh merge) = key fresh := by
  unfold upserted
  cases found : table.find (key fresh) with
  | none => rfl
  | some row => exact (keeps row).trans (find_eq_some.mp found).2

/-- The rows of an upsert are the upserted row and the rows of the other keys. -/
theorem mem_upsert {table : Table Row Key key} {fresh : Row} {merge : Row → Row}
    {keeps : ∀ row, key (merge row) = key row} {row : Row} :
    row ∈ (table.upsert fresh merge keeps).rows ↔
      row = table.upserted fresh merge ∨ row ∈ table.rows ∧ key row ≠ key fresh := by
  have inside : row ∈ (table.upsert fresh merge keeps).rows ↔
      (table.upsert fresh merge keeps).find (key row) = some row := by
    rw [find_eq_some]
    simp
  rw [inside, find_upsert]
  by_cases same : key row = key fresh
  · rw [if_pos same, Option.some.injEq, same]
    change table.upserted fresh merge = row ↔ _
    constructor
    · intro equal
      exact Or.inl equal.symm
    · rintro (equal | ⟨_, different⟩)
      · exact equal.symm
      · exact absurd rfl different
  · rw [if_neg same, find_eq_some]
    constructor
    · rintro ⟨member, _⟩
      exact Or.inr ⟨member, same⟩
    · rintro (equal | ⟨member, _⟩)
      · exact absurd (equal ▸ key_upserted table fresh keeps) same
      · exact ⟨member, rfl⟩

/-- What the fresh row has and every change keeps, all rows have after an upsert. -/
theorem forall_upsert {property : Row → Prop} {table : Table Row Key key} {fresh : Row}
    {merge : Row → Row} (keeps : ∀ row, key (merge row) = key row)
    (stored : ∀ row ∈ table.rows, property row) (first : property fresh)
    (merged : ∀ row ∈ table.rows, property (merge row)) :
    ∀ row ∈ (table.upsert fresh merge keeps).rows, property row := by
  intro row member
  obtain rfl | ⟨old, _⟩ := mem_upsert.mp member
  · unfold upserted
    cases found : table.find (key fresh) with
    | none => exact first
    | some other => exact merged other (find_eq_some.mp found).1
  · exact stored row old

/-- An upsert changes nothing exactly when it leaves the row that is stored. -/
theorem upsert_eq_self {table : Table Row Key key} {fresh : Row} {merge : Row → Row}
    {keeps : ∀ row, key (merge row) = key row} :
    table.upsert fresh merge keeps = table ↔
      table.find (key fresh) = some (table.upserted fresh merge) := by
  constructor
  · intro same
    have found := table.find_upsert fresh merge keeps (key fresh)
    rw [same, if_pos rfl] at found
    exact found
  · intro found
    have stored : merge (table.upserted fresh merge) = table.upserted fresh merge := by
      have merged : table.upserted fresh merge = merge (table.upserted fresh merge) := by
        conv_lhs => rw [upserted, found, Option.elim_some]
      exact merged.symm
    have taken : table.insert? fresh = none := by
      rw [insert?_eq_none, found]
      rfl
    unfold upsert
    rw [taken]
    apply Table.ext
    have unchanged : ∀ row ∈ table.rows,
        (if key row = key fresh then merge row else row) = row := by
      intro row member
      split
      · next same =>
          obtain ⟨inside, keyed⟩ := find_eq_some.mp found
          rw [table.eq_of_key member inside (same.trans keyed.symm)]
          exact stored
      · rfl
    exact (List.map_congr_left unchanged).trans (List.map_id _)

/-- A second unique column stays unique when the upserted row keeps apart from the other keys. -/
theorem nodup_upsert {Column : Type} {column : Row → Column} {table : Table Row Key key} {fresh : Row}
    {merge : Row → Row} (keeps : ∀ row, key (merge row) = key row)
    (distinct : (table.rows.map column).Nodup)
    (apart : ∀ row ∈ table.rows, key row ≠ key fresh →
      column row ≠ column (table.upserted fresh merge)) :
    ((table.upsert fresh merge keeps).rows.map column).Nodup := by
  refine (List.nodup_map_iff_inj_on (List.Nodup.of_map _ (table.upsert fresh merge keeps).unique)).mpr ?_
  intro first left second right equal
  obtain rfl | ⟨firstOld, firstOther⟩ := mem_upsert.mp left
  · obtain rfl | ⟨secondOld, secondOther⟩ := mem_upsert.mp right
    · rfl
    · exact absurd equal.symm (apart second secondOld secondOther)
  · obtain rfl | ⟨secondOld, secondOther⟩ := mem_upsert.mp right
    · exact absurd equal (apart first firstOld firstOther)
    · exact List.inj_on_of_nodup_map distinct firstOld secondOld equal

end Table

end KeyedTable

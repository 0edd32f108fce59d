/-
This file compares a primary state with a replica that receives the same updates later.
-/

namespace Replication

variable {State Update : Type}

/-- Two updates commute when their order does not show. -/
def Commutes (apply : State → Update → State) (first second : Update) : Prop :=
  ∀ state, apply (apply state first) second = apply (apply state second) first

/-- The update may overtake the earlier pending updates that commute with it. -/
def Overtakes (apply : State → Update → State) (update : Update) : List Update → Prop
  | [] => True
  | first :: rest => first = update ∨ Commutes apply first update ∧ Overtakes apply update rest

/-- The pending updates carry the replica to the primary state. -/
def Agrees (apply : State → Update → State) (primary replica : State)
    (pending : List Update) : Prop :=
  primary = pending.foldl apply replica

section

variable {apply : State → Update → State} {primary replica : State} {pending : List Update}

/-- An update that reaches the primary state joins the end of the pending list. -/
theorem agrees_issue (agrees : Agrees apply primary replica pending) (update : Update) :
    Agrees apply (apply primary update) replica (pending ++ [update]) := by
  unfold Agrees at *
  rw [List.foldl_append, ← agrees]
  rfl

/-- An update that overtakes only commuting updates gives the same final state. -/
theorem foldl_erase [DecidableEq Update] {update : Update} (member : update ∈ pending)
    (overtakes : Overtakes apply update pending) (state : State) :
    (pending.erase update).foldl apply (apply state update) = pending.foldl apply state := by
  induction pending generalizing state with
  | nil => exact absurd member List.not_mem_nil
  | cons first rest ih =>
      by_cases same : first = update
      · subst same
        simp
      · obtain equal | ⟨commutes, remaining⟩ := overtakes
        · exact absurd equal same
        · have inside : update ∈ rest :=
            (List.mem_cons.mp member).resolve_left fun equal => same equal.symm
          rw [List.erase_cons_tail (by simpa using same), List.foldl_cons, List.foldl_cons,
            ← commutes state]
          exact ih inside remaining (apply state first)

/-- An update that lands in the replica leaves the pending list. -/
theorem agrees_land [DecidableEq Update] {update : Update}
    (agrees : Agrees apply primary replica pending) (member : update ∈ pending)
    (overtakes : Overtakes apply update pending) :
    Agrees apply primary (apply replica update) (pending.erase update) :=
  agrees.trans (foldl_erase member overtakes replica).symm

/-- The issued update is owed by the party that stands between the two others. -/
theorem owed_issue {front back : List Update} (owed : pending.Perm (front ++ back))
    (update : Update) : (pending ++ [update]).Perm (front ++ update :: back) :=
  (List.perm_append_singleton update pending).trans
    ((owed.cons update).trans List.perm_middle.symm)

/-- The landed update is owed no more. -/
theorem owed_land [DecidableEq Update] {front back : List Update} {update : Update}
    (owed : pending.Perm (front ++ update :: back)) : (pending.erase update).Perm (front ++ back) := by
  have moved := (owed.trans List.perm_middle).erase update
  rwa [List.erase_cons_head] at moved

/-- Without pending updates the replica is the primary state. -/
theorem agrees_settled (agrees : Agrees apply primary replica []) : replica = primary :=
  agrees.symm

end

end Replication

/-
This file gives the statements that write the tables of linked accounts.
-/
import OsuPlayerRole.Construction.Database

namespace OsuPlayerRole.Tables

open KeyedTable

/-- No other row carries the account of the written row. -/
def Unclaimed (tables : Tables) (row : OsuUser) : Prop :=
  ∀ other ∈ tables.osuUsers.rows, other.discordId ≠ row.discordId → other.osuUserId ≠ row.osuUserId

/-- The stored row may leave its account only when no statistics reference the account. -/
def Leaves (tables : Tables) (row : OsuUser) : Prop :=
  ∀ old ∈ tables.osuUsers.find row.discordId, old.osuUserId ≠ row.osuUserId →
    ∀ stats ∈ tables.osuStats.rows, stats.osuUserId ≠ old.osuUserId

instance (tables : Tables) (row : OsuUser) : Decidable (tables.Unclaimed row) :=
  inferInstanceAs (Decidable (∀ other ∈ tables.osuUsers.rows, _))

instance (tables : Tables) (row : OsuUser) : Decidable (tables.Leaves row) :=
  inferInstanceAs (Decidable (∀ old ∈ tables.osuUsers.find row.discordId, _))

theorem upserted_discordId (tables : Tables) (fresh : OsuUser) {merge : OsuUser → OsuUser}
    (keeps : ∀ row, (merge row).discordId = row.discordId) :
    (tables.osuUsers.upserted fresh merge).discordId = fresh.discordId :=
  Table.key_upserted _ _ keeps

/-- This statement inserts a user, or merges it into the row with its Discord id. The uniqueness of
the account is checked first, and the references to the old account at the end. -/
def upsertOsuUser (tables : Tables) (fresh : OsuUser) (merge : OsuUser → OsuUser)
    (keeps : ∀ row, (merge row).discordId = row.discordId) : Except DbError Tables :=
  let row := tables.osuUsers.upserted fresh merge
  if unclaimed : tables.Unclaimed row then
    if leaves : tables.Leaves row then
      .ok { tables with
        osuUsers := tables.osuUsers.upsert fresh merge keeps
        osuUserIdUnique := Table.nodup_upsert keeps tables.osuUserIdUnique
          fun other member different =>
            unclaimed other member fun same =>
              different (same.trans (tables.upserted_discordId fresh keeps))
        statsReference := fun stats member => by
          obtain ⟨user, stored, account⟩ := tables.statsReference stats member
          by_cases same : user.discordId = fresh.discordId
          · refine ⟨row, Table.mem_upsert.mpr (Or.inl rfl), ?_⟩
            by_contra moved
            have found : tables.osuUsers.find row.discordId = some user := by
              rw [tables.upserted_discordId fresh keeps]
              exact Table.find_eq_some.mpr ⟨stored, same⟩
            have other : user.osuUserId ≠ row.osuUserId := fun equal => moved (equal ▸ account)
            exact leaves user found other stats member account.symm
          · exact ⟨user, Table.mem_upsert.mpr (Or.inr ⟨stored, same⟩), account⟩ }
    else .error (.foreignKeyViolation "osu_stats_osu_user_id_fkey")
  else .error (.uniqueViolation "osu_users_osu_user_id_key")

/-- This statement inserts statistics, or merges them into the stored row. They need their user. -/
def upsertOsuStats (tables : Tables) (fresh : OsuStats) (merge : OsuStats → OsuStats)
    (keeps : ∀ row, (merge row).key = row.key) : Except DbError Tables :=
  if reference : ∃ user ∈ tables.osuUsers.rows, user.osuUserId = fresh.osuUserId then
    .ok { tables with
      osuStats := tables.osuStats.upsert fresh merge keeps
      statsReference := fun stats member => by
        obtain rfl | ⟨stored, _⟩ := Table.mem_upsert.mp member
        · have same : (tables.osuStats.upserted fresh merge).osuUserId = fresh.osuUserId :=
            congrArg Prod.fst (Table.key_upserted tables.osuStats fresh keeps)
          obtain ⟨user, inside, account⟩ := reference
          exact ⟨user, inside, account.trans same.symm⟩
        · exact tables.statsReference stats stored }
  else .error (.foreignKeyViolation "osu_stats_osu_user_id_fkey")

end OsuPlayerRole.Tables

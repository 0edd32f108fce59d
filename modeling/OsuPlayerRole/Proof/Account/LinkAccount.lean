/-
This file shows when the account transaction succeeds and which links it leaves.
-/
import OsuPlayerRole.Construction.Routes.Oauth
import OsuPlayerRole.Library.Checked
import OsuPlayerRole.Proof.Sample

namespace OsuPlayerRole

open KeyedTable

namespace Tables

/-- The upsert of a user succeeds exactly when it violates no constraint. -/
theorem upsertOsuUser_ok_iff (tables : Tables) (fresh : OsuUser) {merge : OsuUser → OsuUser}
    (keeps : ∀ row, (merge row).discordId = row.discordId) :
    (∃ after, tables.upsertOsuUser fresh merge keeps = .ok after) ↔
      tables.Unclaimed (tables.osuUsers.upserted fresh merge) ∧
        tables.Leaves (tables.osuUsers.upserted fresh merge) := by
  unfold upsertOsuUser
  dsimp only
  split
  · next unclaimed =>
      split
      · next leaves => exact ⟨fun _ => ⟨unclaimed, leaves⟩, fun _ => ⟨_, rfl⟩⟩
      · next stays =>
          constructor
          · rintro ⟨after, impossible⟩
            cases impossible
          · rintro ⟨_, leaves⟩
            exact absurd leaves stays
  · next claimed =>
      constructor
      · rintro ⟨after, impossible⟩
        cases impossible
      · rintro ⟨unclaimed, _⟩
        exact absurd unclaimed claimed

/-- A profile is inserted or merged under its Discord id. -/
theorem upsertOsuUser_users {tables after : Tables} {fresh : OsuUser} {merge : OsuUser → OsuUser}
    {keeps : ∀ row, (merge row).discordId = row.discordId}
    (written : tables.upsertOsuUser fresh merge keeps = .ok after) :
    after.osuUsers = tables.osuUsers.upsert fresh merge keeps := by
  unfold upsertOsuUser at written
  dsimp only at written
  split at written
  · split at written
    · cases written
      rfl
    · cases written
  · cases written

/-- Statistics of a stored account are accepted. -/
theorem upsertOsuStats_ok (tables : Tables) (fresh : OsuStats) {merge : OsuStats → OsuStats}
    (keeps : ∀ row, (merge row).key = row.key)
    (reference : ∃ user ∈ tables.osuUsers.rows, user.osuUserId = fresh.osuUserId) :
    ∃ after, tables.upsertOsuStats fresh merge keeps = .ok after := by
  unfold upsertOsuStats
  rw [dif_pos reference]
  exact ⟨_, rfl⟩

/-- Statistics are accepted of stored accounts alone, and they leave the accounts. -/
theorem upsertOsuStats_reference {tables after : Tables} {fresh : OsuStats}
    {merge : OsuStats → OsuStats} {keeps : ∀ row, (merge row).key = row.key}
    (written : tables.upsertOsuStats fresh merge keeps = .ok after) :
    (∃ user ∈ tables.osuUsers.rows, user.osuUserId = fresh.osuUserId) ∧
      after.osuUsers = tables.osuUsers := by
  unfold upsertOsuStats at written
  split at written
  · next reference =>
      cases written
      exact ⟨reference, rfl⟩
  · cases written

end Tables

namespace Oauth

open Json RuleSql Checked

section Transaction

variable {user : Osu.OsuUser} {parse : ParseInstant} {now joined : Timestamp} {discordId : DiscordId}
  {discordName : Option String} {tables after : Tables}

/-- The database accepts every text of the payload and the payload as JSONB. -/
def Sendable (user : Osu.OsuUser) (discordId : DiscordId) (discordName : Option String) : Prop :=
  (profileBinds user discordId discordName).all Bind.sendable ∧ user.toValue.storable

/-- The Discord account is not linked to another osu! account that has statistics. -/
def Relinkable (tables : Tables) (discordId : DiscordId) (osuUserId : OsuUserId) : Prop :=
  ∀ old ∈ tables.osuUsers.find discordId, old.osuUserId ≠ osuUserId →
    ∀ stats ∈ tables.osuStats.rows, stats.osuUserId ≠ old.osuUserId

/-- After a severing, no other Discord account holds the osu! account. -/
theorem mem_severed {row : OsuUser} :
    row ∈ (severOthers user discordId tables).osuUsers.rows ↔
      row ∈ tables.osuUsers.rows ∧ (row.osuUserId = user.id → row.discordId = discordId) := by
  change row ∈ (tables.osuUsers.delete _).rows ↔ _
  rw [Table.mem_delete]
  refine and_congr_right fun _ => ?_
  by_cases linked : row.osuUserId = user.id <;> simp [linked]

/-- The takeover severs the other links alone. -/
theorem find_severed : (severOthers user discordId tables).osuUsers.find discordId =
    tables.osuUsers.find discordId := by
  change (tables.osuUsers.delete _).find discordId = _
  rw [Table.find_delete]
  cases found : tables.osuUsers.find discordId with
  | none => rfl
  | some row =>
      have same := (Table.find_eq_some.mp found).2
      rw [Option.filter_some, if_pos]
      simp [same]

/-- The severing keeps the statistics of every account but the one that is linked. -/
theorem stats_severed {stats : OsuStats} (other : stats.osuUserId ≠ user.id) :
    stats ∈ (severOthers user discordId tables).osuStats.rows ↔ stats ∈ tables.osuStats.rows := by
  change stats ∈ (tables.osuStats.delete _).rows ↔ _
  rw [Table.mem_delete, and_iff_left_iff_imp]
  intro _
  rw [List.any_eq_false]
  intro row _ removed
  simp only [Bool.and_eq_true, decide_eq_true_eq] at removed
  exact other (removed.2.symm.trans removed.1.1)

/-- The upserted profile has the Discord id and the account of the fresh row. -/
theorem upserted_profile (tables : Tables) (fresh : OsuUser) :
    (tables.osuUsers.upserted fresh (mergeProfile fresh)).discordId = fresh.discordId ∧
      (tables.osuUsers.upserted fresh (mergeProfile fresh)).osuUserId = fresh.osuUserId := by
  refine ⟨tables.upserted_discordId fresh (mergeProfile_discordId fresh), ?_⟩
  unfold Table.upserted
  cases tables.osuUsers.find fresh.discordId <;> rfl

/-- After the takeover nobody else holds the account. -/
theorem severed_unclaimed {row : OsuUser} (same : row.discordId = discordId)
    (account : row.osuUserId = user.id) :
    (severOthers user discordId tables).Unclaimed row := by
  intro other member different equal
  exact different (((mem_severed.mp member).2 (equal.trans account)).trans same.symm)

/-- The old account can be left exactly when no statistics refer to it. -/
theorem severed_leaves_iff {row : OsuUser} (same : row.discordId = discordId)
    (account : row.osuUserId = user.id) :
    (severOthers user discordId tables).Leaves row ↔ Relinkable tables discordId user.id := by
  unfold Tables.Leaves Relinkable
  rw [same, account, find_severed]
  refine forall₂_congr fun old _ => forall_congr' fun moved => ?_
  constructor
  · intro free stats stored equal
    have other : stats.osuUserId ≠ user.id := fun linked => moved (equal.symm.trans linked)
    exact free stats ((stats_severed other).mpr stored) equal
  · intro free stats stored equal
    have other : stats.osuUserId ≠ user.id := fun linked => moved (equal.symm.trans linked)
    exact free stats ((stats_severed other).mp stored) equal

/-- JSONB accepts a storable value. -/
theorem jsonb_ok {value : Value} (storable : value.storable = true) :
    jsonb value = .ok ⟨value, storable⟩ := dif_pos storable

/-- JSONB accepts storable values alone. -/
theorem storable_of_jsonb {value : Value} {profile : Jsonb} (stored : jsonb value = .ok profile) :
    value.storable = true := by
  unfold jsonb at stored
  split at stored
  · assumption
  · cases stored

/-- The Discord id is the first of the texts, so it can be sent alone too. -/
theorem send_discordId (sendable : Sendable user discordId discordName) :
    send [.text discordId] = .ok () := by
  have each := List.all_eq_true.mp sendable.1 (.text discordId) List.mem_cons_self
  rw [send_ok_iff]
  simpa using each

/-- A profile is stored exactly when its texts can be sent and the Discord account can move. -/
theorem insertProfile_ok_iff {visited : Option Timestamp} :
    (∃ after, insertProfile user now discordId discordName joined visited
        (severOthers user discordId tables) = .ok after) ↔
      Sendable user discordId discordName ∧ Relinkable tables discordId user.id := by
  constructor
  · rintro ⟨after, written⟩
    obtain ⟨_, sent, stored⟩ := bind_ok written
    obtain ⟨profile, encoded, upserted⟩ := bind_ok stored
    have row := upserted_profile (severOthers user discordId tables)
      (profileRow user now discordId discordName joined visited profile)
    have passes := (Tables.upsertOsuUser_ok_iff _ _ (mergeProfile_discordId _)).mp ⟨after, upserted⟩
    exact ⟨⟨send_ok_iff.mp sent, storable_of_jsonb encoded⟩,
      (severed_leaves_iff row.1 row.2).mp passes.2⟩
  · rintro ⟨sendable, relinkable⟩
    have row := upserted_profile (severOthers user discordId tables)
      (profileRow user now discordId discordName joined visited ⟨user.toValue, sendable.2⟩)
    obtain ⟨after, upserted⟩ := (Tables.upsertOsuUser_ok_iff _ _ (mergeProfile_discordId _)).mpr
      ⟨severed_unclaimed row.1 row.2, (severed_leaves_iff row.1 row.2).mpr relinkable⟩
    refine ⟨after, ?_⟩
    unfold insertProfile
    rw [send_ok_iff.mpr sendable.1, jsonb_ok sendable.2]
    exact upserted

/-- The rows after the write are the linked row and those that hold neither identity. -/
theorem insertProfile_users {visited : Option Timestamp}
    (written : insertProfile user now discordId discordName joined visited
      (severOthers user discordId tables) = .ok after) :
    ∃ row, row.discordId = discordId ∧ row.osuUserId = user.id ∧ ∀ other,
      other ∈ after.osuUsers.rows ↔ other = row ∨
        other ∈ tables.osuUsers.rows ∧ other.discordId ≠ discordId ∧ other.osuUserId ≠ user.id := by
  obtain ⟨_, sent, stored⟩ := bind_ok written
  obtain ⟨profile, encoded, upserted⟩ := bind_ok stored
  have row := upserted_profile (severOthers user discordId tables)
    (profileRow user now discordId discordName joined visited profile)
  refine ⟨_, row.1, row.2, fun other => ?_⟩
  rw [Tables.upsertOsuUser_users upserted, Table.mem_upsert, mem_severed]
  refine or_congr_right ?_
  constructor
  · rintro ⟨⟨member, only⟩, different⟩
    exact ⟨member, different, fun account => different (only account)⟩
  · rintro ⟨member, different, account⟩
    exact ⟨⟨member, fun linked => absurd linked account⟩, different⟩

/-- A profile is written exactly when it can be sent and the old account can be left. -/
theorem upsertUserProfile_ok_iff (parsed : parse user.joinDate = .ok joined) :
    (∃ after, upsertUserProfile user parse now discordId discordName tables = .ok after) ↔
      Sendable user discordId discordName ∧ Relinkable tables discordId user.id := by
  unfold upsertUserProfile
  rw [parsed]
  dsimp only
  simp only [mapError_ok]
  constructor
  · rintro ⟨after, written⟩
    obtain ⟨_, _, inserted⟩ := bind_ok written
    exact insertProfile_ok_iff.mp ⟨after, inserted⟩
  · intro linkable
    obtain ⟨after, inserted⟩ := insertProfile_ok_iff.mpr linkable
    refine ⟨after, ?_⟩
    rw [send_discordId linkable.1]
    exact inserted

/-- A stored profile had a readable join date, and it decides the rows of the users. -/
theorem upsertUserProfile_users
    (written : upsertUserProfile user parse now discordId discordName tables = .ok after) :
    ∃ row, row.discordId = discordId ∧ row.osuUserId = user.id ∧ ∀ other,
      other ∈ after.osuUsers.rows ↔ other = row ∨
        other ∈ tables.osuUsers.rows ∧ other.discordId ≠ discordId ∧ other.osuUserId ≠ user.id := by
  unfold upsertUserProfile at written
  cases parsed : parse user.joinDate with
  | error message =>
      rw [parsed] at written
      cases written
  | ok joined =>
      rw [parsed] at written
      dsimp only at written
      rw [mapError_ok] at written
      obtain ⟨_, _, inserted⟩ := bind_ok written
      exact insertProfile_users inserted

section Pages

variable {osuUserId : OsuUserId} {pages : Mode → Option Osu.OsuUser}

/-- Some user row carries the account. -/
def Carried (tables : Tables) (osuUserId : OsuUserId) : Prop :=
  ∃ row ∈ tables.osuUsers.rows, row.osuUserId = osuUserId

/-- The statistics of a carried account are written. -/
theorem upsertStats_ok (now : Timestamp) (mode : Mode) (page : Osu.OsuUser)
    (carried : Carried tables osuUserId) :
    ∃ after, upsertStats now osuUserId mode page tables = .ok after := by
  obtain ⟨after, written⟩ := tables.upsertOsuStats_ok (statsRow now osuUserId mode page)
    (mergeStats_key (statsRow now osuUserId mode page)) carried
  exact ⟨after, mapError_ok.mpr written⟩

/-- The statistics are written for a carried account alone, and they leave the accounts. -/
theorem upsertStats_users {mode : Mode} {page : Osu.OsuUser}
    (written : upsertStats now osuUserId mode page tables = .ok after) :
    Carried tables osuUserId ∧ after.osuUsers = tables.osuUsers :=
  Tables.upsertOsuStats_reference (mapError_ok.mp written)

/-- Statistics never change the rows of the users. -/
theorem upsertPages_users {modes : List Mode}
    (written : upsertPages now osuUserId pages modes tables = .ok after) :
    after.osuUsers = tables.osuUsers := by
  induction modes generalizing tables with
  | nil =>
      cases written
      rfl
  | cons mode rest ih =>
      unfold upsertPages at written
      split at written
      · exact ih written
      · obtain ⟨stored, first, remaining⟩ := bind_ok written
        exact (ih remaining).trans (upsertStats_users first).2

/-- The pages are stored exactly when they are for an account that a user row carries. -/
theorem upsertPages_ok_iff {modes : List Mode} :
    (∃ after, upsertPages now osuUserId pages modes tables = .ok after) ↔
      ((∃ mode ∈ modes, (pages mode).isSome) → Carried tables osuUserId) := by
  induction modes generalizing tables with
  | nil =>
      refine ⟨fun _ none_fetched => ?_, fun _ => ⟨tables, rfl⟩⟩
      obtain ⟨mode, inside, _⟩ := none_fetched
      exact absurd inside List.not_mem_nil
  | cons mode rest ih =>
      unfold upsertPages
      cases fetched : pages mode with
      | none =>
          dsimp only
          rw [ih]
          simp [fetched]
      | some page =>
          have asked : ∃ other ∈ mode :: rest, (pages other).isSome :=
            ⟨mode, List.mem_cons_self, by rw [fetched]; rfl⟩
          constructor
          · rintro ⟨after, written⟩ _
            obtain ⟨stored, first, _⟩ := bind_ok written
            exact (upsertStats_users first).1
          · intro carried
            obtain ⟨stored, first⟩ := upsertStats_ok now mode page (carried asked)
            have kept : Carried stored osuUserId := by
              unfold Carried
              rw [(upsertStats_users first).2]
              exact carried asked
            obtain ⟨after, remaining⟩ := ih.mpr fun _ => kept
            refine ⟨after, ?_⟩
            dsimp only
            rw [first]
            exact remaining

/-- A page needs its account among the rows that remain, or in the linked row. -/
def Kept (tables : Tables) (discordId : DiscordId) (linked osuUserId : OsuUserId)
    (pages : Mode → Option Osu.OsuUser) : Prop :=
  (∃ mode, (pages mode).isSome) → osuUserId = linked ∨
    ∃ row ∈ tables.osuUsers.rows, row.osuUserId = osuUserId ∧ row.discordId ≠ discordId

/-- The transaction decides the rows of the users. -/
theorem accountTransaction_users
    (written : accountTransaction parse now discordId user discordName osuUserId pages tables =
      .ok after) :
    ∃ row, row.discordId = discordId ∧ row.osuUserId = user.id ∧ ∀ other,
      other ∈ after.osuUsers.rows ↔ other = row ∨
        other ∈ tables.osuUsers.rows ∧ other.discordId ≠ discordId ∧ other.osuUserId ≠ user.id := by
  obtain ⟨profiled, first, second⟩ := bind_ok written
  rw [upsertPages_users second]
  exact upsertUserProfile_users first

/-- The transaction commits exactly when the join date is readable, the payload can be sent, the
Discord account can move, and every page has its account. -/
theorem accountTransaction_ok_iff (parsed : parse user.joinDate = .ok joined) :
    (∃ after, accountTransaction parse now discordId user discordName osuUserId pages tables =
        .ok after) ↔
      (Sendable user discordId discordName ∧ Relinkable tables discordId user.id) ∧
        Kept tables discordId user.id osuUserId pages := by
  have all_modes : ∀ mode : Mode, mode ∈ Mode.all := by
    intro mode
    cases mode <;> decide
  have carried_iff : ∀ profiled, upsertUserProfile user parse now discordId discordName tables =
      .ok profiled → (Carried profiled osuUserId ↔ osuUserId = user.id ∨
        ∃ row ∈ tables.osuUsers.rows, row.osuUserId = osuUserId ∧ row.discordId ≠ discordId) := by
    intro profiled written
    obtain ⟨row, same, account, rows⟩ := upsertUserProfile_users written
    constructor
    · rintro ⟨other, inside, rfl⟩
      obtain rfl | ⟨old, different, _⟩ := (rows other).mp inside
      · exact Or.inl account
      · exact Or.inr ⟨other, old, rfl, different⟩
    · rintro (rfl | ⟨other, old, rfl, different⟩)
      · exact ⟨row, (rows row).mpr (Or.inl rfl), account⟩
      · by_cases linked : other.osuUserId = user.id
        · exact ⟨row, (rows row).mpr (Or.inl rfl), account.trans linked.symm⟩
        · exact ⟨other, (rows other).mpr (Or.inr ⟨old, different, linked⟩), rfl⟩
  rw [← upsertUserProfile_ok_iff parsed]
  constructor
  · rintro ⟨after, written⟩
    obtain ⟨profiled, first, second⟩ := bind_ok written
    refine ⟨⟨profiled, first⟩, fun ⟨mode, fetched⟩ => ?_⟩
    have carried := upsertPages_ok_iff.mp ⟨after, second⟩ ⟨mode, all_modes mode, fetched⟩
    exact (carried_iff profiled first).mp carried
  · rintro ⟨⟨profiled, first⟩, kept⟩
    obtain ⟨after, second⟩ := upsertPages_ok_iff.mpr fun fetched : ∃ mode ∈ Mode.all,
        (pages mode).isSome => by
      obtain ⟨mode, _, page⟩ := fetched
      exact (carried_iff profiled first).mpr (kept ⟨mode, page⟩)
    exact ⟨after, by rw [accountTransaction, first]; exact second⟩

end Pages

/-- One row links the Discord account to the osu! account, and no other row holds one of the two. -/
structure Linked (before after : Tables) (discordId : DiscordId) (osuUserId : OsuUserId) : Prop where
  linked : ∃ row ∈ after.osuUsers.rows, row.discordId = discordId ∧ row.osuUserId = osuUserId ∧
    ∀ other ∈ after.osuUsers.rows, other.discordId = discordId ∨ other.osuUserId = osuUserId →
      other = row
  frame : ∀ other, other.discordId ≠ discordId → other.osuUserId ≠ osuUserId →
    (other ∈ after.osuUsers.rows ↔ other ∈ before.osuUsers.rows)

/-- The link is there, and the other rows are those without the two ids. -/
theorem linked_of_users {row : OsuUser} (same : row.discordId = discordId)
    (account : row.osuUserId = user.id)
    (rows : ∀ other, other ∈ after.osuUsers.rows ↔ other = row ∨
      other ∈ tables.osuUsers.rows ∧ other.discordId ≠ discordId ∧ other.osuUserId ≠ user.id) :
    Linked tables after discordId user.id := by
  refine ⟨⟨row, (rows row).mpr (Or.inl rfl), same, account, fun other inside held => ?_⟩,
    fun other different apart => ?_⟩
  · obtain equal | ⟨_, different, apart⟩ := (rows other).mp inside
    · exact equal
    · obtain same' | account' := held
      · exact absurd same' different
      · exact absurd account' apart
  · rw [rows]
    constructor
    · rintro (rfl | ⟨old, _⟩)
      · exact absurd same different
      · exact old
    · intro old
      exact Or.inr ⟨old, different, apart⟩

/-- Linking succeeds with a one-to-one link exactly when the payload can be sent and the Discord
account is not linked to another osu! account with statistics. -/
theorem linking_succeeds_iff (parse : ParseInstant) (now : Timestamp) (discordId : DiscordId)
    (user : Osu.OsuUser) (discordName : Option String) (pages : Mode → Option Osu.OsuUser)
    (tables : Tables) (parsable : ∃ joined, parse user.joinDate = .ok joined) :
    (∃ after, accountTransaction parse now discordId user discordName user.id pages tables =
        .ok after ∧ Linked tables after discordId user.id) ↔
      Sendable user discordId discordName ∧ Relinkable tables discordId user.id := by
  obtain ⟨joined, parsed⟩ := parsable
  have own : Kept tables discordId user.id user.id pages := fun _ => Or.inl rfl
  constructor
  · rintro ⟨after, written, _⟩
    exact ((accountTransaction_ok_iff parsed).mp ⟨after, written⟩).1
  · intro linkable
    obtain ⟨after, written⟩ := (accountTransaction_ok_iff parsed).mpr ⟨linkable, own⟩
    obtain ⟨row, same, account, rows⟩ := accountTransaction_users written
    exact ⟨after, written, linked_of_users same account rows⟩

end Transaction

/-- A first link succeeds. -/
theorem first_linking_succeeds :
    ∃ after, accountTransaction Sample.parseInstant 0 "1" (Sample.payload 7) (some "name") 7
        (fun _ => some (Sample.payload 7)) Tables.empty = .ok after ∧
      Linked Tables.empty after "1" 7 :=
  (linking_succeeds_iff Sample.parseInstant 0 "1" (Sample.payload 7) (some "name")
    (fun _ => some (Sample.payload 7)) Tables.empty ⟨Sample.joinedAt, rfl⟩).mpr
    ⟨⟨by decide, by decide⟩, by intro old found; cases found⟩

/-- A player who has statistics cannot move to another osu! account. -/
theorem relinking_fails :
    Sample.parseInstant (Sample.payload 8).joinDate = .ok Sample.joinedAt ∧
      Sendable (Sample.payload 8) "1" (some "name") ∧
      accountTransaction Sample.parseInstant 0 "1" (Sample.payload 8) (some "name") 8
          (fun _ => some (Sample.payload 8))
          (Sample.oneUser (Sample.user "1" 7) (Sample.stats 7 .osu) rfl) =
        .error (.database (.foreignKeyViolation "osu_stats_osu_user_id_fkey")) :=
  ⟨rfl, ⟨by decide, by decide⟩, rfl⟩

end Oauth

end OsuPlayerRole

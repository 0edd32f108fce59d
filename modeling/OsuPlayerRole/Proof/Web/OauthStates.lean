/-
This file shows that an authorization is used once, and only for the account that began it.
-/
import OsuPlayerRole.Proof.Web.OauthRequests

namespace OsuPlayerRole.OauthFlow

open Web Auth Serving Resumption Program SharedLog KeyedTable

section Frame

variable (state : AppState) (outside : Outside) {tables after : Tables}

/-- Every other operation leaves the states of the authorizations alone. -/
def keepsStates : WebOp → Prop
  | .insertOauthState _ _ _ _ _ => False
  | .consumeOauthState _ => False
  | _ => True

variable (tables) in
/-- The states are those of these tables. -/
def SameStates (after : Tables) : Prop := after.osuOauthStates = tables.osuOauthStates

/-- A new job touches no login state. -/
theorem sameStates_enqueue {now : Timestamp} {kind : String} {payload : Json.Value} {delaySecs : Nat}
    (written : tables.enqueue now kind payload delaySecs = .ok after) : SameStates tables after := by
  obtain ⟨stored, _, remaining⟩ := Checked.bind_ok written
  cases remaining
  rfl

/-- A save touches no login state. -/
theorem sameStates_updateRuleTree {now : Timestamp} {tree : Json.Value} {link : Link} {expected : Int4}
    {count : Nat} (written : tables.updateRuleTree now tree link expected = .ok (count, after)) :
    SameStates tables after := by
  obtain ⟨_, _, remaining⟩ := Checked.bind_ok written
  obtain ⟨_, _, remaining⟩ := Checked.bind_ok remaining
  split at remaining
  · cases remaining
    rfl
  · split at remaining
    · obtain ⟨_, _, remaining⟩ := Checked.bind_ok remaining
      cases remaining
      rfl
    · cases remaining
      rfl

/-- A failed refresh touches no login state. -/
theorem sameStates_updateFailed {discordId : DiscordId} {next : Timestamp}
    (written : tables.updateFailed discordId next = .ok after) : SameStates tables after := by
  unfold Tables.updateFailed at written
  split at written
  · cases written
    rfl
  · obtain ⟨_, _, remaining⟩ := Checked.bind_ok written
    cases remaining
    rfl

/-- A profile touches no login state. -/
theorem sameStates_upsertOsuUser {before : Tables} {fresh : OsuUser} {merge : OsuUser → OsuUser}
    {keeps : ∀ row, (merge row).discordId = row.discordId} (same : SameStates tables before)
    (written : before.upsertOsuUser fresh merge keeps = .ok after) : SameStates tables after := by
  unfold Tables.upsertOsuUser at written
  dsimp only at written
  split at written
  · split at written
    · cases written
      exact same
    · cases written
  · cases written

/-- The statistics touch no login state. -/
theorem sameStates_upsertOsuStats {before : Tables} {fresh : OsuStats} {merge : OsuStats → OsuStats}
    {keeps : ∀ row, (merge row).key = row.key} (same : SameStates tables before)
    (written : before.upsertOsuStats fresh merge keeps = .ok after) : SameStates tables after := by
  unfold Tables.upsertOsuStats at written
  split at written
  · cases written
    exact same
  · cases written

/-- The transaction of an account touches no login state. -/
theorem sameStates_accountTransaction {parse : Oauth.ParseInstant} {now : Timestamp}
    {discordId : DiscordId} {user : Osu.OsuUser} {discordName : Option String} {osuUserId : OsuUserId}
    {pages : Mode → Option Osu.OsuUser}
    (written : Oauth.accountTransaction parse now discordId user discordName osuUserId pages tables =
      .ok after) : SameStates tables after :=
  of_accountTransaction (SameStates tables) (fun _ _ same => same) sameStates_upsertOsuUser
    sameStates_upsertOsuStats rfl written

/-- Only the statements about login states change them. -/
theorem perform_keepsStates {operation : WebOp} (keeps : keepsStates operation) :
    SameStates tables (perform state outside tables operation).2 := by
  cases operation with
  | insertRoleLink link token | insertGuildSettings guildId | upsertViewPermission guildId permission =>
      refine of_writing (SameStates tables) rfl fun after written => ?_
      obtain ⟨_, _, remaining⟩ := Checked.bind_ok written
      cases remaining
      rfl
  | deleteRoleLink link token | deleteOsuUser discordId =>
      refine of_returning (SameStates tables) rfl fun _ after written => ?_
      obtain ⟨_, _, remaining⟩ := Checked.bind_ok written
      cases remaining
      rfl
  | updateRuleTree tree link expected =>
      exact of_returning (SameStates tables) rfl fun _ _ => sameStates_updateRuleTree
  | enqueuePlayerSync discordId => exact of_writing (SameStates tables) rfl fun _ => sameStates_enqueue
  | enqueueConfigSync link => exact of_writing (SameStates tables) rfl fun _ => sameStates_enqueue
  | linkAccount discordId user pages =>
      exact of_committing (SameStates tables) rfl fun _ => sameStates_accountTransaction
  | refreshAccount discordId osuUserId primary pages =>
      exact of_committing (SameStates tables) rfl fun _ => sameStates_accountTransaction
  | updateFailed discordId next => exact of_writing (SameStates tables) rfl fun _ => sameStates_updateFailed
  | insertOauthState token codeVerifier discordId returnTo expiresAt => cases keeps
  | consumeOauthState token => cases keeps
  | _ => rfl

/-- A refused operation changes no login state either. -/
theorem answer_keepsStates {operation : WebOp} (keeps : keepsStates operation) :
    SameStates tables (answer state outside tables operation).2 := by
  unfold answer
  split
  · rfl
  · exact perform_keepsStates state outside keeps

/-- An insertion adds its row, or it fails without an effect. -/
theorem answer_insert {token codeVerifier : String} {discordId : DiscordId} {returnTo : Option String}
    {expiresAt : Timestamp} {row : OsuOauthState}
    (member : row ∈ (answer state outside tables
      (.insertOauthState token codeVerifier discordId returnTo expiresAt)).2.osuOauthStates.rows) :
    row ∈ tables.osuOauthStates.rows ∨
      row = ⟨token, codeVerifier, discordId, returnTo, outside.now, expiresAt⟩ ∧
        (answer state outside tables
          (.insertOauthState token codeVerifier discordId returnTo expiresAt)).1 = .ok () := by
  unfold answer at member ⊢
  cases refused : outside.refused (.insertOauthState token codeVerifier discordId returnTo expiresAt) with
  | some error =>
      rw [refused] at member
      exact Or.inl member
  | none =>
      rw [refused] at member
      dsimp only [perform] at member ⊢
      cases written : tables.insertOauthState
        ⟨token, codeVerifier, discordId, returnTo, outside.now, expiresAt⟩ with
      | error error =>
          rw [written] at member
          exact Or.inl member
      | ok inserted =>
          rw [written] at member
          obtain ⟨_, _, remaining⟩ := Checked.bind_ok written
          split at remaining
          · next stored found =>
              cases remaining
              exact ((Table.mem_insert? found).mp member).imp_right fun same => ⟨same, rfl⟩
          · cases remaining

/-- These are the two outcomes of the statement that consumes a state. -/
theorem answer_consume (token : String) :
    let live := fun row : OsuOauthState => row.state = token && decide (row.expiresAt > outside.now)
    (answer state outside tables (.consumeOauthState token) =
        (.ok (((tables.osuOauthStates.find token).filter live).map fun row =>
            (row.codeVerifier, row.discordId)),
          { tables with osuOauthStates := tables.osuOauthStates.delete live })) ∨
      ∃ error, answer state outside tables (.consumeOauthState token) = (.error error, tables) := by
  intro live
  unfold answer
  cases outside.refused (.consumeOauthState token) with
  | some error => exact Or.inr ⟨error, rfl⟩
  | none =>
      dsimp only [perform]
      cases taken : tables.consumeOauthState outside.now token with
      | error error => exact Or.inr ⟨_, rfl⟩
      | ok outcome =>
          obtain ⟨_, _, remaining⟩ := Checked.bind_ok taken
          cases remaining
          exact Or.inl rfl

/-- A consumed state was stored and live. -/
theorem answer_consumed {token codeVerifier : String} {discordId : DiscordId}
    (consumed : (answer state outside tables (.consumeOauthState token)).1 =
      .ok (some (codeVerifier, discordId))) :
    ∃ row ∈ tables.osuOauthStates.rows, row.state = token ∧ row.codeVerifier = codeVerifier ∧
      row.discordId = discordId ∧ outside.now < row.expiresAt := by
  obtain outcome | ⟨error, outcome⟩ := @answer_consume state outside tables token
  · rw [outcome] at consumed
    obtain ⟨row, taken, same⟩ := Option.map_eq_some_iff.mp (Except.ok.inj consumed)
    obtain ⟨found, live⟩ := Option.filter_eq_some_iff.mp taken
    obtain ⟨member, named⟩ := Table.find_eq_some.mp found
    obtain ⟨rfl, rfl⟩ := Prod.mk.inj same
    rw [Bool.and_eq_true, decide_eq_true_eq, decide_eq_true_eq] at live
    exact ⟨row, member, named, rfl, rfl, live.2⟩
  · rw [outcome] at consumed
    cases consumed

/-- A consumed state is stored no more. -/
theorem answer_unstored {token : String} {row : OsuOauthState}
    (member : row ∈ (answer state outside tables (.consumeOauthState token)).2.osuOauthStates.rows) :
    row ∈ tables.osuOauthStates.rows ∧ (row.state = token → ∀ found,
      (answer state outside tables (.consumeOauthState token)).1 ≠ .ok (some found)) := by
  obtain outcome | ⟨error, outcome⟩ := @answer_consume state outside tables token
  · rw [outcome] at member ⊢
    obtain ⟨inside, kept⟩ := Table.mem_delete.mp member
    refine ⟨inside, fun named found consumed => ?_⟩
    obtain ⟨other, taken, _⟩ := Option.map_eq_some_iff.mp (Except.ok.inj consumed)
    obtain ⟨stored, live⟩ := Option.filter_eq_some_iff.mp taken
    rw [← named, Table.find_of_mem inside] at stored
    obtain rfl := Option.some.inj stored
    rw [live] at kept
    cases kept
  · rw [outcome] at member ⊢
    exact ⟨member, fun _ found consumed => by cases consumed⟩

end Frame

section Entries

variable (state : AppState)

/-- The entry has this operation and this value. -/
def Entry.Did (entry : Entry) (operation : WebOp) (value : operation.Value) : Prop :=
  entry.performed state = ⟨operation, .ok value⟩

/-- The entry inserts the state. -/
def Entry.Inserts (token : String) (entry : Entry) : Prop :=
  ∃ codeVerifier discordId returnTo expiresAt,
    entry.Did state (.insertOauthState token codeVerifier discordId returnTo expiresAt) ()

/-- The entry consumes the state. -/
def Entry.Consumes (token : String) (entry : Entry) : Prop :=
  ∃ codeVerifier discordId, entry.Did state (.consumeOauthState token) (some (codeVerifier, discordId))

/-- A consumed state has been inserted before, it is live, and it has not been consumed. -/
def Taken (before : List Entry) (entry : Entry) : Prop :=
  ∀ token codeVerifier discordId, entry.Did state (.consumeOauthState token) (some (codeVerifier, discordId)) →
    (∃ inserting ∈ before, ∃ returnTo expiresAt,
      inserting.Did state (.insertOauthState token codeVerifier discordId returnTo expiresAt) () ∧
        entry.moment.outside.now < expiresAt) ∧
      ∀ earlier ∈ before, ¬earlier.Consumes state token

variable {state} {flow after : Flow}

/-- An entry did the operation of its moment. -/
theorem Entry.Did.operation {entry : Entry} {operation : WebOp} {value : operation.Value}
    (did : entry.Did state operation value) : entry.moment.operation = operation :=
  congrArg Sigma.fst did

/-- An entry of the past is an entry of the log. -/
theorem mem_pastOf {log : List Entry} {index : Nat} {operation : WebOp} {value : operation.Value}
    (member : (⟨operation, .ok value⟩ : Performed WebOp WebOp.Value AppError) ∈ pastOf state log index) :
    ∃ entry ∈ log, entry.index = index ∧ entry.Did state operation value := by
  obtain ⟨entry, inside, same⟩ := List.mem_map.mp member
  obtain ⟨logged, own⟩ := mem_past.mp inside
  exact ⟨entry, logged, own, same⟩

/-- A new state is the token that was drawn. -/
theorem drawn_of_did {entry : Entry} {token : String} (did : entry.Did state .newState token) :
    entry.drawn = some token := by
  obtain ⟨index, tables, outside, operation⟩ := entry
  obtain ⟨same, answered⟩ := performed_ok did
  dsimp only at same
  subst same
  cases answered
  rfl

/-- An inserted state was drawn by the request that inserts it. -/
theorem drawn_of_inserts {before : List Entry} {entry : Entry} {token : String}
    (lawful : Lawful state flow before entry) (inserts : entry.Inserts state token) :
    ∃ drawing ∈ before, drawing.index = entry.index ∧ drawing.drawn = some token := by
  obtain ⟨codeVerifier, discordId, returnTo, expiresAt, did⟩ := inserts
  obtain ⟨headers, request, _, admits⟩ := lawful
  rw [did.operation] at admits
  obtain ⟨_, _, _, checked, name, created, _, whole, _⟩ := admits
  obtain ⟨drawing, inside, own, drew⟩ := @mem_pastOf state before entry.index .newState token
    (by rw [whole]; exact .tail _ (.head _))
  exact ⟨drawing, inside, own, drawn_of_did drew⟩

/-- A request that inserts a state has inserted none before. -/
theorem past_of_inserts {before : List Entry} {entry earlier : Entry} {token other : String}
    (lawful : Lawful state flow before entry) (inserts : entry.Inserts state token)
    (inside : earlier ∈ before) (own : earlier.index = entry.index) : ¬earlier.Inserts state other := by
  rintro ⟨codeVerifier', discordId', returnTo', expiresAt', did'⟩
  obtain ⟨codeVerifier, discordId, returnTo, expiresAt, did⟩ := inserts
  obtain ⟨headers, request, _, admits⟩ := lawful
  rw [did.operation] at admits
  obtain ⟨_, _, _, checked, name, created, _, whole, _⟩ := admits
  have performed : earlier.performed state ∈ pastOf state before entry.index :=
    List.mem_map_of_mem (mem_past.mpr ⟨inside, own⟩)
  rw [whole, did'] at performed
  have operations := List.mem_map_of_mem (f := Sigma.fst) performed
  simp at operations

/-- No state is inserted twice. -/
theorem inserts_once {log : List Entry} (lawful : Admitted (Lawful state flow) log)
    (fresh : Admitted (Fresh Entry.drawn) log) :
    Admitted (fun before entry => ∀ token, entry.Inserts state token →
      ∀ earlier ∈ before, ¬earlier.Inserts state token) log := by
  intro before entry later split token inserts earlier inside again
  have allowed := lawful before entry later split
  obtain ⟨drawing, present, own, drew⟩ := drawn_of_inserts allowed inserts
  obtain ⟨first, middle, rfl⟩ := List.append_of_mem inside
  have older := lawful first earlier (middle ++ entry :: later)
    (by rw [split, List.append_assoc, List.cons_append])
  obtain ⟨other, behind, same, drewToo⟩ := drawn_of_inserts older again
  -- The state was drawn once, so one request inserts it.
  have prior : Admitted (Fresh Entry.drawn) (first ++ earlier :: middle) := by
    rw [split] at fresh
    exact admitted_of_append fresh
  obtain rfl := eq_of_mark prior present (List.mem_append_left _ behind) drew drewToo
  exact past_of_inserts allowed inserts inside (same.symm.trans own) again

end Entries

section Invariant

variable (state : AppState)

/-- The row has been inserted and not consumed. -/
def Pending (log : List Entry) (row : OsuOauthState) : Prop :=
  (∃ inserting ∈ log, ∃ returnTo, inserting.Did state
    (.insertOauthState row.state row.codeVerifier row.discordId returnTo row.expiresAt) ()) ∧
    ∀ entry ∈ log, ¬entry.Consumes state row.state

/-- The requests keep to what they may do, and the stored states are pending. -/
structure Sound (flow : Flow) : Prop extends Followed state flow where
  fresh : Admitted (Fresh Entry.drawn) flow.log
  taken : Admitted (Taken state) flow.log
  stored : ∀ row ∈ flow.service.tables.osuOauthStates.rows, Pending state flow.log row

variable {state} {flow after : Flow}

/-- At the start no login state exists. -/
theorem sound_start {tables : Tables} (unused : tables.osuOauthStates.rows = []) :
    Sound state (Flow.start tables) where
  toFollowed := followed_start tables
  fresh := admitted_nil
  taken := admitted_nil
  stored row member := by
    change row ∈ tables.osuOauthStates.rows at member
    rw [unused] at member
    cases member

/-- A live row that the statement finds has been inserted and not consumed. -/
theorem Sound.takes {entry : Entry} (sound : Sound state flow)
    (current : entry.moment.tables = flow.service.tables) : Taken state flow.log entry := by
  intro token codeVerifier discordId did
  obtain ⟨index, tables, outside, operation⟩ := entry
  obtain rfl : operation = .consumeOauthState token := did.operation
  obtain rfl : tables = flow.service.tables := current
  have answered := eq_of_heq (Sigma.mk.inj did).2
  obtain ⟨row, member, rfl, rfl, rfl, live⟩ := answer_consumed state outside answered
  obtain ⟨⟨inserting, inside, returnTo, inserted⟩, unconsumed⟩ := sound.stored row member
  exact ⟨⟨inserting, inside, returnTo, row.expiresAt, inserted, live⟩, unconsumed⟩

/-- A row stays pending until it is consumed. -/
theorem pending_append {log : List Entry} {entry : Entry} {row : OsuOauthState}
    (pending : Pending state log row) (unused : ¬entry.Consumes state row.state) :
    Pending state (log ++ [entry]) row := by
  obtain ⟨⟨inserting, inside, inserted⟩, unconsumed⟩ := pending
  refine ⟨⟨inserting, List.mem_append_left _ inside, inserted⟩, fun other logged => ?_⟩
  rcases List.mem_append.mp logged with earlier | last
  · exact unconsumed other earlier
  · rw [List.mem_singleton.mp last]
    exact unused

/-- An inserted row is pending, because its state is new. -/
theorem pending_inserted {log : List Entry} {entry : Entry} {row : OsuOauthState}
    (taken : Admitted (Taken state) log)
    (once : ∀ earlier ∈ log, ¬earlier.Inserts state row.state)
    (inserted : entry.Did state
      (.insertOauthState row.state row.codeVerifier row.discordId row.returnTo row.expiresAt) ()) :
    Pending state (log ++ [entry]) row := by
  refine ⟨⟨entry, List.mem_append_right _ (.head _), row.returnTo, inserted⟩, fun other logged consumes => ?_⟩
  obtain ⟨codeVerifier, discordId, did⟩ := consumes
  rcases List.mem_append.mp logged with earlier | last
  · obtain ⟨before, later, rfl⟩ := List.append_of_mem earlier
    obtain ⟨⟨inserting, inside, returnTo, expiresAt, again, _⟩, _⟩ :=
      taken before other later rfl _ _ _ did
    exact once inserting (List.mem_append_left _ inside) ⟨_, _, _, _, again⟩
  · rw [List.mem_singleton.mp last] at did
    cases inserted.operation.symm.trans did.operation

/-- Each step with a fresh draw keeps the login states sound. -/
theorem sound_step {event : Event} (sound : Sound state flow) (drawsFresh : DrawsFresh flow event)
    (moves : Moves state flow event after) : Sound state after := by
  have followed := followed_step sound.toFollowed moves
  cases moves with
  | arrived headers request => exact ⟨followed, sound.fresh, sound.taken, sound.stored⟩
  | collected now =>
      refine ⟨followed, sound.fresh, sound.taken, fun row member => ?_⟩
      exact sound.stored row (Table.mem_delete.mp member).1
  | changed tables => exact ⟨followed, sound.fresh, sound.taken, sound.stored⟩
  | advanced index outside handling operation next present remaining =>
      have entered : flow.entry? (.advance index outside) =
          some ⟨index, flow.service.tables, outside, operation⟩ := by
        simp only [Flow.entry?, present, Option.bind_some, remaining, Program.head?, Option.map_some]
      have fresh := admitted_append sound.fresh (drawsFresh _ entered)
      refine ⟨followed, fresh, admitted_append sound.taken (sound.takes rfl), fun row member => ?_⟩
      -- Only an operation on the states changes which rows are stored.
      by_cases keeps : keepsStates operation
      · have same : SameStates flow.service.tables (answer state outside flow.service.tables operation).2 :=
          answer_keepsStates state outside keeps
        have old : row ∈ flow.service.tables.osuOauthStates.rows := by
          rw [← same]
          exact member
        refine pending_append (sound.stored row old) ?_
        rintro ⟨codeVerifier, discordId, did⟩
        obtain rfl : operation = .consumeOauthState row.state := did.operation
        exact keeps
      · cases operation with
        | insertOauthState token codeVerifier discordId returnTo expiresAt =>
            obtain old | ⟨rfl, stored⟩ := answer_insert state outside member
            · refine pending_append (sound.stored row old) ?_
              rintro ⟨_, _, did⟩
              cases did.operation
            · have did : Entry.Did state ⟨index, flow.service.tables, outside,
                  .insertOauthState token codeVerifier discordId returnTo expiresAt⟩
                  (.insertOauthState token codeVerifier discordId returnTo expiresAt) () :=
                congrArg (Sigma.mk _) stored
              refine pending_inserted sound.taken ?_ did
              exact inserts_once followed.lawful fresh _ _ [] rfl token ⟨_, _, _, _, did⟩
        | consumeOauthState token =>
            obtain ⟨old, unconsumed⟩ := answer_unstored state outside member
            refine pending_append (sound.stored row old) ?_
            rintro ⟨codeVerifier, discordId, did⟩
            obtain named := did.operation
            cases named
            exact unconsumed rfl _ (eq_of_heq (Sigma.mk.inj did).2)
        | _ => exact absurd trivial keeps

end Invariant

section Run

variable (state : AppState)

/-- Before this point a request with a session of the account, from an allowed page, has inserted the
state with a verifier that it drew. -/
def Begun (flow : Flow) (log : List Entry) (token codeVerifier : String) (discordId : DiscordId)
    (expiresAt : Timestamp) : Prop :=
  ∃ before inserting later, log = before ++ inserting :: later ∧
    inserting.Did state (.insertOauthState token codeVerifier discordId none expiresAt) () ∧
    (∃ headers origin allowed cookie name, flow.asked inserting.index = some (headers, .verifyOsu) ∧
      headers.origin = some origin ∧ allowed ∈ state.config.allowedOrigins ∧
      RustText.trimEnd '/' origin = RustText.trimEnd '/' allowed ∧ headers.rlSession = some cookie ∧
      ∃ checking ∈ before, checking.index = inserting.index ∧ checking.moment.operation = .utcNow ∧
        verifySession state.signing checking.moment.outside.now cookie state.config.sessionSecret =
          some (discordId, name)) ∧
    ∃ drawing ∈ before, drawing.index = inserting.index ∧ drawing.Did state .newCodeVerifier codeVerifier

/-- The request of the entry has consumed a state of the account, has exchanged its code with the
verifier of that state, and has read the profile with the token that it got. -/
def Exchanged (flow : Flow) (before : List Entry) (entry : Entry) (discordId : DiscordId)
    (user : Osu.OsuUser) : Prop :=
  ∃ headers query code token codeVerifier expiresAt accessToken first consuming middle,
    flow.asked entry.index = some (headers, .oauthCallback query) ∧
    query.code = some code ∧ query.state = some token ∧
    before = first ++ consuming :: middle ∧ consuming.index = entry.index ∧
    consuming.Did state (.consumeOauthState token) (some (codeVerifier, discordId)) ∧
    Begun state flow first token codeVerifier discordId expiresAt ∧
    consuming.moment.outside.now < expiresAt ∧
    (∃ exchanging ∈ middle, exchanging.index = entry.index ∧ exchanging.Did state
      (.exchangeCode code (Oauth.redirectUri state.config.baseUrl) codeVerifier) accessToken) ∧
    ∃ asking ∈ middle, asking.index = entry.index ∧ asking.Did state (.getMe accessToken) user

/-- A state is inserted once, consumed once and in time, and a link follows from the state of its own
account. -/
structure UsedOnce (flow : Flow) : Prop where
  inserted : flow.log.Pairwise fun first second =>
    ∀ token, second.Inserts state token → ¬first.Inserts state token
  consumed : flow.log.Pairwise fun first second =>
    ∀ token, second.Consumes state token → ¬first.Consumes state token
  live : Admitted (fun before entry => ∀ token codeVerifier discordId,
    entry.Did state (.consumeOauthState token) (some (codeVerifier, discordId)) →
      ∃ expiresAt, Begun state flow before token codeVerifier discordId expiresAt ∧
        entry.moment.outside.now < expiresAt) flow.log
  linked : Admitted (fun before entry => ∀ discordId user pages,
    entry.Did state (.linkAccount discordId user pages) () →
      Exchanged state flow before entry discordId user) flow.log

variable {state} {flow : Flow}

/-- The owner of a state has begun its flow. -/
theorem begun_of_inserted (sound : Sound state flow) {log rest : List Entry} (whole : flow.log = log ++ rest)
    {inserting : Entry} (inside : inserting ∈ log) {token codeVerifier : String} {discordId : DiscordId}
    {returnTo : Option String} {expiresAt : Timestamp}
    (did : inserting.Did state (.insertOauthState token codeVerifier discordId returnTo expiresAt) ()) :
    Begun state flow log token codeVerifier discordId expiresAt := by
  obtain ⟨before, later, rfl⟩ := List.append_of_mem inside
  obtain ⟨headers, request, asked, admits⟩ := sound.lawful before inserting (later ++ rest)
    (by rw [whole, List.append_assoc, List.cons_append])
  rw [did.operation] at admits
  obtain ⟨rfl, rfl, passed, checked, name, created, opened, past, _⟩ := admits
  obtain ⟨origin, sent, allowed, listed, same⟩ := verifyOrigin_ok passed
  obtain ⟨cookie, found, verified⟩ := readSession_ok opened
  obtain ⟨checking, checkedIn, own, clock⟩ := @mem_pastOf state before inserting.index .utcNow checked
    (by rw [past]; exact .head _)
  obtain ⟨drawing, drawnIn, mine, drew⟩ :=
    @mem_pastOf state before inserting.index .newCodeVerifier codeVerifier
      (by rw [past]; exact .tail _ (.tail _ (.head _)))
  obtain ⟨reads, instant⟩ := performed_ok clock
  refine ⟨before, inserting, later, rfl, did, ?_, drawing, drawnIn, mine, drew⟩
  refine ⟨headers, origin, allowed, cookie, name, asked, sent, listed, same, found, checking, checkedIn,
    own, reads, ?_⟩
  cases instant
  exact verified

/-- A consumed state was begun before, by the same member, and has not expired. -/
theorem live_of_sound (sound : Sound state flow) {before later : List Entry} {entry : Entry}
    (split : flow.log = before ++ entry :: later) {token codeVerifier : String} {discordId : DiscordId}
    (did : entry.Did state (.consumeOauthState token) (some (codeVerifier, discordId))) :
    ∃ expiresAt, Begun state flow before token codeVerifier discordId expiresAt ∧
      entry.moment.outside.now < expiresAt := by
  obtain ⟨⟨inserting, inside, returnTo, expiresAt, inserted, inTime⟩, _⟩ :=
    sound.taken before entry later split _ _ _ did
  exact ⟨expiresAt, begun_of_inserted sound split inside inserted, inTime⟩

/-- A link has the past of a finished flow. -/
theorem exchanged_of_sound (sound : Sound state flow) {before later : List Entry} {entry : Entry}
    (split : flow.log = before ++ entry :: later) {discordId : DiscordId} {user : Osu.OsuUser}
    {pages : Mode → Option Osu.OsuUser} (did : entry.Did state (.linkAccount discordId user pages) ()) :
    Exchanged state flow before entry discordId user := by
  obtain ⟨headers, request, asked, admits⟩ := sound.lawful before entry later split
  rw [did.operation] at admits
  obtain ⟨query, code, token, codeVerifier, accessToken, rest, rfl, named, carried, past⟩ := admits
  obtain ⟨consuming, others, own, consumed, remaining⟩ := List.map_eq_cons_iff.mp past
  obtain ⟨first, middle, rfl, mine, elder⟩ := split_of_past own
  rw [← elder] at remaining
  have earlier : flow.log = first ++ consuming :: (middle ++ entry :: later) := by
    rw [split, List.append_assoc, List.cons_append]
  obtain ⟨expiresAt, begun, inTime⟩ := live_of_sound sound earlier consumed
  obtain ⟨exchanging, exchangedIn, same, exchanged⟩ := @mem_pastOf state middle entry.index
    (.exchangeCode code (Oauth.redirectUri state.config.baseUrl) codeVerifier) accessToken
    (by rw [pastOf, remaining]; exact .head _)
  obtain ⟨asking, askedIn, equal, answered⟩ := @mem_pastOf state middle entry.index (.getMe accessToken) user
    (by rw [pastOf, remaining]; exact .tail _ (.head _))
  exact ⟨headers, query, code, token, codeVerifier, expiresAt, accessToken, first, consuming, middle, asked,
    named, carried, rfl, mine, consumed, begun, inTime, ⟨exchanging, exchangedIn, same, exchanged⟩,
    asking, askedIn, equal, answered⟩

/-- In a sound flow each login state is consumed once at most. -/
theorem usedOnce_of_sound (sound : Sound state flow) : UsedOnce state flow where
  inserted := pairwise_of_admitted fun before entry later split earlier inside token inserts =>
    inserts_once sound.lawful sound.fresh before entry later split token inserts earlier inside
  consumed := pairwise_of_admitted fun before entry later split earlier inside token consumes => by
    obtain ⟨codeVerifier, discordId, did⟩ := consumes
    exact (sound.taken before entry later split _ _ _ did).2 earlier inside
  live before entry later split token codeVerifier discordId did := live_of_sound sound split did
  linked before entry later split discordId user pages did := exchanged_of_sound sound split did

/-- In every run of requests, failures and removals, a state is used once and by the flow of its owner. -/
theorem states_used_once (state : AppState) (tables : Tables) (events : List Event) (last : Flow)
    (unused : tables.osuOauthStates.rows = [])
    (fresh : EventRun.Guarded (Flow.step state) DrawsFresh (Flow.start tables) events)
    (ran : EventRun.run (Flow.step state) (Flow.start tables) events = some last) :
    UsedOnce state last := by
  have sound : Sound state last := EventRun.run_invariant (Sound state)
    (fun _ _ _ sound drawsFresh stepped => sound_step sound drawsFresh (moves_of_step stepped))
    (sound_start unused) fresh ran
  exact usedOnce_of_sound sound

end Run

section Sample

/-- The service knows the account 7. -/
def reachable : Outside :=
  { Sample.alone 0 with
    exchangeCode := fun _ _ _ => .ok "access"
    getMe := fun _ => .ok (Sample.payload 7)
    clientCredentialsToken := .ok "app" }

/-- The player "1" begins a flow, and its callback is served up to the link. -/
def flowOfOne : List Event :=
  .arrive Sample.signedIn .verifyOsu :: List.replicate 5 (.advance 0 (Sample.alone 0)) ++
    .arrive Sample.noHeaders (.oauthCallback ⟨some "code", some "state", none, none⟩) ::
      List.replicate 9 (.advance 1 reachable)

/-- The flow of the player "1" links the account. -/
theorem flow_of_one_links :
    ∃ last, EventRun.run (Flow.step Sample.appState) (Flow.start Tables.empty) flowOfOne = some last ∧
      (last.service.tables.osuUsers.rows.map fun row => (row.discordId, row.osuUserId)) = [("1", 7)] ∧
      UsedOnce Sample.appState last := by
  have links : (EventRun.run (Flow.step Sample.appState) (Flow.start Tables.empty) flowOfOne).map
      (fun last => last.service.tables.osuUsers.rows.map fun row => (row.discordId, row.osuUserId)) =
      some [("1", 7)] := by decide +kernel
  obtain ⟨last, ran, users⟩ := Option.map_eq_some_iff.mp links
  refine ⟨last, ran, users, ?_⟩
  exact states_used_once Sample.appState Tables.empty flowOfOne last rfl (by decide +kernel) ran

end Sample

end OsuPlayerRole.OauthFlow

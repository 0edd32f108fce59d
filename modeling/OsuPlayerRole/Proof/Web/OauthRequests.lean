/-
This file shows what a request has done before each operation of an authorization.
-/
import OsuPlayerRole.Construction.Routes.OauthFlow
import OsuPlayerRole.Library.SharedLog
import OsuPlayerRole.Proof.Web.RuleGrants

namespace OsuPlayerRole.OauthFlow

open Web Auth Serving Resumption Program SharedLog

/-- These operations neither insert a state nor consume one, and they link no account. -/
def unrelated : WebOp → Prop
  | .insertOauthState _ _ _ _ _ => False
  | .consumeOauthState _ => False
  | .linkAccount _ _ _ => False
  | _ => True

section Requests

variable (state : AppState) (headers : Headers) (request : Request)

/-- The request has checked its origin and its session, and it has drawn the state and the verifier. -/
def Begins (past : Past) (token codeVerifier : String) (discordId : DiscordId)
    (returnTo : Option String) (expiresAt : Timestamp) : Prop :=
  request = .verifyOsu ∧ returnTo = none ∧
    verifyOrigin headers state.config.allowedOrigins = .ok () ∧
    ∃ checked name created, readSession state.signing state.config checked headers = .ok (discordId, name) ∧
      past = [⟨.utcNow, .ok checked⟩, ⟨.newState, .ok token⟩, ⟨.newCodeVerifier, .ok codeVerifier⟩,
        ⟨.utcNow, .ok created⟩] ∧
      expiresAt = created + Verify.stateMinutes

/-- The request consumes the state that it names, before anything else. -/
def Returns (past : Past) (token : String) : Prop :=
  past = [] ∧ ∃ query code, request = .oauthCallback query ∧ query.error = none ∧
    query.code = some code ∧ query.state = some token

/-- The request has exchanged its code with the verifier of the consumed state. -/
def Finishes (past : Past) (discordId : DiscordId) (user : Osu.OsuUser) : Prop :=
  ∃ query code token codeVerifier accessToken rest, request = .oauthCallback query ∧
    query.code = some code ∧ query.state = some token ∧
    past = ⟨.consumeOauthState token, .ok (some (codeVerifier, discordId))⟩ ::
      ⟨.exchangeCode code (Oauth.redirectUri state.config.baseUrl) codeVerifier, .ok accessToken⟩ ::
      ⟨.getMe accessToken, .ok user⟩ :: rest

/-- This is what a request may do after its past. -/
def Admits (past : Past) : WebOp → Prop
  | .insertOauthState token codeVerifier discordId returnTo expiresAt =>
      Begins state headers request past token codeVerifier discordId returnTo expiresAt
  | .consumeOauthState token => Returns request past token
  | .linkAccount discordId user _ => Finishes state request past discordId user
  | _ => True

variable {state headers request}

/-- An unrelated operation is admitted at any point. -/
theorem admits_of_unrelated (past : Past) (operation : WebOp) (apart : unrelated operation) :
    Admits state headers request past operation := by
  cases operation <;> trivial

/-- The first page of the flow asks for admitted operations only. -/
theorem verifyOsu_follows :
    Follows (recorded (Admits state headers .verifyOsu)) (fun _ _ => True) []
      (Verify.verifyOsu state headers) := by
  refine follows_check _ (fun _ origin => ?_) fun _ => trivial
  refine follows_ask_bind trivial (fun checked _ => ?_) fun _ _ => trivial
  refine follows_check _ (fun session opened => ?_) fun _ => trivial
  split
  · trivial
  · split
    · trivial
    · refine follows_ask_bind trivial (fun token _ => ?_) fun _ _ => trivial
      refine follows_ask_bind trivial (fun codeVerifier _ => ?_) fun _ _ => trivial
      refine follows_ask_bind trivial (fun created _ => ?_) fun _ _ => trivial
      refine follows_ask_bind ?_ (fun _ _ => trivial) fun _ _ => trivial
      exact ⟨rfl, rfl, origin, checked, session.2, created, opened, rfl, rfl⟩

/-- The requests for the pages come between the profile and the transaction. -/
theorem callback_follows (query : Oauth.CallbackQuery) :
    Follows (recorded (Admits state headers (.oauthCallback query))) (fun _ _ => True) []
      (Oauth.callback state query) := by
  unfold Oauth.callback
  split
  · trivial
  · next noError =>
      split
      · trivial
      · next code named =>
          split
          · trivial
          · next token carried =>
              have returning : Returns (.oauthCallback query) [] token :=
                ⟨rfl, query, code, rfl, noError, named, carried⟩
              refine follows_ask_bind returning (fun found _ => ?_) fun _ _ => trivial
              split
              · trivial
              · next codeVerifier discordId _ =>
                  refine follows_check _ (fun _ _ => ?_) fun _ => trivial
                  refine follows_ask_bind trivial (fun accessToken _ => ?_) fun _ _ => trivial
                  refine follows_ask_bind trivial (fun user _ => ?_) fun _ _ => trivial
                  split
                  · trivial
                  · refine follows_ask_bind trivial (fun appToken _ => ?_) fun _ _ => trivial
                    refine follows_bind (follows_recorded admits_of_unrelated
                      (only_fetchPages (fun _ _ _ => trivial) appToken user.id Mode.all) _)
                      (fun pages past longer => ?_) fun _ _ _ => trivial
                    obtain ⟨rest, rfl⟩ := longer
                    refine follows_ask_bind ?_ (fun _ _ => ?_) fun _ _ => trivial
                    · exact ⟨query, code, token, codeVerifier, accessToken, _, rfl, named, carried, rfl⟩
                    · exact follows_ask_bind trivial (fun _ _ => trivial) fun _ _ => trivial

theorem unrelated_of_reads (operation : WebOp) (reads : operation.reads) : unrelated operation := by
  cases operation <;> trivial

/-- Every request keeps to what it may do. -/
theorem route_admits (headers : Headers) (request : Request) :
    Follows (recorded (Admits state headers request)) (fun _ _ => True) [] (route state headers request) := by
  have apart {A : Type} {program : WebProgram A} {image : A → Response} (only : program.Only unrelated) :
      Follows (recorded (Admits state headers request)) (fun _ _ => True) []
        (program >>= fun value => .done (image value)) :=
    follows_bind (follows_recorded admits_of_unrelated only []) (fun _ _ _ => trivial) fun _ _ _ => trivial
  have reading {A : Type} {program : WebProgram A} {image : A → Response}
      (only : program.Only WebOp.reads) :
      Follows (recorded (Admits state headers request)) (fun _ _ => True) []
        (program >>= fun value => .done (image value)) :=
    apart (only_mono unrelated_of_reads only)
  cases request with
  | register guildId roleId => exact apart (only_register (fun _ => trivial) trivial)
  | getConfig => exact reading getConfig_reads
  | postConfig guildId roleId => exact reading postConfig_reads
  | deleteConfig guildId roleId => exact apart (only_deleteConfig fun _ => trivial)
  | roleConfigPage guildId roleId rlToken => exact reading (roleConfigPage_reads rlToken)
  | roleConfigData guildId roleId => exact reading roleConfigData_reads
  | roleConfigSave guildId roleId body =>
      exact apart (only_roleConfigSave unrelated_of_reads (fun _ _ => trivial) trivial body)
  | roleConfigPreview guildId roleId => exact reading roleConfigPreview_reads
  | roleConfigPreviewEdit guildId roleId body => exact reading (roleConfigPreviewEdit_reads body)
  | setViewPermission guildId permission =>
      exact apart (only_setViewPermission unrelated_of_reads (fun _ => trivial) permission)
  | usersData guildId => exact reading usersData_reads
  | oauthCallback query =>
      exact follows_bind (callback_follows query) (fun _ _ _ => trivial) fun _ _ _ => trivial
  | verifyStatus => exact reading verifyStatus_reads
  | verifyOsu => exact follows_bind verifyOsu_follows (fun _ _ _ => trivial) fun _ _ _ => trivial
  | verifyUnlink => exact apart (only_verifyUnlink unrelated_of_reads (fun _ => trivial) fun _ => trivial)
  | dweebStatus guild => exact reading (dweebStatus_reads guild)
  | rendered => trivial

end Requests

section Log

variable (state : AppState)

/-- The operation of the entry with its answer. -/
def Entry.performed (entry : Entry) : Performed WebOp WebOp.Value AppError := entry.moment.performed state

/-- The operations of one request. -/
def pastOf (log : List Entry) (index : Nat) : Past := (past Entry.index log index).map (Entry.performed state)

/-- The request of the entry may perform its operation. -/
def Lawful (flow : Flow) (before : List Entry) (entry : Entry) : Prop :=
  ∃ headers request, flow.asked entry.index = some (headers, request) ∧
    Admits state headers request (pastOf state before entry.index) entry.moment.operation

/-- Every request keeps to what it may do, and the log has its operations. -/
structure Followed (flow : Flow) : Prop where
  handled : ∀ index handling, flow.service.handlings[index]? = some handling →
    handling.moments = (past Entry.index flow.log index).map Entry.moment ∧
      Follows (recorded (Admits state handling.headers handling.request)) (fun _ _ => True)
        (handling.past state) handling.program
  lawful : Admitted (Lawful state flow) flow.log

variable {state} {flow after : Flow}

/-- What one event does to the requests, the tables and the log. -/
inductive Moves (state : AppState) (flow : Flow) : Event → Flow → Prop where
  | arrived (headers : Headers) (request : Request) : Moves state flow (.arrive headers request)
      ⟨⟨flow.service.tables, flow.service.handlings ++ [.arrived state headers request]⟩, flow.log⟩
  | advanced (index : Nat) (outside : Outside) (handling : Handling) (operation : WebOp)
      (next : Except AppError operation.Value → WebProgram Response)
      (present : flow.service.handlings[index]? = some handling)
      (remaining : handling.program = .call operation next) :
      Moves state flow (.advance index outside)
        ⟨⟨(answer state outside flow.service.tables operation).2,
          flow.service.handlings.set index ⟨handling.headers, handling.request,
            handling.moments ++ [⟨flow.service.tables, outside, operation⟩],
            next (answer state outside flow.service.tables operation).1⟩⟩,
          flow.log ++ [⟨index, flow.service.tables, outside, operation⟩]⟩
  | collected (now : Timestamp) : Moves state flow (.gc now)
      ⟨⟨Reconcile.gcOauthStates now flow.service.tables, flow.service.handlings⟩, flow.log⟩
  | changed (tables : Tables) : Moves state flow (.elsewhere tables)
      ⟨⟨{ tables with osuOauthStates := flow.service.tables.osuOauthStates }, flow.service.handlings⟩,
        flow.log⟩

/-- Every step of the flow is one of its moves. -/
theorem moves_of_step {event : Event} (stepped : flow.step state event = some after) :
    Moves state flow event after := by
  obtain ⟨service, served, rfl⟩ := Option.map_eq_some_iff.mp stepped
  have idle (unmoved : flow.entry? event = none) : flow.log ++ (flow.entry? event).toList = flow.log := by
    rw [unmoved, Option.toList_none, List.append_nil]
  cases event with
  | arrive headers request =>
      cases served
      rw [idle rfl]
      exact .arrived headers request
  | advance index outside =>
      obtain ⟨⟨advanced, tables⟩, moved, rfl⟩ := Option.map_eq_some_iff.mp served
      obtain ⟨handling, present, performed⟩ := Option.bind_eq_some_iff.mp moved
      obtain ⟨operation, next, remaining, rfl, rfl⟩ := advance_ok performed
      have entered : flow.entry? (.advance index outside) =
          some ⟨index, flow.service.tables, outside, operation⟩ := by
        simp only [Flow.entry?, present, Option.bind_some, remaining, Program.head?, Option.map_some]
      rw [entered]
      exact .advanced index outside handling operation next present remaining
  | gc now =>
      cases served
      rw [idle rfl]
      exact .collected now
  | elsewhere tables =>
      cases served
      rw [idle rfl]
      exact .changed tables

/-- A step keeps the requests that have been asked. -/
theorem asked_step {event : Event} {index : Nat} {asked : Headers × Request}
    (moves : Moves state flow event after) (present : flow.asked index = some asked) :
    after.asked index = some asked := by
  cases moves with
  | arrived headers request =>
      obtain ⟨handling, found, rfl⟩ := Option.map_eq_some_iff.mp present
      have early := (List.getElem?_eq_some_iff.mp found).1
      refine Option.map_eq_some_iff.mpr ⟨handling, ?_, rfl⟩
      exact (List.getElem?_append_left early).trans found
  | advanced position outside handling operation next here remaining =>
      obtain ⟨asking, found, rfl⟩ := Option.map_eq_some_iff.mp present
      refine Option.map_eq_some_iff.mpr ?_
      by_cases same : position = index
      · subst same
        obtain rfl := Option.some.inj (here.symm.trans found)
        exact ⟨_, List.getElem?_set_self (List.getElem?_eq_some_iff.mp here).1, rfl⟩
      · exact ⟨asking, (List.getElem?_set_ne same).trans found, rfl⟩
  | collected now => exact present
  | changed tables => exact present

/-- A move keeps the log of the flow lawful. -/
theorem lawful_step {event : Event} {log : List Entry} (moves : Moves state flow event after)
    (lawful : Admitted (Lawful state flow) log) : Admitted (Lawful state after) log :=
  admitted_mono (fun _ _ ⟨headers, request, present, admits⟩ =>
    ⟨headers, request, asked_step moves present, admits⟩) lawful

/-- Every entry belongs to a request that has arrived. -/
theorem index_lt {entry : Entry} (lawful : Admitted (Lawful state flow) flow.log)
    (member : entry ∈ flow.log) : entry.index < flow.service.handlings.length := by
  obtain ⟨before, later, split⟩ := List.append_of_mem member
  obtain ⟨headers, request, present, _⟩ := lawful before entry later split
  obtain ⟨handling, found, _⟩ := Option.map_eq_some_iff.mp present
  exact (List.getElem?_eq_some_iff.mp found).1

/-- The flow begins with nothing to follow. -/
theorem followed_start (tables : Tables) : Followed state (Flow.start tables) where
  handled index handling found := by cases found
  lawful := admitted_nil

/-- A move keeps the programs on their courses. -/
theorem followed_step {event : Event} (followed : Followed state flow)
    (moves : Moves state flow event after) : Followed state after := by
  have lawful := lawful_step moves followed.lawful
  cases moves with
  | arrived headers request =>
      refine ⟨fun index handling found => ?_, lawful⟩
      obtain old | ⟨rfl, rfl⟩ := found_append found
      · exact followed.handled index handling old
      · refine ⟨?_, route_admits headers request⟩
        have unheard : past Entry.index flow.log flow.service.handlings.length = [] :=
          past_eq_nil fun entry member => Nat.ne_of_lt (index_lt followed.lawful member)
        rw [unheard]
        rfl
  | advanced index outside handling operation next here remaining =>
      obtain ⟨moments, follows⟩ := followed.handled index handling here
      rw [remaining] at follows
      have whole : handling.past state = pastOf state flow.log index := by
        rw [Handling.past, moments, pastOf, List.map_map]
        rfl
      refine ⟨fun place other found => ?_, admitted_append lawful ?_⟩
      · obtain ⟨rfl, rfl⟩ | ⟨different, old⟩ := found_set found
        · refine ⟨?_, ?_⟩
          · rw [past_append_self, List.map_append, ← moments]
            rfl
          · have continued := follows.2 (answer state outside flow.service.tables operation).1 trivial
            unfold Handling.past
            rw [List.map_append]
            exact continued
        · rw [past_append_of_ne different]
          exact followed.handled place other old
      · refine ⟨handling.headers, handling.request, ?_, ?_⟩
        · refine asked_step (.advanced index outside handling operation next here remaining) ?_
          exact Option.map_eq_some_iff.mpr ⟨handling, here, rfl⟩
        · rw [← whole]
          exact follows.1
  | collected now => exact ⟨followed.handled, lawful⟩
  | changed tables => exact ⟨followed.handled, lawful⟩

end Log

end OsuPlayerRole.OauthFlow

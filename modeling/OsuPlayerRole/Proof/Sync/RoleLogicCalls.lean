/-
This file shows what the calls of RoleLogic leave behind, whatever becomes of their requests.
-/
import OsuPlayerRole.Construction.Services.RoleLogic
import OsuPlayerRole.Library.Checked

namespace OsuPlayerRole.RoleLogic

open Json Resumption Program

variable {handling : Nat → Handled} {served : Server × Nat} {crates : Crates} {link : Link}
  {token uploadId : String}

/-- The error is more than a message about the call. -/
def Definite (error : AppError) : Prop := ∀ message, error ≠ .roleLogic message

/-- What one request may leave behind. After a definite error it has not been applied. -/
structure Requested {A : Type} (call : Call) (before : Server) (answer : Except AppError A)
    (after : Server × Nat) : Prop where
  either : after.1 = before ∨ after.1 = before.apply call
  accepted : ∀ value, answer = .ok value → after.1 = before.apply call
  refused : ∀ error, answer = .error error → Definite error → after.1 = before

section Replies

variable {response : Response} {error : AppError}

/-- The statuses from 400 to 499 are client errors. -/
theorem clientError_of_status (low : 400 ≤ response.status) (high : response.status < 500) :
    response.isClientError = true := by
  unfold Response.isClientError
  rw [Bool.and_eq_true, decide_eq_true_iff, decide_eq_true_iff]
  exact ⟨low, high⟩

/-- An error about the link is a rejection by the server. -/
theorem linkError_rejects (found : linkError response = some error) : response.isClientError = true := by
  unfold linkError at found
  have forbidden : response.status = 403 := by
    split_ifs at found with gone inactive
    · exact gone.1
    · exact beq_iff_eq.mp (Bool.and_eq_true_iff.mp inactive).1
  exact clientError_of_status (by omega) (by omega)

/-- An error about the limit is a rejection by the server. -/
theorem limitError_rejects (found : limitError crates response = some error) :
    response.isClientError = true := by
  unfold limitError at found
  split_ifs at found with reached
  rcases reached.1 with bad | forbidden
  · exact clientError_of_status (by omega) (by omega)
  · exact clientError_of_status (by omega) (by omega)

/-- A held removal is a rejection by the server. -/
theorem heldError_rejects (found : heldError response = some error) : response.isClientError = true := by
  unfold heldError removalHeld at found
  split_ifs at found with held
  have conflict : response.status = 409 := beq_iff_eq.mp (Bool.and_eq_true_iff.mp held).1
  exact clientError_of_status (by omega) (by omega)

/-- The first kind that fits the response is its error, and otherwise a message is. -/
theorem definite_getD {found : Option AppError} {what : String}
    (rejects : ∀ error, found = some error → response.isClientError = true)
    (definite : Definite (found.getD (failed crates what response))) :
    response.isClientError = true := by
  cases found with
  | some error => exact rejects error rfl
  | none => exact absurd rfl (definite _)

/-- Either of two errors is a rejection by the server. -/
theorem orElse_rejects {first second : Option AppError}
    (left : ∀ error, first = some error → response.isClientError = true)
    (right : ∀ error, second = some error → response.isClientError = true) (error : AppError)
    (found : (first <|> second) = some error) : response.isClientError = true := by
  cases first with
  | some other => exact left other rfl
  | none => exact right error found

end Replies

section Requests

/-- The reply is read, and nothing more is requested. -/
theorem ends_json {A : Type} {response : Response} {error : AppError} {rest : Value → Calls A}
    {post : Except AppError A → Server × Nat → Prop}
    (continued : ∀ body, response.isSuccess = true → Ends (handle handling) post served (rest body))
    (unreadable : ∀ message, response.isSuccess = true → post (.error (.roleLogic message)) served)
    (unsuccessful : post (.error error) served) :
    Ends (handle handling) post served (json response error >>= rest) := by
  unfold json
  split
  · next success =>
      split
      · next body _ => exact continued body success
      · next message _ => exact unreadable message success
  · exact unsuccessful

/-- A request is applied when it succeeds, and not when it meets a definite error. -/
theorem ends_request {A : Type} {call : Call} {error : Response → AppError} {rest : Value → Calls A}
    {post : Except AppError A → Server × Nat → Prop}
    (rejects : ∀ response, Definite (error response) → response.isClientError = true)
    (continued : ∀ body, (handling served.2).applied = true →
      Ends (handle handling) post (served.1.apply call, served.2 + 1) (rest body))
    (stopped : ∀ error, (Definite error → (handling served.2).applied = false) →
      post (.error error) (handle handling served ⟨link, token, call⟩).2) :
    Ends (handle handling) post served
      (ask ⟨link, token, call⟩ >>= fun response => json response (error response) >>= rest) := by
  refine ends_ask_bind (fun response replied => ?_) fun failure lost => ?_
  · have reply : (handling served.2).reply = .ok response := Checked.mapError_ok.mp replied
    refine ends_json (fun body success => ?_) (fun message success => ?_) ?_
    · have applied := (handling served.2).accepted response reply success
      have moved : (handle handling served ⟨link, token, call⟩).2 =
          (served.1.apply call, served.2 + 1) := congrArg (·, served.2 + 1) (if_pos applied)
      rw [moved]
      exact continued body applied
    · exact stopped _ fun definite => absurd rfl (definite message)
    · exact stopped _ fun definite => (handling served.2).rejected response reply (rejects response definite)
  · refine stopped _ fun definite => ?_
    change (handling served.2).reply.mapError _ = _ at lost
    revert lost
    cases (handling served.2).reply with
    | ok given => exact nofun
    | error message =>
        intro same
        cases same
        exact absurd rfl (definite message)

/-- A request may be applied or not. -/
theorem handle_either (request : Request) :
    (handle handling served request).2.1 = served.1 ∨
      (handle handling served request).2.1 = served.1.apply request.call := by
  change (if (handling served.2).applied then _ else _) = _ ∨
    (if (handling served.2).applied then _ else _) = _
  split
  · exact Or.inr rfl
  · exact Or.inl rfl

/-- A request that is not applied leaves the server as it is. -/
theorem handle_unapplied (request : Request) (unapplied : (handling served.2).applied = false) :
    (handle handling served request).2.1 = served.1 := by
  change (if (handling served.2).applied then _ else _) = _
  rw [unapplied]
  exact if_neg Bool.false_ne_true

/-- A call of one request hands on a part of the body. -/
theorem requested_ends {A : Type} {call : Call} {error : Response → AppError} {image : Value → A}
    (rejects : ∀ response, Definite (error response) → response.isClientError = true) :
    Ends (handle handling) (Requested call served.1) served
      (ask ⟨link, token, call⟩ >>= fun response => json response (error response) >>=
        fun body => .done (image body)) := by
  refine ends_request rejects (fun body _ => ⟨Or.inr rfl, fun _ _ => rfl, fun _ => nofun⟩) ?_
  intro failure unapplied
  refine ⟨handle_either _, fun value => nofun, ?_⟩
  rintro other same definite
  cases same
  exact handle_unapplied _ (unapplied definite)

/-- The answer of a call of one request tells whether the request was applied. -/
structure Tells {A : Type} (applied : Bool) (answer : Except AppError A) : Prop where
  accepted : ∀ value, answer = .ok value → applied = true
  refused : ∀ error, answer = .error error → Definite error → applied = false

/-- The result of a call tells whether its request has been applied. -/
theorem request_tells {A : Type} {call : Call} {error : Response → AppError} {image : Value → A}
    (rejects : ∀ response, Definite (error response) → response.isClientError = true) :
    Ends (handle handling) (fun answer _ => Tells (handling served.2).applied answer) served
      (ask ⟨link, token, call⟩ >>= fun response => json response (error response) >>=
        fun body => .done (image body)) := by
  refine ends_request rejects (fun body applied => ⟨fun _ _ => applied, fun _ => nofun⟩) ?_
  intro failure unapplied
  refine ⟨fun value => nofun, ?_⟩
  rintro other same definite
  cases same
  exact unapplied definite

/-- The result of the call tells whether the member was added. -/
theorem addUser_tells (userId : DiscordId) :
    Ends (handle handling) (fun answer _ => Tells (handling served.2).applied answer) served
      (addUser crates link token userId) :=
  request_tells fun _ => definite_getD
    (orElse_rejects (fun _ => linkError_rejects) fun _ => limitError_rejects)

/-- The result of the call tells whether the member was removed. -/
theorem removeUser_tells (userId : DiscordId) :
    Ends (handle handling) (fun answer _ => Tells (handling served.2).applied answer) served
      (removeUser crates link token userId) :=
  request_tells fun _ => definite_getD fun _ => linkError_rejects

/-- The call ends with the answer to its request. -/
theorem replaceUsers_ends (userIds : List DiscordId) :
    Ends (handle handling) (Requested (.putUsers userIds) served.1) served
      (replaceUsers crates link token userIds) :=
  requested_ends fun _ => definite_getD
    (orElse_rejects (fun _ => linkError_rejects) fun _ => heldError_rejects)

/-- The call ends with the answer to its request. -/
theorem commitUpload_ends :
    Ends (handle handling) (Requested (.postCommit uploadId) served.1) served
      (commitUpload crates link token uploadId) :=
  requested_ends fun _ => definite_getD fun _ => heldError_rejects

end Requests

section Upload

variable {users : Finset DiscordId} {staged : List DiscordId} {count : Nat}

/-- The chunks make up the list. -/
theorem chunks_flatten {A : Type} (size : Nat) (items : List A) :
    (chunks size items).flatten = items := by
  fun_induction chunks size items with
  | case1 => rfl
  | case2 item rest ih => rw [List.flatten_cons, ih, List.cons_append, List.take_append_drop]

/-- The upload session leaves the list alone, and after a success it holds these users. -/
def Staged {A : Type} (users : Finset DiscordId) (staged : List DiscordId) (answer : Except AppError A)
    (after : Server × Nat) : Prop :=
  after.1.users = users ∧ ∀ value, answer = .ok value → after.1.staged = staged

/-- A new session has nothing staged. -/
theorem startUpload_ends :
    Ends (handle handling) (Staged served.1.users []) served (startUpload crates link token) := by
  refine ends_request (fun _ => definite_getD fun _ => linkError_rejects) (fun body _ => ?_) ?_
  · split
    · exact ⟨rfl, fun _ _ => rfl⟩
    · exact ⟨rfl, fun _ => nofun⟩
  · intro error _
    refine ⟨?_, fun _ => nofun⟩
    rcases handle_either ⟨link, token, .postUpload⟩ with same | same
    · exact congrArg Server.users same
    · exact (congrArg Server.users same).trans rfl

/-- A chunk is staged behind the earlier ones, and the list is kept. -/
theorem uploadChunk_ends (userIds : List DiscordId) :
    Ends (handle handling) (Staged served.1.users (served.1.staged ++ userIds)) served
      (uploadChunk crates link token uploadId userIds) := by
  have kept (n : Nat) : (if (handling n).applied then served.1.apply (.postChunk uploadId userIds)
      else served.1).users = served.1.users := by
    split <;> rfl
  refine ends_ask_bind (fun response replied => ?_) fun failure _ => ?_
  · split
    · next success =>
        refine ⟨kept _, fun _ _ => ?_⟩
        have reply : (handling served.2).reply = .ok response := Checked.mapError_ok.mp replied
        have applied := (handling served.2).accepted response reply success
        change (if (handling served.2).applied then served.1.apply (.postChunk uploadId userIds)
          else served.1).staged = _
        rw [applied]
        rfl
    · exact ⟨kept _, fun _ => nofun⟩
  · exact ⟨kept _, fun _ => nofun⟩

/-- A cancellation leaves the list. -/
theorem cancelUpload_ends :
    Ends (handle handling) (fun _ after => after.1.users = served.1.users) served
      (cancelUpload crates link token uploadId) := by
  have kept (n : Nat) : (if (handling n).applied then served.1.apply (.deleteUpload uploadId)
      else served.1).users = served.1.users := by
    split <;> rfl
  refine ends_ask_bind (fun response _ => ?_) fun failure _ => kept _
  split
  · exact kept _
  · exact kept _

/-- An error of a chunk carries a message. -/
theorem uploadChunks_ends (pieces : List (List DiscordId)) :
    Ends (handle handling) (Staged served.1.users (served.1.staged ++ pieces.flatten)) served
      (uploadChunks crates link token uploadId pieces) := by
  induction pieces generalizing served with
  | nil => exact ⟨rfl, fun _ _ => (List.append_nil _).symm⟩
  | cons piece rest ih =>
      refine ends_attempt_bind (uploadChunk_ends piece) fun answer after reached => ?_
      obtain ⟨users, gathered⟩ := reached
      cases answer with
      | error error =>
          refine ends_attempt_bind cancelUpload_ends fun _ last kept => ?_
          exact ⟨kept.trans users, fun _ => nofun⟩
      | ok value =>
          refine ends_mono (fun final last finished => ?_) ih
          obtain ⟨same, whole⟩ := finished
          refine ⟨same.trans users, fun other success => ?_⟩
          rw [whole other success, gathered value rfl, List.append_assoc, List.flatten_cons]

/-- A replacement as a whole, or none. -/
structure Replaced (before : Finset DiscordId) (userIds : List DiscordId) (answer : Except AppError Nat)
    (after : Server × Nat) : Prop where
  either : after.1.users = before ∨ after.1.users = userIds.toFinset
  accepted : ∀ count, answer = .ok count → after.1.users = userIds.toFinset
  refused : ∀ error, answer = .error error → Definite error → after.1.users = before

/-- A failed upload never leaves a part of its list, however it is transported. -/
theorem uploadUsers_ends (userIds : List DiscordId) :
    Ends (handle handling) (Replaced served.1.users userIds) served
      (uploadUsers crates link token userIds) := by
  have stopped {B : Type} {error : AppError} {after : Server × Nat} {staged : List DiscordId}
      (reached : Staged (A := B) served.1.users staged (.error error) after) :
      Replaced served.1.users userIds (.error error) after :=
    ⟨Or.inl reached.1, fun _ => nofun, fun _ _ _ => reached.1⟩
  unfold uploadUsers
  split
  · refine ends_mono (fun answer after reached => ?_) (replaceUsers_ends userIds)
    exact ⟨reached.either.imp (congrArg Server.users) (congrArg Server.users),
      fun count same => congrArg Server.users (reached.accepted count same),
      fun error same definite => congrArg Server.users (reached.refused error same definite)⟩
  · refine ends_bind startUpload_ends (fun uploadId after started => ?_) fun _ _ => stopped
    refine ends_bind (uploadChunks_ends _) (fun _ last gathered => ?_) fun error last reached => ?_
    · have users : last.1.users = served.1.users := gathered.1.trans started.1
      have staged : last.1.staged = userIds := by
        rw [gathered.2 _ rfl, started.2 _ rfl, List.nil_append, chunks_flatten]
      refine ends_mono (fun answer final reached => ?_) commitUpload_ends
      refine ⟨?_, fun count same => ?_, fun error same definite => ?_⟩
      · rcases reached.either with same | same
        · exact Or.inl ((congrArg Server.users same).trans users)
        · exact Or.inr ((congrArg Server.users same).trans (congrArg List.toFinset staged))
      · exact (congrArg Server.users (reached.accepted count same)).trans (congrArg List.toFinset staged)
      · exact (congrArg Server.users (reached.refused error same definite)).trans users
    · exact stopped ⟨reached.1.trans started.1, reached.2⟩

end Upload

end OsuPlayerRole.RoleLogic

/-
This file shows which requests the calls of RoleLogic send, whatever is answered.
-/
import OsuPlayerRole.Library.Traces
import OsuPlayerRole.Proof.Sync.RoleLogicCalls

namespace OsuPlayerRole.RoleLogic

open Json Resumption Program

/-- The requests with their answers, in the order in which they are sent. -/
abbrev Traffic := List (Performed Request (fun _ => Response) AppError)

def Succeeded (answer : Except AppError Response) : Prop :=
  ∃ response, answer = .ok response ∧ response.isSuccess = true

/-- RoleLogic says that the link or its token no longer exists. -/
def Gone (answer : Except AppError Response) : Prop :=
  ∃ response, answer = .ok response ∧ response.status = 403 ∧
    RustText.contains response.body rlLinkGoneErrorMsg = true

/-- RoleLogic says that the link is disabled or paused. -/
def Inactive (answer : Except AppError Response) : Prop :=
  ¬Gone answer ∧ ∃ response, answer = .ok response ∧ response.status = 403 ∧
    (RustText.contains response.body rlLinkDisabledErrorMsg = true ∨
      RustText.contains response.body rlLinkPausedErrorMsg = true)

/-- A request without an answer fails with a message. -/
def Answered (_ : Request) (answer : Except AppError Response) : Prop :=
  ∀ error, answer = .error error → ∃ message, error = .roleLogic message

/-- The result of a call whose request has got this answer. -/
structure Reads {A : Type} (answer : Except AppError Response) (result : Except AppError A) : Prop where
  accepted : ∀ value, result = .ok value → Succeeded answer
  rejected : (Gone answer ∨ Inactive answer) → ∃ error, result = .error error

/-- The result tells whether the link is gone or inactive. -/
structure Recognises {A : Type} (answer : Except AppError Response) (result : Except AppError A) :
    Prop extends Reads answer result where
  gone : result = .error .roleLinkNotFound ↔ Gone answer
  inactive : result = .error .roleLinkDisabled ↔ Inactive answer

/-- The result is an error like any other. -/
structure Overlooks {A : Type} (answer : Except AppError Response) (result : Except AppError A) :
    Prop extends Reads answer result where
  plain : (Gone answer ∨ Inactive answer) → ∃ message, result = .error (.roleLogic message)
  unaware : result ≠ .error .roleLinkNotFound ∧ result ≠ .error .roleLinkDisabled

section Answers

variable {crates : Crates} {response : Response} {A : Type}

/-- A response reports a link that is gone exactly when the client takes it so. -/
theorem gone_iff : Gone (.ok response) ↔ linkError response = some .roleLinkNotFound := by
  unfold Gone linkError
  split_ifs with gone inactive
  · exact ⟨fun _ => rfl, fun _ => ⟨response, rfl, gone⟩⟩
  · constructor
    · rintro ⟨_, same, found⟩
      cases same
      exact absurd found gone
    · exact nofun
  · constructor
    · rintro ⟨_, same, found⟩
      cases same
      exact absurd found gone
    · exact nofun

/-- A response reports an inactive link exactly when the client takes it so. -/
theorem inactive_iff : Inactive (.ok response) ↔ linkError response = some .roleLinkDisabled := by
  unfold Inactive
  rw [gone_iff]
  unfold linkError
  have reads : linkInactive response.status response.body = true ↔ response.status = 403 ∧
      (RustText.contains response.body rlLinkDisabledErrorMsg = true ∨
        RustText.contains response.body rlLinkPausedErrorMsg = true) := by
    unfold linkInactive
    rw [Bool.and_eq_true, beq_iff_eq, Bool.or_eq_true]
  split_ifs with gone inactive
  · simp
  · simpa using reads.mp inactive
  · constructor
    · rintro ⟨_, _, same, found⟩
      cases same
      exact absurd (reads.mpr found) inactive
    · exact nofun

/-- A request without an answer reports nothing. -/
theorem not_gone_error {error : AppError} : ¬Gone (.error error) := by
  rintro ⟨_, same, _⟩
  cases same

/-- A request without an answer reports no inactive link. -/
theorem not_inactive_error {error : AppError} : ¬Inactive (.error error) := by
  rintro ⟨_, _, same, _⟩
  cases same

/-- A link that is gone or inactive is not a success. -/
theorem linkError_of (refused : Gone (.ok response) ∨ Inactive (.ok response)) :
    response.isSuccess = false ∧ heldError response = none := by
  have forbidden : response.status = 403 := by
    rcases refused with ⟨_, same, status, _⟩ | ⟨_, _, same, status, _⟩
    · cases same
      exact status
    · cases same
      exact status
  constructor
  · rw [Response.isSuccess, forbidden]
    rfl
  · rw [heldError, removalHeld, forbidden]
    rfl

end Answers

section Requests

variable {crates : Crates} {link : Link} {token uploadId : String} {log : Traffic} {A : Type}

/-- The reply is read without another request. -/
theorem ran_json {response : Response} {error : AppError} {rest : Value → Calls A}
    {result : Except AppError A} (ran : Ran Answered (json response error >>= rest) log result) :
    (response.isSuccess = true ∧ ∃ body, response.json = .ok body ∧ Ran Answered (rest body) log result) ∨
      (response.isSuccess = true ∧ log = [] ∧ ∃ message, response.json = .error message ∧
        result = .error (.roleLogic message)) ∨
      (response.isSuccess = false ∧ log = [] ∧ result = .error error) := by
  unfold json at ran
  split at ran
  · next success =>
      split at ran
      · next body found => exact Or.inl ⟨success, body, found, ran⟩
      · next message found =>
          obtain ⟨rfl, rfl⟩ := ran_fail ran
          exact Or.inr (Or.inl ⟨success, rfl, message, found, rfl⟩)
  · next failure =>
      obtain ⟨rfl, rfl⟩ := ran_fail ran
      exact Or.inr (Or.inr ⟨Bool.eq_false_iff.mpr failure, rfl, rfl⟩)

/-- What follows a body sends nothing, and its errors are messages. -/
def Quiet (rest : Value → Calls A) : Prop :=
  ∀ body log result, Ran Answered (rest body) log result →
    log = [] ∧ ∀ error, result = .error error → ∃ message, error = .roleLogic message

/-- The reading of a body without a further request is quiet. -/
theorem quiet_done (image : Value → A) : Quiet fun body => (.done (image body) : Calls A) := by
  intro body log result ran
  obtain ⟨rfl, rfl⟩ := ran_done ran
  exact ⟨rfl, fun _ => nofun⟩

/-- The error of a reply is the one of its link, if there is any. -/
def Names (error : Response → AppError) : Prop :=
  ∀ response, (error response = .roleLinkNotFound ↔ linkError response = some .roleLinkNotFound) ∧
    (error response = .roleLinkDisabled ↔ linkError response = some .roleLinkDisabled)

/-- The error of a call names the state of its link. -/
theorem names_link (what : String) :
    Names fun response => (linkError response).getD (failed crates what response) := by
  intro response
  dsimp only
  cases linkError response <;> simp [failed]

/-- Another error beside the state of the link hides nothing. -/
theorem names_orElse {fallback : Response → Option AppError} (what : String)
    (other : ∀ response error, fallback response = some error →
      error ≠ .roleLinkNotFound ∧ error ≠ .roleLinkDisabled) :
    Names fun response => (linkError response <|> fallback response).getD (failed crates what response) := by
  intro response
  dsimp only
  cases linkError response with
  | some error => simp
  | none =>
      cases second : fallback response with
      | none => simp [failed]
      | some error =>
          obtain ⟨present, active⟩ := other response error second
          simp [present, active]

/-- The error of a limit says nothing about the link. -/
theorem limitError_other (response : Response) (error : AppError)
    (found : limitError crates response = some error) :
    error ≠ .roleLinkNotFound ∧ error ≠ .roleLinkDisabled := by
  unfold limitError at found
  split_ifs at found
  cases found
  exact ⟨nofun, nofun⟩

/-- A held removal says nothing about the link. -/
theorem heldError_other (response : Response) (error : AppError)
    (found : heldError response = some error) :
    error ≠ .roleLinkNotFound ∧ error ≠ .roleLinkDisabled := by
  unfold heldError at found
  split_ifs at found
  cases found
  exact ⟨nofun, nofun⟩

/-- A failed call says nothing about its answer. -/
theorem reads_of_error {error : AppError} {answer : Except AppError Response} :
    Reads (A := A) answer (.error error) := ⟨fun _ => nofun, fun _ => ⟨error, rfl⟩⟩

/-- A result without the two errors, for an answer that is neither of them. -/
theorem recognises_of_plain {answer : Except AppError Response} {result : Except AppError A}
    (accepted : ∀ value, result = .ok value → Succeeded answer) (present : ¬Gone answer)
    (active : ¬Inactive answer)
    (plain : ∀ error, result = .error error → ∃ message, error = .roleLogic message) :
    Recognises answer result where
  accepted := accepted
  rejected refused := by
    rcases refused with gone | inactive
    · exact absurd gone present
    · exact absurd inactive active
  gone := by
    refine ⟨fun same => ?_, fun gone => absurd gone present⟩
    obtain ⟨_, impossible⟩ := plain _ same
    cases impossible
  inactive := by
    refine ⟨fun same => ?_, fun inactive => absurd inactive active⟩
    obtain ⟨_, impossible⟩ := plain _ same
    cases impossible

/-- A call of one request that reads its reply and names the errors of the link. -/
theorem recognising_ran {request : Request} {error : Response → AppError} {rest : Value → Calls A}
    (names : Names error) (quiet : Quiet rest) {result : Except AppError A}
    (ran : Ran Answered (ask request >>= fun response => json response (error response) >>= rest)
      log result) :
    ∃ answer, log = [⟨request, answer⟩] ∧ Recognises answer result := by
  obtain ⟨answer, others, rfl, answered, continued⟩ := ran_call ran
  cases answer with
  | error failure =>
      obtain ⟨rfl, rfl⟩ := ran_fail continued
      obtain ⟨message, rfl⟩ := answered failure rfl
      refine ⟨_, rfl, recognises_of_plain (fun _ => nofun) not_gone_error not_inactive_error ?_⟩
      rintro _ ⟨⟩
      exact ⟨message, rfl⟩
  | ok response =>
      have successful (success : response.isSuccess = true) :
          ¬Gone (.ok response) ∧ ¬Inactive (.ok response) := by
        constructor
        · intro gone
          rw [(linkError_of (Or.inl gone)).1] at success
          cases success
        · intro inactive
          rw [(linkError_of (Or.inr inactive)).1] at success
          cases success
      rcases ran_json continued with ⟨success, body, _, finished⟩ | ⟨success, rfl, message, _, rfl⟩ |
        ⟨failure, rfl, rfl⟩
      · obtain ⟨rfl, plain⟩ := quiet body _ _ finished
        exact ⟨_, rfl, recognises_of_plain (fun _ _ => ⟨response, rfl, success⟩)
          (successful success).1 (successful success).2 plain⟩
      · refine ⟨_, rfl, recognises_of_plain (fun _ => nofun) (successful success).1
          (successful success).2 ?_⟩
        rintro _ ⟨⟩
        exact ⟨message, rfl⟩
      · refine ⟨_, rfl, reads_of_error, ?_, ?_⟩
        · rw [gone_iff, ← (names response).1, Except.error.injEq]
        · rw [inactive_iff, ← (names response).2, Except.error.injEq]

/-- The call sends one request and recognises its answer. -/
theorem getUserInfo_ran {result : Except AppError (Nat × Nat)}
    (ran : Ran Answered (getUserInfo crates link token) log result) :
    ∃ answer, log = [⟨⟨link, token, .getUsers⟩, answer⟩] ∧ Recognises answer result :=
  recognising_ran (names_link _) (quiet_done _) ran

/-- The call sends one request and recognises its answer. -/
theorem addUser_ran {userId : DiscordId} {result : Except AppError Bool}
    (ran : Ran Answered (addUser crates link token userId) log result) :
    ∃ answer, log = [⟨⟨link, token, .postUser userId⟩, answer⟩] ∧ Recognises answer result :=
  recognising_ran (names_orElse _ limitError_other) (quiet_done _) ran

/-- The call sends one request and recognises its answer. -/
theorem removeUser_ran {userId : DiscordId} {result : Except AppError Bool}
    (ran : Ran Answered (removeUser crates link token userId) log result) :
    ∃ answer, log = [⟨⟨link, token, .deleteUser userId⟩, answer⟩] ∧ Recognises answer result :=
  recognising_ran (names_link _) (quiet_done _) ran

/-- The call sends one request and recognises its answer. -/
theorem replaceUsers_ran {userIds : List DiscordId} {result : Except AppError Nat}
    (ran : Ran Answered (replaceUsers crates link token userIds) log result) :
    ∃ answer, log = [⟨⟨link, token, .putUsers userIds⟩, answer⟩] ∧ Recognises answer result :=
  recognising_ran (names_orElse _ heldError_other) (quiet_done _) ran

/-- The upload id that the answer of the start names. -/
def session : Except AppError Response → Option String
  | .ok response =>
      if response.isSuccess then
        response.json.toOption.bind fun body => ((body.index "data").index "upload_id").asStr
      else none
  | .error _ => none

/-- The call returns the session that the answer names. -/
theorem startUpload_session {answer : Except AppError Response} {result : Except AppError String}
    (ran : Ran Answered (startUpload crates link token) [⟨⟨link, token, .postUpload⟩, answer⟩] result)
    (uploadId : String) : result = .ok uploadId ↔ session answer = some uploadId := by
  obtain ⟨_, _, same, _, continued⟩ := ran_call ran
  cases same
  cases answer with
  | error failure =>
      obtain ⟨_, rfl⟩ := ran_fail continued
      exact ⟨nofun, nofun⟩
  | ok response =>
      change _ ↔ (if response.isSuccess then _ else _) = _
      rcases ran_json continued with ⟨success, body, found, finished⟩ | ⟨success, _, message, lost, rfl⟩ |
        ⟨failure, _, rfl⟩
      · rw [if_pos success, found]
        change _ ↔ ((body.index "data").index "upload_id").asStr = _
        split at finished
        · next named =>
            obtain ⟨_, rfl⟩ := ran_done finished
            rw [named, Except.ok.injEq, Option.some.injEq]
        · next unnamed =>
            obtain ⟨_, rfl⟩ := ran_fail finished
            rw [unnamed]
            exact ⟨nofun, nofun⟩
      · rw [if_pos success, lost]
        exact ⟨nofun, nofun⟩
      · rw [if_neg (Bool.eq_false_iff.mp failure)]
        exact ⟨nofun, nofun⟩

/-- The call sends one request, recognises its answer and returns the named session. -/
theorem startUpload_ran {result : Except AppError String}
    (ran : Ran Answered (startUpload crates link token) log result) :
    ∃ answer, log = [⟨⟨link, token, .postUpload⟩, answer⟩] ∧ Recognises answer result ∧
      ∀ uploadId, result = .ok uploadId ↔ session answer = some uploadId := by
  obtain ⟨answer, rfl, recognised⟩ : ∃ answer,
      log = [⟨⟨link, token, .postUpload⟩, answer⟩] ∧ Recognises answer result := by
    refine recognising_ran (names_link _) ?_ ran
    intro body log result ran
    dsimp only at ran
    split at ran
    · obtain ⟨rfl, rfl⟩ := ran_done ran
      refine ⟨rfl, fun _ impossible => ?_⟩
      cases impossible
    · obtain ⟨rfl, rfl⟩ := ran_fail ran
      refine ⟨rfl, ?_⟩
      rintro _ ⟨⟩
      exact ⟨_, rfl⟩
  exact ⟨answer, rfl, recognised, startUpload_session ran⟩

/-- The call sends one request, overlooks what it says of the link and succeeds with its success. -/
theorem uploadChunk_ran {userIds : List DiscordId} {result : Except AppError Unit}
    (ran : Ran Answered (uploadChunk crates link token uploadId userIds) log result) :
    ∃ answer, log = [⟨⟨link, token, .postChunk uploadId userIds⟩, answer⟩] ∧ Overlooks answer result ∧
      (result = .ok () ↔ Succeeded answer) := by
  obtain ⟨answer, others, rfl, answered, continued⟩ := ran_call ran
  cases answer with
  | error failure =>
      obtain ⟨rfl, rfl⟩ := ran_fail continued
      obtain ⟨message, rfl⟩ := answered failure rfl
      refine ⟨_, rfl, ⟨reads_of_error, fun _ => ⟨message, rfl⟩, nofun, nofun⟩, nofun, ?_⟩
      rintro ⟨_, impossible, _⟩
      cases impossible
  | ok response =>
      change Ran Answered (if response.isSuccess then _ else _) others result at continued
      by_cases success : response.isSuccess = true
      · rw [if_pos success] at continued
        obtain ⟨rfl, rfl⟩ := ran_done continued
        have different : ¬(Gone (.ok response) ∨ Inactive (.ok response)) := by
          intro refused
          rw [(linkError_of refused).1] at success
          cases success
        refine ⟨_, rfl, ⟨⟨fun _ _ => ⟨response, rfl, success⟩, fun refused => absurd refused different⟩,
          fun refused => absurd refused different, nofun, nofun⟩, fun _ => ⟨response, rfl, success⟩,
          fun _ => rfl⟩
      · rw [if_neg success] at continued
        obtain ⟨rfl, rfl⟩ := ran_fail continued
        refine ⟨_, rfl, ⟨reads_of_error, fun _ => ⟨_, rfl⟩, nofun, nofun⟩, nofun, ?_⟩
        rintro ⟨_, same, accepted⟩
        cases same
        exact absurd accepted success

/-- The call sends one request. -/
theorem cancelUpload_ran {result : Except AppError Unit}
    (ran : Ran Answered (cancelUpload crates link token uploadId) log result) :
    ∃ answer, log = [⟨⟨link, token, .deleteUpload uploadId⟩, answer⟩] := by
  obtain ⟨answer, others, rfl, answered, continued⟩ := ran_call ran
  cases answer with
  | error failure =>
      obtain ⟨rfl, rfl⟩ := ran_fail continued
      exact ⟨_, rfl⟩
  | ok response =>
      change Ran Answered (if response.isSuccess then _ else _) others result at continued
      split at continued
      · obtain ⟨rfl, rfl⟩ := ran_done continued
        exact ⟨_, rfl⟩
      · obtain ⟨rfl, rfl⟩ := ran_fail continued
        exact ⟨_, rfl⟩

/-- The call sends one request and overlooks what it says of the link. -/
theorem commitUpload_ran {result : Except AppError Nat}
    (ran : Ran Answered (commitUpload crates link token uploadId) log result) :
    ∃ answer, log = [⟨⟨link, token, .postCommit uploadId⟩, answer⟩] ∧ Overlooks answer result := by
  obtain ⟨answer, others, rfl, answered, continued⟩ := ran_call ran
  cases answer with
  | error failure =>
      obtain ⟨rfl, rfl⟩ := ran_fail continued
      obtain ⟨message, rfl⟩ := answered failure rfl
      exact ⟨_, rfl, reads_of_error, fun _ => ⟨message, rfl⟩, nofun, nofun⟩
  | ok response =>
      have successful (success : response.isSuccess = true) :
          ¬(Gone (.ok response) ∨ Inactive (.ok response)) := by
        intro refused
        rw [(linkError_of refused).1] at success
        cases success
      rcases ran_json continued with ⟨success, body, _, finished⟩ | ⟨success, rfl, message, _, rfl⟩ |
        ⟨failure, rfl, rfl⟩
      · obtain ⟨rfl, rfl⟩ := ran_done finished
        exact ⟨_, rfl, ⟨fun _ _ => ⟨response, rfl, success⟩, fun refused =>
          absurd refused (successful success)⟩, fun refused => absurd refused (successful success),
          nofun, nofun⟩
      · exact ⟨_, rfl, reads_of_error, fun _ => ⟨message, rfl⟩, nofun, nofun⟩
      · refine ⟨_, rfl, reads_of_error, fun refused => ?_, ?_⟩
        · rw [(linkError_of refused).2]
          exact ⟨_, rfl⟩
        · cases held : heldError response with
          | none => exact ⟨nofun, nofun⟩
          | some error =>
              obtain ⟨present, active⟩ := heldError_other response error held
              exact ⟨fun same => present (Except.error.inj same), fun same => active (Except.error.inj same)⟩

end Requests

section Upload

/-- A chunk that has been sent, with its answer. -/
def chunkSent (link : Link) (token uploadId : String) (sent : List DiscordId × Except AppError Response) :
    Performed Request (fun _ => Response) AppError :=
  ⟨⟨link, token, .postChunk uploadId sent.1⟩, sent.2⟩

/-- These are all courses of an upload. A list within the cap is put at once. A longer one is sent in its
pieces, one after the other, until a chunk fails or the commit ends the session. -/
inductive Uploaded (link : Link) (token : String) (userIds : List DiscordId)
    (pieces : List (List DiscordId)) : Traffic → Except AppError Nat → Prop where
  | put {answer : Except AppError Response} {result : Except AppError Nat}
      (short : userIds.length ≤ putMaxUsers) (reads : Recognises answer result) :
      Uploaded link token userIds pieces [⟨⟨link, token, .putUsers userIds⟩, answer⟩] result
  | unstarted {start : Except AppError Response} {error : AppError}
      (long : putMaxUsers < userIds.length) (unnamed : session start = none)
      (reads : @Recognises Nat start (.error error)) :
      Uploaded link token userIds pieces [⟨⟨link, token, .postUpload⟩, start⟩] (.error error)
  | cancelled {start failure cancel : Except AppError Response} {uploadId : String} {error : AppError}
      {posted : List (List DiscordId × Except AppError Response)} {piece : List DiscordId}
      {later : List (List DiscordId)} (long : putMaxUsers < userIds.length)
      (started : session start = some uploadId) (cut : pieces = posted.map Prod.fst ++ piece :: later)
      (accepted : ∀ sent ∈ posted, Succeeded sent.2) (failed : ¬Succeeded failure)
      (reads : @Overlooks Nat failure (.error error)) :
      Uploaded link token userIds pieces
        (⟨⟨link, token, .postUpload⟩, start⟩ :: (posted.map (chunkSent link token uploadId) ++
          [chunkSent link token uploadId (piece, failure), ⟨⟨link, token, .deleteUpload uploadId⟩, cancel⟩]))
        (.error error)
  | committed {start commit : Except AppError Response} {uploadId : String}
      {posted : List (List DiscordId × Except AppError Response)} {result : Except AppError Nat}
      (long : putMaxUsers < userIds.length) (started : session start = some uploadId)
      (cut : pieces = posted.map Prod.fst) (accepted : ∀ sent ∈ posted, Succeeded sent.2)
      (reads : Overlooks commit result) :
      Uploaded link token userIds pieces
        (⟨⟨link, token, .postUpload⟩, start⟩ :: (posted.map (chunkSent link token uploadId) ++
          [⟨⟨link, token, .postCommit uploadId⟩, commit⟩])) result

variable {crates : Crates} {link : Link} {token uploadId : String} {log : Traffic}
  {userIds : List DiscordId}

/-- The result of a call stays the same kind of error in a call that returns it early. -/
theorem Recognises.raised {A B : Type} {answer : Except AppError Response} {error : AppError}
    (reads : @Recognises A answer (.error error)) : @Recognises B answer (.error error) where
  accepted := fun _ => nofun
  rejected := fun _ => ⟨error, rfl⟩
  gone := by
    rw [← reads.gone, Except.error.injEq, Except.error.injEq]
  inactive := by
    rw [← reads.inactive, Except.error.injEq, Except.error.injEq]

/-- A failed call overlooks the answer for every type of result. -/
theorem Overlooks.raised {A B : Type} {answer : Except AppError Response} {error : AppError}
    (reads : @Overlooks A answer (.error error)) : @Overlooks B answer (.error error) where
  accepted := fun _ => nofun
  rejected := fun _ => ⟨error, rfl⟩
  plain refused := by
    obtain ⟨message, same⟩ := reads.plain refused
    exact ⟨message, congrArg _ (Except.error.inj same)⟩
  unaware := by
    obtain ⟨present, active⟩ := reads.unaware
    exact ⟨fun same => present (congrArg _ (Except.error.inj same)),
      fun same => active (congrArg _ (Except.error.inj same))⟩

/-- The chunks are sent one after the other. The first one that fails is followed by the cancellation. -/
theorem uploadChunks_ran {pieces : List (List DiscordId)} {result : Except AppError Unit}
    (ran : Ran Answered (uploadChunks crates link token uploadId pieces) log result) :
    (∃ posted : List (List DiscordId × Except AppError Response), pieces = posted.map Prod.fst ∧
        log = posted.map (chunkSent link token uploadId) ∧ (∀ sent ∈ posted, Succeeded sent.2) ∧
        result = .ok ()) ∨
      ∃ posted : List (List DiscordId × Except AppError Response), ∃ piece later failure cancel error,
        pieces = posted.map Prod.fst ++ piece :: later ∧
        log = posted.map (chunkSent link token uploadId) ++
          [chunkSent link token uploadId (piece, failure),
            ⟨⟨link, token, .deleteUpload uploadId⟩, cancel⟩] ∧
        (∀ sent ∈ posted, Succeeded sent.2) ∧ ¬Succeeded failure ∧
        result = .error error ∧ @Overlooks Unit failure (.error error) := by
  induction pieces generalizing log with
  | nil =>
      obtain ⟨rfl, rfl⟩ := ran_done ran
      exact Or.inl ⟨[], rfl, rfl, fun _ => nofun, rfl⟩
  | cons piece rest ih =>
      obtain ⟨answered, first, others, rfl, sent, continued⟩ := ran_attempt_bind ran
      obtain ⟨answer, rfl, reads, success⟩ := uploadChunk_ran sent
      cases answered with
      | error error =>
          obtain ⟨_, cancelling, last, rfl, cancelled, finished⟩ := ran_attempt_bind continued
          obtain ⟨cancel, rfl⟩ := cancelUpload_ran cancelled
          obtain ⟨rfl, rfl⟩ := ran_fail finished
          have failed : ¬Succeeded answer := fun accepted => nomatch success.mpr accepted
          exact Or.inr ⟨[], piece, rest, answer, cancel, error, rfl, rfl, fun _ => nofun, failed, rfl, reads⟩
      | ok value =>
          have accepted : Succeeded answer := success.mp rfl
          rcases ih continued with ⟨posted, rfl, rfl, each, rfl⟩ |
            ⟨posted, next, later, failure, cancel, error, rfl, rfl, each, failed, rfl, refused⟩
          · refine Or.inl ⟨(piece, answer) :: posted, rfl, rfl, ?_, rfl⟩
            exact List.forall_mem_cons.mpr ⟨accepted, each⟩
          · refine Or.inr ⟨(piece, answer) :: posted, next, later, failure, cancel, error, rfl, rfl, ?_,
              failed, rfl, refused⟩
            exact List.forall_mem_cons.mpr ⟨accepted, each⟩

/-- Every run of an upload is one of its courses. -/
theorem uploadUsers_ran {result : Except AppError Nat}
    (ran : Ran Answered (uploadUsers crates link token userIds) log result) :
    Uploaded link token userIds (chunks chunkSize userIds) log result := by
  unfold uploadUsers at ran
  split at ran
  · next short =>
      obtain ⟨answer, rfl, reads⟩ := replaceUsers_ran ran
      exact .put short reads
  · next exceeds =>
      have long : putMaxUsers < userIds.length := Nat.lt_of_not_le exceeds
      rcases ran_bind ran with ⟨uploadId, first, others, rfl, begun, continued⟩ | ⟨error, rfl, failed⟩
      · obtain ⟨start, rfl, _, named⟩ := startUpload_ran begun
        have started : session start = some uploadId := (named uploadId).mp rfl
        rcases ran_bind continued with ⟨_, sent, last, rfl, gathered, finished⟩ | ⟨error, rfl, failed⟩
        · obtain ⟨commit, rfl, reads⟩ := commitUpload_ran finished
          rcases uploadChunks_ran gathered with ⟨posted, cut, rfl, each, _⟩ |
            ⟨_, _, _, _, _, _, _, _, _, _, impossible, _⟩
          · exact .committed long started cut each reads
          · cases impossible
        · rcases uploadChunks_ran failed with ⟨_, _, _, _, impossible⟩ |
            ⟨posted, piece, later, failure, cancel, other, cut, rfl, each, refused, same, reads⟩
          · cases impossible
          · cases same
            exact .cancelled long started cut each refused reads.raised
      · obtain ⟨start, rfl, reads, named⟩ := startUpload_ran failed
        have unnamed : session start = none := by
          cases found : session start with
          | none => rfl
          | some uploadId => cases (named uploadId).mpr found
        exact .unstarted long unnamed reads.raised

end Upload

end OsuPlayerRole.RoleLogic

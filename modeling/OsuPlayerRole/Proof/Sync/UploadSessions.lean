/-
This file shows that an upload is never partial, and when it leaves its session open.
-/
import OsuPlayerRole.Proof.Sync.UploadTraffic

namespace OsuPlayerRole.RoleLogic

open Json Resumption Program

section Pieces

/-- The list is cut into chunks that are neither empty nor too long. -/
structure Cut (userIds : List DiscordId) (pieces : List (List DiscordId)) : Prop where
  filled : ∀ piece ∈ pieces, piece ≠ []
  small : ∀ piece ∈ pieces, piece.length ≤ chunkSize
  whole : pieces.flatten = userIds

/-- No chunk is empty or too long. -/
theorem chunks_pieces {A : Type} {size : Nat} (positive : 0 < size) (items : List A) :
    ∀ piece ∈ chunks size items, piece ≠ [] ∧ piece.length ≤ size := by
  fun_induction chunks size items with
  | case1 =>
      intro piece impossible
      cases impossible
  | case2 item rest ih =>
      rw [List.forall_mem_cons]
      refine ⟨⟨List.cons_ne_nil _ _, ?_⟩, ih⟩
      rw [List.length_cons, List.length_take]
      omega

/-- The chunks of a list are a cut of it. -/
theorem chunks_cut (userIds : List DiscordId) : Cut userIds (chunks chunkSize userIds) where
  filled piece inside := (chunks_pieces (by decide) userIds piece inside).1
  small piece inside := (chunks_pieces (by decide) userIds piece inside).2
  whole := chunks_flatten chunkSize userIds

end Pieces

section Whole

variable {link : Link} {token : String} {userIds : List DiscordId} {pieces : List (List DiscordId)}
  {log : Traffic} {result : Except AppError Nat}

/-- The request that replaces the list. -/
def Call.replaces : Call → Bool
  | .putUsers _ | .postCommit _ => true
  | _ => false

/-- An upload succeeds with the request that replaces the list. -/
theorem Uploaded.accepted (uploaded : Uploaded link token userIds pieces log result) (count : Nat)
    (success : result = .ok count) :
    ∃ sent ∈ log, sent.1.call.replaces = true ∧ Succeeded sent.2 := by
  cases uploaded with
  | put short reads => exact ⟨_, List.mem_cons_self, rfl, reads.accepted count success⟩
  | unstarted => cases success
  | cancelled => cases success
  | committed long started cut accepted reads =>
      refine ⟨_, List.mem_cons_of_mem _ (List.mem_append_right _ List.mem_cons_self), rfl, ?_⟩
      exact reads.accepted count success

/-- Each run of an upload is one of the listed courses, which send the whole list or an initial segment of
its pieces, and it succeeds only with the request that replaces the list. The list at RoleLogic is the
old one or the new one, however the requests are handled. -/
theorem upload_never_partial (crates : Crates) (link : Link) (token : String)
    (userIds : List DiscordId) :
    (∃ pieces, Cut userIds pieces ∧ ∀ log result,
      Ran Answered (uploadUsers crates link token userIds) log result →
        Uploaded link token userIds pieces log result ∧
          ∀ count, result = .ok count →
            ∃ sent ∈ log, sent.1.call.replaces = true ∧ Succeeded sent.2) ∧
      ∀ (handling : Nat → Handled) (served : Server × Nat),
        Ends (handle handling) (Replaced served.1.users userIds) served
          (uploadUsers crates link token userIds) := by
  refine ⟨⟨chunks chunkSize userIds, chunks_cut userIds, fun log result ran => ?_⟩, fun _ _ => ?_⟩
  · have uploaded := uploadUsers_ran ran
    exact ⟨uploaded, uploaded.accepted⟩
  · exact uploadUsers_ends userIds

def plainCrates : Crates := ⟨fun _ => none, fun status => toString status⟩

def accepted (body : Value) : Response := ⟨200, .ok "", .ok body⟩

/-- The sample answer is a success. -/
theorem accepted_succeeded (body : Value) : Succeeded (.ok (accepted body)) := ⟨_, rfl, rfl⟩

/-- A list of one member is sent with one request. -/
theorem upload_one_user :
    ∃ sent ∈ ([⟨⟨("guild", "role"), "token", .putUsers ["1"]⟩, .ok (accepted .null)⟩] : Traffic),
      sent.1.call.replaces = true ∧ Succeeded sent.2 := by
  have ran : Ran Answered (uploadUsers plainCrates ("guild", "role") "token" ["1"])
      [⟨⟨("guild", "role"), "token", .putUsers ["1"]⟩, .ok (accepted .null)⟩] (.ok 0) :=
    .call (fun _ => nofun) (.done 0)
  obtain ⟨⟨pieces, _, courses⟩, _⟩ :=
    upload_never_partial plainCrates ("guild", "role") "token" ["1"]
  exact (courses _ _ ran).2 0 rfl

end Whole

section Session

variable (crates : Crates) (link : Link) (token : String)

/-- The outcomes of the requests, in their order. -/
abbrev Outcomes := Nat → Except String Response

def Outcomes.reply (outcomes : Outcomes) (index : Nat) : Except AppError Response :=
  (outcomes index).mapError .roleLogic

/-- The requests that are sent are kept with their answers. -/
def Outcomes.perform (outcomes : Outcomes) (sent : Traffic) (request : Request) :
    Except AppError Response × Traffic :=
  (outcomes.reply sent.length, sent ++ [⟨request, outcomes.reply sent.length⟩])

/-- The requests of the upload. -/
def uploadTraffic (userIds : List DiscordId) (outcomes : Outcomes) : Traffic :=
  (run outcomes.perform [] (uploadUsers crates link token userIds)).2

/-- The commit of this upload has succeeded, or a cancellation has been sent. -/
def Closed (uploadId : String) (log : Traffic) : Prop :=
  (∃ answer, Succeeded answer ∧ ⟨⟨link, token, .postCommit uploadId⟩, answer⟩ ∈ log) ∨
    ∃ answer, ⟨⟨link, token, .deleteUpload uploadId⟩, answer⟩ ∈ log

/-- The start names a session and every chunk is accepted, but the commit is not. -/
def CommitFails (userIds : List DiscordId) (outcomes : Outcomes) : Prop :=
  (session (outcomes.reply 0)).isSome ∧
    (∀ index < (chunks chunkSize userIds).length, Succeeded (outcomes.reply (index + 1))) ∧
    ¬Succeeded (outcomes.reply ((chunks chunkSize userIds).length + 1))

variable {crates link token} {outcomes : Outcomes} {userIds : List DiscordId} {log : Traffic}

/-- The answers are the outcomes from this position on. -/
def Outcomes.Fill (outcomes : Outcomes) (start : Nat) (log : Traffic) : Prop :=
  ∀ index sent, log[index]? = some sent → sent.2 = outcomes.reply (start + index)

/-- A run with fixed outcomes is one of the finished runs. -/
theorem run_perform {A : Type} (call : Calls A) (sent : Traffic) :
    ∃ log, (run outcomes.perform sent call).2 = sent ++ log ∧
      Ran Answered call log (run outcomes.perform sent call).1 ∧ outcomes.Fill sent.length log := by
  induction call generalizing sent with
  | done value => exact ⟨[], (List.append_nil sent).symm, .done value, fun _ _ => nofun⟩
  | fail error => exact ⟨[], (List.append_nil sent).symm, .fail error, fun _ _ => nofun⟩
  | call request next ih =>
      obtain ⟨log, sends, ran, fills⟩ := ih (outcomes.reply sent.length)
        (sent ++ [⟨request, outcomes.reply sent.length⟩])
      refine ⟨⟨request, outcomes.reply sent.length⟩ :: log, ?_, ?_, ?_⟩
      · rw [run_call]
        exact sends.trans (List.append_assoc _ _ _)
      · refine .call (fun error same => ?_) ran
        unfold Outcomes.reply at same
        cases found : outcomes sent.length with
        | ok response =>
            rw [found] at same
            cases same
        | error message =>
            rw [found] at same
            cases same
            exact ⟨message, rfl⟩
      · intro index performed found
        cases index with
        | zero =>
            cases found
            rfl
        | succ index =>
            have later := fills index performed found
            rw [List.length_append, List.length_singleton] at later
            rw [later]
            congr 1
            omega

/-- The traffic of an upload is one of its courses. -/
theorem uploadTraffic_course (crates : Crates) (link : Link) (token : String)
    (userIds : List DiscordId) (outcomes : Outcomes) :
    (∃ result, Uploaded link token userIds (chunks chunkSize userIds)
      (uploadTraffic crates link token userIds outcomes) result) ∧
      outcomes.Fill 0 (uploadTraffic crates link token userIds outcomes) := by
  obtain ⟨log, sends, ran, fills⟩ :=
    @run_perform outcomes _ (uploadUsers crates link token userIds) []
  rw [List.nil_append] at sends
  unfold uploadTraffic
  rw [sends]
  exact ⟨⟨_, uploadUsers_ran ran⟩, fills⟩

/-- The answers of the chunks follow the one of the start. -/
theorem fill_posted {start : Performed Request (fun _ => Response) AppError} {uploadId : String}
    {posted : List (List DiscordId × Except AppError Response)}
    {last : Performed Request (fun _ => Response) AppError} {rest : Traffic}
    (fills : outcomes.Fill 0 (start :: (posted.map (chunkSent link token uploadId) ++ last :: rest))) :
    start.2 = outcomes.reply 0 ∧
      (∀ index (inside : index < posted.length), posted[index].2 = outcomes.reply (index + 1)) ∧
      last.2 = outcomes.reply (posted.length + 1) := by
  refine ⟨fills 0 start rfl, fun index inside => ?_, ?_⟩
  · have found : (start :: (posted.map (chunkSent link token uploadId) ++ last :: rest))[index + 1]? =
        some (chunkSent link token uploadId posted[index]) := by
      rw [List.getElem?_cons_succ, List.getElem?_append_left (by rwa [List.length_map]),
        List.getElem?_map, List.getElem?_eq_getElem inside]
      rfl
    rw [← Nat.zero_add (index + 1)]
    exact fills (index + 1) _ found
  · have found : (start :: (posted.map (chunkSent link token uploadId) ++ last :: rest))[
        posted.length + 1]? = some last := by
      rw [List.getElem?_cons_succ, List.getElem?_append_right (by rw [List.length_map]),
        List.length_map, Nat.sub_self]
      rfl
    rw [← Nat.zero_add (posted.length + 1)]
    exact fills (posted.length + 1) _ found

/-- What is sent behind the chunks is neither the start nor a chunk. -/
theorem sent_last {start : Except AppError Response} {uploadId : String}
    {posted : List (List DiscordId × Except AppError Response)}
    {last sent : Performed Request (fun _ => Response) AppError}
    (begins : sent.1.call ≠ .postUpload) (chunked : ∀ piece, sent.1.call ≠ .postChunk uploadId piece)
    (inside : sent ∈ ⟨⟨link, token, .postUpload⟩, start⟩ ::
      (posted.map (chunkSent link token uploadId) ++ [last])) : sent = last := by
  rcases List.mem_cons.mp inside with rfl | inside
  · exact absurd rfl begins
  · rcases List.mem_append.mp inside with inside | inside
    · obtain ⟨posted, _, rfl⟩ := List.mem_map.mp inside
      exact absurd rfl (chunked posted.1)
    · exact List.mem_singleton.mp inside

/-- The course of a long upload leaves a session open when its commit fails, and only then. -/
theorem closed_of_course {result : Except AppError Nat} (long : putMaxUsers < userIds.length)
    (uploaded : Uploaded link token userIds (chunks chunkSize userIds) log result)
    (fills : outcomes.Fill 0 log) :
    (∀ uploadId, session (outcomes.reply 0) = some uploadId → Closed link token uploadId log) ↔
      ¬CommitFails userIds outcomes := by
  unfold CommitFails
  cases uploaded with
  | put short reads => exact absurd short (Nat.not_le_of_lt long)
  | @unstarted start _ _ unnamed reads =>
      have begun : start = outcomes.reply 0 := fills 0 _ rfl
      rw [← begun, unnamed]
      exact ⟨fun _ failing => (nomatch failing.1), fun _ _ => nofun⟩
  | @cancelled start failure cancel uploadId _ posted piece later _ started cut accepted failed reads =>
      obtain ⟨begun, _, stopped⟩ := fill_posted fills
      rw [show start = outcomes.reply 0 from begun] at started
      refine ⟨fun _ failing => ?_, fun _ other named => ?_⟩
      · refine failed ?_
        rw [show failure = outcomes.reply (posted.length + 1) from stopped]
        refine failing.2.1 posted.length ?_
        rw [cut, List.length_append, List.length_map, List.length_cons]
        omega
      · rw [started] at named
        cases named
        exact Or.inr ⟨cancel, List.mem_cons_of_mem _ (List.mem_append_right _
          (List.mem_cons_of_mem _ List.mem_cons_self))⟩
  | @committed start commit uploadId posted _ _ started cut accepted reads =>
      obtain ⟨begun, sent, ended⟩ := fill_posted fills
      rw [show start = outcomes.reply 0 from begun] at started
      have count : (chunks chunkSize userIds).length = posted.length := by rw [cut, List.length_map]
      rw [count, started, ← show commit = outcomes.reply (posted.length + 1) from ended]
      constructor
      · intro closed failing
        rcases closed uploadId rfl with ⟨answer, success, inside⟩ | ⟨answer, inside⟩
        · cases sent_last (by exact nofun) (fun _ => by exact nofun) inside
          exact failing.2.2 success
        · cases sent_last (by exact nofun) (fun _ => by exact nofun) inside
      · intro holds other named
        cases named
        refine Or.inl ⟨commit, ?_, List.mem_cons_of_mem _ (List.mem_append_right _ List.mem_cons_self)⟩
        by_contra failure
        refine holds ⟨rfl, fun index inside => ?_, failure⟩
        rw [← sent index inside]
        exact accepted _ (List.getElem_mem inside)

/-- The session of a long upload is closed, unless the start and every chunk succeed and the commit does
not. -/
theorem session_closed_iff (long : putMaxUsers < userIds.length) :
    (∀ uploadId, session (outcomes.reply 0) = some uploadId →
      Closed link token uploadId (uploadTraffic crates link token userIds outcomes)) ↔
      ¬CommitFails userIds outcomes := by
  obtain ⟨⟨_, uploaded⟩, fills⟩ := uploadTraffic_course crates link token userIds outcomes
  exact closed_of_course long uploaded fills

/-- The first id and the ids behind it have the same number of digits. -/
def firstUser : Nat := 10 ^ 17

def laterUsers : List DiscordId := (List.range' (firstUser + 1) putMaxUsers).map toString

/-- These are one more than a single replacement holds. -/
def manyUsers : List DiscordId := toString firstUser :: laterUsers

/-- The sample list is too long for one request. -/
theorem manyUsers_long : putMaxUsers < manyUsers.length := by
  rw [manyUsers, List.length_cons, laterUsers, List.length_map, List.length_range']
  exact Nat.lt_succ_self putMaxUsers

/-- The sample list is cut into two chunks. -/
theorem manyUsers_chunks : chunks chunkSize manyUsers =
    [toString firstUser :: laterUsers.take (chunkSize - 1), [toString (firstUser + putMaxUsers)]] := by
  have last : laterUsers.drop (chunkSize - 1) = [toString (firstUser + putMaxUsers)] := by
    have start : firstUser + 1 + (chunkSize - 1) * 1 = firstUser + putMaxUsers := rfl
    have count : putMaxUsers - (chunkSize - 1) = 1 := rfl
    rw [laterUsers, ← List.map_drop, List.drop_range', start, count]
    rfl
  rw [manyUsers, chunks, last, chunks, List.take_nil, List.drop_nil, chunks]

def started : Response := accepted (.object [("data", .object [("upload_id", .string "u")])])

/-- Everything but the start is answered so. -/
def afterStart (response : Response) : Outcomes
  | 0 => .ok started
  | _ => .ok response

/-- The sample server answers each later request alike. -/
theorem afterStart_reply (response : Response) (index : Nat) :
    (afterStart response).reply (index + 1) = .ok response := rfl

/-- The session of an accepted upload is closed by its commit. -/
theorem accepted_session_closed :
    Closed ("guild", "role") "token" "u"
      (uploadTraffic plainCrates ("guild", "role") "token" manyUsers (afterStart (accepted .null))) := by
  refine (session_closed_iff manyUsers_long).mpr (fun failing => ?_) "u" rfl
  obtain ⟨_, _, failed⟩ := failing
  rw [afterStart_reply] at failed
  exact failed (accepted_succeeded .null)

/-- The shrink gate holds the commit. -/
def heldOutcomes : Outcomes
  | 0 => .ok started
  | 1 | 2 => .ok (accepted .null)
  | _ => .ok ⟨409, .ok "confirm_required", .ok .null⟩

/-- The session of an upload whose commit is held stays open. -/
theorem held_session_open :
    session (heldOutcomes.reply 0) = some "u" ∧
      ¬Closed ("guild", "role") "token" "u"
        (uploadTraffic plainCrates ("guild", "role") "token" manyUsers heldOutcomes) := by
  refine ⟨rfl, fun closed => ?_⟩
  obtain ⟨⟨_, uploaded⟩, fills⟩ :=
    uploadTraffic_course plainCrates ("guild", "role") "token" manyUsers heldOutcomes
  refine (closed_of_course manyUsers_long uploaded fills).mp (fun uploadId named => ?_) ?_
  · cases named
    exact closed
  · unfold CommitFails
    rw [manyUsers_chunks]
    refine ⟨rfl, fun index inside => ?_, ?_⟩
    · change index < 2 at inside
      obtain rfl | rfl : index = 0 ∨ index = 1 := by omega
      · exact accepted_succeeded .null
      · exact accepted_succeeded .null
    · rintro ⟨response, same, success⟩
      cases same
      cases success

end Session

end OsuPlayerRole.RoleLogic

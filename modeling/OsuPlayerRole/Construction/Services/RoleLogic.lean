/-
This file gives the client of the RoleLogic API as programs over its HTTP requests.
-/
import OsuPlayerRole.Construction.Database
import OsuPlayerRole.Library.Resumption
import OsuPlayerRole.Library.RustText

namespace OsuPlayerRole.RoleLogic

open Json Resumption Program

/-- A single replacement holds at most this many users. -/
def putMaxUsers : Nat := 100000

def chunkSize : Nat := 100000

def rlLinkGoneErrorMsg : String := "Invalid or revoked token"

def rlLinkDisabledErrorMsg : String := "This role link is disabled"

def rlLinkPausedErrorMsg : String := "This role link is paused"

def rlConfirmRequired : String := "confirm_required"

/-- The body is read as a text or as JSON, and either may fail. -/
structure Response where
  status : Nat
  text : Except String String
  json : Except String Value

namespace Response

def isSuccess (response : Response) : Bool := 200 ≤ response.status && response.status < 300

def isClientError (response : Response) : Bool := 400 ≤ response.status && response.status < 500

/-- A body that cannot be read counts as empty. -/
def body (response : Response) : String := response.text.toOption.getD ""

end Response

/-- A link that is switched off, or paused by the quota of its guild, still exists. -/
def linkInactive (status : Nat) (body : String) : Bool :=
  status == 403 && (RustText.contains body rlLinkDisabledErrorMsg ||
    RustText.contains body rlLinkPausedErrorMsg)

/-- The shrink gate holds the write of a list. -/
def removalHeld (status : Nat) (body : String) : Bool :=
  status == 409 && RustText.contains body rlConfirmRequired

inductive Call where
  | getUsers
  | postUser (userId : DiscordId)
  | deleteUser (userId : DiscordId)
  | putUsers (userIds : List DiscordId)
  | postUpload
  | postChunk (uploadId : String) (userIds : List DiscordId)
  | postCommit (uploadId : String)
  | deleteUpload (uploadId : String)

/-- The path names the link, and the header carries its token. -/
structure Request where
  link : Link
  token : String
  call : Call

/-- A request that is not answered at all fails with `AppError::RoleLogic`. -/
abbrev Calls := Program Request (fun _ => Response) AppError

/-- The deserializer and the texts of the status codes. -/
structure Crates where
  fromStr : String → Option Value
  showStatus : Nat → String

section Replies

variable (crates : Crates)

/-- Most calls tell apart a link that is gone and a link that is inactive. -/
def linkError (response : Response) : Option AppError :=
  if response.status = 403 ∧ RustText.contains response.body rlLinkGoneErrorMsg then
    some .roleLinkNotFound
  else if linkInactive response.status response.body then some .roleLinkDisabled
  else none

def failed (what : String) (response : Response) : AppError :=
  .roleLogic (what ++ " failed: " ++ crates.showStatus response.status ++ " - " ++ response.body)

/-- The limit is read from the body of the refusal. -/
def limitError (response : Response) : Option AppError :=
  if (response.status = 400 ∨ response.status = 403) ∧ RustText.contains response.body "limit" then
    let parsed := (crates.fromStr response.body).getD .null
    some (.userLimitReached (((parsed.index "data").index "user_limit").asU64.getD 100))
  else none

def heldError (response : Response) : Option AppError :=
  if removalHeld response.status response.body then some .removalHeld else none

/-- A success has a JSON body, and any other status is an error. -/
def json (response : Response) (error : AppError) : Calls Value :=
  if response.isSuccess then
    match response.json with
    | .ok body => return body
    | .error message => .fail (.roleLogic message)
  else .fail error

end Replies

section Client

variable (crates : Crates) (link : Link) (token : String)

def getUserInfo : Calls (Nat × Nat) := do
  let response ← ask ⟨link, token, .getUsers⟩
  let body ← json response ((linkError response).getD (failed crates "Get user info" response))
  let userCount := ((body.index "data").index "user_count").asU64.getD 0
  let userLimit := ((body.index "data").index "user_limit").asU64.getD 100
  return (userCount, userLimit)

def addUser (userId : DiscordId) : Calls Bool := do
  let response ← ask ⟨link, token, .postUser userId⟩
  let error := (linkError response <|> limitError crates response).getD
    (failed crates "Add user" response)
  let body ← json response error
  return ((body.index "data").index "added").asBool.getD false

def removeUser (userId : DiscordId) : Calls Bool := do
  let response ← ask ⟨link, token, .deleteUser userId⟩
  let body ← json response ((linkError response).getD (failed crates "Remove user" response))
  return ((body.index "data").index "removed").asBool.getD false

def replaceUsers (userIds : List DiscordId) : Calls Nat := do
  let response ← ask ⟨link, token, .putUsers userIds⟩
  let error := (linkError response <|> heldError response).getD
    (failed crates "Replace users" response)
  let body ← json response error
  return ((body.index "data").index "user_count").asU64.getD 0

def startUpload : Calls String := do
  let response ← ask ⟨link, token, .postUpload⟩
  let body ← json response ((linkError response).getD (failed crates "Start upload" response))
  match ((body.index "data").index "upload_id").asStr with
  | some uploadId => return uploadId
  | none => .fail (.roleLogic "Start upload response missing upload_id")

/-- The body of this answer is not read. -/
def uploadChunk (uploadId : String) (userIds : List DiscordId) : Calls Unit := do
  let response ← ask ⟨link, token, .postChunk uploadId userIds⟩
  if response.isSuccess then return () else .fail (failed crates "Upload chunk" response)

def commitUpload (uploadId : String) : Calls Nat := do
  let response ← ask ⟨link, token, .postCommit uploadId⟩
  let body ← json response ((heldError response).getD (failed crates "Commit upload" response))
  return ((body.index "data").index "user_count").asU64.getD 0

def cancelUpload (uploadId : String) : Calls Unit := do
  let response ← ask ⟨link, token, .deleteUpload uploadId⟩
  if response.isSuccess then return () else .fail (failed crates "Cancel upload" response)

/-- The method `slice::chunks`. -/
def chunks {A : Type} (size : Nat) : List A → List (List A)
  | [] => []
  | item :: rest => (item :: rest.take (size - 1)) :: chunks size (rest.drop (size - 1))
  termination_by items => items.length
  decreasing_by
    rw [List.length_drop, List.length_cons]
    omega

/-- A chunk that fails cancels the session. The error of the cancellation is dropped. -/
def uploadChunks (uploadId : String) : List (List DiscordId) → Calls Unit
  | [] => return ()
  | chunk :: rest => do
      match ← (uploadChunk crates link token uploadId chunk).attempt with
      | .error error => do
          let _ ← (cancelUpload crates link token uploadId).attempt
          .fail error
      | .ok _ => uploadChunks uploadId rest

/-- A list within the cap is put at once, and a longer one is uploaded in chunks. -/
def uploadUsers (userIds : List DiscordId) : Calls Nat :=
  if userIds.length ≤ putMaxUsers then replaceUsers crates link token userIds
  else do
    let uploadId ← startUpload crates link token
    uploadChunks crates link token uploadId (chunks chunkSize userIds)
    commitUpload crates link token uploadId

end Client

section Server

/-- RoleLogic applies a request or does not, and what comes back may be an error of the transport. A
success has been applied, and a request that is rejected with a status 4xx has not. -/
structure Handled where
  applied : Bool
  reply : Except String Response
  accepted : ∀ response, reply = .ok response → response.isSuccess = true → applied = true
  rejected : ∀ response, reply = .ok response → response.isClientError = true → applied = false

/-- The list of one link, and the users of its upload under way. -/
structure Server where
  users : Finset DiscordId
  staged : List DiscordId

/-- The commit of an upload replaces the list as a whole. -/
def Server.apply (server : Server) : Call → Server
  | .getUsers => server
  | .postUser userId => { server with users := insert userId server.users }
  | .deleteUser userId => { server with users := server.users.erase userId }
  | .putUsers userIds => { server with users := userIds.toFinset }
  | .postUpload => { server with staged := [] }
  | .postChunk _ userIds => { server with staged := server.staged ++ userIds }
  | .postCommit _ => { users := server.staged.toFinset, staged := [] }
  | .deleteUpload _ => { server with staged := [] }

/-- The requests of one call are handled in turn. -/
def handle (handling : Nat → Handled) (served : Server × Nat) (request : Request) :
    Except AppError Response × Server × Nat :=
  let handled := handling served.2
  (handled.reply.mapError .roleLogic,
    if handled.applied then served.1.apply request.call else served.1, served.2 + 1)

end Server

end OsuPlayerRole.RoleLogic

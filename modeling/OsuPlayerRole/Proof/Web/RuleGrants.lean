/-
This file shows who may change a rule.
-/
import OsuPlayerRole.Construction.Routes.Serving
import OsuPlayerRole.Library.SharedLog
import OsuPlayerRole.Proof.Web.OutsiderRun
import OsuPlayerRole.Proof.Web.TokenFormats
import OsuPlayerRole.Proof.Web.TokenVerdict

namespace OsuPlayerRole.Serving

open Web Auth Resumption Program RlToken SharedLog

/-- These are the operations of a request with their answers. -/
abbrev Past := List (Performed WebOp WebOp.Value AppError)

section Save

variable (state : AppState) (headers : Headers) (guildId : GuildId) (roleId : RoleId)

/-- The bearer is an iframe session of the link that may write. -/
def Opened (past : Past) : Prop :=
  ∃ bearer now discordId, extractBearer headers = some bearer ∧
    (⟨.utcNow, .ok now⟩ : Performed WebOp WebOp.Value AppError) ∈ past ∧
    verifyIframeSession state.signing now bearer state.config.sessionSecret =
      some ⟨discordId, guildId, roleId, false⟩

/-- The cookie is valid, and the gateway calls it the cookie of a member who manages the guild. -/
def Managed (past : Past) : Prop :=
  extractBearer headers = none ∧ ∃ cookie now session reply, headers.rlSession = some cookie ∧
    (⟨.utcNow, .ok now⟩ : Performed WebOp WebOp.Value AppError) ∈ past ∧
    verifySession state.signing now cookie state.config.sessionSecret = some session ∧
    (⟨.guildPermission cookie guildId, .ok reply⟩ : Performed WebOp WebOp.Value AppError) ∈ past ∧
    (200 ≤ reply.status ∧ reply.status < 300) ∧ reply.read = .ok ⟨true, true⟩

/-- A save updates the rule of its own link after its checks. It has no other write of the links. -/
def SaveGuard (past : Past) (operation : WebOp) : Prop :=
  operation.writesLinks → (∃ tree expected, operation = .updateRuleTree tree (guildId, roleId) expected) ∧
    checkOrigin state.config headers = .ok () ∧
    (Opened state headers guildId roleId past ∨ Managed state headers guildId past)

variable {state headers guildId roleId}

/-- A check hands its value on or ends the request. -/
theorem follows_check {A B Status : Type} {protocol : Protocol WebOp WebOp.Value AppError Status}
    {post : Except AppError B → Status → Prop} {status : Status} (checked : Except AppError A)
    {rest : A → WebProgram B}
    (continued : ∀ value, checked = .ok value → Follows protocol post status (rest value))
    (failed : ∀ error, post (.error error) status) :
    Follows protocol post status (check checked >>= rest) := by
  cases checked with
  | ok value => exact continued value rfl
  | error error => exact failed error

/-- An open session comes from a verified cookie. -/
theorem readSession_ok {now : Timestamp} {session : DiscordId × String}
    (opened : readSession state.signing state.config now headers = .ok session) :
    ∃ cookie, headers.rlSession = some cookie ∧
      verifySession state.signing now cookie state.config.sessionSecret = some session := by
  unfold readSession at opened
  split at opened
  · cases opened
  · next cookie found =>
      split at opened
      · next verified =>
          cases opened
          exact ⟨cookie, found, verified⟩
      · cases opened

/-- Only a successful reply of the gateway is read. -/
theorem readReply_ok {A : Type} {config : AppConfig} {reply : GatewayReply A} {value : A}
    (read : readReply config reply = .ok value) :
    (200 ≤ reply.status ∧ reply.status < 300) ∧ reply.read = .ok value := by
  unfold readReply at read
  split at read
  · next success =>
      split at read
      · next same =>
          cases read
          exact ⟨success, same⟩
      · cases read
  · cases read

/-- The check passes a manager who is a member. -/
theorem checkManager_ok {permission : GuildPermission} {value : Unit}
    (passed : checkManager permission = .ok value) : permission = ⟨true, true⟩ := by
  obtain ⟨isMember, isManager⟩ := permission
  cases isMember <;> cases isManager <;> first | rfl | cases passed

/-- A manager is admitted after the gateway has answered. -/
theorem requireManager_follows (carried : extractBearer headers = none) :
    Follows (recorded (SaveGuard state headers guildId roleId))
      (fun result past => ∀ discordId, result = .ok discordId → Managed state headers guildId past) []
      (Admin.requireManager state headers guildId) := by
  refine follows_ask_bind (fun writes => writes.elim) (fun now _ => ?_) fun error _ _ same => by cases same
  refine follows_check _ (fun session opened => ?_) fun error _ same => by cases same
  obtain ⟨cookie, found, verified⟩ := readSession_ok opened
  rw [found]
  refine follows_ask_bind (fun writes => writes.elim) (fun reply _ => ?_) fun error _ _ same => by cases same
  refine follows_check _ (fun permission parsed => ?_) fun error _ same => by cases same
  obtain ⟨success, read⟩ := readReply_ok parsed
  refine follows_check _ (fun _ passed => ?_) fun error _ same => by cases same
  intro discordId _
  rw [checkManager_ok passed] at read
  exact ⟨carried, cookie, now, session, reply, found, by simp [recorded], verified, by simp [recorded],
    success, read⟩

/-- A request that opens the iframe session has verified its bearer at some instant. -/
theorem requireIframeSession_follows (bearer : String) :
    Follows (recorded (SaveGuard state headers guildId roleId))
      (fun result past => ∀ session, result = .ok session → ∃ now,
        (⟨.utcNow, .ok now⟩ : Performed WebOp WebOp.Value AppError) ∈ past ∧
        verifyIframeSession state.signing now bearer state.config.sessionSecret = some session) []
      (Admin.requireIframeSession state bearer) := by
  refine follows_ask_bind (fun writes => writes.elim) (fun now _ => ?_) fun error _ _ same => by cases same
  split
  · next session verified =>
      intro other same
      cases same
      exact ⟨now, by simp [recorded], verified⟩
  · intro other same
    cases same

/-- Access that may write comes from a bearer of the link or from a manager. -/
theorem requireRoleConfigAccess_follows :
    Follows (recorded (SaveGuard state headers guildId roleId))
      (fun result past => ∀ access, result = .ok access → access.readOnly = false →
        Opened state headers guildId roleId past ∨ Managed state headers guildId past) []
      (Admin.requireRoleConfigAccess state headers guildId roleId) := by
  unfold Admin.requireRoleConfigAccess
  split
  · next bearer carried =>
      refine follows_bind (requireIframeSession_follows bearer) (fun session past opened => ?_)
        fun error past _ access same => by cases same
      obtain ⟨now, asked, verified⟩ := opened session rfl
      split
      · intro access same
        cases same
      · next matched =>
          intro access same writes
          cases same
          rw [not_or, not_not, not_not] at matched
          obtain ⟨discordId, sessionGuild, sessionRole, readOnly⟩ := session
          obtain ⟨rfl, rfl⟩ := matched
          obtain rfl : readOnly = false := writes
          exact Or.inl ⟨bearer, now, discordId, carried, asked, verified⟩
  · next carried =>
      refine follows_bind (requireManager_follows carried) (fun discordId past managed => ?_)
        fun error past _ access same => by cases same
      exact fun access _ _ => Or.inr (managed discordId rfl)

/-- A tree is stored only after the origin and the access have been checked. -/
theorem storeTree_follows {tree : RuleTree} {expected : Int4} {past : Past}
    (origin : checkOrigin state.config headers = .ok ())
    (access : Opened state headers guildId roleId past ∨ Managed state headers guildId past) :
    Follows (recorded (SaveGuard state headers guildId roleId)) (fun _ _ => True) past
      (Admin.storeTree guildId roleId tree expected) := by
  have admitted : SaveGuard state headers guildId roleId past
      (.updateRuleTree tree.toValue (guildId, roleId) expected) :=
    fun _ => ⟨⟨_, _, rfl⟩, origin, access⟩
  refine follows_ask_bind admitted (fun affected _ => ?_) fun _ _ => trivial
  split
  · refine follows_ask_bind (fun writes => writes.elim) (fun found _ => ?_) fun _ _ => trivial
    split <;> trivial
  · refine follows_ask_bind (fun writes => writes.elim) (fun version _ => ?_) fun _ _ => trivial
    exact ⟨fun writes => writes.elim, fun _ _ => trivial⟩

/-- A save writes only after its checks have passed. -/
theorem roleConfigSave_follows (body : Admin.RoleConfigSaveBody) :
    Follows (recorded (SaveGuard state headers guildId roleId)) (fun _ _ => True) []
      (Admin.roleConfigSave state headers guildId roleId body) := by
  refine follows_check _ (fun _ origin => ?_) fun _ => trivial
  refine follows_bind requireRoleConfigAccess_follows (fun access past granted => ?_) fun _ _ _ => trivial
  split
  · trivial
  · next writes =>
      have reached := granted access rfl (Bool.eq_false_iff.mpr writes)
      exact follows_check _ (fun tree _ => storeTree_follows origin reached) fun _ => trivial

end Save

section Page

variable (state : AppState)

/-- A page with an iframe session was asked for with a token that verifies under the stored token of its
link. -/
def HandsOut (request : Request) (result : Except AppError Response) (past : Past) : Prop :=
  ∀ guildId roleId token readOnly,
    result = .ok (.page (.roleConfig guildId roleId (some token) readOnly)) →
      ∃ rlToken key now issued verified, request = .roleConfigPage guildId roleId (some rlToken) ∧
        past = [⟨.selectApiToken (guildId, roleId), .ok (some key)⟩, ⟨.utcNow, .ok now⟩,
          ⟨.utcNow, .ok issued⟩] ∧
        verify state.signing now rlToken key state.config.baseUrl = .ok verified ∧
        verified.guildId = guildId ∧ verified.roleId = roleId ∧ verified.readOnly = readOnly ∧
        token = mintIframeSession state.signing issued
          ⟨verified.discordId, guildId, roleId, readOnly⟩ state.config.sessionSecret

variable {state} {guard : Past → WebOp → Prop} (unlimited : ∀ past operation, guard past operation)

include unlimited

end Page

section Handling

variable (state : AppState)

/-- Only a save has a limit on its operations. -/
def Limits (headers : Headers) : Request → Past → WebOp → Prop
  | .roleConfigSave guildId roleId _ => SaveGuard state headers guildId roleId
  | _ => fun _ _ => True

def Handling.past (handling : Handling) : Past := handling.moments.map (Moment.performed state)

/-- What remains of the request keeps to its limits and hands out sessions as the page does. -/
def Handling.Sound (handling : Handling) : Prop :=
  Follows (recorded (Limits state handling.headers handling.request)) (HandsOut state handling.request)
    (handling.past state) handling.program

/-- The sessions that the answer carries. -/
def Handling.minted (handling : Handling) : Set (Timestamp × IframeSession) :=
  {mint | ∃ guildId roleId readOnly, handling.program = .done (.page (.roleConfig guildId roleId
    (some (mintIframeSession state.signing mint.1 mint.2 state.config.sessionSecret)) readOnly))}

variable {state}

/-- An advance performs the first operation that remains. -/
theorem advance_ok {outside : Outside} {tables after : Tables} {handling advanced : Handling}
    (performed : handling.advance state outside tables = some (advanced, after)) :
    ∃ operation next, handling.program = .call operation next ∧
      after = (answer state outside tables operation).2 ∧
      advanced = ⟨handling.headers, handling.request, handling.moments ++ [⟨tables, outside, operation⟩],
        next (answer state outside tables operation).1⟩ := by
  unfold Handling.advance at performed
  split at performed
  · next operation next remaining =>
      cases performed
      exact ⟨operation, next, remaining, rfl, rfl⟩
  · cases performed

end Handling

section Service

variable (state : AppState) (encodePercent : String → String) (cookies : Set Cookie)

/-- The server has signed the sessions of its answers, and the gateway its cookies. -/
def signedBy (handlings : List Handling) : Signed :=
  ⟨{mint | ∃ handling ∈ handlings, mint ∈ handling.minted state}, cookies⟩

/-- A bearer has digests of the requests before its own. -/
def Traced (service : Service) : Prop :=
  ∀ index handling, service.handlings[index]? = some handling → handling.Sound state ∧
    ∀ bearer, extractBearer handling.headers = some bearer →
      Unforged state.signing encodePercent state.config.sessionSecret
        (signedBy state cookies (service.handlings.take index)) bearer

variable {state encodePercent cookies}

end Service

section Grant

variable (state : AppState) (earlier : List Handling) (saving : Handling) (guildId : GuildId)
  (roleId : RoleId)

variable {state earlier saving guildId roleId}

/-- A served operation has answered with the value. -/
theorem performed_ok {moment : Moment} {operation : WebOp} {value : operation.Value}
    (same : moment.performed state = ⟨operation, .ok value⟩) :
    moment.operation = operation ∧
      (perform state moment.outside moment.tables operation).1 = .ok value := by
  obtain ⟨tables, outside, performed⟩ := moment
  obtain ⟨rfl, answered⟩ := Sigma.mk.inj same
  have answered := eq_of_heq answered
  unfold answer at answered
  refine ⟨rfl, ?_⟩
  split at answered
  · cases answered
  · exact answered

/-- An accepted origin is on the list. -/
theorem verifyOrigin_ok {headers : Headers} {allowedOrigins : List String} {value : Unit}
    (passed : verifyOrigin headers allowedOrigins = .ok value) :
    ∃ origin, headers.origin = some origin ∧ ∃ allowed ∈ allowedOrigins,
      RustText.trimEnd '/' origin = RustText.trimEnd '/' allowed := by
  unfold verifyOrigin at passed
  split at passed
  · cases passed
  · next origin found =>
      split at passed
      · next listed =>
          obtain ⟨allowed, member, same⟩ := List.any_eq_true.mp listed
          exact ⟨origin, found, allowed, member, beq_iff_eq.mp same⟩
      · cases passed

end Grant

section Run

variable (state : AppState)

variable {state} {encodePercent : String → String} {cookies : Set Cookie}

end Run

section Opening

variable {state : AppState} {outside : Outside}

end Opening

section Sample

/-- The dashboard signs these two parts under the token of the link. -/
def dashboardHeader : String := "eyJhbGciOiJIUzI1NiJ9"

def dashboardClaims : String :=
  "eyJpc3MiOiJyb2xlbG9naWMiLCJhdWQiOiJodHRwczovL29zdSIsInN1YiI6IjEiLCJndWlsZF9pZCI6Imd1aWxkIi" ++
    "wicm9sZV9pZCI6InJvbGUiLCJleHAiOjYwfQ"

def dashboardDigest : List UInt8 :=
  [119, 202, 112, 67, 34, 162, 145, 235, 235, 2, 120, 64, 39, 58, 95, 205,
   77, 107, 76, 170, 69, 72, 247, 177, 169, 197, 211, 163, 214, 241, 202, 57]

def headerBytes : List UInt8 := bytes "\x7b\"alg\":\"HS256\"\x7d"

def claimsBytes : List UInt8 :=
  bytes ("\x7b\"iss\":\"rolelogic\",\"aud\":\"https://osu\",\"sub\":\"1\"," ++
    "\"guild_id\":\"guild\",\"role_id\":\"role\",\"exp\":60\x7d")

/-- These are the SHA-256 digests of the token of the dashboard and of the session, and what the parts
of the token say. -/
def dashboardSigning : Signing where
  hmac key message :=
    if key = "token" ∧ message = RustText.joined '.' [dashboardHeader, dashboardClaims] then
      dashboardDigest
    else if key = "secret" ∧ message = "1:guild:role:0:3600" then
    [215, 201, 181, 177, 164, 237, 233, 250, 212, 135, 19, 242, 211, 139, 109, 129,
     24, 255, 40, 183, 180, 71, 203, 103, 9, 29, 172, 31, 35, 139, 95, 65]
    else []
  decodeBase64 part :=
    if part = dashboardHeader then some headerBytes
    else if part = dashboardClaims then some claimsBytes
    else if part = "d8pwQyKikevrAnhAJzpfzU1rTKpFSPexqcXTo9bxyjk" then some dashboardDigest
    else none
  readHeader contents := if contents = headerBytes then some ⟨"HS256", none⟩ else none
  readClaims contents :=
    if contents = claimsBytes then
      some ⟨"rolelogic", "https://osu", "1", "guild", "role", 60, false, none⟩
    else none
  decodePercent := some

def openedSession : IframeSession := ⟨"1", "guild", "role", false⟩

def openedBearer : String := mintIframeSession dashboardSigning 0 openedSession "secret"

def opening : Headers := { Sample.noHeaders with authorization := some ("Bearer " ++ openedBearer) }

def modeOf (tables : Tables) : Option Mode :=
  (storedRule Sample.link tables).map fun rule => (RuleTree.ofColumn rule.value).defaultMode

end Sample

end OsuPlayerRole.Serving

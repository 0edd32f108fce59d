/-
This file shows which tokens of the dashboard are accepted.
-/
import OsuPlayerRole.Proof.Web.IframeToken

namespace OsuPlayerRole.RlToken

/-- The token has three readable parts and the signature of the key, and its claims are issued for the
audience. -/
def Presented (signing : Signing) (key aud token : String) (claims : Claims) : Prop :=
  ∃ headerB64 payloadB64 sigB64 headerBytes payloadBytes header,
    token = RustText.joined '.' [headerB64, payloadB64, sigB64] ∧
    signing.decodeBase64 headerB64 = some headerBytes ∧
    signing.decodeBase64 payloadB64 = some payloadBytes ∧
    signing.decodeBase64 sigB64 =
      some (signing.hmac key (RustText.joined '.' [headerB64, payloadB64])) ∧
    signing.readHeader headerBytes = some header ∧ header.alg = "HS256" ∧
    (∀ typ ∈ header.typ, RustText.toAsciiLowercase typ = "jwt") ∧
    signing.readClaims payloadBytes = some claims ∧ claims.iss = "rolelogic" ∧
    RustText.SameUpTo '/' claims.aud aud

/-- What a verified token says is what its claims say. -/
def Claims.verified (claims : Claims) : Verified :=
  ⟨claims.sub, claims.guildId, claims.roleId, claims.readOnly, claims.act⟩

/-- No part in base64 holds the separator. -/
def Dotless (signing : Signing) : Prop :=
  ∀ part contents, signing.decodeBase64 part = some contents → '.' ∉ part.toList

/-- The expiry is read as an `i64`. -/
def Timed (signing : Signing) : Prop :=
  ∀ contents claims, signing.readClaims contents = some claims →
    -2 ^ 63 ≤ claims.exp ∧ claims.exp < 2 ^ 63

/-- The clock stays within the instants that the package of dates represents. -/
def Represented (now : Timestamp) : Prop :=
  -8334601228800 ≤ now.seconds ∧ now.seconds ≤ 8210266876799

variable {signing : Signing} {now : Timestamp} {key aud token : String} {claims : Claims}
  {verified : Verified}

/-- The type of a token is compared without regard to case. -/
theorem jwt_iff {typ : String} :
    RustText.eqIgnoreAsciiCase typ "JWT" = true ↔ RustText.toAsciiLowercase typ = "jwt" := by
  unfold RustText.eqIgnoreAsciiCase
  rw [beq_iff_eq]
  exact Iff.of_eq (congrArg _ (by decide))

/-- Two audiences match when they differ in slashes at the end alone. -/
theorem audMatches_iff {claimAud expected : String} :
    audMatches claimAud expected = true ↔ RustText.SameUpTo '/' claimAud expected := by
  rw [audMatches, beq_iff_eq, RustText.trimEnd_eq_iff]

/-- The claims pass exactly with the issuer, the audience and a live expiry. -/
theorem checkClaims_eq_ok :
    checkClaims now aud claims = .ok verified ↔
      claims.iss = "rolelogic" ∧ audMatches claims.aud aud = true ∧
        now.seconds ≤ wrapI64 (claims.exp + allowedSkewSecs) ∧ verified = claims.verified := by
  unfold checkClaims
  split_ifs with issuer audience expired
  · simp [issuer]
  · simp at audience
    simp [audience]
  · simp [Int.not_le.mpr expired]
  · simp at audience
    simp [not_not.mp issuer, audience, Int.not_lt.mp expired, eq_comm, Claims.verified]

/-- The parts of a presented token are the parts that the verification splits off. -/
theorem Presented.verify_eq (dotless : Dotless signing)
    (presented : Presented signing key aud token claims) :
    verify signing now token key aud = checkClaims now aud claims := by
  obtain ⟨headerB64, payloadB64, sigB64, headerBytes, payloadBytes, header, rfl, headerRead,
    payloadRead, sigRead, found, algorithm, typed, claimed, _, _⟩ := presented
  have parts : RustText.splitN '.' 3 (RustText.joined '.' [headerB64, payloadB64, sigB64]) =
      [headerB64, payloadB64, sigB64] := by
    refine @RustText.splitN_joined '.' [headerB64, payloadB64, sigB64] (List.cons_ne_nil _ _) ?_
    intro part member
    simp only [List.dropLast_cons_cons, List.dropLast_singleton, List.mem_cons, List.not_mem_nil,
      or_false] at member
    rcases member with rfl | rfl
    · exact dotless _ _ headerRead
    · exact dotless _ _ payloadRead
  have checked : checkHeader signing headerBytes = .ok () :=
    checkHeader_eq_ok.mpr ⟨header, found, algorithm, fun typ member => jwt_iff.mpr (typed typ member)⟩
  unfold verify
  rw [parts]
  dsimp only
  simp only [decoded, headerRead, payloadRead, sigRead]
  dsimp only [bind, Except.bind]
  rw [if_pos rfl, checked, claimed]

/-- A token passes exactly when it is presented well and is live. -/
theorem verify_eq_ok (dotless : Dotless signing) :
    verify signing now token key aud = .ok verified ↔
      ∃ claims, Presented signing key aud token claims ∧
        now.seconds ≤ wrapI64 (claims.exp + allowedSkewSecs) ∧ verified = claims.verified := by
  constructor
  · intro passed
    obtain ⟨headerB64, payloadB64, sigB64, headerBytes, payloadBytes, header, claims, parts, headerRead,
      payloadRead, sigRead, found, algorithm, typed, claimed, checked⟩ := verify_parts passed
    obtain ⟨issuer, audience, live, same⟩ := checkClaims_eq_ok.mp checked
    refine ⟨claims, ⟨headerB64, payloadB64, sigB64, headerBytes, payloadBytes, header, ?_, headerRead,
      payloadRead, sigRead, found, algorithm, fun typ member => jwt_iff.mp (typed typ member), claimed,
      issuer, audMatches_iff.mp audience⟩, live, same⟩
    rw [← parts, RustText.joined_splitN]
  · rintro ⟨claims, presented, live, same⟩
    rw [presented.verify_eq dotless]
    obtain ⟨_, _, _, _, _, _, _, _, _, _, _, _, _, _, issuer, audience⟩ := presented
    exact checkClaims_eq_ok.mpr ⟨issuer, audMatches_iff.mpr audience, live, same⟩

/-- A value of the range is kept by the addition. -/
theorem wrapI64_of_fits {value : Int} (fits : -2 ^ 63 ≤ value ∧ value < 2 ^ 63) :
    wrapI64 value = value := by
  unfold wrapI64
  omega

/-- An expiry near the end of the range wraps around to the distant past. -/
theorem wrapI64_of_overflow {value : Int} (high : 2 ^ 63 ≤ value) (bound : value < 2 ^ 63 + 60) :
    wrapI64 value < -2 ^ 63 + 60 := by
  unfold wrapI64
  omega

/-- Exactly the valid tokens are accepted, as long as no token that passes the other checks expires
within the last minute of `i64`. There the sum with the skew leaves the type. -/
theorem valid_tokens_accepted (signing : Signing) (dotless : Dotless signing) (timed : Timed signing)
    (now : Timestamp) (represented : Represented now) (token key aud : String) :
    (∀ verified, verify signing now token key aud = .ok verified ↔
      ∃ claims, Presented signing key aud token claims ∧
        now.seconds ≤ claims.exp + allowedSkewSecs ∧ verified = claims.verified) ↔
      ∀ claims, Presented signing key aud token claims → claims.exp + allowedSkewSecs < 2 ^ 63 := by
  have range : ∀ claims, Presented signing key aud token claims →
      -2 ^ 63 ≤ claims.exp ∧ claims.exp < 2 ^ 63 := by
    rintro claims ⟨_, _, _, _, _, _, _, _, _, _, _, _, _, claimed, _⟩
    exact timed _ _ claimed
  constructor
  · intro exact claims presented
    by_contra! overflow
    have bounds := range claims presented
    have skewed : claims.exp + allowedSkewSecs < 2 ^ 63 + 60 := by
      unfold allowedSkewSecs
      omega
    have live : now.seconds ≤ claims.exp + allowedSkewSecs := by
      have := represented.2
      omega
    have accepted := (exact claims.verified).mpr ⟨claims, presented, live, rfl⟩
    rw [presented.verify_eq dotless] at accepted
    obtain ⟨_, _, wrapped, _⟩ := checkClaims_eq_ok.mp accepted
    have below := wrapI64_of_overflow overflow skewed
    have := represented.1
    omega
  · intro fits verified
    rw [verify_eq_ok dotless]
    refine exists_congr fun claims => and_congr_right fun presented => and_congr_left fun _ => ?_
    have bounds := range claims presented
    have sum : wrapI64 (claims.exp + allowedSkewSecs) = claims.exp + allowedSkewSecs := by
      refine wrapI64_of_fits ⟨?_, fits claims presented⟩
      unfold allowedSkewSecs
      omega
    rw [sum]

section Sample

/-- These parts of a token are signed with the key of the link, and this is what they say. -/
def issued (claimsB64 claimsText sigB64 : String) (digest : List UInt8) (exp : Int) : Signing where
  hmac key message :=
    if key = "token" ∧ message = RustText.joined '.' ["eyJhbGciOiJIUzI1NiJ9", claimsB64] then digest
    else []
  decodeBase64 part :=
    if part = "eyJhbGciOiJIUzI1NiJ9" then some (bytes "\x7b\"alg\":\"HS256\"\x7d")
    else if part = claimsB64 then some (bytes claimsText)
    else if part = sigB64 then some digest
    else none
  readHeader contents :=
    if contents = bytes "\x7b\"alg\":\"HS256\"\x7d" then some ⟨"HS256", none⟩ else none
  readClaims contents :=
    if contents = bytes claimsText then
      some ⟨"rolelogic", "https://osu/", "1", "guild", "role", exp, false, none⟩
    else none
  decodePercent := some

def claimsText (exp : String) : String :=
  "\x7b\"iss\":\"rolelogic\",\"aud\":\"https://osu/\",\"sub\":\"1\"," ++
    "\"guild_id\":\"guild\",\"role_id\":\"role\",\"exp\":" ++ exp ++ "\x7d"

def minuteClaims : String :=
  "eyJpc3MiOiJyb2xlbG9naWMiLCJhdWQiOiJodHRwczovL29zdS8iLCJzdWIiOiIxIiwiZ3VpbGRfaWQiOiJndWlsZCIs" ++
    "InJvbGVfaWQiOiJyb2xlIiwiZXhwIjo2MH0"

/-- The claims of this token expire after a minute. -/
def minuteSigning : Signing :=
  issued minuteClaims (claimsText "60") "uT5LnNQiwoLZMFgeiBRAOjz7EjXEO4SCoeZkY8E7bCs"
    [185, 62, 75, 156, 212, 34, 194, 130, 217, 48, 88, 30, 136, 20, 64, 58, 60, 251, 18, 53, 196, 59,
      132, 130, 161, 230, 100, 99, 193, 59, 108, 43] 60

def minuteToken : String :=
  RustText.joined '.'
    ["eyJhbGciOiJIUzI1NiJ9", minuteClaims, "uT5LnNQiwoLZMFgeiBRAOjz7EjXEO4SCoeZkY8E7bCs"]

def lastClaims : String :=
  "eyJpc3MiOiJyb2xlbG9naWMiLCJhdWQiOiJodHRwczovL29zdS8iLCJzdWIiOiIxIiwiZ3VpbGRfaWQiOiJndWlsZCIs" ++
    "InJvbGVfaWQiOiJyb2xlIiwiZXhwIjo5MjIzMzcyMDM2ODU0Nzc1ODA3fQ"

/-- The claims of this token expire at the last second of `i64`. -/
def lastSigning : Signing :=
  issued lastClaims (claimsText "9223372036854775807") "8XqtsOoJBMVCEtCxWGXxi03CfetpGBpm2vmfI97FxkU"
    [241, 122, 173, 176, 234, 9, 4, 197, 66, 18, 208, 177, 88, 101, 241, 139, 77, 194, 125, 235, 105,
      24, 26, 102, 218, 249, 159, 35, 222, 197, 198, 69] (2 ^ 63 - 1)

def lastToken : String :=
  RustText.joined '.'
    ["eyJhbGciOiJIUzI1NiJ9", lastClaims, "8XqtsOoJBMVCEtCxWGXxi03CfetpGBpm2vmfI97FxkU"]

variable {claimsB64 text sigB64 : String} {digest : List UInt8} {exp : Int}

/-- The sample encoding uses no dot. -/
theorem issued_dotless (claimsClean : '.' ∉ claimsB64.toList) (sigClean : '.' ∉ sigB64.toList) :
    Dotless (issued claimsB64 text sigB64 digest exp) := by
  intro part contents read
  simp only [issued] at read
  split_ifs at read with first second third
  · rw [first]
    decide
  · rw [second]
    exact claimsClean
  · rw [third]
    exact sigClean

/-- The first part decodes to the header. -/
theorem issued_header_part :
    (issued claimsB64 text sigB64 digest exp).decodeBase64 "eyJhbGciOiJIUzI1NiJ9" =
      some (bytes "\x7b\"alg\":\"HS256\"\x7d") := by
  simp [issued]

/-- The header names its algorithm. -/
theorem issued_header :
    (issued claimsB64 text sigB64 digest exp).readHeader (bytes "\x7b\"alg\":\"HS256\"\x7d") =
      some ⟨"HS256", none⟩ := by
  simp [issued]

/-- The second part decodes to the claims. -/
theorem issued_claims_part (other : claimsB64 ≠ "eyJhbGciOiJIUzI1NiJ9") :
    (issued claimsB64 text sigB64 digest exp).decodeBase64 claimsB64 = some (bytes text) := by
  simp [issued, other]

/-- The claims name the link and the expiry. -/
theorem issued_payload :
    (issued claimsB64 text sigB64 digest exp).readClaims (bytes text) =
      some ⟨"rolelogic", "https://osu/", "1", "guild", "role", exp, false, none⟩ := by
  simp [issued]

/-- Every claim that is read has the expiry of the sample. -/
theorem issued_claims {contents : List UInt8} {claims : Claims}
    (read : (issued claimsB64 text sigB64 digest exp).readClaims contents = some claims) :
    claims.exp = exp := by
  simp only [issued] at read
  split_ifs at read
  cases read
  rfl

/-- The expiry of the sample fits 64 bits. -/
theorem issued_timed (range : -2 ^ 63 ≤ exp ∧ exp < 2 ^ 63) :
    Timed (issued claimsB64 text sigB64 digest exp) := by
  intro contents claims read
  rw [issued_claims read]
  exact range

/-- A token that is issued so passes every check but the one of its time. -/
theorem issued_presented (other : claimsB64 ≠ "eyJhbGciOiJIUzI1NiJ9")
    (signature : (issued claimsB64 text sigB64 digest exp).decodeBase64 sigB64 =
      some ((issued claimsB64 text sigB64 digest exp).hmac "token"
        (RustText.joined '.' ["eyJhbGciOiJIUzI1NiJ9", claimsB64]))) :
    Presented (issued claimsB64 text sigB64 digest exp) "token" "https://osu"
      (RustText.joined '.' ["eyJhbGciOiJIUzI1NiJ9", claimsB64, sigB64])
      ⟨"rolelogic", "https://osu/", "1", "guild", "role", exp, false, none⟩ := by
  have typed : ∀ typ ∈ (⟨"HS256", none⟩ : Header).typ, RustText.toAsciiLowercase typ = "jwt" := by
    intro typ impossible
    cases impossible
  have audience : "https://osu/".toList = "https://osu".toList ++ List.replicate 1 '/' := by decide
  exact ⟨"eyJhbGciOiJIUzI1NiJ9", claimsB64, sigB64, _, _, ⟨"HS256", none⟩, rfl, issued_header_part,
    issued_claims_part other, signature, issued_header, rfl, typed, issued_payload, rfl,
    "https://osu".toList, 1, 0, audience, by decide⟩

def liveClaims : Claims := ⟨"rolelogic", "https://osu/", "1", "guild", "role", 60, false, none⟩

/-- The token of a minute is well formed. -/
theorem minuteToken_presented :
    Presented minuteSigning "token" "https://osu" minuteToken liveClaims :=
  issued_presented (by decide +kernel) (by decide +kernel)

/-- A token that expires within the minute is accepted. -/
theorem minute_token_accepted :
    verify minuteSigning 0 minuteToken "token" "https://osu" = .ok liveClaims.verified := by
  refine ((valid_tokens_accepted minuteSigning (issued_dotless (by decide +kernel) (by decide +kernel))
    (issued_timed (by decide)) 0 ⟨by decide, by decide⟩ minuteToken "token" "https://osu").mpr ?_
      liveClaims.verified).mpr ⟨liveClaims, minuteToken_presented, by decide, rfl⟩
  rintro claims ⟨_, _, _, _, _, _, _, _, _, _, _, _, _, claimed, _⟩
  rw [issued_claims claimed]
  decide

def endlessClaims : Claims :=
  ⟨"rolelogic", "https://osu/", "1", "guild", "role", 2 ^ 63 - 1, false, none⟩

/-- The token with the last expiry is well formed. -/
theorem lastToken_presented :
    Presented lastSigning "token" "https://osu" lastToken endlessClaims :=
  issued_presented (by decide +kernel) (by decide +kernel)

/-- The last token expires in the far future, but its sum with the skew wraps around. -/
theorem last_token_rejected :
    verify lastSigning 0 lastToken "token" "https://osu" = .error .expired ∧
      ¬ ∀ (signing : Signing) (now : Timestamp) (token key aud : String),
        Dotless signing → Timed signing → Represented now →
        ∀ verified, verify signing now token key aud = .ok verified ↔
          ∃ claims, Presented signing key aud token claims ∧
            now.seconds ≤ claims.exp + allowedSkewSecs ∧ verified = claims.verified := by
  have dotless : Dotless lastSigning := issued_dotless (by decide +kernel) (by decide +kernel)
  have rejected : verify lastSigning 0 lastToken "token" "https://osu" = .error .expired := by
    rw [lastToken_presented.verify_eq dotless]
    rfl
  refine ⟨rejected, fun exact => ?_⟩
  have accepted := (exact lastSigning 0 lastToken "token" "https://osu" dotless
    (issued_timed (by decide)) ⟨by decide, by decide⟩ endlessClaims.verified).mpr
    ⟨endlessClaims, lastToken_presented, by decide, rfl⟩
  rw [rejected] at accepted
  cases accepted

end Sample

end OsuPlayerRole.RlToken

/-
This file shows that the cookies and the iframe sessions never mix under their common secret.
-/
import OsuPlayerRole.Construction.Services.Auth
import OsuPlayerRole.Proof.Sample
import OsuPlayerRole.Proof.Web.IframeToken

namespace OsuPlayerRole.Auth

open RlToken

/-- This is a cookie of the gateway, before it is signed. -/
structure Cookie where
  discordId : DiscordId
  displayName : String
  expires : Int

def Cookie.fields (encodePercent : String → String) (cookie : Cookie) : List String :=
  [cookie.discordId, encodePercent cookie.displayName, toString cookie.expires]

/-- These are the calls that sign a text under the session secret. -/
structure Signed where
  sessions : Set (Timestamp × IframeSession)
  cookies : Set Cookie

/-- The text was signed by one of the calls. -/
def Signed.Signs (encodePercent : String → String) (signed : Signed) (text : String) : Prop :=
  (∃ issued session, (issued, session) ∈ signed.sessions ∧ text = payload session (expiry issued)) ∨
    ∃ cookie ∈ signed.cookies,
      text = sessionPayload encodePercent cookie.discordId cookie.displayName cookie.expires

/-- The identities hold no separator. The encoding of a name holds none, and it is decoded again. -/
structure Encodes (signing : Signing) (encodePercent : String → String) (cookie : Cookie) : Prop where
  discordId : ':' ∉ cookie.discordId.toList
  displayName : ':' ∉ (encodePercent cookie.displayName).toList
  decoded : signing.decodePercent (encodePercent cookie.displayName) = some cookie.displayName

/-- A digest at the end of the token is one of a signed text. -/
def Unforged (signing : Signing) (encodePercent : String → String) (secret : String) (signed : Signed)
    (token : String) : Prop :=
  ∀ front text, token = front ++ ":" ++ hex (signing.hmac secret text) → signed.Signs encodePercent text

section

variable {signing : Signing} {encodePercent : String → String} {now : Timestamp}
  {token secret : String} {signed : Signed}

/-- A verified cookie is the signed text of its fields with an expiry that is not past. -/
theorem verifySession_some {discordId : DiscordId} {displayName : String}
    (verified : verifySession signing now token secret = some (discordId, displayName)) :
    ∃ encodedName expiresStr expires,
      (∀ field ∈ [discordId, encodedName, expiresStr], ':' ∉ field.toList) ∧
      RustText.parseI64 expiresStr = some expires ∧ now.seconds ≤ expires ∧
      signing.decodePercent encodedName = some displayName ∧
      token = RustText.joined ':' [RustText.joined ':' [discordId, encodedName, expiresStr],
        hex (signing.hmac secret (RustText.joined ':' [discordId, encodedName, expiresStr]))] := by
  unfold verifySession at verified
  split at verified
  · next id encodedName expiresStr sig parts =>
      obtain ⟨expires, parsed, remaining⟩ := Option.bind_eq_some_iff.mp verified
      split at remaining
      · cases remaining
      · next live =>
          dsimp only at remaining
          split at remaining
          · next signature =>
              obtain ⟨name, decoded, same⟩ := Option.map_eq_some_iff.mp remaining
              cases same
              have clean := RustText.splitN_clean ':' 4 token
              have whole := RustText.joined_splitN ':' 3 token
              rw [parts] at clean whole
              have equal := bytes_injective (constantTimeEq_iff.mp signature)
              refine ⟨encodedName, expiresStr, expires, clean, parsed, Int.not_lt.mp live, decoded, ?_⟩
              rw [RustText.joined_snoc (List.cons_ne_nil _ _), ← equal]
              exact whole.symm
          · cases remaining
  · cases verified

theorem joined_pair (first second : String) :
    RustText.joined ':' [first, second] = first ++ ":" ++ second := by
  rw [← String.toList_inj, RustText.joined, String.toList_ofList, String.toList_append,
    String.toList_append]
  simp [Fields.join, List.intercalate]

/-- The fields of a cookie hold no separator. -/
theorem Encodes.clean {cookie : Cookie} (encodes : Encodes signing encodePercent cookie) :
    ∀ field ∈ cookie.fields encodePercent, ':' ∉ field.toList := by
  intro field member
  simp only [Cookie.fields, List.mem_cons, List.not_mem_nil, or_false] at member
  obtain rfl | rfl | rfl := member
  · exact encodes.discordId
  · exact encodes.displayName
  · exact RustText.not_mem_toString (by decide) (by decide) _

/-- A session that was minted without separators in its identities has clean fields. -/
theorem clean_of_ids {session : IframeSession} (issued : Timestamp)
    (ids : ∀ id ∈ [session.discordId, session.guildId, session.roleId], ':' ∉ id.toList) :
    Clean session (expiry issued) := by
  intro field member
  simp only [payloadFields, List.mem_cons, List.not_mem_nil, or_false] at member
  obtain rfl | rfl | rfl | rfl | rfl := member
  · exact ids _ (by simp)
  · exact ids _ (by simp)
  · exact ids _ (by simp)
  · cases session.readOnly <;> decide
  · exact RustText.not_mem_toString (by decide) (by decide) _

/-- A verified iframe session is one of the minted ones, and it has not expired. -/
theorem iframe_of_verified
    (encodes : ∀ cookie ∈ signed.cookies, Encodes signing encodePercent cookie)
    (unforged : Unforged signing encodePercent secret signed token) {session : IframeSession}
    (verified : verifyIframeSession signing now token secret = some session) :
    ∃ issued, (issued, session) ∈ signed.sessions ∧
      token = mintIframeSession signing issued session secret ∧
        now.seconds ≤ issued.seconds + iframeTtlSecs := by
  obtain ⟨exp, value, clean, parsed, live, whole⟩ := verifyIframeSession_iff.mp verified
  have digest : token = ("ifs:" ++ payload session exp) ++ ":" ++
      hex (signing.hmac secret (payload session exp)) := by
    rw [whole, signedToken, joined_pair, String.append_assoc, String.append_assoc, String.append_assoc]
  obtain ⟨issued, other, minted, same⟩ | ⟨cookie, inside, same⟩ := unforged _ _ digest
  · have fields : payloadFields session exp = payloadFields other (expiry issued) :=
      RustText.joined_injective clean rfl same
    obtain rfl := session_of_fields fields
    obtain rfl : exp = expiry issued := by simpa [payloadFields] using fields
    have moment := RustText.eq_of_parseI64_toString parsed
    exact ⟨issued, minted, whole, moment ▸ live⟩
  · -- A cookie has three clean fields, so its text has too few separators.
    have shorter := RustText.length_le_of_joined (List.cons_ne_nil _ _) (encodes cookie inside).clean
      same.symm
    simp only [payloadFields, List.length_cons, List.length_nil] at shorter
    omega

/-- A verified cookie is one of the gateway's, and it has not expired. -/
theorem cookie_of_verified
    (encodes : ∀ cookie ∈ signed.cookies, Encodes signing encodePercent cookie)
    (unforged : Unforged signing encodePercent secret signed token) {discordId : DiscordId}
    {displayName : String}
    (verified : verifySession signing now token secret = some (discordId, displayName)) :
    ∃ expires, ⟨discordId, displayName, expires⟩ ∈ signed.cookies ∧
      token = mintSession signing encodePercent discordId displayName expires secret ∧
        now.seconds ≤ expires := by
  obtain ⟨encodedName, expiresStr, expires, clean, parsed, live, decoded, whole⟩ :=
    verifySession_some verified
  obtain ⟨issued, other, _, same⟩ | ⟨cookie, inside, same⟩ :=
    unforged _ _ (whole.trans (joined_pair _ _))
  · -- An iframe session has at least four separators, and three clean fields have two.
    have shorter := RustText.length_le_of_joined (List.cons_ne_nil _ _) clean same
    simp only [payloadFields, List.length_cons, List.length_nil] at shorter
    omega
  · have fields : [discordId, encodedName, expiresStr] = cookie.fields encodePercent :=
      RustText.joined_injective clean rfl same
    simp only [Cookie.fields, List.cons.injEq, and_true] at fields
    obtain ⟨rfl, rfl, rfl⟩ := fields
    obtain rfl := Option.some.inj (decoded.symm.trans (encodes cookie inside).decoded)
    obtain rfl := RustText.eq_of_parseI64_toString parsed
    exact ⟨cookie.expires, inside, whole, live⟩

/-- Each token that verifies was signed in its own format for exactly the returned values, and a clean
iframe session verifies until its expiry. -/
theorem formats_never_mix (signing : Signing) (encodePercent : String → String) (secret : String)
    (signed : Signed) (encodes : ∀ cookie ∈ signed.cookies, Encodes signing encodePercent cookie) :
    (∀ token now session, Unforged signing encodePercent secret signed token →
      verifyIframeSession signing now token secret = some session →
        ∃ issued, (issued, session) ∈ signed.sessions ∧
          token = mintIframeSession signing issued session secret ∧
            now.seconds ≤ issued.seconds + iframeTtlSecs) ∧
    (∀ token now discordId displayName, Unforged signing encodePercent secret signed token →
      verifySession signing now token secret = some (discordId, displayName) →
        ∃ expires, ⟨discordId, displayName, expires⟩ ∈ signed.cookies ∧
          token = mintSession signing encodePercent discordId displayName expires secret ∧
            now.seconds ≤ expires) ∧
    ∀ issued now (session : IframeSession),
      (∀ id ∈ [session.discordId, session.guildId, session.roleId], ':' ∉ id.toList) →
        -2 ^ 63 ≤ issued.seconds + iframeTtlSecs ∧ issued.seconds + iframeTtlSecs < 2 ^ 63 →
          now.seconds ≤ issued.seconds + iframeTtlSecs →
            verifyIframeSession signing now (mintIframeSession signing issued session secret) secret =
              some session := by
  refine ⟨fun token now session unforged verified => iframe_of_verified encodes unforged verified,
    fun token now discordId displayName unforged verified =>
      cookie_of_verified encodes unforged verified, fun issued now session ids fits live => ?_⟩
  exact verifyIframeSession_iff.mpr
    ⟨expiry issued, _, clean_of_ids issued ids, RustText.parseI64_toString fits, live, rfl⟩

/-- The sample signs one cookie of a player and one iframe session. -/
theorem sample_formats_apart :
    let signed : Signed := ⟨{(0, ⟨"1", "guild", "role", true⟩)}, {⟨"1", "player", 3600⟩}⟩
    let cookie := mintSession Sample.signing id "1" "player" 3600 "secret"
    verifyIframeSession Sample.signing 0
        (mintIframeSession Sample.signing 0 ⟨"1", "guild", "role", true⟩ "secret") "secret" =
      some ⟨"1", "guild", "role", true⟩ ∧
    ∃ expires, ⟨"1", "player", expires⟩ ∈ signed.cookies ∧
      cookie = mintSession Sample.signing id "1" "player" expires "secret" ∧ 0 ≤ expires := by
  intro signed cookie
  have encodes : ∀ cookie ∈ signed.cookies, Encodes Sample.signing id cookie := by
    intro cookie member
    obtain rfl := Set.mem_singleton_iff.mp member
    exact ⟨by decide, by decide, rfl⟩
  have unforged : Unforged Sample.signing id "secret" signed cookie := by
    intro front text whole
    by_cases iframe : text = "1:guild:role:1:3600"
    · exact Or.inl ⟨0, _, rfl, iframe.trans (by decide +kernel)⟩
    by_cases player : text = "1:player:3600"
    · exact Or.inr ⟨_, rfl, player.trans (by decide +kernel)⟩
    -- Every other text has an empty digest, and the cookie does not end with a separator.
    have digest : Sample.signing.hmac "secret" text = [] := by simp [Sample.signing, iframe, player]
    have last : cookie.toList.getLast? = some ':' := by
      rw [whole, digest, String.toList_append, String.toList_append]
      simp [hex]
    exact absurd last (by decide +kernel)
  have apart := formats_never_mix Sample.signing id "secret" signed encodes
  exact ⟨apart.2.2 0 0 ⟨"1", "guild", "role", true⟩ (by decide) (by decide) (by decide),
    apart.2.1 cookie 0 "1" "player" unforged (by decide +kernel)⟩

end

end OsuPlayerRole.Auth

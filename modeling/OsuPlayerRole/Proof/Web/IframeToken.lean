/-
This file shows what a verified token of the dashboard and a verified iframe session say.
-/
import OsuPlayerRole.Construction.Services.RlToken
import OsuPlayerRole.Library.Checked
import Mathlib.Tactic.IntervalCases

namespace OsuPlayerRole.RlToken

section Dashboard

variable {signing : Signing}

/-- A part is decoded when its Base64 can be read. -/
theorem decoded_ok {part : String} {contents : List UInt8}
    (read : decoded signing part = .ok contents) : signing.decodeBase64 part = some contents := by
  unfold decoded at read
  split at read
  · next found =>
      cases read
      exact found
  · cases read

/-- The header passes exactly with its algorithm and, where it names a type, with the type JWT. -/
theorem checkHeader_eq_ok {headerBytes : List UInt8} :
    checkHeader signing headerBytes = .ok () ↔
      ∃ header, signing.readHeader headerBytes = some header ∧ header.alg = "HS256" ∧
        ∀ typ ∈ header.typ, RustText.eqIgnoreAsciiCase typ "JWT" = true := by
  unfold checkHeader
  cases found : signing.readHeader headerBytes with
  | none => exact iff_of_false (fun passed => by cases passed) (fun ⟨_, read, _⟩ => by cases read)
  | some header =>
      have only : ∀ property : Header → Prop,
          (∃ other, some header = some other ∧ property other) ↔ property header := by simp
      rw [only]
      dsimp only
      by_cases algorithm : header.alg = "HS256"
      · rw [if_neg (not_not_intro algorithm)]
        cases header.typ with
        | none => simp [algorithm]
        | some typ => simp [algorithm]
      · rw [if_pos algorithm]
        simp [algorithm]

/-- A token that passes has three parts, each of which passes its own check. -/
theorem verify_parts {now : Timestamp} {token key aud : String} {verified : Verified}
    (passed : verify signing now token key aud = .ok verified) :
    ∃ headerB64 payloadB64 sigB64 headerBytes payloadBytes header claims,
      RustText.splitN '.' 3 token = [headerB64, payloadB64, sigB64] ∧
      signing.decodeBase64 headerB64 = some headerBytes ∧
      signing.decodeBase64 payloadB64 = some payloadBytes ∧
      signing.decodeBase64 sigB64 =
        some (signing.hmac key (RustText.joined '.' [headerB64, payloadB64])) ∧
      signing.readHeader headerBytes = some header ∧ header.alg = "HS256" ∧
      (∀ typ ∈ header.typ, RustText.eqIgnoreAsciiCase typ "JWT" = true) ∧
      signing.readClaims payloadBytes = some claims ∧ checkClaims now aud claims = .ok verified := by
  unfold verify at passed
  split at passed
  · next headerB64 payloadB64 sigB64 parts =>
      obtain ⟨headerBytes, headerRead, passed⟩ := Checked.bind_ok passed
      obtain ⟨payloadBytes, payloadRead, passed⟩ := Checked.bind_ok passed
      obtain ⟨sigBytes, sigRead, passed⟩ := Checked.bind_ok passed
      obtain ⟨_, checkedHeader, passed⟩ := Checked.bind_ok passed
      obtain ⟨header, found, algorithm, typed⟩ := checkHeader_eq_ok.mp checkedHeader
      split at passed
      · next signature =>
          split at passed
          · cases passed
          · next claims claimed =>
              refine ⟨headerB64, payloadB64, sigB64, headerBytes, payloadBytes, header, claims, parts,
                decoded_ok headerRead, decoded_ok payloadRead, ?_, found, algorithm, typed, claimed,
                passed⟩
              rw [signature]
              exact decoded_ok sigRead
      · cases passed
  · cases passed

end Dashboard

section ConstantTime

/-- The difference stays zero exactly along equal bytes. -/
theorem fold_diff_eq_zero {first second : List UInt8} (same : first.length = second.length)
    (diff : UInt8) :
    (first.zip second).foldl (fun diff pair => diff ||| (pair.1 ^^^ pair.2)) diff = 0 ↔
      diff = 0 ∧ first = second := by
  induction first generalizing second diff with
  | nil =>
      have none : second = [] := List.length_eq_zero_iff.mp same.symm
      rw [none]
      simp
  | cons head tail ih =>
      cases second with
      | nil => cases same
      | cons other rest =>
          rw [List.zip_cons_cons, List.foldl_cons, ih (Nat.succ.inj same), UInt8.or_eq_zero_iff,
            UInt8.xor_eq_zero_iff, and_assoc, List.cons.injEq]

/-- The comparison in constant time is equality. -/
theorem constantTimeEq_iff {first second : List UInt8} :
    constantTimeEq first second = true ↔ first = second := by
  unfold constantTimeEq
  by_cases same : first.length = second.length
  · rw [if_neg (not_not.mpr same), beq_iff_eq, fold_diff_eq_zero same]
    simp
  · rw [if_pos same]
    constructor
    · intro impossible
      cases impossible
    · intro equal
      exact absurd (congrArg List.length equal) same

/-- Different texts have different bytes. -/
theorem bytes_injective {first second : String} (same : bytes first = bytes second) :
    first = second := by
  have arrays : first.toByteArray.data = second.toByteArray.data := Array.toList_inj.mp same
  exact String.toByteArray_inj.mp (ByteArray.ext arrays)

end ConstantTime

/-- A digit is never a separator. -/
theorem hexDigit_ne_colon (value : Nat) (small : value < 16) : Json.Value.hexDigit value ≠ ':' := by
  interval_cases value <;> decide

/-- No hexadecimal text holds a colon. -/
theorem colon_not_mem_hex (digest : List UInt8) : ':' ∉ (hex digest).toList := by
  unfold hex
  rw [String.toList_ofList, List.mem_flatMap]
  rintro ⟨byte, _, digit⟩
  have high : byte.toNat / 16 < 16 := by
    have := byte.toNat_lt
    omega
  have low : byte.toNat % 16 < 16 := Nat.mod_lt _ (by decide)
  obtain same | same := (by simpa using digit : ':' = _ ∨ ':' = _)
  · exact hexDigit_ne_colon _ high same.symm
  · exact hexDigit_ne_colon _ low same.symm

section Session

variable {signing : Signing} {now : Timestamp} {token sessionSecret : String}

/-- Only the two flags are read. -/
theorem readFlag_some {text : String} {readOnly : Bool} (read : readFlag text = some readOnly) :
    text = readOnlyFlag readOnly := by
  unfold readFlag at read
  split at read <;> cases read <;> rfl

/-- The fields of a verified session hold no separator. -/
def Clean (session : IframeSession) (exp : String) : Prop :=
  ∀ field ∈ payloadFields session exp, ':' ∉ field.toList

/-- The signed token has six fields, and the last one is the digest. -/
theorem signedToken_fields (session : IframeSession) (exp : String) :
    signedToken signing sessionSecret (payload session exp) =
      "ifs:" ++ RustText.joined ':' (payloadFields session exp ++
        [hex (signing.hmac sessionSecret (payload session exp))]) := by
  have present : payloadFields session exp ≠ [] := List.cons_ne_nil _ _
  rw [← RustText.joined_snoc present]
  rfl

/-- A written flag is read back. -/
theorem readFlag_readOnlyFlag (readOnly : Bool) : readFlag (readOnlyFlag readOnly) = some readOnly := by
  cases readOnly <;> rfl

/-- The fields of a signed token are recovered from its text. -/
theorem splitN_signed {session : IframeSession} {exp : String} (clean : Clean session exp)
    (sig : String) :
    RustText.splitN ':' 6 (RustText.joined ':' (payloadFields session exp ++ [sig])) =
      payloadFields session exp ++ [sig] := by
  have present : payloadFields session exp ++ [sig] ≠ [] := by simp
  refine RustText.splitN_joined present fun field member => ?_
  rw [List.dropLast_concat] at member
  exact clean field member

/-- A verified token is the signed text of its session with an expiry that is not past. -/
theorem verifyIframeSession_iff {session : IframeSession} :
    verifyIframeSession signing now token sessionSecret = some session ↔
      ∃ exp value, Clean session exp ∧ RustText.parseI64 exp = some value ∧ now.seconds ≤ value ∧
        token = signedToken signing sessionSecret (payload session exp) := by
  constructor
  · intro verified
    unfold verifyIframeSession at verified
    obtain ⟨rest, stripped, remaining⟩ := Option.bind_eq_some_iff.mp verified
    split at remaining
    next discordId guildId roleId roStr expStr sig parts =>
      obtain ⟨readOnly, read, remaining⟩ := Option.bind_eq_some_iff.mp remaining
      obtain ⟨exp, parsed, remaining⟩ := Option.bind_eq_some_iff.mp remaining
      split at remaining
      · cases remaining
      · next live =>
        dsimp only at remaining
        split at remaining
        · next signature =>
          obtain rfl := Option.some.inj remaining
          have clean := RustText.splitN_clean ':' 6 rest
          have whole := RustText.joined_splitN ':' 5 rest
          rw [parts] at clean whole
          obtain rfl := readFlag_some read
          have same := bytes_injective (constantTimeEq_iff.mp signature)
          refine ⟨expStr, exp, clean, parsed, Int.not_lt.mp live, ?_⟩
          rw [signedToken_fields, RustText.stripStart_eq_some.mp stripped, ← whole, same]
          rfl
        · cases remaining
    next => cases remaining
  · rintro ⟨exp, value, clean, parsed, live, rfl⟩
    rw [signedToken_fields]
    unfold verifyIframeSession
    rw [RustText.stripStart_eq_some.mpr rfl, Option.bind_eq_bind, Option.bind_some, splitN_signed clean]
    simp only [payloadFields, List.cons_append, List.nil_append, readFlag_readOnlyFlag, parsed,
      Option.bind_eq_bind, Option.bind_some, if_neg (Int.not_lt.mpr live)]
    exact if_pos (constantTimeEq_iff.mpr rfl)

/-- Equal fields come from equal sessions. -/
theorem session_of_fields {session other : IframeSession} {exp otherExp : String}
    (same : payloadFields session exp = payloadFields other otherExp) : session = other := by
  obtain ⟨discordId, guildId, roleId, readOnly⟩ := session
  obtain ⟨otherDiscord, otherGuild, otherRole, otherReadOnly⟩ := other
  simp only [payloadFields, List.cons.injEq, and_true] at same
  obtain ⟨rfl, rfl, rfl, flags, -⟩ := same
  have equal : readOnly = otherReadOnly := by
    cases readOnly <;> cases otherReadOnly <;> simp_all [readOnlyFlag]
  rw [equal]

/-- A minted token verifies only as the session that it was minted for, until its expiry. -/
theorem verify_minted {minted session : IframeSession} {issued : Timestamp}
    (verified : verifyIframeSession signing now
      (mintIframeSession signing issued minted sessionSecret) sessionSecret = some session) :
    session = minted ∧ now.seconds ≤ issued.seconds + iframeTtlSecs := by
  obtain ⟨exp, value, clean, parsed, live, same⟩ := verifyIframeSession_iff.mp verified
  unfold mintIframeSession at same
  rw [signedToken_fields, signedToken_fields] at same
  have texts := (String.append_right_inj _).mp same
  have allClean : ∀ field ∈ payloadFields session exp ++
      [hex (signing.hmac sessionSecret (payload session exp))], ':' ∉ field.toList := by
    intro field member
    obtain inside | last := List.mem_append.mp member
    · exact clean field inside
    · rw [List.mem_singleton.mp last]
      exact colon_not_mem_hex _
  have fields : payloadFields session exp = payloadFields minted (expiry issued) :=
    List.append_inj_left (RustText.joined_injective allClean (by rfl) texts.symm) (by rfl)
  obtain rfl := session_of_fields fields
  obtain rfl : exp = expiry issued := by simpa [payloadFields] using fields
  exact ⟨rfl, RustText.eq_of_parseI64_toString parsed ▸ live⟩

end Session

end OsuPlayerRole.RlToken

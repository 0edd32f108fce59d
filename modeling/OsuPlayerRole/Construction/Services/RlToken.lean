/-
This file verifies the tokens of the dashboard, and mints and verifies the iframe sessions.
-/
import OsuPlayerRole.Construction.Database
import OsuPlayerRole.Library.RustText

namespace OsuPlayerRole

/-- The clock in whole seconds. -/
def Timestamp.seconds (now : Timestamp) : Int := now / 1000000

namespace RlToken

structure Header where
  alg : String
  typ : Option String

structure Claims where
  iss : String
  aud : String
  sub : String
  guildId : GuildId
  roleId : RoleId
  exp : Int
  readOnly : Bool
  act : Option String

/-- The signing packages compute the MAC, decode the parts of a token, and read its JSON. -/
structure Signing where
  hmac : (key message : String) → List UInt8
  decodeBase64 : String → Option (List UInt8)
  readHeader : List UInt8 → Option Header
  readClaims : List UInt8 → Option Claims
  decodePercent : String → Option String

/-- The two lengths and every pair of bytes are compared, without an early return. -/
def constantTimeEq (first second : List UInt8) : Bool :=
  if first.length ≠ second.length then false
  else (first.zip second).foldl (fun diff pair => diff ||| (pair.1 ^^^ pair.2)) 0 == 0

def bytes (text : String) : List UInt8 := text.toByteArray.data.toList

/-- The digest is written with two lowercase digits for each byte. -/
def hex (digest : List UInt8) : String :=
  String.ofList (digest.flatMap fun byte =>
    [Json.Value.hexDigit (byte.toNat / 16), Json.Value.hexDigit (byte.toNat % 16)])

section Jwt

inductive RlTokenError where
  | malformed
  | badSignature
  | expired
  | wrongAudience
  | wrongIssuer
  deriving DecidableEq

structure Verified where
  discordId : DiscordId
  guildId : GuildId
  roleId : RoleId
  readOnly : Bool
  actorId : Option String

def allowedSkewSecs : Int := 60

/-- The sum of two `i64` wraps around in a release build. -/
def wrapI64 (value : Int) : Int := (value + 2 ^ 63) % 2 ^ 64 - 2 ^ 63

def audMatches (claimAud expected : String) : Bool :=
  RustText.trimEnd '/' claimAud == RustText.trimEnd '/' expected

def decoded (signing : Signing) (part : String) : Except RlTokenError (List UInt8) :=
  match signing.decodeBase64 part with
  | some bytes => .ok bytes
  | none => .error .malformed

def checkHeader (signing : Signing) (headerBytes : List UInt8) : Except RlTokenError Unit :=
  match signing.readHeader headerBytes with
  | none => .error .malformed
  | some header =>
      if header.alg ≠ "HS256" then .error .badSignature
      else match header.typ with
        | some typ => if RustText.eqIgnoreAsciiCase typ "JWT" then .ok () else .error .malformed
        | none => .ok ()

def checkClaims (now : Timestamp) (expectedAud : String) (claims : Claims) :
    Except RlTokenError Verified :=
  if claims.iss ≠ "rolelogic" then .error .wrongIssuer
  else if !audMatches claims.aud expectedAud then .error .wrongAudience
  else if now.seconds > wrapI64 (claims.exp + allowedSkewSecs) then .error .expired
  else .ok ⟨claims.sub, claims.guildId, claims.roleId, claims.readOnly, claims.act⟩

/-- The token of the link is the key of the signature. -/
def verify (signing : Signing) (now : Timestamp) (token roleLinkToken expectedAud : String) :
    Except RlTokenError Verified :=
  match RustText.splitN '.' 3 token with
  | [headerB64, payloadB64, sigB64] => do
      let headerBytes ← decoded signing headerB64
      let payloadBytes ← decoded signing payloadB64
      let sigBytes ← decoded signing sigB64
      checkHeader signing headerBytes
      if signing.hmac roleLinkToken (RustText.joined '.' [headerB64, payloadB64]) = sigBytes then
        match signing.readClaims payloadBytes with
        | none => .error .malformed
        | some claims => checkClaims now expectedAud claims
      else .error .badSignature
  | _ => .error .malformed

end Jwt

section IframeSession

structure IframeSession where
  discordId : DiscordId
  guildId : GuildId
  roleId : RoleId
  readOnly : Bool
  deriving DecidableEq

def iframeTtlSecs : Int := 60 * 60

def readOnlyFlag (readOnly : Bool) : String := if readOnly then "1" else "0"

def payloadFields (session : IframeSession) (exp : String) : List String :=
  [session.discordId, session.guildId, session.roleId, readOnlyFlag session.readOnly, exp]

/-- This is the text under the signature. -/
def payload (session : IframeSession) (exp : String) : String :=
  RustText.joined ':' (payloadFields session exp)

def signedToken (signing : Signing) (sessionSecret signed : String) : String :=
  "ifs:" ++ RustText.joined ':' [signed, hex (signing.hmac sessionSecret signed)]

/-- The instant of expiry is an hour away. -/
def expiry (now : Timestamp) : String := toString (now.seconds + iframeTtlSecs)

def mintIframeSession (signing : Signing) (now : Timestamp) (session : IframeSession)
    (sessionSecret : String) : String :=
  signedToken signing sessionSecret (payload session (expiry now))

def readFlag : String → Option Bool
  | "0" => some false
  | "1" => some true
  | _ => none

def verifyIframeSession (signing : Signing) (now : Timestamp) (token sessionSecret : String) :
    Option IframeSession := do
  let rest ← RustText.stripStart "ifs:" token
  match RustText.splitN ':' 6 rest with
  | [discordId, guildId, roleId, roStr, expStr, sig] =>
      let readOnly ← readFlag roStr
      let exp ← RustText.parseI64 expStr
      if now.seconds > exp then none
      else
        let signed := RustText.joined ':' [discordId, guildId, roleId, roStr, expStr]
        if constantTimeEq (bytes sig) (bytes (hex (signing.hmac sessionSecret signed))) then
          some ⟨discordId, guildId, roleId, readOnly⟩
        else none
  | _ => none

end IframeSession

end RlToken

end OsuPlayerRole

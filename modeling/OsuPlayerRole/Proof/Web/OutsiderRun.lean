/-
This file shows when the requests of an outsider leave a link and its guild alone.
-/
import OsuPlayerRole.Construction.Routes.Outsider
import OsuPlayerRole.Proof.Web.ReadOnlySession
import OsuPlayerRole.Proof.Web.StatementFrame

namespace OsuPlayerRole.Web

open Auth Resumption Program RlToken KeyedTable RuleSql

section Spared

/-- The operation names another link, or does not write links and settings. -/
def WebOp.spares (link : Link) : WebOp → Prop
  | .insertRoleLink other _ => other ≠ link
  | .insertGuildSettings guildId => guildId ≠ link.1
  | .deleteRoleLink other _ => other ≠ link
  | .updateRuleTree _ other _ => other ≠ link
  | .upsertViewPermission guildId _ => guildId ≠ link.1
  | _ => True

variable {link other : Link} {tables after : Tables}

end Spared

/-- The operation leaves the configuration of the link as it was. -/
def Spares (state : AppState) (outside : Outside) (link : Link) (tables : Tables) (operation : WebOp) :
    Prop :=
  configuration link (answer state outside tables operation).2 = configuration link tables

section Programs

variable {state : AppState} {outside : Outside} {link : Link} {tables : Tables} {A : Type}
  {program : WebProgram A}

end Programs

section Requests

variable {state : AppState} {headers : Headers} {link : Link} {guildId : GuildId} {roleId : RoleId}

/-- The configuration request only reads. -/
theorem getConfig_reads : (Plugin.getConfig state headers).Only WebOp.reads := by
  refine only_bind (only_check _) fun token => ?_
  refine only_bind (only_ask trivial) fun found => ?_
  split <;> trivial

/-- The configuration request with a body only reads. -/
theorem postConfig_reads : (Plugin.postConfig headers guildId roleId).Only WebOp.reads := by
  refine only_bind (only_check _) fun token => ?_
  refine only_bind (only_ask trivial) fun present => ?_
  split <;> trivial

/-- The entry of the iframe only reads. -/
theorem verifyIframeEntry_reads (token : String) :
    (Admin.verifyIframeEntry state guildId roleId token).Only WebOp.reads := by
  refine only_bind (only_result trivial) fun stored => ?_
  split
  · trivial
  · trivial
  · refine only_bind (only_ask trivial) fun now => ?_
    split
    · trivial
    · split
      · trivial
      · exact only_bind (only_ask trivial) fun _ => trivial

/-- The configuration page only reads. -/
theorem roleConfigPage_reads (rlToken : Option String) :
    (Admin.roleConfigPage state headers guildId roleId rlToken).Only WebOp.reads := by
  unfold Admin.roleConfigPage
  split
  · refine only_bind (verifyIframeEntry_reads _) fun entry => ?_
    split <;> trivial
  · refine only_bind (only_attempt (only_requireManager checks_read)) fun entry => ?_
    split <;> trivial

/-- The list of players only reads. -/
theorem usersData_reads : (Users.usersData state headers guildId).Only WebOp.reads := by
  refine only_bind (only_ask trivial) fun stored => ?_
  dsimp only
  split
  · trivial
  · have permission : (Users.guildPermission state headers guildId).Only WebOp.reads :=
      only_bind (only_ask trivial) fun _ => only_bind (only_check _) fun _ =>
        only_bind (only_ask trivial) fun _ => only_check _
    have members : (Users.guildMembers state headers guildId).Only WebOp.reads :=
      only_bind (only_ask trivial) fun _ => only_bind (only_check _) fun _ =>
        only_bind (only_ask trivial) fun _ => only_check _
    refine only_bind permission fun flags => ?_
    split
    · trivial
    · split
      · trivial
      · exact only_bind members fun _ => only_bind (only_ask trivial) fun _ => trivial

/-- The status of an account only reads. -/
theorem verifyStatus_reads : (Verify.verifyStatus state headers).Only WebOp.reads := by
  refine only_bind (only_ask trivial) fun now => ?_
  split
  · trivial
  · exact only_bind (only_ask trivial) fun _ => trivial

/-- The public status only reads. -/
theorem dweebStatus_reads (guild : Option String) : (Users.dweebStatus guild).Only WebOp.reads := by
  unfold Users.dweebStatus
  split
  · trivial
  · exact only_ask trivial

/-- The login callback touches accounts only. -/
theorem callback_spares (query : Oauth.CallbackQuery) :
    (Oauth.callback state query).Only (WebOp.spares link) := by
  unfold Oauth.callback
  split
  · trivial
  · split
    · trivial
    · split
      · trivial
      · refine only_bind (only_ask trivial) fun found => ?_
        split
        · trivial
        · refine only_bind (only_check _) fun _ => ?_
          refine only_bind (only_ask trivial) fun accessToken => ?_
          refine only_bind (only_ask trivial) fun user => ?_
          split
          · trivial
          · refine only_bind (only_ask trivial) fun appToken => ?_
            refine only_bind (only_fetchPages (fun _ _ _ => trivial) _ _ _) fun pages => ?_
            refine only_bind (only_ask trivial) fun _ => ?_
            exact only_bind (only_ask trivial) fun _ => trivial

/-- The start of a login touches no link. -/
theorem verifyOsu_spares : (Verify.verifyOsu state headers).Only (WebOp.spares link) := by
  refine only_bind (only_check _) fun _ => ?_
  refine only_bind (only_ask trivial) fun now => ?_
  refine only_bind (only_check _) fun session => ?_
  split
  · trivial
  · split
    · trivial
    · refine only_bind (only_ask trivial) fun token => ?_
      refine only_bind (only_ask trivial) fun codeVerifier => ?_
      refine only_bind (only_ask trivial) fun created => ?_
      exact only_bind (only_ask trivial) fun _ => trivial

end Requests

section Harmless

end Harmless

section Step

variable {state : AppState} {link : Link} {secrets : List String} {attack : Attack}
  {attempt : Attempt}

/-- The stored token of the link is secret, and no received session belongs to the link. -/
structure Apart (state : AppState) (link : Link) (secrets : List String) (attack : Attack) : Prop where
  secret : ∀ row ∈ attack.tables.roleLinks.find link, row.apiToken ∈ secrets
  tokens : ∀ token ∈ attack.tokens, ∃ issued session,
    token = mintIframeSession state.signing issued session state.config.sessionSecret ∧
      (session.guildId, session.roleId) ≠ link

end Step

section Harm

variable {state : AppState} {link : Link} {secrets : List String} {attack : Attack}
  {attempt : Attempt}

end Harm

section Tokens

variable {state : AppState} {outside : Outside} {link : Link} {secrets : List String}
  {attack : Attack} {attempt : Attempt} {tables after : Tables}

end Tokens

section Run

variable {state : AppState} {link : Link} {start : Tables}

/-- The configuration stays the one before the run. -/
def Keeps (state : AppState) (link : Link) (start : Tables) (before : Attack) (attempt : Attempt) :
    Prop :=
  ∀ after, Attack.step state before attempt = some after →
    configuration link after.tables = configuration link start

/-- The link of these tables holds a token that the party does not know. -/
def held : Tables := Sample.oneLink (Sample.roleLink "token" Sample.grantAny) Table.empty List.nodup_nil

end Run

end OsuPlayerRole.Web

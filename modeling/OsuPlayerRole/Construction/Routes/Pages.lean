/-
This file fills in the pages of a guild's players and of a role's configuration.
-/
import OsuPlayerRole.Construction.Database
import OsuPlayerRole.Library.ScriptData
import OsuPlayerRole.Library.Substitution

namespace OsuPlayerRole.Pages

open ScriptData Substitution

section UsersPage

inductive UsersKey where
  | baseUrl
  | guildId
  deriving DecidableEq

def UsersKey.placeholder : UsersKey → List Char
  | .baseUrl => "\x7b\x7bBASE_URL\x7d\x7d".toList
  | .guildId => "\x7b\x7bGUILD_ID\x7d\x7d".toList

/-- The texts of `users.html` around the lines with its placeholders. -/
structure UsersTexts where
  head : List Char
  styles : List Char
  script : List Char
  foot : List Char

def UsersTexts.template (texts : UsersTexts) : Template Char UsersKey where
  slots := [
    ⟨texts.head ++ "<link rel=\"icon\" href=".toList, '"', .baseUrl, '/'⟩,
    ⟨"favicon.ico\">".toList ++ texts.styles ++ "<script>".toList ++ "\nconst BASE_URL = ".toList,
      '"', .baseUrl, '"'⟩,
    ⟨";\nconst GUILD_ID = ".toList, '"', .guildId, '"'⟩]
  last := ";\n".toList ++ texts.script ++ endTag ++ texts.foot

/-- The placeholders are nowhere else in the file, and its script has one end tag. -/
structure UsersTemplate extends UsersTexts where
  free : ∀ key : UsersKey, toUsersTexts.template.Free key.placeholder
  verbatim : Verbatim (script ++ foot)
  neutral : Neutral script

/-- The constant `USERS_PAGE` is the text of the file. -/
def UsersTemplate.page (template : UsersTemplate) : List Char :=
  template.template.fill UsersKey.placeholder

def usersPage (template : UsersTemplate) (baseUrl : String) (guildId : GuildId) : List Char :=
  replaceAll (UsersKey.placeholder .guildId) guildId.toList
    (replaceAll (UsersKey.placeholder .baseUrl) baseUrl.toList template.page)

end UsersPage

section RoleConfigPage

inductive RoleConfigKey where
  | baseUrl
  | guildId
  | roleId
  | iframeToken
  | readOnly
  deriving DecidableEq

def RoleConfigKey.placeholder : RoleConfigKey → List Char
  | .baseUrl => "__BASE_URL__".toList
  | .guildId => "__GUILD_ID__".toList
  | .roleId => "__ROLE_ID__".toList
  | .iframeToken => "__IFRAME_TOKEN__".toList
  | .readOnly => "__READ_ONLY__".toList

/-- The texts of `role_config.html` around the lines with its placeholders. -/
structure RoleConfigTexts where
  head : List Char
  styles : List Char
  opening : List Char
  helpers : List Char
  script : List Char
  foot : List Char

def RoleConfigTexts.template (texts : RoleConfigTexts) : Template Char RoleConfigKey where
  slots := [
    ⟨texts.head ++ "<link rel=\"icon\" href=".toList, '"', .baseUrl, '/'⟩,
    ⟨"favicon.ico\">".toList ++ texts.styles ++ "<script>".toList ++ texts.opening ++
      "const BASE_URL=".toList, '"', .baseUrl, '"'⟩,
    ⟨", GUILD_ID=".toList, '"', .guildId, '"'⟩,
    ⟨", ROLE_ID=".toList, '"', .roleId, '"'⟩,
    ⟨";\nconst IFRAME_TOKEN=".toList, '"', .iframeToken, '"'⟩,
    ⟨", IS_EMBEDDED=!!IFRAME_TOKEN;\n".toList ++ texts.helpers ++ "  var READ_ONLY = ".toList,
      '\x27', .readOnly, '\x27'⟩]
  last := " === '1';\n".toList ++ texts.script ++ endTag ++ texts.foot

/-- The placeholders are nowhere else in the file, and its script has one end tag. -/
structure RoleConfigTemplate extends RoleConfigTexts where
  free : ∀ key : RoleConfigKey, toRoleConfigTexts.template.Free key.placeholder
  verbatim : Verbatim (opening ++ helpers ++ script ++ foot)
  neutral : Neutral opening ∧ Neutral helpers ∧ Neutral script

/-- The constant `ROLE_CONFIG_TEMPLATE` is the text of the file. -/
def RoleConfigTemplate.page (template : RoleConfigTemplate) : List Char :=
  template.template.fill RoleConfigKey.placeholder

/-- A page without an iframe session has an empty token. -/
def roleConfigBody (template : RoleConfigTemplate) (baseUrl : String) (guildId : GuildId)
    (roleId : RoleId) (iframeSession : Option String) (readOnly : Bool) : List Char :=
  let filled := replaceAll (RoleConfigKey.placeholder .baseUrl) baseUrl.toList template.page
  let filled := replaceAll (RoleConfigKey.placeholder .guildId) guildId.toList filled
  let filled := replaceAll (RoleConfigKey.placeholder .roleId) roleId.toList filled
  let filled :=
    replaceAll (RoleConfigKey.placeholder .iframeToken) (iframeSession.getD "").toList filled
  replaceAll (RoleConfigKey.placeholder .readOnly) (if readOnly then "1" else "0").toList filled

end RoleConfigPage

end OsuPlayerRole.Pages

/-
This file gives the requests of a party that holds no secret of a link and of its guild.
-/
import OsuPlayerRole.Construction.Routes.Router
import OsuPlayerRole.Library.EventRun

namespace OsuPlayerRole.Web

open Auth Resumption RlToken

/-- The party keeps the iframe sessions that it has received. -/
structure Attack where
  tables : Tables
  tokens : List String

/-- One request in the surroundings of its moment. -/
structure Attempt where
  outside : Outside
  headers : Headers
  request : Request

/-- A configuration page carries an iframe session. -/
def receivedTokens : Except AppError Response → List String
  | .ok (.page (.roleConfig _ _ (some token) _)) => [token]
  | _ => []

def Attack.step (state : AppState) (attack : Attack) (attempt : Attempt) : Option Attack :=
  let served := serve state attempt.outside attack.tables attempt.headers attempt.request
  some ⟨served.2, attack.tokens ++ receivedTokens served.1⟩

/-- This part of the database belongs to the link and to its guild. -/
def configuration (link : Link) (tables : Tables) :
    Option (String × Json.Jsonb × Int4) × Option GuildSettings :=
  ((tables.roleLinks.find link).map fun row => (row.apiToken, row.ruleTree, row.ruleTreeVersion),
    tables.guildSettings.find link.1)

end OsuPlayerRole.Web

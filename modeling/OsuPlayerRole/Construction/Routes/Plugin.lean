/-
This file gives the endpoints that RoleLogic calls.
-/
import OsuPlayerRole.Construction.Models.Rule
import OsuPlayerRole.Construction.Services.SqlMeaning

namespace OsuPlayerRole.Plugin

open Json KeyedTable RuleSql

/-- This is the column default of `rule_tree`. -/
def defaultRuleTree : Jsonb := ⟨(default : RuleTree).toValue, by decide⟩

/-- This is the row that a first registration inserts. -/
def freshRoleLink (now : Timestamp) (guildId : GuildId) (roleId : RoleId) (token : String) :
    RoleLink where
  guildId := guildId
  roleId := roleId
  apiToken := token
  ruleTree := defaultRuleTree
  ruleTreeVersion := .one
  createdAt := now
  updatedAt := now

/-- This is the first statement of `register`. A stored link only gets the new token. -/
def insertRoleLink (now : Timestamp) (guildId : GuildId) (roleId : RoleId) (token : String)
    (tables : Tables) : Except DbError Tables := do
  send [.text guildId, .text roleId, .text token]
  return tables.upsertRoleLink (freshRoleLink now guildId roleId token) fun row =>
    { row with apiToken := token, updatedAt := now }

end OsuPlayerRole.Plugin

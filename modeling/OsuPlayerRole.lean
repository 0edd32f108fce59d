import OsuPlayerRole.Construction.Database
import OsuPlayerRole.Construction.Error
import OsuPlayerRole.Construction.Externals
import OsuPlayerRole.Construction.Json
import OsuPlayerRole.Construction.Models.Condition
import OsuPlayerRole.Construction.Models.Facts
import OsuPlayerRole.Construction.Models.Rule
import OsuPlayerRole.Construction.OsuAccounts
import OsuPlayerRole.Construction.Routes.AccountStore
import OsuPlayerRole.Construction.Routes.Admin
import OsuPlayerRole.Construction.Routes.Contract
import OsuPlayerRole.Construction.Routes.Editing
import OsuPlayerRole.Construction.Routes.Oauth
import OsuPlayerRole.Construction.Routes.OauthFlow
import OsuPlayerRole.Construction.Routes.Outsider
import OsuPlayerRole.Construction.Routes.Pages
import OsuPlayerRole.Construction.Routes.Plugin
import OsuPlayerRole.Construction.Routes.Router
import OsuPlayerRole.Construction.Routes.Serving
import OsuPlayerRole.Construction.Routes.Users
import OsuPlayerRole.Construction.Routes.Verify
import OsuPlayerRole.Construction.Routes.WebOp
import OsuPlayerRole.Construction.Routes.WebWorld
import OsuPlayerRole.Construction.Services.Auth
import OsuPlayerRole.Construction.Services.ConditionEval
import OsuPlayerRole.Construction.Services.FactsRow
import OsuPlayerRole.Construction.Services.Jobs
import OsuPlayerRole.Construction.Services.Osu
import OsuPlayerRole.Construction.Services.RlToken
import OsuPlayerRole.Construction.Services.RoleLogic
import OsuPlayerRole.Construction.Services.RuleSql
import OsuPlayerRole.Construction.Services.RuleValidator
import OsuPlayerRole.Construction.Services.SqlMeaning
import OsuPlayerRole.Construction.Services.Sync
import OsuPlayerRole.Construction.Services.SyncRequests
import OsuPlayerRole.Construction.Services.SyncWorld
import OsuPlayerRole.Construction.Statements
import OsuPlayerRole.Construction.Tasks.CleanRuns
import OsuPlayerRole.Construction.Tasks.Deployment
import OsuPlayerRole.Construction.Tasks.Draining
import OsuPlayerRole.Construction.Tasks.FailingRuns
import OsuPlayerRole.Construction.Tasks.JobWorker
import OsuPlayerRole.Construction.Tasks.OsuTraffic
import OsuPlayerRole.Construction.Tasks.PlayerJob
import OsuPlayerRole.Construction.Tasks.PlayerRuns
import OsuPlayerRole.Construction.Tasks.Reconcile
import OsuPlayerRole.Construction.Tasks.Refresh
import OsuPlayerRole.Construction.Tasks.RefreshSchedule
import OsuPlayerRole.Construction.Tasks.SerialSync
import OsuPlayerRole.Construction.Tasks.Shutdown
import OsuPlayerRole.Construction.Tasks.SyncSystem
import OsuPlayerRole.Construction.Tasks.SyncTrail
import OsuPlayerRole.Library.Checked
import OsuPlayerRole.Library.EventRun
import OsuPlayerRole.Library.Fields
import OsuPlayerRole.Library.JobLog
import OsuPlayerRole.Library.JsString
import OsuPlayerRole.Library.KeyedTable
import OsuPlayerRole.Library.LikePattern
import OsuPlayerRole.Library.OrderedSet
import OsuPlayerRole.Library.RegexPattern
import OsuPlayerRole.Library.Replication
import OsuPlayerRole.Library.Resumption
import OsuPlayerRole.Library.RustText
import OsuPlayerRole.Library.ScriptData
import OsuPlayerRole.Library.ScriptLiteral
import OsuPlayerRole.Library.SharedLog
import OsuPlayerRole.Library.SignedWrap
import OsuPlayerRole.Library.SqlText
import OsuPlayerRole.Library.Substitution
import OsuPlayerRole.Library.ThreadPool
import OsuPlayerRole.Library.ThreeValued
import OsuPlayerRole.Library.TokenBucket
import OsuPlayerRole.Library.Traces
import OsuPlayerRole.Library.Truncation
import OsuPlayerRole.Library.Versioned
import OsuPlayerRole.Proof.Account.AccountStages
import OsuPlayerRole.Proof.Account.AllOrNothing
import OsuPlayerRole.Proof.Account.CounterOrder
import OsuPlayerRole.Proof.Account.LinkAccount
import OsuPlayerRole.Proof.Account.OsuQuota
import OsuPlayerRole.Proof.Account.Reevaluation
import OsuPlayerRole.Proof.Account.RefreshRounds
import OsuPlayerRole.Proof.Account.RefreshRun
import OsuPlayerRole.Proof.Account.Timetable
import OsuPlayerRole.Proof.Jobs.AttemptBudget
import OsuPlayerRole.Proof.Jobs.ClaimWindow
import OsuPlayerRole.Proof.Jobs.Debounce
import OsuPlayerRole.Proof.Jobs.Drain
import OsuPlayerRole.Proof.Jobs.FinalShutdown
import OsuPlayerRole.Proof.Jobs.Lifecycle
import OsuPlayerRole.Proof.Jobs.QueueStep
import OsuPlayerRole.Proof.Jobs.Retries
import OsuPlayerRole.Proof.Jobs.TerminalStates
import OsuPlayerRole.Proof.Rule.AcceptedTree
import OsuPlayerRole.Proof.Rule.ClockFree
import OsuPlayerRole.Proof.Rule.ConditionClause
import OsuPlayerRole.Proof.Rule.DayCount
import OsuPlayerRole.Proof.Rule.ListCondition
import OsuPlayerRole.Proof.Rule.NumberMeaning
import OsuPlayerRole.Proof.Rule.PatternReading
import OsuPlayerRole.Proof.Rule.Placeholders
import OsuPlayerRole.Proof.Rule.ReadableRow
import OsuPlayerRole.Proof.Rule.RuleAgreement
import OsuPlayerRole.Proof.Rule.RuleClause
import OsuPlayerRole.Proof.Rule.RuleDisagreement
import OsuPlayerRole.Proof.Rule.SavedTree
import OsuPlayerRole.Proof.Rule.TargetView
import OsuPlayerRole.Proof.Rule.Validated
import OsuPlayerRole.Proof.Rule.WellFormedTree
import OsuPlayerRole.Proof.Sample
import OsuPlayerRole.Proof.Sync.ActionOrder
import OsuPlayerRole.Proof.Sync.CleanLink
import OsuPlayerRole.Proof.Sync.CleanPlayer
import OsuPlayerRole.Proof.Sync.Confluence
import OsuPlayerRole.Proof.Sync.Exchange
import OsuPlayerRole.Proof.Sync.GroundedCalls
import OsuPlayerRole.Proof.Sync.Grounds
import OsuPlayerRole.Proof.Sync.LastFacts
import OsuPlayerRole.Proof.Sync.LinkOutcomes
import OsuPlayerRole.Proof.Sync.LinkRefusals
import OsuPlayerRole.Proof.Sync.LiveLink
import OsuPlayerRole.Proof.Sync.MirrorOrder
import OsuPlayerRole.Proof.Sync.OpenActions
import OsuPlayerRole.Proof.Sync.PlayerOutcomes
import OsuPlayerRole.Proof.Sync.PlayerReading
import OsuPlayerRole.Proof.Sync.Preview
import OsuPlayerRole.Proof.Sync.Reconcile
import OsuPlayerRole.Proof.Sync.RoleLogicCalls
import OsuPlayerRole.Proof.Sync.ServedWorld
import OsuPlayerRole.Proof.Sync.Turns
import OsuPlayerRole.Proof.Sync.Unlinked
import OsuPlayerRole.Proof.Sync.UploadSessions
import OsuPlayerRole.Proof.Sync.UploadTraffic
import OsuPlayerRole.Proof.System.DeploymentRun
import OsuPlayerRole.Proof.System.ReconcileRound
import OsuPlayerRole.Proof.System.StoredRows
import OsuPlayerRole.Proof.Web.Access
import OsuPlayerRole.Proof.Web.IframeToken
import OsuPlayerRole.Proof.Web.OauthRequests
import OsuPlayerRole.Proof.Web.OauthStates
import OsuPlayerRole.Proof.Web.OptimisticLock
import OsuPlayerRole.Proof.Web.OutsiderRun
import OsuPlayerRole.Proof.Web.PageLiterals
import OsuPlayerRole.Proof.Web.ReadOnlySession
import OsuPlayerRole.Proof.Web.RuleGrants
import OsuPlayerRole.Proof.Web.StatementFrame
import OsuPlayerRole.Proof.Web.TokenFormats
import OsuPlayerRole.Proof.Web.TokenVerdict

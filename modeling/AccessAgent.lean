import AccessAgent.AccessOutcome
import AccessAgent.Advice
import AccessAgent.Api
import AccessAgent.ApprovalBinding
import AccessAgent.AuditRead
import AccessAgent.AuditTrail
import AccessAgent.Authorization
import AccessAgent.Books
import AccessAgent.ConcurrentRequests
import AccessAgent.ConnectorCache
import AccessAgent.ConnectorSPI
import AccessAgent.ConnectorTypes
import AccessAgent.Context
import AccessAgent.Degradation
import AccessAgent.ErrorTexts
import AccessAgent.EscalationAnswers
import AccessAgent.Exceptions
import AccessAgent.ExecutedRows
import AccessAgent.ExecutorStages
import AccessAgent.Explanation
import AccessAgent.Findings
import AccessAgent.Funnel
import AccessAgent.FunnelOutcome
import AccessAgent.FunnelShape
import AccessAgent.FunnelSteps
import AccessAgent.GrantHistory
import AccessAgent.Http
import AccessAgent.Indifference
import AccessAgent.LastLoss
import AccessAgent.MessageAgreement
import AccessAgent.MissingAccess
import AccessAgent.OpenIAM.AccountStatus
import AccessAgent.OpenIAM.Availability
import AccessAgent.OpenIAM.BadRecords
import AccessAgent.OpenIAM.CheckRuns
import AccessAgent.OpenIAM.Confinement
import AccessAgent.OpenIAM.Connector
import AccessAgent.OpenIAM.Diagnosis
import AccessAgent.OpenIAM.Directory
import AccessAgent.OpenIAM.FailClosed
import AccessAgent.OpenIAM.GrantDates
import AccessAgent.OpenIAM.Http
import AccessAgent.OpenIAM.LoginSearch
import AccessAgent.OpenIAM.LostExchanges
import AccessAgent.OpenIAM.OfferedReset
import AccessAgent.OpenIAM.Paging
import AccessAgent.OpenIAM.RefusedAccount
import AccessAgent.OpenIAM.RequiredRoles
import AccessAgent.OpenIAM.ResetUrl
import AccessAgent.OpenIAM.Settling
import AccessAgent.OpenIAM.SignIns
import AccessAgent.OpenIAM.SingleFlight
import AccessAgent.OpenIAM.Submissions
import AccessAgent.OpenIAM.TokenCallers
import AccessAgent.OpenIAM.TokenClient
import AccessAgent.OpenIAM.TokenExpiry
import AccessAgent.OpenIAM.TokenPairing
import AccessAgent.OpenIAM.TokenRefresh
import AccessAgent.OpenIAM.TokenRuns
import AccessAgent.OpenIAM.UserRecord
import AccessAgent.OpenIAM.Waiting
import AccessAgent.OtherRows
import AccessAgent.Policy
import AccessAgent.PolicyLoader
import AccessAgent.PromptTags
import AccessAgent.Python.Datetime
import AccessAgent.Python.Fields
import AccessAgent.Python.Json
import AccessAgent.Python.Number
import AccessAgent.Python.Query
import AccessAgent.Python.Text
import AccessAgent.Python.Url
import AccessAgent.Python.Validation
import AccessAgent.Records
import AccessAgent.Remediation
import AccessAgent.RemediationGates
import AccessAgent.RemediationRecord
import AccessAgent.RemediationSystem
import AccessAgent.Requirements
import AccessAgent.ResetLink
import AccessAgent.RunStore
import AccessAgent.Semantics.Contract
import AccessAgent.Semantics.Dictionary
import AccessAgent.Semantics.Effect
import AccessAgent.Semantics.Latest
import AccessAgent.Semantics.Lockstep
import AccessAgent.Semantics.Matching
import AccessAgent.Semantics.Memo
import AccessAgent.Semantics.Occurrence
import AccessAgent.Semantics.Potential
import AccessAgent.Semantics.Raising
import AccessAgent.Semantics.Selection
import AccessAgent.Semantics.Staged
import AccessAgent.Semantics.Transition
import AccessAgent.Semantics.Veil
import AccessAgent.Semantics.Weakening
import AccessAgent.Serializability
import AccessAgent.ServiceEffects
import AccessAgent.Services
import AccessAgent.SingleExecution
import AccessAgent.Situation
import AccessAgent.StepTimeout
import AccessAgent.SubmissionAnswers
import AccessAgent.VerdictMessages
import AccessAgent.Verdicts
import AccessAgent.WorldInvariants

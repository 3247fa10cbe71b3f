import AccessAgent.Funnel

/-! The messages shown to the user (`app/orchestrator/verdict_messages.py`). A
template is a list of literal pieces and fields. -/

namespace AccessAgent
open Semantics

inductive MessagePiece
  | text (literal : String)
  | correlationId
  | detail
deriving DecidableEq

abbrev MessageTemplate := List MessagePiece

def MessageTemplate.format (template : MessageTemplate) (correlationId detail : String) : String :=
  String.join (template.map fun
    | .text literal => literal
    | .correlationId => correlationId
    | .detail => detail)

namespace VerdictMessages

def referenced (literal : String) : MessageTemplate :=
  [.text (literal ++ " Reference: "),.correlationId,.text "."]

def allClearEscalation : MessageTemplate := referenced
  ("We checked your account and everything looks correct — the system is up, " ++
    "your account is active, there's no sign of recent failed logins, and you " ++
    "have the required access. We couldn't pin down the specific cause " ++
    "automatically, so we've escalated this to support with the full diagnostic details.")

def inconclusive : MessageTemplate := referenced
  ("We ran into a problem while checking your access, so we couldn't finish " ++
    "the diagnosis. We've escalated this to support with the full diagnostic details.")

def lockedAccount : MessageTemplate := [.text
  ("Your account is locked — this happens after too many failed login " ++
    "attempts (OpenIAM's authentication failure count policy). Unlocking it " ++
    "requires an admin: contact your IT/helpdesk team and ask them to use " ++
    "OpenIAM's Reset password action for your account and confirm the " ++
    "unlock prompt. You'll be asked to set a new password the next time you " ++
    "log in, and it will sync across every connected system your account " ++
    "uses. Full unlock procedure: " ++
    "https://docs.openiam.com/docs-2026.6.2/admin/1-usradmin/13-unlock-account")]

def submitAccessRequest : MessageTemplate := [.text
  ("You don't currently have the access this requires. Submit an access " ++
    "request for the required role/group and it'll be reviewed.")]

def stepFallback : FunnelStep → MessageTemplate
  | .systemAvailability => referenced
      ("OpenIAM appears to be having an issue right now — this isn't something " ++
        "you can fix on your end. We've escalated this to support.")
  | .accountStatus => referenced
      ("There's a problem with your account status. We've escalated this to " ++
        "support with the full diagnostic details.")
  | .authEvents => [.text
      ("Your most recent login attempt failed. Double-check your password and " ++
        "try again, or reset it if you're not sure. Contact support if this keeps happening.")]
  | .authorization => submitAccessRequest
  | .pathInfrastructure => referenced
      ("We detected a network/infrastructure issue between you and the " ++
        "system. We've escalated this to support.")

def causeMessages : Dictionary (FunnelStep × String) MessageTemplate :=
  [((.accountStatus,"locked"),lockedAccount),
    ((.accountStatus,"password_expired"),[.text "Your password has expired for ",.detail,
      .text ". Please reset it to regain access."]),
    ((.accountStatus,"disabled"),referenced
      ("Your account has been disabled. This requires IT/admin action — we've escalated your case.")),
    ((.accountStatus,"not_found"),[.text
      ("We couldn't find an account for you in OpenIAM — it looks like you " ++
        "may not have been provisioned access yet. Please submit an access request.")]),
    ((.accountStatus,"deprovisioned"),[.text
      ("It looks like your access was deprovisioned and you no longer have " ++
        "an active account. If you still need this, please submit a new access request.")]),
    ((.authorization,"missing_role"),submitAccessRequest),
    ((.authorization,"access_expired"),[.text
      ("The access you had for this has expired. Submit a new access request to get it renewed.")]),
    ((.authorization,"access_revoked"),referenced
      ("Access you previously had was removed. We've escalated this so " ++
        "support can explain why and help if it should be restored."))]

def nonEmpty (passwordResetUrl : Option String) : Option String :=
  match passwordResetUrl with
  | some url => if url = "" then none else some url
  | none => none

def buildVerdictMessage (result : DiagnosticRunResult) : String :=
  match result.stepVerdicts.getLast? with
  | none => inconclusive.format result.correlationId ""
  | some last => match last.status with
    | .inconclusive => inconclusive.format result.correlationId ""
    | .pass => allClearEscalation.format result.correlationId ""
    | .fail =>
      let causeKey := (last.step,last.causeCode.getD "")
      let template := (causeMessages.find causeKey).getD (stepFallback last.step)
      let message := template.format result.correlationId (last.detail.getD "")
      match passwordResetEligibleCauses.contains causeKey,nonEmpty result.passwordResetUrl with
      | true,some url => message ++ " Reset your password here: " ++ url
      | _,_ => message

def escalationMessage : FunnelStep → MessageTemplate
  | .systemAvailability => referenced
      ("Your case has been escalated as a system outage — our infrastructure team has been notified.")
  | .accountStatus => referenced "Your case has been escalated for account review."
  | .authEvents => referenced "Your case has been escalated for login review."
  | .authorization => referenced
      ("Your case has been escalated as an access request for the required " ++
        "role — it'll be reviewed by the resource owner.")
  | .pathInfrastructure => referenced "Your case has been escalated as a network/infrastructure issue."

def genericEscalation : MessageTemplate := referenced
  "Your case has been escalated to support with the full diagnostic details."

def buildEscalationMessage (lastStep : Option FunnelStep) (causeCode passwordResetUrl : Option String)
    (correlationId : String) : String :=
  let template := match lastStep with
    | none => genericEscalation
    | some step => escalationMessage step
  let message := template.format correlationId ""
  let eligible := match lastStep with
    | none => false
    | some step => passwordResetEligibleCauses.contains (step,causeCode.getD "")
  match eligible,nonEmpty passwordResetUrl with
  | true,some url => message ++
      " In the meantime, you're welcome to try resetting your password yourself here: " ++ url
  | _,_ => message

end VerdictMessages

end AccessAgent

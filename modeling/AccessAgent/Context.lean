import AccessAgent.ConnectorSPI
import AccessAgent.Verdicts

/-! The complaint, the request under diagnosis and the context threaded through the steps
(`app/schemas/intake.py`, `app/core/security.py`, `app/orchestrator/context.py`).
A step runs over the world together with the context, which it may change. -/

namespace AccessAgent
open Semantics

inductive ComplaintCategory
  | loginFailure
  | permissionDenied
  | lockedAccount
  | outage
  | other
deriving DecidableEq, Repr

def ComplaintCategory.value : ComplaintCategory → String
  | .loginFailure => "login_failure"
  | .permissionDenied => "permission_denied"
  | .lockedAccount => "locked_account"
  | .outage => "outage"
  | .other => "other"

structure ComplaintIntake where
  loginId : String
  nonempty : loginId ≠ ""
  freeText : String
  systemId : Option String
deriving DecidableEq

structure DiagnosticRequestDraft where
  complaintCategory : ComplaintCategory
  freeTextSummary : String
  mentionedSubject : Option String
deriving DecidableEq

structure DiagnosticRequest where
  correlationId : String
  requesterSub : String
  subjectSub : String
  systemId : String
  complaintCategory : ComplaintCategory
  freeTextSummary : String
deriving DecidableEq

structure Principal where
  sub : String
  roles : List String
deriving DecidableEq

def Principal.hasRole (principal : Principal) (role : String) : Bool := principal.roles.contains role

structure DiagnosticContext (σ : Type) where
  request : DiagnosticRequest
  principal : Principal
  connector : ConnectorSPI σ
  correlationId : String
  perStepTimeout : Timedelta
  verdicts : List VerdictResult
  subjectPasswordResetUrl : Option String

def defaultPerStepTimeout : Timedelta := 10 * 1000000

def DiagnosticContext.fresh {σ : Type} (request : DiagnosticRequest) (principal : Principal)
    (connector : ConnectorSPI σ) (correlationId : String) (perStepTimeout : Timedelta) :
    DiagnosticContext σ :=
  ⟨request,principal,connector,correlationId,perStepTimeout,[],none⟩

structure Diagnosis (σ : Type) where
  world : σ
  ctx : DiagnosticContext σ

abbrev Step (σ α : Type) := Effect Exn (Diagnosis σ) α

namespace Step
variable {σ α : Type}

def context : Step σ (DiagnosticContext σ) := Effect.read Diagnosis.ctx

def modifyContext (change : DiagnosticContext σ → DiagnosticContext σ) : Step σ Unit :=
  Effect.update (fun diagnosis => {diagnosis with ctx := change diagnosis.ctx})

def await (program : Effect Exn σ α) : Step σ α :=
  Effect.zoom Diagnosis.world (fun world diagnosis => {diagnosis with world := world}) program

@[simp] theorem await_exec (program : Effect Exn σ α) (diagnosis : Diagnosis σ) :
    (await program).exec diagnosis = ((program.exec diagnosis.world).1,
      ⟨(program.exec diagnosis.world).2,diagnosis.ctx⟩) := rfl

@[simp] theorem context_exec (diagnosis : Diagnosis σ) :
    context.exec diagnosis = (.ok diagnosis.ctx,diagnosis) := rfl

@[simp] theorem modifyContext_exec (change : DiagnosticContext σ → DiagnosticContext σ)
    (diagnosis : Diagnosis σ) :
    (modifyContext change).exec diagnosis = (.ok (),⟨diagnosis.world,change diagnosis.ctx⟩) := rfl

end Step

end AccessAgent

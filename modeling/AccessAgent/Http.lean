import AccessAgent.AuditRead

/-! The endpoints as a client meets them: bodies as they are sent, and what the exception
handlers make of an exception (`app/main.py`, `app/core/exceptions.py`, `app/schemas/intake.py`). -/

namespace AccessAgent
open Semantics

/-! ### Errors -/

structure ErrorBody where
  code : String
  message : String
deriving DecidableEq

/-- The classes that the modelled code does not raise, by name. -/
def otherAppErrors : Dictionary String (Nat × String) :=
  [("AppError",500,"INTERNAL_ERROR"),("ValidationError",400,"VALIDATION_ERROR"),("ForbiddenError",403,"FORBIDDEN"),
    ("ConflictError",409,"CONFLICT"),("ExternalServiceError",502,"EXTERNAL_SERVICE_ERROR"),
    ("ServiceUnavailableError",503,"SERVICE_UNAVAILABLE"),("PayloadTooLargeError",413,"PAYLOAD_TOO_LARGE"),
    ("DiagnosticInconclusiveError",200,"DIAGNOSTIC_INCONCLUSIVE"),("EmbeddingProviderError",500,"EMBEDDING_PROVIDER_ERROR"),
    ("UnsupportedFileTypeError",400,"UNSUPPORTED_FILE_TYPE"),("FileTooLargeError",413,"FILE_TOO_LARGE")]

/-- The status and the code of an `AppError`. -/
def appError : ExceptionClass → Option (Nat × String)
  | .unauthorizedError => some (401,"UNAUTHORIZED")
  | .notFoundError => some (404,"NOT_FOUND")
  | .connectorNotRegisteredError => some (404,"CONNECTOR_NOT_REGISTERED")
  | .loginNotFoundError => some (404,"LOGIN_NOT_FOUND")
  | .remediationTierForbiddenError => some (403,"REMEDIATION_TIER_FORBIDDEN")
  | .approvalRequiredError => some (403,"APPROVAL_REQUIRED")
  | .killSwitchEngagedError => some (503,"KILL_SWITCH_ENGAGED")
  | .policyValidationError => some (500,"POLICY_VALIDATION_ERROR")
  | .openIAMAuthError => some (502,"OPENIAM_AUTH_ERROR")
  | .other name => otherAppErrors.find name
  | _ => none

/-! ### Requests and responses -/

inductive HttpBody
  | answered (response : ApiResponse)
  | auditEvents (rows : List AuditEventResponse)
  | error (error : ErrorBody)

structure HttpResponse where
  statusCode : Nat
  body : HttpBody

/-- A body as it is read: its value, a text that is no JSON, or bytes that cannot be read as JSON at all. -/
inductive RequestBody
  | json (value : Json)
  | malformed
  | unreadable

inductive HttpRequest
  | postIntake (body : RequestBody)
  | postEscalate (diagnosticRequestId : String) (body : RequestBody)
  | getAudit (xLoginId correlationId subjectSub eventType : Option String)

def validationError : HttpResponse := ⟨422,.error ⟨"VALIDATION_ERROR","Invalid request data"⟩⟩

def unhandledError : HttpResponse := ⟨500,.error ⟨"INTERNAL_ERROR","An unexpected error occurred"⟩⟩

/-- The status and the code of an exception that is answered with its text. -/
def worded : ExceptionClass → Option (Nat × String)
  | .httpException statusCode => some (statusCode,"HTTP_ERROR")
  | cls => appError cls

/-- What the exception handlers answer. The message of an `HTTPException` is its detail. -/
def errorResponse (raised : Exn) : HttpResponse :=
  match worded raised.cls with
  | some (statusCode,code) => ⟨statusCode,.error ⟨code,raised.message⟩⟩
  | none => if raised.cls = .requestValidationError then validationError else unhandledError

def respond : Except Exn HttpBody → HttpResponse
  | .ok body => ⟨200,body⟩
  | .error raised => errorResponse raised

/-! ### Bodies -/

def requiredText (key : String) (fields : List (String × Json)) : Option String :=
  match Json.find key fields with
  | some (.str text) => some text
  | _ => none

/-- The outer option is whether the field is valid. -/
def optionalTextField (key : String) (fields : List (String × Json)) : Option (Option String) :=
  match Json.find key fields with
  | none => some none
  | some .null => some none
  | some (.str text) => some (some text)
  | some _ => none

def ComplaintIntake.validate : Json → Option ComplaintIntake
  | .obj fields => do
    let loginId ← requiredText "login_id" fields
    let freeText ← requiredText "free_text" fields
    let systemId ← optionalTextField "system_id" fields
    if nonempty : loginId ≠ "" then some ⟨loginId,nonempty,freeText,systemId⟩ else none
  | _ => none

def EscalationRequest.validate : Json → Option EscalationRequest
  | .obj fields => do
    let userSub ← requiredText "user_sub" fields
    let note ← optionalTextField "note" fields
    return ⟨userSub,note⟩
  | _ => none

/-! ### The application -/

variable {σ : Type} [Clock σ] (deployment : Deployment σ) (parseUuid : String → Option Uuid)

/-- The value of a body, before anything else of the request is looked at. -/
def RequestBody.read : RequestBody → Except Exn Json
  | .json value => .ok value
  | .malformed => .error ⟨.requestValidationError,""⟩
  | .unreadable => .error ⟨.httpException 400,"There was an error parsing the body"⟩

def valid {α : Type} : Option α → Except Exn α
  | some value => .ok value
  | none => .error ⟨.requestValidationError,""⟩

/-- The handler of a request whose path and body are valid. How a UUID is read is a parameter. -/
def endpoint : HttpRequest → Except Exn (Handler σ HttpBody)
  | .postIntake body => do
    let intake ← valid (ComplaintIntake.validate (← body.read))
    return HttpBody.answered <$> handle deployment (.submitIntake intake)
  | .postEscalate diagnosticRequestId body => do
    let escalation ← valid (EscalationRequest.validate (← body.read))
    let diagnosticRequestId ← valid (parseUuid diagnosticRequestId)
    return HttpBody.answered <$> handle deployment (.escalateIntake diagnosticRequestId escalation)
  | .getAudit xLoginId correlationId subjectSub eventType =>
    .ok (HttpBody.auditEvents <$> queryAuditEvents deployment xLoginId correlationId subjectSub eventType)

/-- The response is sent when the handler has ended; the transaction ends after it. -/
def serveHttp (request : HttpRequest) (app : App σ) : HttpResponse × App σ :=
  match endpoint deployment parseUuid request with
  | .error raised => (errorResponse raised,app)
  | .ok handler => (respond (handler.exec app.begin).1,(transaction deployment handler app).2)

def serveHttpAll : List HttpRequest → App σ → List HttpResponse × App σ
  | [],app => ([],app)
  | request::rest,app =>
    let (response,next) := serveHttp deployment parseUuid request app
    let (responses,last) := serveHttpAll rest next
    (response::responses,last)

end AccessAgent

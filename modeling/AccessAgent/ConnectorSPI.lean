import AccessAgent.ConnectorTypes
import AccessAgent.Semantics.Effect

/-! The connector interface (`app/connectors/base.py`) over an arbitrary world.
A method may answer, raise, and change the world in any way; the world also holds
the clock. `traced` records the calls a client makes without changing an answer. -/

namespace AccessAgent
open Semantics

class Clock (σ : Type) where
  now : σ → UtcNow × σ

/-- Worlds that are alike show the same times. -/
def SameClock {σ τ : Type} [Clock σ] [Clock τ] (alike : σ → τ → Prop) : Prop :=
  ∀ left right, alike left right → (Clock.now left).1 = (Clock.now right).1 ∧
    alike (Clock.now left).2 (Clock.now right).2

variable {σ : Type}

def datetimeNow [Clock σ] : Effect Exn σ Datetime :=
  ⟨fun world => (.ok (Clock.now world).1.value,(Clock.now world).2)⟩

structure ConnectorSPI (σ : Type) where
  connectorId : String
  resolveSubjectSub : String → Effect Exn σ (Option String)
  checkAvailability : String → Effect Exn σ AvailabilityResult
  getUserStatus : String → Effect Exn σ UserStatusResult
  getAuthEvents : String → Timedelta → Effect Exn σ (List AuthEvent)
  getEffectivePermissions : String → String → Effect Exn σ (List EffectivePermission)
  getRequiredPermissions : String → Effect Exn σ (List RequiredPermission)
  getPermissionAuditEvents : String → Timedelta → Effect Exn σ (List PermissionAuditEvent)

inductive ConnectorCall
  | resolveSubjectSub (loginId : String)
  | checkAvailability (subjectSub : String)
  | getUserStatus (subjectSub : String)
  | getAuthEvents (subjectSub : String) (timeWindow : Timedelta)
  | getEffectivePermissions (subjectSub resource : String)
  | getRequiredPermissions (resource : String)
  | getPermissionAuditEvents (subjectSub : String) (timeWindow : Timedelta)
deriving DecidableEq

structure CallRecord where
  call : ConnectorCall
  raised : Bool
deriving DecidableEq

structure Traced (σ : Type) where
  world : σ
  calls : List CallRecord

instance [Clock σ] : Clock (Traced σ) where
  now traced := ((Clock.now traced.world).1,{traced with world := (Clock.now traced.world).2})

def raises {α : Type} : Except Exn α → Bool
  | .ok _ => false
  | .error _ => true

def recorded {α : Type} (call : ConnectorCall) (method : Effect Exn σ α) : Effect Exn (Traced σ) α :=
  ⟨fun traced =>
    let outcome := method.exec traced.world
    (outcome.1,⟨outcome.2,traced.calls ++ [⟨call,raises outcome.1⟩]⟩)⟩

def unrecorded {α : Type} (program : Effect Exn σ α) : Effect Exn (Traced σ) α :=
  Effect.zoom Traced.world (fun world traced => {traced with world := world}) program

def ConnectorSPI.traced (connector : ConnectorSPI σ) : ConnectorSPI (Traced σ) where
  connectorId := connector.connectorId
  resolveSubjectSub loginId := recorded (.resolveSubjectSub loginId) (connector.resolveSubjectSub loginId)
  checkAvailability sub := recorded (.checkAvailability sub) (connector.checkAvailability sub)
  getUserStatus sub := recorded (.getUserStatus sub) (connector.getUserStatus sub)
  getAuthEvents sub window := recorded (.getAuthEvents sub window) (connector.getAuthEvents sub window)
  getEffectivePermissions sub resource :=
    recorded (.getEffectivePermissions sub resource) (connector.getEffectivePermissions sub resource)
  getRequiredPermissions resource :=
    recorded (.getRequiredPermissions resource) (connector.getRequiredPermissions resource)
  getPermissionAuditEvents sub window :=
    recorded (.getPermissionAuditEvents sub window) (connector.getPermissionAuditEvents sub window)

/-! ### A world where nothing happens -/

instance : Clock Unit where
  now world := (default,world)

/-- The readings that a clock will give, and how many were taken. -/
structure Watch where
  reading : Nat → UtcNow
  taken : Nat

instance : Clock Watch where
  now watch := (watch.reading watch.taken,{watch with taken := watch.taken + 1})

def Watch.stopped (now : UtcNow) : Watch := ⟨fun _ => now,0⟩

def stillConnector (resolve : String → Option String) (availability : AvailabilityStatus) : ConnectorSPI Unit where
  connectorId := "openiam"
  resolveSubjectSub loginId := pure (resolve loginId)
  checkAvailability _ := pure ⟨availability,none,(default : UtcNow).value⟩
  getUserStatus _ := pure ⟨.active,none,none⟩
  getAuthEvents _ _ := pure []
  getEffectivePermissions _ _ := pure []
  getRequiredPermissions _ := pure []
  getPermissionAuditEvents _ _ := pure []

end AccessAgent

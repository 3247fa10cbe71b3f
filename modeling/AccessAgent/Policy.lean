import AccessAgent.ConnectorSPI
import AccessAgent.Semantics.Dictionary

/-! System policies and the connector registry (`app/policy/schema.py`,
`app/policy/store.py`, `app/connectors/registry.py`). -/

namespace AccessAgent
open Semantics

structure RolePermissionMapping where
  resource : String
  requiredRoles : List String
deriving DecidableEq

structure ConnectorConfig where
  type : String
  baseUrl : Option String
  credentialPath : String
  timeoutSeconds : Int
  extra : List (String × Json)

structure SystemPolicy where
  systemId : String
  connector : ConnectorConfig
  healthEndpoint : Option String
  rolePermissionMap : List RolePermissionMapping

structure Config where
  connector : ConnectorConfig
  healthEndpoint : Option String
  rolePermissionMap : List RolePermissionMapping

def SystemPolicy.config (policy : SystemPolicy) : Config :=
  ⟨policy.connector,policy.healthEndpoint,policy.rolePermissionMap⟩

abbrev PolicyStore := Dictionary String SystemPolicy

def PolicyStore.get (store : PolicyStore) (systemId : String) : Except Exn SystemPolicy :=
  match store.find systemId with
  | some policy => .ok policy
  | none => .error ⟨.notFoundError,"No policy registered for system_id '" ++ systemId ++ "'"⟩

abbrev ConnectorClass (σ : Type) := String → Config → ConnectorSPI σ

abbrev ConnectorTypes (σ : Type) := Dictionary String (ConnectorClass σ)

abbrev Instances (σ : Type) := Dictionary String (ConnectorSPI σ)

def getConnector {σ : Type} (types : ConnectorTypes σ) (connectorId connectorType : String) (config : Config)
    (instances : Instances σ) : Except Exn (ConnectorSPI σ) × Instances σ :=
  match instances.find connectorId with
  | some connector => (.ok connector,instances)
  | none => match types.find connectorType with
    | none => (.error ⟨.connectorNotRegisteredError,
        "No connector registered for type '" ++ connectorType ++ "'"⟩,instances)
    | some connectorClass =>
      let connector := connectorClass connectorId config
      (.ok connector,instances.set connectorId connector)

end AccessAgent

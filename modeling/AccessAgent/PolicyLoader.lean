import AccessAgent.OpenIAM.Connector
import AccessAgent.Python.Validation

/-! The loading of the policy directory at startup (`app/policy/loader.py`, `app/policy/schema.py`,
`_CONNECTOR_TYPES` of `app/connectors/registry.py`). -/

namespace AccessAgent
open Semantics

/-! ### The schema -/

section
variable {ν : Type} (reading : Reading ν)

def ConnectorConfig.modelValidate : ν → Validated ConnectorConfig :=
  reading.model fun fields => ConnectorConfig.mk
    <$> reading.required fields "type" reading.string
    <*> reading.optional fields "base_url" none (reading.nullable reading.string)
    <*> reading.required fields "credential_path" reading.string
    <*> reading.optional fields "timeout_seconds" 10 reading.int
    <*> reading.optional fields "extra" [] reading.dictionary

def RolePermissionMapping.modelValidate : ν → Validated RolePermissionMapping :=
  reading.model fun fields => RolePermissionMapping.mk
    <$> reading.required fields "resource" reading.string
    <*> reading.optional fields "required_roles" [] (reading.listOf reading.string)

structure ErrorSignature where
  pattern : String
  causeCode : String
  description : Option String

def ErrorSignature.modelValidate : ν → Validated ErrorSignature :=
  reading.model fun fields => ErrorSignature.mk
    <$> reading.required fields "pattern" reading.string
    <*> reading.required fields "cause_code" reading.string
    <*> reading.optional fields "description" none (reading.nullable reading.string)

/-- The display name, the error signatures and the playbook ids are validated, and nothing reads them. -/
def SystemPolicy.modelValidate : ν → Validated SystemPolicy :=
  reading.model fun fields => (fun systemId _ connector healthEndpoint rolePermissionMap _ _ =>
      ⟨systemId,connector,healthEndpoint,rolePermissionMap⟩)
    <$> reading.required fields "system_id" reading.string
    <*> reading.required fields "display_name" reading.string
    <*> reading.required fields "connector" (ConnectorConfig.modelValidate reading)
    <*> reading.optional fields "health_endpoint" none (reading.nullable reading.string)
    <*> reading.optional fields "role_permission_map" [] (reading.listOf (RolePermissionMapping.modelValidate reading))
    <*> reading.optional fields "error_signatures" [] (reading.listOf (ErrorSignature.modelValidate reading))
    <*> reading.optional fields "playbook_ids" [] (reading.listOf reading.string)

end

/-! ### The directory -/

/-- An exception of the file system or of the YAML reader. -/
structure ForeignExn where
  exn : Exn
  foreign : exn.cls ≠ .policyValidationError

structure PolicyFile where
  name : String
  readText : Except ForeignExn String

structure PolicyDir where
  files : List PolicyFile
  distinct : (files.map PolicyFile.name).Nodup

/-- `sorted(policy_dir.glob("*.yaml"))` -/
def PolicyDir.yamlFiles (policyDir : PolicyDir) : List PolicyFile :=
  (policyDir.files.filter fun file => ".yaml".toList.isSuffixOf file.name.toList).mergeSort
    fun file other => decide (file.name ≤ other.name)

/-- The YAML reader, and pydantic's reading and reporting of what it gives. -/
structure PolicyFormat (ν : Type) where
  safeLoad : String → Except ForeignExn ν
  reading : Reading ν
  report : ν → List FieldError → String

namespace PolicyFormat
variable {ν : Type} (format : PolicyFormat ν)

def raw (file : PolicyFile) : Except ForeignExn ν := do
  let text ← file.readText
  format.safeLoad text

def loadPolicy (policies : PolicyStore) (file : PolicyFile) : Except Exn PolicyStore := do
  let raw ← (format.raw file).mapError ForeignExn.exn
  match (SystemPolicy.modelValidate format.reading raw).result with
  | .error errors => throw ⟨.policyValidationError,"Invalid policy file " ++ file.name ++ ": " ++ format.report raw errors⟩
  | .ok policy =>
    if policies.keys.contains policy.systemId then
      throw ⟨.policyValidationError,"Duplicate system_id '" ++ policy.systemId ++ "' in " ++ file.name⟩
    else return policies.set policy.systemId policy

def loadPolicies (policyDir : PolicyDir) : Except Exn PolicyStore :=
  policyDir.yamlFiles.foldlM format.loadPolicy []

/-! ### What the files describe -/

def Describes (file : PolicyFile) (policy : SystemPolicy) : Prop :=
  ∃ raw, format.raw file = .ok raw ∧ (SystemPolicy.modelValidate format.reading raw).result = .ok policy

/-- Every file describes a policy, and no two of them have one system id. -/
structure Describe (files : List PolicyFile) (policies : List SystemPolicy) : Prop where
  each : List.Forall₂ format.Describes files policies
  distinct : (policies.map SystemPolicy.systemId).Nodup

theorem describes_unique {file : PolicyFile} {policy again : SystemPolicy} (left : format.Describes file policy)
    (right : format.Describes file again) : policy = again := by
  obtain ⟨raw,read,valid⟩ := left
  obtain ⟨same,reread,revalid⟩ := right
  obtain rfl := Except.ok.inj (read.symm.trans reread)
  exact Except.ok.inj (valid.symm.trans revalid)

theorem described_member {files : List PolicyFile} {policies : List SystemPolicy} {file : PolicyFile}
    (each : List.Forall₂ format.Describes files policies) (member : file ∈ files) :
    ∃ policy ∈ policies, format.Describes file policy := by
  induction each with
  | nil => exact absurd member List.not_mem_nil
  | cons here later ih =>
    rcases List.mem_cons.mp member with rfl | inside
    · exact ⟨_,List.mem_cons_self,here⟩
    · obtain ⟨policy,among,described⟩ := ih inside
      exact ⟨policy,List.mem_cons_of_mem _ among,described⟩

/-- Two files with one system id are one file. -/
theorem described_once {files : List PolicyFile} {policies : List SystemPolicy} {file other : PolicyFile}
    {policy again : SystemPolicy} (described : format.Describe files policies) (left : file ∈ files) (right : other ∈ files)
    (first : format.Describes file policy) (second : format.Describes other again)
    (same : policy.systemId = again.systemId) : file = other := by
  obtain ⟨each,distinct⟩ := described
  induction each with
  | nil => exact absurd left List.not_mem_nil
  | @cons _ _ rest others here later ih =>
    obtain ⟨absent,apart⟩ := List.nodup_cons.mp distinct
    have elsewhere : ∀ {file policy}, file ∈ rest → format.Describes file policy →
        policy.systemId ∈ others.map SystemPolicy.systemId := by
      intro file policy inside described
      obtain ⟨known,among,knownDescribed⟩ := format.described_member later inside
      rw [format.describes_unique described knownDescribed]
      exact List.mem_map_of_mem among
    rcases List.mem_cons.mp left with rfl | early
    · rcases List.mem_cons.mp right with rfl | late
      · rfl
      · rw [← format.describes_unique first here,same] at absent
        exact absurd (elsewhere late second) absent
    · rcases List.mem_cons.mp right with rfl | late
      · rw [← format.describes_unique second here,← same] at absent
        exact absurd (elsewhere early first) absent
      · exact ih early late apart

/-- A file that cannot be read, or that is not YAML. -/
def Unread (file : PolicyFile) : Prop := ∃ raised, format.raw file = .error raised

def stored (policies : List SystemPolicy) : PolicyStore := policies.map fun policy => (policy.systemId,policy)

theorem stored_keys (policies : List SystemPolicy) : (stored policies).keys = policies.map SystemPolicy.systemId := by
  rw [stored,Dictionary.keys,List.map_map]
  rfl

theorem stored_values (policies : List SystemPolicy) : (stored policies).values = policies := by
  rw [stored,Dictionary.values,List.map_map]
  exact List.map_id policies

theorem stored_own {policies : List SystemPolicy} {systemId : String} {policy : SystemPolicy}
    (found : (stored policies).find systemId = some policy) : policy.systemId = systemId := by
  obtain ⟨known,_,same⟩ := List.mem_map.mp (Dictionary.mem_of_find found)
  obtain ⟨rfl,rfl⟩ := Prod.mk.inj same
  rfl

theorem loadPolicy_ok {policies : List SystemPolicy} {file : PolicyFile} {store : PolicyStore} :
    format.loadPolicy (stored policies) file = .ok store ↔ ∃ policy, format.Describes file policy ∧
      policy.systemId ∉ policies.map SystemPolicy.systemId ∧ store = stored (policies ++ [policy]) := by
  rw [loadPolicy,Raising.bind_ok]
  constructor
  · rintro ⟨raw,read,ok⟩
    rw [Raising.mapError_ok] at read
    cases validated : (SystemPolicy.modelValidate format.reading raw).result with
    | error errors =>
      rw [validated] at ok
      exact nomatch ok
    | ok policy =>
      rw [validated] at ok
      dsimp only at ok
      split at ok
      next repeated => exact nomatch ok
      next fresh =>
        have absent : policy.systemId ∉ (stored policies).keys := by simpa using fresh
        have result := Raising.pure_success ok
        rw [Dictionary.set_of_not_mem absent] at result
        rw [stored_keys] at absent
        refine ⟨policy,⟨raw,read,validated⟩,absent,?_⟩
        rw [← result,stored,stored,List.map_append]
        rfl
  · rintro ⟨policy,⟨raw,read,validated⟩,absent,rfl⟩
    rw [← stored_keys] at absent
    refine ⟨raw,Raising.mapError_ok.mpr read,?_⟩
    rw [validated]
    dsimp only
    rw [if_neg (by simpa using absent),Dictionary.set_of_not_mem absent,stored,stored,List.map_append]
    rfl

/-- Only a file that cannot be read raises an exception of another class. -/
theorem loadPolicy_escapes {policies : PolicyStore} {file : PolicyFile} :
    (∃ raised, format.loadPolicy policies file = .error raised ∧ raised.cls ≠ .policyValidationError) ↔
      format.Unread file := by
  constructor
  · rintro ⟨raised,failed,foreign⟩
    cases read : format.raw file with
    | error known => exact ⟨known,read⟩
    | ok raw =>
      rw [loadPolicy,read] at failed
      change (match (SystemPolicy.modelValidate format.reading raw).result with
        | .error errors => _
        | .ok policy => _) = _ at failed
      split at failed
      next errors invalid =>
        rw [← Except.error.inj failed] at foreign
        exact absurd rfl foreign
      next policy valid =>
        split at failed
        next repeated =>
          rw [← Except.error.inj failed] at foreign
          exact absurd rfl foreign
        next fresh => exact nomatch failed
  · rintro ⟨raised,read⟩
    refine ⟨raised.exn,?_,raised.foreign⟩
    rw [loadPolicy,read]
    rfl

theorem foldlM_loadPolicy_ok {files : List PolicyFile} {done : List SystemPolicy} {store : PolicyStore}
    (distinct : (done.map SystemPolicy.systemId).Nodup) :
    files.foldlM format.loadPolicy (stored done) = .ok store ↔ ∃ policies,
      List.Forall₂ format.Describes files policies ∧ ((done ++ policies).map SystemPolicy.systemId).Nodup ∧
        store = stored (done ++ policies) := by
  induction files generalizing done with
  | nil =>
    simp only [List.foldlM_nil,List.forall₂_nil_left_iff]
    constructor
    · intro ok
      exact ⟨[],rfl,by rwa [List.append_nil],by rw [List.append_nil,Raising.pure_success ok]⟩
    · rintro ⟨policies,rfl,_,rfl⟩
      rw [List.append_nil]
      rfl
  | cons file rest ih =>
    rw [List.foldlM_cons,Raising.bind_ok]
    have fresh : ∀ policy : SystemPolicy, policy.systemId ∉ done.map SystemPolicy.systemId ↔
        ((done ++ [policy]).map SystemPolicy.systemId).Nodup := by
      intro policy
      rw [List.map_append,List.nodup_append]
      simp [distinct]
    constructor
    · rintro ⟨middle,stepped,ok⟩
      obtain ⟨policy,described,absent,rfl⟩ := format.loadPolicy_ok.mp stepped
      obtain ⟨policies,each,apart,rfl⟩ := (ih ((fresh policy).mp absent)).mp ok
      rw [List.append_assoc] at apart ⊢
      exact ⟨policy::policies,.cons described each,apart,rfl⟩
    · rintro ⟨policies,each,apart,result⟩
      obtain ⟨policy,others,described,later,rfl⟩ := List.forall₂_cons_left_iff.mp each
      have shape : done ++ policy::others = done ++ [policy] ++ others := by simp
      rw [shape] at apart result
      have begins : ((done ++ [policy]).map SystemPolicy.systemId).Nodup := by
        rw [List.map_append] at apart
        exact (List.nodup_append.mp apart).1
      exact ⟨_,format.loadPolicy_ok.mpr ⟨policy,described,(fresh policy).mpr begins,rfl⟩,
        (ih begins).mpr ⟨others,later,apart,result⟩⟩

theorem foldlM_loadPolicy {files : List PolicyFile} {store : PolicyStore} :
    files.foldlM format.loadPolicy [] = .ok store ↔ ∃ policies, format.Describe files policies ∧ store = stored policies := by
  have start : files.foldlM format.loadPolicy (stored []) = .ok store ↔ ∃ policies,
      List.Forall₂ format.Describes files policies ∧ (([] ++ policies).map SystemPolicy.systemId).Nodup ∧
        store = stored ([] ++ policies) := format.foldlM_loadPolicy_ok List.nodup_nil
  refine start.trans ?_
  constructor
  · rintro ⟨policies,each,distinct,rfl⟩
    exact ⟨policies,⟨each,distinct⟩,rfl⟩
  · rintro ⟨policies,⟨each,distinct⟩,rfl⟩
    exact ⟨policies,each,distinct,rfl⟩

/-- A file that is not YAML comes after files that all describe policies. -/
def Escapes (files : List PolicyFile) : Prop := ∃ before file after policies,
  files = before ++ file::after ∧ format.Describe before policies ∧ format.Unread file

/-- Loading raises an exception of another class exactly at a file that cannot be read. -/
theorem loadPolicies_escapes (policyDir : PolicyDir) :
    (∃ raised, format.loadPolicies policyDir = .error raised ∧ raised.cls ≠ .policyValidationError) ↔
      format.Escapes policyDir.yamlFiles := by
  constructor
  · rintro ⟨raised,failed,foreign⟩
    obtain ⟨before,file,after,middle,shape,reached,raises⟩ := Raising.foldlM_raised.mp failed
    obtain ⟨policies,described,rfl⟩ := format.foldlM_loadPolicy.mp reached
    exact ⟨before,file,after,policies,shape,described,format.loadPolicy_escapes.mp ⟨raised,raises,foreign⟩⟩
  · rintro ⟨before,file,after,policies,shape,described,unread⟩
    obtain ⟨raised,raises,foreign⟩ := format.loadPolicy_escapes.mpr unread
    have reached := format.foldlM_loadPolicy.mpr ⟨policies,described,rfl⟩
    exact ⟨raised,Raising.foldlM_raised.mpr ⟨before,file,after,_,shape,reached,raises⟩,foreign⟩

end PolicyFormat

/-! ### The registered connector types -/

section
variable {σ : Type}

def notImplementedError : Exn := ⟨.other "NotImplementedError",""⟩

/-- A connector none of whose methods is written. -/
def unimplemented : ConnectorClass σ := fun connectorId _ =>
  { connectorId := connectorId
    resolveSubjectSub := fun _ => throw notImplementedError
    checkAvailability := fun _ => throw notImplementedError
    getUserStatus := fun _ => throw notImplementedError
    getAuthEvents := fun _ _ => throw notImplementedError
    getEffectivePermissions := fun _ _ => throw notImplementedError
    getRequiredPermissions := fun _ => throw notImplementedError
    getPermissionAuditEvents := fun _ _ => throw notImplementedError }

def keycloakConnector : ConnectorClass σ := unimplemented
def ldapConnector : ConnectorClass σ := unimplemented
def postgresGrantsConnector : ConnectorClass σ := unimplemented
def genericRestConnector : ConnectorClass σ := unimplemented

/-- `_CONNECTOR_TYPES` -/
def connectorTypes [Clock σ] (env : OpenIAM.Environment σ) : ConnectorTypes σ :=
  [("keycloak",keycloakConnector),("ldap",ldapConnector),("db_grants_postgres",postgresGrantsConnector),
    ("rest_generic",genericRestConnector),("openiam",OpenIAM.connector env)]

theorem getConnector_fresh {types : ConnectorTypes σ} {connectorId connectorType : String} {config : Config}
    {instances : Instances σ} (absent : instances.find connectorId = none) :
    Raising.Succeeds (getConnector types connectorId connectorType config instances).1 ↔ connectorType ∈ types.keys := by
  rw [getConnector,absent,Dictionary.mem_keys]
  cases types.find connectorType with
  | none => simp
  | some connectorClass => simp

/-- A lookup with the connector type of the policy gives a connector, whatever was built before. -/
def Connects (types : ConnectorTypes σ) (policy : SystemPolicy) : Prop :=
  ∀ connectorId config instances,
    Raising.Succeeds (getConnector types connectorId policy.connector.type config instances).1

theorem connects_iff {types : ConnectorTypes σ} {policy : SystemPolicy} :
    Connects types policy ↔ policy.connector.type ∈ types.keys := by
  constructor
  · intro connects
    exact (getConnector_fresh rfl).mp (connects policy.systemId policy.config [])
  · intro registered connectorId config instances
    cases found : instances.find connectorId with
    | none => exact (getConnector_fresh found).mpr registered
    | some connector =>
      rw [getConnector,found]
      exact Raising.succeeds_ok connector

/-! ### When loading fails fast -/

def Refused (loaded : Except Exn PolicyStore) : Prop :=
  ∃ raised, loaded = .error raised ∧ raised.cls = .policyValidationError

/-- Loading raises `PolicyValidationError` or stores one policy for each file; it raises for a file that
describes no policy or repeats a system id; and every stored policy has a registered connector. -/
structure FailFast {ν : Type} (format : PolicyFormat ν) (types : ConnectorTypes σ) (policyDir : PolicyDir) : Prop where
  answers : Refused (format.loadPolicies policyDir) ∨ ∃ policies, format.Describe policyDir.yamlFiles policies ∧
    format.loadPolicies policyDir = .ok (PolicyFormat.stored policies)
  refuses : ((∃ file ∈ policyDir.yamlFiles, ¬∃ policy, format.Describes file policy) ∨
    (∃ file ∈ policyDir.yamlFiles, ∃ other ∈ policyDir.yamlFiles, file.name ≠ other.name ∧ ∃ policy again,
      format.Describes file policy ∧ format.Describes other again ∧ policy.systemId = again.systemId)) →
    Refused (format.loadPolicies policyDir)
  connects : ∀ store, format.loadPolicies policyDir = .ok store → ∀ policy ∈ store.values, Connects types policy

theorem refused_iff {ν : Type} {format : PolicyFormat ν} {policyDir : PolicyDir}
    (kept : ¬format.Escapes policyDir.yamlFiles) : Refused (format.loadPolicies policyDir) ↔
      ¬∃ policies, format.Describe policyDir.yamlFiles policies := by
  constructor
  · rintro ⟨raised,failed,_⟩ ⟨policies,described⟩
    have loaded := format.foldlM_loadPolicy.mpr ⟨policies,described,rfl⟩
    exact nomatch loaded.symm.trans failed
  · intro undescribed
    cases loaded : format.loadPolicies policyDir with
    | error raised =>
      refine ⟨raised,rfl,?_⟩
      by_contra foreign
      exact kept ((format.loadPolicies_escapes policyDir).mp ⟨raised,loaded,foreign⟩)
    | ok store =>
      obtain ⟨policies,described,_⟩ := format.foldlM_loadPolicy.mp loaded
      exact absurd ⟨policies,described⟩ undescribed

/-- Loading fails fast when no file escapes, and the policies of a directory that loads have registered connectors. -/
theorem fail_fast_iff {ν : Type} [Clock σ] (format : PolicyFormat ν) (env : OpenIAM.Environment σ)
    (policyDir : PolicyDir) : FailFast format (connectorTypes env) policyDir ↔ ¬format.Escapes policyDir.yamlFiles ∧
      ∀ policies, format.Describe policyDir.yamlFiles policies → ∀ policy ∈ policies,
        policy.connector.type ∈ (connectorTypes env).keys := by
  constructor
  · rintro ⟨answers,_,connects⟩
    constructor
    · intro escapes
      obtain ⟨raised,failed,foreign⟩ := (format.loadPolicies_escapes policyDir).mpr escapes
      rcases answers with ⟨known,refused,policy⟩ | ⟨policies,_,loaded⟩
      · obtain rfl := Except.error.inj (refused.symm.trans failed)
        exact foreign policy
      · exact nomatch loaded.symm.trans failed
    · intro policies described policy member
      have loaded := format.foldlM_loadPolicy.mpr ⟨policies,described,rfl⟩
      rw [← PolicyFormat.stored_values policies] at member
      exact connects_iff.mp (connects _ loaded policy member)
  · rintro ⟨kept,registered⟩
    refine ⟨?_,?_,?_⟩
    · by_cases described : ∃ policies, format.Describe policyDir.yamlFiles policies
      · obtain ⟨policies,described⟩ := described
        exact Or.inr ⟨policies,described,format.foldlM_loadPolicy.mpr ⟨policies,described,rfl⟩⟩
      · exact Or.inl ((refused_iff kept).mpr described)
    · intro broken
      rw [refused_iff kept]
      rintro ⟨policies,described⟩
      rcases broken with ⟨file,member,silent⟩ | ⟨file,left,other,right,apart,policy,again,first,second,same⟩
      · obtain ⟨policy,_,known⟩ := format.described_member described.each member
        exact silent ⟨policy,known⟩
      · exact apart (congrArg PolicyFile.name (format.described_once described left right first second same))
    · intro store loaded policy member
      obtain ⟨policies,described,rfl⟩ := format.foldlM_loadPolicy.mp loaded
      rw [PolicyFormat.stored_values] at member
      exact connects_iff.mpr (registered policies described policy member)

end

/-! ### Two broken policies -/

/-- Documents as pydantic reads them, without its conversions. -/
def documentReading : Reading Json where
  isNone
    | .null => true
    | _ => false
  name
    | .str text => some text
    | _ => none
  label := Json.pyStr
  text
    | .str text => .ok text
    | _ => .error "string_type"
  integer
    | .int number => .ok number
    | _ => .error "int_type"
  sequence
    | .arr items => some items
    | _ => none
  entries
    | .obj fields => some (fields.map fun field => (.str field.1,field.2))
    | _ => none
  observed := id

def unclosedText : String := "system_id: [openiam"

/-- A policy of the required fields only. -/
def plainText (systemId : String) : String :=
  "system_id: " ++ systemId ++ "\ndisplay_name: " ++ systemId ++ "\nconnector:\n  type: " ++ systemId ++
    "\n  credential_path: secret/connectors\n"

def plainDocument (systemId : String) : Json :=
  .obj [("system_id",.str systemId),("display_name",.str systemId),
    ("connector",.obj [("type",.str systemId),("credential_path",.str "secret/connectors")])]

def plainPolicy (systemId : String) : SystemPolicy where
  systemId := systemId
  connector := ⟨systemId,none,"secret/connectors",10,[]⟩
  healthEndpoint := none
  rolePermissionMap := []

/-- What the YAML reader makes of these documents, and of a line of text. -/
def documentFormat : PolicyFormat Json where
  safeLoad text :=
    if text = unclosedText then .error ⟨⟨.other "ParserError","expected ',' or ']', but got '<stream end>'"⟩,by decide⟩
    else match ["sap","openiam"].find? (fun systemId => text = plainText systemId) with
      | some systemId => .ok (plainDocument systemId)
      | none => .ok (.str text)
  reading := documentReading
  report _ errors := toString errors.length ++ " validation errors for SystemPolicy"

def policyDirOf (name text : String) : PolicyDir := ⟨[⟨name,.ok text⟩],by simp⟩

theorem policyDirOf_files {name text : String} (yaml : ".yaml".toList.isSuffixOf name.toList = true) :
    (policyDirOf name text).yamlFiles = [⟨name,.ok text⟩] := by
  have kept : (policyDirOf name text).files.filter (fun file => ".yaml".toList.isSuffixOf file.name.toList) =
      [⟨name,.ok text⟩] := by
    simp only [policyDirOf,List.filter_cons,yaml,if_true,List.filter_nil]
  rw [PolicyDir.yamlFiles,kept,List.mergeSort_singleton]

theorem unclosed_raised : documentFormat.loadPolicies (policyDirOf "openiam.yaml" unclosedText) =
    .error ⟨.other "ParserError","expected ',' or ']', but got '<stream end>'"⟩ := by
  rw [PolicyFormat.loadPolicies,policyDirOf_files (by decide)]
  rfl

theorem sap_loaded : documentFormat.loadPolicies (policyDirOf "sap.yaml" (plainText "sap")) =
    .ok [("sap",plainPolicy "sap")] := by
  rw [PolicyFormat.loadPolicies,policyDirOf_files (by decide)]
  rfl

def idleEnvironment : OpenIAM.Environment Unit := ⟨⟨"",[]⟩,.insertion,⟨fun _ => throw notImplementedError⟩⟩

/-- A file that is not YAML raises the exception of its reader, and a policy loads whose connector type is not registered. -/
theorem broken_policy_loaded :
    ¬FailFast documentFormat (connectorTypes idleEnvironment) (policyDirOf "openiam.yaml" unclosedText) ∧
    ¬FailFast documentFormat (connectorTypes idleEnvironment) (policyDirOf "sap.yaml" (plainText "sap")) := by
  constructor
  · rintro ⟨answers,_,_⟩
    rcases answers with ⟨raised,failed,policy⟩ | ⟨policies,_,loaded⟩
    · rw [← Except.error.inj (unclosed_raised.symm.trans failed)] at policy
      exact absurd policy (by decide)
    · exact nomatch unclosed_raised.symm.trans loaded
  · rintro ⟨_,_,connects⟩
    have registered := connects_iff.mp (connects _ sap_loaded (plainPolicy "sap") List.mem_cons_self)
    exact absurd registered (by decide)

end AccessAgent

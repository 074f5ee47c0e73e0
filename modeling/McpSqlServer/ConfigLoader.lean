import McpSqlServer.Library.Overlay
import McpSqlServer.Library.Python.IntText
import McpSqlServer.Library.Python.Json
import McpSqlServer.Library.Text.Strip
import McpSqlServer.Models

namespace McpSqlServer

open Library.Text Library.Python Library.Overlay

section Texts

def floats : Json.Hooks := ⟨.object, .object⟩

/-- A loop that copies the items of a JSON object, each through `entry`. -/
def copyEntries {α : Type} (entry : Value → Except Exc α) (payload : Dict Value) : Except Exc (Dict α) :=
  payload.foldlM (fun parsed e ↦ (entry e.2).map (fun a ↦ setItem e.1 a parsed)) []

def boolEntry (message : Str) : Value → Except Exc Bool
  | .bool b => .ok b
  | _ => .error (valueError message)

def loadsObject (name raw : Str) : Except Exc (Dict Value) :=
  match Json.loads floats raw with
  | none => .error (valueError (name ++ " must be valid JSON".toList))
  | some (.dict payload) => .ok payload
  | some _ => .error (valueError (name ++ " must be a JSON object".toList))

def parseBoolMap (name raw : Str) : Except Exc (Dict Bool) :=
  (loadsObject name raw).bind
    (copyEntries (boolEntry (name ++ " entries must map string keys to boolean values".toList)))

def nestedEntry (name : Str) : Value → Except Exc (Dict Bool)
  | .dict mapping =>
    copyEntries (boolEntry (name ++ " nested entries must map tool names to boolean values".toList)) mapping
  | _ => .error (valueError (name ++ " must map instance names to JSON objects".toList))

def parseNestedBoolMap (name raw : Str) : Except Exc (Dict (Dict Bool)) :=
  (loadsObject name raw).bind (copyEntries (nestedEntry name))

variable [UnicodeData]

def parseCsvValues (raw : Str) : List Str := ((raw.splitOn ',').map strip).filter (fun item ↦ !item.isEmpty)

def parseIntValue (name raw : Str) : Except Exc ℤ :=
  match parseInt raw with
  | some n => .ok n
  | none => .error (valueError (name ++ " must be an integer".toList))

def parsePositiveIntValue (name raw : Str) : Except Exc ℤ :=
  (parseIntValue name raw).bind (fun value ↦
    if value ≤ 0 then .error (valueError (name ++ " must be a positive integer (> 0)".toList)) else .ok value)

def parseBoolValue (name raw : Str) : Except Exc Bool :=
  let value := lower (strip raw)
  if value ∈ ["1".toList, "true".toList, "yes".toList, "on".toList] then .ok true
  else if value ∈ ["0".toList, "false".toList, "no".toList, "off".toList] then .ok false
  else .error (valueError (name ++ " must be a boolean".toList))

end Texts

section Settings

structure SqlInstanceConfig.Complete extends SqlInstanceConfig where
  poolIdleTimeoutSec : ℤ := 300

/-- `AuthConfig` with the fields that the token verifier and the shared HTTP client are made from. -/
structure AuthConfig.Complete extends AuthConfig where
  azureTenantId : Option Str := none
  azureClientId : Option Str := none
  azureClientSecretRef : Option Str := none
  azureRequiredScopes : List Str := []
  azureBaseUrl : Option Str := none
  azureIdentifierUri : Option Str := none
  poolMaxConnections : ℤ := 10
  poolMaxKeepaliveConnections : ℤ := 10
  poolTimeoutSeconds : ℤ := 10

variable {C : Type}

/-- A variable whose text is read by a function that takes the name of the variable for its message. -/
def Setting.read {A : Type} (parse : Str → Str → Except Exc A) (name : Str) (field : Field C A) : Setting C :=
  ⟨name, A, field, parse name⟩

def policySettings : List (Setting RuntimePolicy) :=
  [Setting.read parseBoolMap "FASTMCP_TOOL_ENABLE_FLAGS_JSON".toList
      ⟨(·.toolEnableFlags), fun a c ↦ { c with toolEnableFlags := a }, fun _ _ ↦ rfl, fun _ ↦ rfl, fun _ _ _ ↦ rfl⟩,
    Setting.read parseNestedBoolMap "FASTMCP_INSTANCE_TOOL_ENABLE_FLAGS_JSON".toList
      ⟨(·.instanceToolEnableFlags), fun a c ↦ { c with instanceToolEnableFlags := a }, fun _ _ ↦ rfl, fun _ ↦ rfl,
        fun _ _ _ ↦ rfl⟩]

variable [UnicodeData]

def instanceSettings : List (Setting SqlInstanceConfig.Complete) :=
  [Setting.read parseBoolValue "FASTMCP_SQL_POOL_ENABLED".toList
      ⟨(·.poolEnabled), fun a c ↦ { c with poolEnabled := a }, fun _ _ ↦ rfl, fun _ ↦ rfl, fun _ _ _ ↦ rfl⟩,
    Setting.read parsePositiveIntValue "FASTMCP_SQL_POOL_MAX".toList
      ⟨(·.poolMax), fun a c ↦ { c with poolMax := a }, fun _ _ ↦ rfl, fun _ ↦ rfl, fun _ _ _ ↦ rfl⟩,
    Setting.read parsePositiveIntValue "FASTMCP_SQL_POOL_IDLE_TIMEOUT_SEC".toList
      ⟨(·.poolIdleTimeoutSec), fun a c ↦ { c with poolIdleTimeoutSec := a }, fun _ _ ↦ rfl, fun _ ↦ rfl,
        fun _ _ _ ↦ rfl⟩,
    Setting.read parsePositiveIntValue "FASTMCP_SQL_POOL_ACQUIRE_TIMEOUT_SEC".toList
      ⟨(·.poolAcquireTimeoutSec), fun a c ↦ { c with poolAcquireTimeoutSec := a }, fun _ _ ↦ rfl, fun _ ↦ rfl,
        fun _ _ _ ↦ rfl⟩]

def stripped (_name raw : Str) : Except Exc Str := .ok (strip raw)

def strippedOptional (_name raw : Str) : Except Exc (Option Str) := .ok (some (strip raw))

def csvValues (_name raw : Str) : Except Exc (List Str) := .ok (parseCsvValues raw)

def authSettings : List (Setting AuthConfig.Complete) :=
  [Setting.read stripped "FASTMCP_AUTH_MODE".toList
      ⟨(·.authMode), fun a c ↦ { c with authMode := a }, fun _ _ ↦ rfl, fun _ ↦ rfl, fun _ _ _ ↦ rfl⟩,
    Setting.read parseBoolValue "FASTMCP_AZURE_AUTH_ENABLED".toList
      ⟨(·.azureAuthEnabled), fun a c ↦ { c with azureAuthEnabled := a }, fun _ _ ↦ rfl, fun _ ↦ rfl, fun _ _ _ ↦ rfl⟩,
    Setting.read parseBoolValue "FASTMCP_AZURE_GROUP_AUTHORIZATION_ENABLED".toList
      ⟨(·.azureGroupAuthorizationEnabled), fun a c ↦ { c with azureGroupAuthorizationEnabled := a }, fun _ _ ↦ rfl,
        fun _ ↦ rfl, fun _ _ _ ↦ rfl⟩,
    Setting.read strippedOptional "FASTMCP_AZURE_TENANT_ID".toList
      ⟨(·.azureTenantId), fun a c ↦ { c with azureTenantId := a }, fun _ _ ↦ rfl, fun _ ↦ rfl, fun _ _ _ ↦ rfl⟩,
    Setting.read strippedOptional "FASTMCP_AZURE_CLIENT_ID".toList
      ⟨(·.azureClientId), fun a c ↦ { c with azureClientId := a }, fun _ _ ↦ rfl, fun _ ↦ rfl, fun _ _ _ ↦ rfl⟩,
    Setting.read strippedOptional "FASTMCP_AZURE_CLIENT_SECRET_REF".toList
      ⟨(·.azureClientSecretRef), fun a c ↦ { c with azureClientSecretRef := a }, fun _ _ ↦ rfl, fun _ ↦ rfl,
        fun _ _ _ ↦ rfl⟩,
    Setting.read csvValues "FASTMCP_AZURE_REQUIRED_SCOPES".toList
      ⟨(·.azureRequiredScopes), fun a c ↦ { c with azureRequiredScopes := a }, fun _ _ ↦ rfl, fun _ ↦ rfl,
        fun _ _ _ ↦ rfl⟩,
    Setting.read strippedOptional "FASTMCP_AZURE_BASE_URL".toList
      ⟨(·.azureBaseUrl), fun a c ↦ { c with azureBaseUrl := a }, fun _ _ ↦ rfl, fun _ ↦ rfl, fun _ _ _ ↦ rfl⟩,
    Setting.read strippedOptional "FASTMCP_AZURE_IDENTIFIER_URI".toList
      ⟨(·.azureIdentifierUri), fun a c ↦ { c with azureIdentifierUri := a }, fun _ _ ↦ rfl, fun _ ↦ rfl,
        fun _ _ _ ↦ rfl⟩,
    Setting.read stripped "FASTMCP_AZURE_GROUP_CLAIM_NAME".toList
      ⟨(·.azureGroupClaimName), fun a c ↦ { c with azureGroupClaimName := a }, fun _ _ ↦ rfl, fun _ ↦ rfl,
        fun _ _ _ ↦ rfl⟩,
    Setting.read csvValues "FASTMCP_AZURE_READ_GROUPS".toList
      ⟨(·.azureReadGroups), fun a c ↦ { c with azureReadGroups := a }, fun _ _ ↦ rfl, fun _ ↦ rfl, fun _ _ _ ↦ rfl⟩,
    Setting.read csvValues "FASTMCP_AZURE_WRITE_GROUPS".toList
      ⟨(·.azureWriteGroups), fun a c ↦ { c with azureWriteGroups := a }, fun _ _ ↦ rfl, fun _ ↦ rfl, fun _ _ _ ↦ rfl⟩,
    Setting.read parseIntValue "FASTMCP_POOL_MAX_CONNECTIONS".toList
      ⟨(·.poolMaxConnections), fun a c ↦ { c with poolMaxConnections := a }, fun _ _ ↦ rfl, fun _ ↦ rfl,
        fun _ _ _ ↦ rfl⟩,
    Setting.read parseIntValue "FASTMCP_POOL_MAX_KEEPALIVE".toList
      ⟨(·.poolMaxKeepaliveConnections), fun a c ↦ { c with poolMaxKeepaliveConnections := a }, fun _ _ ↦ rfl,
        fun _ ↦ rfl, fun _ _ _ ↦ rfl⟩,
    Setting.read parseIntValue "FASTMCP_POOL_TIMEOUT_SECONDS".toList
      ⟨(·.poolTimeoutSeconds), fun a c ↦ { c with poolTimeoutSeconds := a }, fun _ _ ↦ rfl, fun _ ↦ rfl,
        fun _ _ _ ↦ rfl⟩]

omit [UnicodeData] in
theorem policySettings_apart : policySettings.Pairwise (fun s t ↦ s.field.Apart t.field) := by
  simp [policySettings, Setting.read, Field.Apart]

theorem instanceSettings_apart : instanceSettings.Pairwise (fun s t ↦ s.field.Apart t.field) := by
  simp [instanceSettings, Setting.read, Field.Apart]

theorem authSettings_apart : authSettings.Pairwise (fun s t ↦ s.field.Apart t.field) := by
  simp [authSettings, Setting.read, Field.Apart]

omit [UnicodeData] in
theorem policySettings_names : (policySettings.map Setting.name).Nodup := by
  simp only [policySettings, List.map_cons, List.map_nil, Setting.read]
  decide

theorem authSettings_names : (authSettings.map Setting.name).Nodup := by
  simp only [authSettings, List.map_cons, List.map_nil, Setting.read]
  decide

theorem authSettings_covers : Covers authSettings := by
  rintro ⟨⟨⟩⟩ ⟨⟨⟩⟩ h
  simp only [authSettings, Setting.read, List.forall_mem_cons] at h
  simp_all

end Settings

section Overrides

def environmentOr (environ : Dict Str) : Option (Dict Str) → Dict Str
  | some env => if env = [] then environ else env
  | none => environ

def applyPolicyEnvOverrides (environ : Dict Str) (policy : RuntimePolicy) (env : Option (Dict Str)) :
    Except Exc RuntimePolicy :=
  (updates policySettings (environmentOr environ env)).map (fun updateData ↦ copyWith updateData policy)

variable [UnicodeData]

def applyInstanceEnvOverrides (environ : Dict Str) (instances : List SqlInstanceConfig.Complete)
    (env : Option (Dict Str)) : Except Exc (List SqlInstanceConfig.Complete) :=
  (updates instanceSettings (environmentOr environ env)).map (fun updateData ↦ instances.map (copyWith updateData))

def applyAuthEnvOverrides (environ : Dict Str) (auth : AuthConfig.Complete) (env : Option (Dict Str)) :
    Except Exc AuthConfig.Complete :=
  (updates authSettings (environmentOr environ env)).map (fun updateData ↦ copyWith updateData auth)

end Overrides

section Loading

structure RateLimitSection where
  requestsPerMinute : ℤ
  burst : ℤ

structure RateLimitConfig where
  global : RateLimitSection
  actor : RateLimitSection
  session : SessionLimits

structure AppConfig where
  instances : List SqlInstanceConfig.Complete
  policy : RuntimePolicy
  rateLimit : RateLimitConfig
  auth : AuthConfig.Complete

/-- What `yaml.safe_load` finds in a file, the text of a path, how the loop over an object that is no list, text or
dictionary goes, and the `model_validate` of the four models. -/
structure Loader where
  safeLoad : Str → Except Exc Value
  pathText : Str → Str
  items : Str → Except Exc (List Value)
  sqlInstanceConfig : Value → Except Exc SqlInstanceConfig.Complete
  runtimePolicy : Value → Except Exc RuntimePolicy
  authConfig : Value → Except Exc AuthConfig.Complete
  rateLimitConfig : Value → Except Exc RateLimitConfig

namespace Loader

variable (F : Loader)

def loadYaml (path : Str) : Except Exc (Dict Value) :=
  (F.safeLoad path).bind (fun loaded ↦
    match if loaded.truthy then loaded else .dict [] with
    | .dict data => .ok data
    | _ => .error (valueError ("YAML at ".toList ++ F.pathText path ++ " must be a mapping".toList)))

def iterate : Value → Except Exc (List Value)
  | .list l => .ok l
  | .dict d => .ok (d.map (fun e ↦ .str e.1))
  | .str s => .ok (s.map (fun c ↦ .str [c]))
  | .object text => F.items text
  | .none => .error (typeError "'NoneType' object is not iterable".toList)
  | .bool _ => .error (typeError "'bool' object is not iterable".toList)
  | .int _ => .error (typeError "'int' object is not iterable".toList)

end Loader

variable [UnicodeData]

def loadConfig (F : Loader) (environ : Dict Str) (instancesPath policyPath rateLimitPath : Str) :
    Except Exc AppConfig := do
  let instancesRaw ← F.loadYaml instancesPath
  let policyRaw ← F.loadYaml policyPath
  let rateLimitRaw ← F.loadYaml rateLimitPath
  let items ← F.iterate ((instancesRaw.lookup "instances".toList).getD (.list []))
  let validated ← items.mapM F.sqlInstanceConfig
  let instances ← applyInstanceEnvOverrides environ validated none
  if instances = [] then throw (valueError "At least one SQL instance must be configured".toList)
  let policyFile ← F.runtimePolicy (.dict policyRaw)
  let policy ← applyPolicyEnvOverrides environ policyFile none
  let authFile ← F.authConfig ((policyRaw.lookup "auth".toList).getD (.dict []))
  let auth ← applyAuthEnvOverrides environ authFile none
  let rateLimit ← F.rateLimitConfig (.dict rateLimitRaw)
  return { instances, policy, rateLimit, auth }

end Loading

end McpSqlServer

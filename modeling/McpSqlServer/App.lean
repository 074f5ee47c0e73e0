import McpSqlServer.ConfigLoader
import McpSqlServer.ConnectionManager.Lifecycle
import McpSqlServer.RateLimiter
import McpSqlServer.Security.TokenVerifier
import McpSqlServer.Tools.Registration

namespace McpSqlServer.App

open Library Library.Text Library.Python
open TokenVerifier (AzureEntraTokenVerifier)
open ConnectionManager (ManagerCall runCalls)

/-- What the shared `httpx.AsyncClient` goes through. -/
inductive ClientEvent
  | opened
  | closed
  deriving DecidableEq

/-- How the constructors and registrations of other packages end while the application is
built, and the `aclose` of the client. -/
structure Packages where
  asyncClient (timeout maxConnections maxKeepaliveConnections : ℤ) : Except Exc Unit
  compilePatterns : RuntimePolicy → Except Exc Unit
  makeParents (auditPath : Str) : Except Exc Unit
  redisScript (redisUrl : Str) : Except Exc Unit
  tokenVerifier (baseUrl : Option Str) (requiredScopes : List Str) : Except Exc Unit
  fastMcp (auth : Option AzureEntraTokenVerifier) : Except Exc Unit
  mcpTools (names : List Str) : Except Exc Unit
  dashboardApp : Except Exc Unit
  httpApp : Except Exc Unit
  assemble : Except Exc Unit
  aclose : List ClientEvent → Except Exc Unit
  utcNow : Str

section Construction

variable [UnicodeData] (P : Packages)

def unset (value : Option Str) : Bool := value.all List.isEmpty

def missingSettings (auth : AuthConfig.Complete) : List Str :=
  (if unset auth.azureTenantId then ["azure_tenant_id".toList] else []) ++
    (if unset auth.azureClientId then ["azure_client_id".toList] else [])

def buildAuthProvider (auth : AuthConfig.Complete) : Except Exc (Option AzureEntraTokenVerifier) :=
  if !auth.azureAuthEnabled && auth.authMode = "disabled".toList then .ok none
  else if auth.authMode ∉ ["azure_token_verifier".toList, "disabled".toList] then
    .error (valueError ("Unsupported auth_mode: ".toList ++ auth.authMode))
  else if !(auth.azureAuthEnabled || auth.authMode = "azure_token_verifier".toList) then .ok none
  else if missingSettings auth ≠ [] then
    .error (valueError ("Azure Entra auth is enabled but required settings are missing: ".toList ++
      ", ".toList.intercalate (missingSettings auth)))
  else do
    P.tokenVerifier auth.azureBaseUrl auth.azureRequiredScopes
    pure (some { tenantId := auth.azureTenantId.getD [], clientId := auth.azureClientId.getD [],
                 identifierUri := auth.azureIdentifierUri, requiredScopes := some auth.azureRequiredScopes,
                 groupClaimName := auth.azureGroupClaimName })

/-- The two classes of limiters, with what they are made from. -/
inductive Limiter
  | slidingWindow (limits : WindowLimits)
  | redisSlidingWindow (redisUrl : Str) (limits : WindowLimits) (keyNamespace : Str)

def buildRateLimiter (backend : Str) (limits : WindowLimits) (redisUrl : Option Str) (redisNamespace : Str) :
    Except Exc Limiter :=
  if lower (strip backend) = "redis".toList then
    if unset redisUrl then
      .error (valueError "FASTMCP_REDIS_URL is required when FASTMCP_RATE_LIMIT_BACKEND=redis".toList)
    else do
      P.redisScript (redisUrl.getD [])
      pure (.redisSlidingWindow (redisUrl.getD []) limits redisNamespace)
  else .ok (.slidingWindow limits)

/-- `AppState` as it is when the application is built, with the auth of its MCP server. -/
structure AppState where
  version : Str := "1.0.0".toList
  config : AppConfig
  policyPath : Str
  auditPath : Str
  rateLimiter : Limiter
  rateLimitBackend : Str
  registeredTools : List Str
  toolFlagEnvApplied : Bool
  authProvider : Option AzureEntraTokenVerifier
  deniedRequests : ℕ := 0
  lastSecretRefreshUtc : Str

def getenv (environ : Dict Str) (name default : Str) : Str := (environ.lookup name).getD default

def AppConfig.windowLimits (cfg : AppConfig) : WindowLimits where
  actorRpm := cfg.rateLimit.actor.requestsPerMinute
  actorBurst := cfg.rateLimit.actor.burst
  globalRpm := cfg.rateLimit.global.requestsPerMinute
  globalBurst := cfg.rateLimit.global.burst

def AppConfig.instanceConfigs (cfg : AppConfig) : List SqlInstanceConfig :=
  cfg.instances.map SqlInstanceConfig.Complete.toSqlInstanceConfig

/-- The `try` block of `build_fastapi_app`. -/
def construct (environ : Dict Str) (cfg : AppConfig) : Except Exc AppState := do
  let backend := getenv environ "FASTMCP_RATE_LIMIT_BACKEND".toList "local".toList
  let auditPath := getenv environ "FASTMCP_AUDIT_PATH".toList "/var/log/mcp/audit.log".toList
  let limiter ← buildRateLimiter P backend (AppConfig.windowLimits cfg) (environ.lookup "FASTMCP_REDIS_URL".toList)
    (getenv environ "FASTMCP_REDIS_NAMESPACE".toList "mcp:ratelimit".toList)
  P.compilePatterns cfg.policy
  P.makeParents auditPath
  let authProvider ← buildAuthProvider P cfg.auth
  P.fastMcp authProvider
  let registration := registerSqlTools cfg.policy (listEnabledInstances (AppConfig.instanceConfigs cfg))
  P.mcpTools registration.mcpTools
  P.dashboardApp
  pure { config := cfg
         policyPath := getenv environ "FASTMCP_POLICY_PATH".toList "config/runtime-policy.yaml".toList
         auditPath := auditPath
         rateLimiter := limiter
         rateLimitBackend := backend
         registeredTools := registration.registered
         toolFlagEnvApplied := !(getenv environ "FASTMCP_TOOL_ENABLE_FLAGS_JSON".toList []).isEmpty ||
           !(getenv environ "FASTMCP_INSTANCE_TOOL_ENABLE_FLAGS_JSON".toList []).isEmpty
         authProvider := authProvider
         lastSecretRefreshUtc := P.utcNow }

abbrev StartM (α : Type) := Act (List ClientEvent) Exc α

def recordClient (e : ClientEvent) : StartM Unit := Act.modify (fun log ↦ log ++ [e])

def aclose : StartM Unit := do
  recordClient .closed
  let log ← Act.read id
  Act.ofExcept (P.aclose log)

/-- `load_config` on the paths that the environment names. -/
def loadedConfig (F : Loader) (environ : Dict Str) : Except Exc AppConfig :=
  loadConfig F environ (getenv environ "FASTMCP_CONFIG_PATH".toList "config/instances.yaml".toList)
    (getenv environ "FASTMCP_POLICY_PATH".toList "config/runtime-policy.yaml".toList)
    (getenv environ "FASTMCP_RATE_LIMIT_PATH".toList "config/rate-limit.yaml".toList)

def openClient (auth : AuthConfig.Complete) : StartM Unit := do
  Act.ofExcept (P.asyncClient auth.poolTimeoutSeconds auth.poolMaxConnections
    (min auth.poolMaxKeepaliveConnections auth.poolMaxConnections))
  recordClient .opened

/-- Only what its `try` block raises lets `build_fastapi_app` close the client. -/
def buildFastapiApp (F : Loader) (environ : Dict Str) : StartM AppState := do
  let cfg ← Act.ofExcept (loadedConfig F environ)
  openClient P cfg.auth
  let state ← Act.catching (Act.ofExcept (construct P environ cfg)) (fun e ↦
    if e.caught then do
      aclose P
      Act.raise e
    else Act.raise e)
  Act.ofExcept P.httpApp
  Act.ofExcept P.assemble
  pure state

end Construction

section Lifespan

/-- The lifespan of the mounted MCP application; on exit it is given the exception that its
block has ended with, and says whether it is suppressed. -/
structure ParentLifespan where
  enter : Except Exc Unit
  exit : Option Exc → Except Exc Bool

abbrev LifeM (α : Type) := Act (ConnectionManager.World × List ClientEvent) Exc α

/-- `async with parent_lifespan(app): body`, or the body alone. -/
def within (body : LifeM Unit) : Option ParentLifespan → LifeM Unit
  | none => body
  | some parent => do
    Act.ofExcept parent.enter
    let failure ← Act.catching (do
      body
      pure none) (fun e ↦ pure (some e))
    let suppressed ← Act.ofExcept (parent.exit failure)
    match failure with
    | some e => if suppressed then pure () else Act.raise e
    | none => pure ()

variable (S : ConnectionManager.Site) (P : Packages)

/-- The `finally` block of `app_lifespan`. -/
def shutDown : LifeM Unit := do
  let excFromPools ← Act.catching (do
    Act.onFst (ConnectionManager.closeAllPools S)
    pure none) (fun e ↦ if e.caught then pure (some e) else Act.raise e)
  Act.catching (Act.onSnd (aclose P)) (fun e ↦
    if e.caught && excFromPools.isSome then pure () else Act.raise e)
  match excFromPools with
  | some e => Act.raise e
  | none => pure ()

variable [UnicodeData]

/-- What happens between start and end of the application: calls of the manager, one after another, and an exception
that is thrown in at the end, if any. -/
def serve (calls : List ManagerCall) (ending : Except Exc Unit) : LifeM Unit := do
  Act.onFst (Act.modify (runCalls S calls))
  Act.ofExcept ending

def appLifespan (parent : Option ParentLifespan) (calls : List ManagerCall) (ending : Except Exc Unit) : LifeM Unit :=
  Act.ensuring (within (serve S calls ending) parent) (shutDown S P)

def managerOf (cfg : AppConfig) : ConnectionManager.Site := { S with config := AppConfig.instanceConfigs cfg }

def runServer (F : Loader) (environ : Dict Str) (parent : Option ParentLifespan) (calls : List ManagerCall)
    (ending : Except Exc Unit) : LifeM Unit := do
  let state ← Act.onSnd (buildFastapiApp P F environ)
  appLifespan (managerOf S state.config) P parent calls ending

end Lifespan

end McpSqlServer.App

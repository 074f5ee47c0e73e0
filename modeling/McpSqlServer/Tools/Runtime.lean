import McpSqlServer.Library.Effect
import McpSqlServer.RateLimiter
import McpSqlServer.Security
import McpSqlServer.Tools.Requests
import McpSqlServer.WriteGuard

namespace McpSqlServer

open Library Library.Text Library.Python

inductive CatalogQuery
  | tableSize (topN : ℤ)
  | fragmentedIndexes (topN : ℤ)
  | missingPk
  | staleStatistics (topN : ℤ)
  | statisticsNeverUpdated (topN : ℤ)
  | lowSampledStatistics (topN : ℤ)
  | databaseStatisticsSettings
  | missingStatisticsCoverageCandidate (topN : ℤ)
  | statisticsHistogram (schemaName tableName statName : Str)
  | fkGraph
  | missingIndexDmv (topN : ℤ)
  | missingFkIndex
  | redundantIndexes (topN : ℤ)
  | unusedIndexes (topN : ℤ)
  | normalizationColumnOverlap
  | updateHeavyTables (topN : ℤ)
  | softDeleteColumns
  | heapTables
  | datatypeInconsistency (topN : ℤ)
  | orphanUser
  | elevatedRoles
  | backupRecency
  | activeSessions (topN : ℤ)
  | lockChain (topN : ℤ)
  | tranLocks (topN : ℤ)
  | waitingTasks (topN : ℤ)
  | blockingChain (topN : ℤ)
  | topStatementsQueryStore (topN lookbackMinutes : ℤ)
  | topStatementsDmvFallback (topN : ℤ)
  | topStatementsObjectPressure (topN : ℤ)

/-- The text given to `cursor.execute`, by where it comes from. -/
inductive Statement
  | program (text : Str)
  | catalog (query : CatalogQuery)
  | caller (sql : Str)
  | exec (procName : Str) (params : ℕ)

inductive Gate
  | authorize (required : Privilege) (actor : Str)
  | touch (actor : Str)
  | allow (actor : Str)
  | validateProcedure (tool procName : Str)
  | enforce (tool sql : Str)

/-- What a call does to its surroundings. `manager` is a call of a method of `ConnectionManager`. -/
inductive Event
  | notify
  | passed (gate : Gate)
  | refused (gate : Gate)
  | manager (instanceId : Str)
  | connect (instanceId : Str) (databaseOverride : Option Str)
  | execute (instanceId : Str) (statement : Statement)
  | commit (instanceId : Str)
  | logEvent (tool : Str)

structure ResultSet where
  columns : List Str := []
  rows : List Row := []
  rowcount : ℤ := 0
  hasResultSet : Bool := true

/-- The parts of the analysis tools that only compute on rows, and may fail in that. The
results of the queries come in the order in which the tool makes them. -/
structure Reports where
  isoformat : ℚ → Str
  planSummary : ResultSet → Value
  toolMetadata : Str → Value
  histogramCandidates : AnalyzeTabHealthArgs → TabHealthInput → List ResultSet → Except Exc (List (Str × Str × Str))
  tabHealth : Binding → AnalyzeTabHealthArgs → TabHealthInput → List ResultSet → List ResultSet →
    Except Exc (Value × ℕ)
  dataModelGraph : DataModelInput → List Row → Except Exc Unit
  dataModelCheck : CatalogQuery → Option Str → List Row → Except Exc Value
  dataModel : Binding → DataModelInput → List Row → List (Option Value) → Except Exc (Value × ℕ)
  xpCmdshellEnabled : List Row → Except Exc Bool
  secConfig : Binding → Str → List ResultSet → Value → Except Exc (Value × ℕ)
  dashboardPage : Binding → Str → List ResultSet → Str → Except Exc (Str × Dict Value)
  topStatements : Binding → TopStatementsInput → List Row → List Row → Str → Except Exc (Value × ℕ)
  appDashboard : ℤ → Str → ℤ → List ResultSet → Except Exc Value

/-- `AppState` and the configuration behind it. -/
structure Server (β : Type) where
  policy : RuntimePolicy
  auth : Option AuthConfig
  sessionLimits : SessionLimits
  rateLimiter : RateLimiter β
  instances : List SqlInstanceConfig
  registeredTools : List Str
  reports : Reports
  publicBaseUrl : Str

/-- The `Context` that FastMCP injects; a notification may fail. -/
structure McpContext where
  sessionId : Option Str
  outcome : List Event → Except Exc Unit

/-- What surrounds one call. Clock, driver and log answer what the call did last. -/
structure Environment where
  requestId : Str
  token : Option AccessToken
  ctx : Option McpContext
  clock : List Event → ℚ
  driver : List Event → Except Exc ResultSet
  log : List Event → Except Exc Unit

structure Site (β : Type) extends Server β, Environment

structure AuditEvent where
  requestId : Str
  actor : Str
  tool : Str
  instanceId : Str
  sql : Str
  decision : Str
  rows : ℕ
  errorCode : Option Str
  authCtx : Option AuthContext

/-- The local variables that the `except` and `finally` clauses of a tool read. -/
structure Frame where
  actor : Str
  authCtx : Option AuthContext := none
  decision : Str := "allow".toList
  rows : ℕ := 0
  errorCode : Option Str := none

structure Page where
  html : Str
  expiresEpoch : ℚ
  metadata : Option (Dict Value)

/-- The mutable state that calls share, and the events and local variables of the current one. -/
structure World (β : Type) where
  sessions : Sessions
  buckets : β
  deniedRequests : ℕ
  audit : List AuditEvent
  pages : Dict Page
  trace : List Event
  frame : Frame

variable {β : Type}

abbrev ToolM (β α : Type) := Act (World β) Exc α

def World.record (w : World β) (e : Event) : World β := { w with trace := w.trace ++ [e] }

def World.setFrame (w : World β) (f : Frame → Frame) : World β := { w with frame := f w.frame }

def World.begin (w : World β) (actor : Str) : World β := { w with trace := [], frame := { actor := actor } }

def record (e : Event) : ToolM β Unit := Act.modify (fun w ↦ w.record e)

def setFrame (f : Frame → Frame) : ToolM β Unit := Act.modify (fun w ↦ w.setFrame f)

variable (S : Site β)

/-- `if ctx is not None: await ctx.debug(…)`, and the other levels. -/
def notify : ToolM β Unit :=
  match S.ctx with
  | none => pure ()
  | some ctx => do
    record .notify
    let trace ← Act.read World.trace
    Act.ofExcept (ctx.outcome trace)

def notifyIf (condition : Bool) : ToolM β Unit := if condition then notify S else pure ()

def pass (g : Gate) : ToolM β Unit := record (.passed g)

def refuse (g : Gate) (e : Exc) : ToolM β Unit := do
  record (.refused g)
  Act.raise e

def utcNow : ToolM β Str := do
  let trace ← Act.read World.trace
  pure (S.reports.isoformat (S.clock trace))

/-- The outcome of what the driver is asked for; it is recorded before the driver answers. -/
def driver (e : Event) : ToolM β ResultSet := do
  record e
  let trace ← Act.read World.trace
  Act.ofExcept (S.driver trace)

variable [UnicodeData]

def resolveActorAndAuthorize (required : Privilege) : ToolM β Unit := do
  let actor ← Act.read (fun w ↦ w.frame.actor)
  match authorize S.auth S.token actor required with
  | .error e => refuse (.authorize required actor) e
  | .ok (resolved, authCtx) => do
    notifyIf S (authEnforced S.auth)
    setFrame (fun f ↦ { f with actor := resolved, authCtx := some authCtx })
    pass (.authorize required resolved)

omit [UnicodeData] in
def touchSession (mcpSessionId : Option Str) : ToolM β Unit := do
  let w ← Act.read id
  match touch S.sessionLimits (S.clock w.trace) w.frame.actor (sessionKey mcpSessionId S.requestId) w.sessions with
  | (.error e, sessions) => do
    Act.modify (fun w ↦ { w with sessions := sessions })
    refuse (.touch w.frame.actor) e
  | (.ok _, sessions) => do
    Act.modify (fun w ↦ { w with sessions := sessions })
    pass (.touch w.frame.actor)

omit [UnicodeData] in
def allowRequest : ToolM β Unit := do
  let w ← Act.read id
  match S.rateLimiter.allow (S.clock w.trace) w.frame.actor w.buckets with
  | (.error e, buckets) => do
    Act.modify (fun w ↦ { w with buckets := buckets })
    refuse (.allow w.frame.actor) e
  | (.ok _, buckets) => do
    Act.modify (fun w ↦ { w with buckets := buckets })
    pass (.allow w.frame.actor)

def guardVerdict (policy : RuntimePolicy) : Gate → Except Exc Unit
  | .validateProcedure tool procName => validateProcedure policy tool procName
  | .enforce tool sql => enforce policy tool sql
  | _ => .ok ()

def checkGuard (g : Gate) : ToolM β Unit :=
  match guardVerdict S.policy g with
  | .error e => refuse g e
  | .ok _ => pass g

omit [UnicodeData] in
def logAuditEvent (b : Binding) (sql : Str) : ToolM β Unit := do
  record (.logEvent b.tool)
  let w ← Act.read id
  match S.log w.trace with
  | .error e => Act.raise e
  | .ok _ =>
    let f := w.frame
    Act.modify (fun w ↦ { w with audit := w.audit ++
      [⟨S.requestId, f.actor, b.tool, b.instanceId, sql, f.decision, f.rows, f.errorCode, f.authCtx⟩] })

end McpSqlServer

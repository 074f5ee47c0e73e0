import McpSqlServer.ConnectionManager.Queries

namespace McpSqlServer

open Library Library.Text Library.Python

variable {β α : Type} [UnicodeData] (S : Site β)

/-- What the bodies of the SQL tools have in common: the text that is audited, the checks
in their order, and the database that is validated after them. -/
structure ToolCall (α : Type) where
  binding : Binding
  sql : Str
  actor : Str
  required : Privilege := .read
  verbose : Bool := false
  check : Except Exc α
  guards : List Gate
  target : Except Exc (Option Str) := .ok none

def checkGuards : List Gate → ToolM β Unit
  | [] => pure ()
  | g :: gates => do
    checkGuard S g
    checkGuards gates

/-- The `try`, `except` and `finally` of a tool around its own queries. -/
def runTool (call : ToolCall α) (ladder : Exc → ToolM β Value) (body : α → Option Str → ToolM β Value) :
    ToolM β Value := do
  Act.modify (fun w ↦ w.begin call.actor)
  Act.ensuring (Act.catching (do
      notify S
      let input ← Act.ofExcept call.check
      resolveActorAndAuthorize S call.required
      touchSession S (S.ctx.bind McpContext.sessionId)
      notifyIf S call.verbose
      allowRequest S
      notifyIf S call.verbose
      checkGuards S call.guards
      notifyIf S call.verbose
      let database ← Act.ofExcept call.target
      let reply ← body input database
      notify S
      pure reply) ladder) (logAuditEvent S call.binding call.sql)

omit [UnicodeData] in
/-- The part of an `except` clause up to its `ctx` notification. -/
def deny (counted : Bool) (code : Str) : ToolM β Unit := do
  setFrame (fun f ↦ { f with decision := "deny".toList, errorCode := some code })
  Act.modify (fun w ↦ { w with deniedRequests := w.deniedRequests + counted.toNat })
  notify S

/-- The `except` clauses of `_select`, `_exec_proc` and `_run_read_tool`. -/
def readLadder (e : Exc) : ToolM β Value :=
  if e.kind = .permissionError then do
    deny S true e.text
    Act.raise e
  else if e.caught then do
    deny S false (match extractSqlError e with
      | some err => err.code
      | none => "NON_SQL_ERROR:".toList ++ e.className)
    Act.raise e
  else Act.raise e

def sqlErrorCode (e : Exc) : Str :=
  match extractSqlError e with
  | some err => err.code ++ ": ".toList ++ err.sqlMessage
  | none => "SQL_EXECUTION_ERROR: ".toList ++ e.text

/-- The `except` clauses of the other tools: the classes in `plain` are raised again, any
other `Exception` as a `RuntimeError`. -/
def wrapLadder (plain : List ExcKind) (e : Exc) : ToolM β Value :=
  if e.kind ∈ plain then do
    deny S true e.text
    Act.raise e
  else if e.caught then do
    deny S true (sqlErrorCode e)
    Act.raise (runtimeError (sqlErrorCode e))
  else Act.raise e

def analysisLadder : Exc → ToolM β Value := wrapLadder S [.valueError, .permissionError]

omit [UnicodeData] in
def pingReply (b : Binding) (accessible : Bool) (payload : Row) : Dict Value :=
  [("accessible".toList, .bool accessible), ("instance_number".toList, .int b.instanceNumber),
    ("instance_name".toList, payload.get "instance_name".toList), ("hostname".toList, payload.get "hostname".toList),
    ("database_version".toList, payload.get "database_version".toList),
    ("ip_address".toList, payload.get "ip_address".toList)]

omit [UnicodeData] in
def pingLadder (b : Binding) (e : Exc) : ToolM β Value :=
  if e.caught then do
    let code := "INSTANCE_UNREACHABLE: ".toList ++ e.text
    deny S true code
    let now ← utcNow S
    pure (.dict (pingReply b false [] ++
      [("current_system_date".toList, .str now), ("error_code".toList, .str code)]))
  else Act.raise e

omit [UnicodeData] in
def setRows (rows : ℕ) : ToolM β Unit := setFrame (fun f ↦ { f with rows := rows })

def readRows (instanceId : Str) (database : Option Str) (sql : Statement) (maxRows : ℤ) : ToolM β (List Row) :=
  match database with
  | some dbName => do
    let raw ← executeReadInDatabase S instanceId dbName sql maxRows
    pure raw.rows
  | none => executeRead S instanceId sql maxRows

def select (b : Binding) (args : SelectArgs) : ToolM β Value :=
  runTool S { binding := b, sql := args.sql, actor := args.actor, check := .ok (),
              guards := [.enforce b.tool args.sql], target := optionalDatabase args.databaseName }
    (readLadder S) (fun _ database ↦ do
      let rows ← readRows S b.instanceId database (.caller args.sql) S.policy.maxResultRows
      setRows rows.length
      pure (.dict [("instance".toList, .str b.instanceId), ("rows".toList, ofRows rows),
        ("row_count".toList, .int rows.length)]))

omit [UnicodeData] in
/-- What `_exec_proc` shows to the guard in place of its statement. -/
def policyProbe : Str := "EXEC __policy_probe__".toList

def execProc (b : Binding) (args : ExecProcArgs) : ToolM β Value :=
  runTool S { binding := b, sql := "EXEC ".toList ++ args.procName, actor := args.actor, required := .write,
              check := .ok (),
              guards := [.validateProcedure b.tool args.procName, .enforce b.tool policyProbe],
              target := optionalDatabase args.databaseName }
    (readLadder S) (fun _ dbOverride ↦ do
      let (result, rows) ← executeProc S b.instanceId args.procName args.params dbOverride
      setRows rows.length
      pure (.dict (("instance".toList, .str b.instanceId) :: result)))

omit [UnicodeData] in
def latencyReport (b : Binding) (args : ActorArgs) : ToolM β Value := do
  Act.modify (fun w ↦ w.begin args.actor)
  pure (.dict [("instance".toList, .str b.instanceId), ("tool".toList, .str b.tool),
    ("message".toList, .str "Use /diagnostics/metrics for histogram data and rollups.".toList),
    ("actor".toList, .str args.actor)])

def runReadTool (b : Binding) (sql actor : Str) (maxRows : ℤ) (databaseName : Str) : ToolM β Value :=
  runTool S { binding := b, sql := sql, actor := actor, verbose := true, check := .ok (),
              guards := [.enforce b.tool sql], target := optionalDatabase databaseName }
    (readLadder S) (fun _ database ↦ do
      let rows ← readRows S b.instanceId database (.program sql) maxRows
      setRows rows.length
      pure (.dict ([("instance".toList, .str b.instanceId), ("tool".toList, .str b.tool),
        ("row_count".toList, .int rows.length), ("rows".toList, ofRows rows)] ++
        match database with
        | some _ => [("database_name".toList, .str databaseName)]
        | none => [])))

omit [UnicodeData] in
def blockReportSql : Str :=
  ("SELECT TOP 25 r.session_id, r.blocking_session_id, r.wait_type, r.wait_time, t.text " ++
    "FROM sys.dm_exec_requests r CROSS APPLY sys.dm_exec_sql_text(r.sql_handle) t " ++
    "WHERE r.blocking_session_id <> 0 ORDER BY r.wait_time DESC").toList

omit [UnicodeData] in
def topQueriesReportSql (size : ℤ) : Str :=
  "SELECT TOP ".toList ++ intText size ++
    (" qs.total_worker_time, qs.total_elapsed_time, qs.execution_count, DB_NAME(st.dbid) AS database_name, " ++
      "st.text AS query_text FROM sys.dm_exec_query_stats qs CROSS APPLY sys.dm_exec_sql_text(qs.sql_handle) st " ++
      "ORDER BY qs.total_worker_time DESC").toList

omit [UnicodeData] in
def activeSessionsReportSql (size : ℤ) : Str :=
  "SELECT TOP ".toList ++ intText size ++
    (" s.session_id, s.login_name, s.host_name, s.program_name, s.status, r.command, r.wait_type, r.wait_time, " ++
      "r.cpu_time FROM sys.dm_exec_sessions s LEFT JOIN sys.dm_exec_requests r ON s.session_id = r.session_id " ++
      "WHERE s.is_user_process = 1 ORDER BY s.session_id DESC").toList

omit [UnicodeData] in
def indexHealthReportSql (size : ℤ) : Str :=
  "SELECT TOP ".toList ++ intText size ++
    (" OBJECT_NAME(i.object_id) AS table_name, i.name AS index_name, i.type_desc, " ++
      "ISNULL(us.user_seeks,0) AS user_seeks, ISNULL(us.user_scans,0) AS user_scans, " ++
      "ISNULL(us.user_lookups,0) AS user_lookups, ISNULL(us.user_updates,0) AS user_updates " ++
      "FROM sys.indexes i LEFT JOIN sys.dm_db_index_usage_stats us " ++
      "ON i.object_id = us.object_id AND i.index_id = us.index_id AND us.database_id = DB_ID() " ++
      "WHERE i.index_id > 0 ORDER BY ISNULL(us.user_scans,0) + ISNULL(us.user_seeks,0) DESC").toList

omit [UnicodeData] in
def clamp (limit bound : ℤ) : ℤ := max 1 (min limit bound)

def blockReport (b : Binding) (args : BlockReportArgs) : ToolM β Value :=
  runReadTool S b blockReportSql args.actor 25 args.databaseName

def topQueriesReport (b : Binding) (args : ReportArgs 20) : ToolM β Value :=
  runReadTool S b (topQueriesReportSql (clamp args.limit 100)) args.actor (clamp args.limit 100) args.databaseName

def activeSessionsReport (b : Binding) (args : ReportArgs 50) : ToolM β Value :=
  runReadTool S b (activeSessionsReportSql (clamp args.limit 200)) args.actor (clamp args.limit 200) args.databaseName

def indexHealthReport (b : Binding) (args : ReportArgs 50) : ToolM β Value :=
  runReadTool S b (indexHealthReportSql (clamp args.limit 200)) args.actor (clamp args.limit 200) args.databaseName

omit [UnicodeData] in
def masterDatabase : Str := "master".toList

omit [UnicodeData] in
def pingSql : Str :=
  ("SELECT @@SERVERNAME AS instance_name, CAST(SERVERPROPERTY('MachineName') AS NVARCHAR(128)) AS hostname, " ++
    "CAST(SERVERPROPERTY('ProductVersion') AS NVARCHAR(128)) AS database_version, " ++
    "CONVERT(NVARCHAR(64), CONNECTIONPROPERTY('local_net_address')) AS ip_address, " ++
    "CONVERT(NVARCHAR(33), SYSUTCDATETIME(), 127) AS current_system_date").toList

def ping (b : Binding) (args : ActorArgs) : ToolM β Value :=
  runTool S { binding := b, sql := pingSql, actor := args.actor, check := .ok (), guards := [] }
    (pingLadder S b) (fun _ _ ↦ do
      let payload ← fetchSingleRowInDatabase S b.instanceId masterDatabase (.program pingSql)
      setRows (if payload.isEmpty then 0 else 1)
      pure (.dict (pingReply b true payload ++
        [("current_system_date".toList, payload.get "current_system_date".toList)])))

omit [UnicodeData] in
def listToolsSql : Str :=
  ("SELECT @@SERVERNAME AS instance_name, " ++
    "CONVERT(NVARCHAR(64), CONNECTIONPROPERTY('local_net_address')) AS ip_address, " ++
    "CONVERT(NVARCHAR(33), SYSUTCDATETIME(), 127) AS current_system_date").toList

def listTools (b : Binding) (args : ActorArgs) : ToolM β Value :=
  runTool S { binding := b, sql := listToolsSql, actor := args.actor, check := .ok (), guards := [] }
    (wrapLadder S []) (fun _ _ ↦ do
      let info ← fetchSingleRowInDatabase S b.instanceId masterDatabase (.program listToolsSql)
      let namePrefix := "db_".toList ++ intText b.instanceNumber ++ "_sql2019_".toList
      let matching := S.registeredTools.filter (fun name ↦ namePrefix.isPrefixOf name)
      setRows matching.length
      pure (.dict [("instance_number".toList, .int b.instanceNumber),
        ("database_instance_name".toList, info.get "instance_name".toList),
        ("ip_address".toList, info.get "ip_address".toList),
        ("system_date".toList, info.get "current_system_date".toList),
        ("tools".toList, .list (matching.map (fun name ↦
          .dict [("name".toList, .str name),
            ("metadata".toList, S.reports.toolMetadata (name.drop namePrefix.length))])))]))

def listObject (b : Binding) (args : ListObjectArgs) : ToolM β Value :=
  runTool S { binding := b, actor := args.actor, check := .ok (), guards := [],
              sql := "LIST_OBJECT database=".toList ++ args.databaseName ++ " type=".toList ++ args.objectType }
    (wrapLadder S [.valueError]) (fun _ _ ↦ do
      let rows ← listObjects S b.instanceId args.databaseName args.objectType
      setRows rows.length
      let now ← utcNow S
      pure (.dict [("instance_number".toList, .int b.instanceNumber),
        ("database_name".toList, .str args.databaseName), ("system_date".toList, .str now),
        ("object_type".toList, .str (lower args.objectType)), ("objects".toList, ofRows rows),
        ("row_count".toList, .int rows.length)]))

/-- The explain plan of `_execute_query` in mode `FULL`, or why there is none. -/
def explainedPlan (b : Binding) (args : ExecuteQueryArgs) : ToolM β Value :=
  Act.catching (explainQuery S b.instanceId args.databaseName (.caller args.sqlStatement)) (fun e ↦
    if e.caught then
      pure (.dict [("available".toList, .bool false), ("estimated_cost".toList, .none),
        ("accessed_objects".toList, .list []),
        ("error".toList, .str ("SQL_EXECUTION_ERROR: ".toList ++ e.text))])
    else Act.raise e)

def executeQuery (b : Binding) (args : ExecuteQueryArgs) : ToolM β Value :=
  runTool S { binding := b, sql := args.sqlStatement, actor := args.actor, check := validateViewMode args.viewMode,
              guards := [.enforce b.tool args.sqlStatement] }
    (analysisLadder S) (fun viewMode _ ↦ do
      let result ← executeReadInDatabase S b.instanceId args.databaseName (.caller args.sqlStatement)
        S.policy.maxResultRows
      setRows result.rows.length
      let now ← utcNow S
      let output : Dict Value := [("instance_number".toList, .int b.instanceNumber),
        ("database_name".toList, .str args.databaseName),
        ("execution_datetime_utc".toList, .str now), ("view_mode".toList, .str viewMode),
        ("columns".toList, .list (result.columns.map .str)), ("row_count".toList, .int result.rows.length),
        ("rows".toList, ofRows result.rows)]
      if viewMode = "FULL".toList then do
        let plan ← explainedPlan S b args
        pure (.dict (output ++ [("plan".toList, plan)]))
      else pure (.dict output))

end McpSqlServer

import McpSqlServer.Tools.Runtime

namespace McpSqlServer

open Library Library.Text Library.Python

variable {β α : Type} [UnicodeData] (S : Site β)

def isTransientReadError (exc : Exc) : Bool :=
  let sqlstate := match exc.args with
    | first :: _ => upper (strip first)
    | [] => []
  let message := if exc.args.isEmpty then lower exc.text else lower ([' '].intercalate exc.args)
  sqlstate ∈ ["08S01".toList, "08001".toList, "HYT00".toList, "HYT01".toList] ||
    occursIn "tcp provider".toList message || occursIn "communication link failure".toList message

omit [UnicodeData] in
def connect (instanceId : Str) (databaseOverride : Option Str) (block : ToolM β α) : ToolM β α :=
  if S.instances.any (fun inst ↦ inst.id = instanceId) then do
    let _ ← driver S (.connect instanceId databaseOverride)
    block
  else Act.raise (keyError instanceId)

def readAttempts (instanceId : Str) (databaseOverride : Option Str) (operation : ToolM β α) : ℕ → ToolM β α
  | 0 => Act.raise (runtimeError "Read operation failed unexpectedly".toList)
  | n + 1 => Act.catching (connect S instanceId databaseOverride operation) (fun e ↦
      if e.caught && decide (n ≠ 0) && isTransientReadError e then
        readAttempts instanceId databaseOverride operation n
      else Act.raise e)

def readRetryAttempts : ℕ := 2

def runReadOperation (instanceId : Str) (databaseOverride : Option Str) (operation : ToolM β α) : ToolM β α :=
  readAttempts S instanceId databaseOverride operation readRetryAttempts

omit [UnicodeData] in
def execute (instanceId : Str) (statement : Statement) : ToolM β ResultSet := driver S (.execute instanceId statement)

def executeRead (instanceId : Str) (sql : Statement) (maxRows : ℤ) : ToolM β (List Row) := do
  record (.manager instanceId)
  runReadOperation S instanceId none (do
    let result ← execute S instanceId sql
    pure (result.rows.take maxRows.toNat))

def executeReadInDatabase (instanceId databaseName : Str) (sql : Statement) (maxRows : ℤ) : ToolM β ResultSet := do
  record (.manager instanceId)
  runReadOperation S instanceId (some databaseName) (do
    let result ← execute S instanceId sql
    pure { result with rows := result.rows.take maxRows.toNat })

def executeCatalogQuery (instanceId databaseName : Str) (sql : Statement) (maxRows : ℤ) : ToolM β ResultSet :=
  executeReadInDatabase S instanceId databaseName sql maxRows

def fetchSingleRowInDatabase (instanceId databaseName : Str) (sql : Statement) : ToolM β Row := do
  record (.manager instanceId)
  runReadOperation S instanceId (some databaseName) (do
    let result ← execute S instanceId sql
    pure (result.rows.head?.getD []))

omit [UnicodeData] in
def objectTypeMap : Dict Str :=
  [("table".toList, "U".toList), ("view".toList, "V".toList), ("procedure".toList, "P".toList),
    ("function".toList, "FN".toList), ("synonym".toList, "SN".toList)]

omit [UnicodeData] in
def listObjectsSql (maxRows : ℤ) : Str :=
  "SELECT TOP ".toList ++ intText maxRows ++
    (" o.name AS object_name, s.name AS schema_name, o.type_desc AS object_type, DB_NAME() AS owning_database " ++
      "FROM sys.objects o JOIN sys.schemas s ON s.schema_id = o.schema_id WHERE o.type = ? " ++
      "ORDER BY s.name, o.name").toList

def listObjects (instanceId databaseName objectType : Str) : ToolM β (List Row) := do
  record (.manager instanceId)
  if (objectTypeMap.lookup (strip (lower objectType))).isSome then
    runReadOperation S instanceId (some databaseName) (do
      let result ← execute S instanceId (.program (listObjectsSql 5000))
      pure result.rows)
  else Act.raise (valueError
    "INVALID_INPUT: object_type must be one of table, view, procedure, function, synonym".toList)

def explainQuery (instanceId databaseName : Str) (sql : Statement) : ToolM β Value := do
  record (.manager instanceId)
  let result ← runReadOperation S instanceId (some databaseName) (do
    let _ ← execute S instanceId (.program "SET SHOWPLAN_ALL ON".toList)
    Act.ensuring (execute S instanceId sql) (do
      let _ ← execute S instanceId (.program "SET SHOWPLAN_ALL OFF".toList)
      pure ()))
  pure (S.reports.planSummary result)

omit [UnicodeData] in
/-- `execute_proc`; the parameters are bound, so only their number is in the statement. -/
def executeProc (instanceId procName : Str) (params : List Value) (databaseOverride : Option Str) :
    ToolM β (Dict Value × List Row) := do
  record (.manager instanceId)
  connect S instanceId databaseOverride (do
    let result ← execute S instanceId (.exec procName params.length)
    let rows := if result.hasResultSet then result.rows else []
    let _ ← driver S (.commit instanceId)
    pure ([("status".toList, .str "ok".toList), ("procedure".toList, .str procName),
      ("rowcount".toList, .int result.rowcount), ("has_result_set".toList, .bool result.hasResultSet),
      ("columns".toList, .list (if result.hasResultSet then result.columns.map .str else [])),
      ("rows".toList, ofRows rows)], rows))

end McpSqlServer

import McpSqlServer.Tools.InputValidation
import McpSqlServer.ConnectionManager.Statements

namespace McpSqlServer

open Library.Text Library.Python

/-- The values of the parameters `_tool`, `_instance` and `_instance_number` of a tool
function; their defaults are set at its registration. -/
structure Binding where
  tool : Str
  instanceId : Str
  instanceNumber : ℤ
  deriving DecidableEq

structure Overrides where
  tool : Option Str := none
  instanceId : Option Str := none
  instanceNumber : Option ℤ := none

def Binding.override (b : Binding) (o : Overrides) : Binding :=
  ⟨o.tool.getD b.tool, o.instanceId.getD b.instanceId, o.instanceNumber.getD b.instanceNumber⟩

structure SelectArgs where
  sql : Str
  actor : Str := "unknown".toList
  databaseName : Str := []

structure ExecProcArgs where
  procName : Str
  params : List Value := []
  actor : Str := "unknown".toList
  databaseName : Str := []

structure ActorArgs where
  actor : Str := "system".toList

structure BlockReportArgs where
  actor : Str := "system".toList
  databaseName : Str := []

structure ReportArgs (defaultLimit : ℤ) where
  limit : ℤ := defaultLimit
  actor : Str := "system".toList
  databaseName : Str := []

structure ListObjectArgs where
  databaseName : Str
  objectType : Str
  actor : Str := "system".toList

structure ExecuteQueryArgs where
  databaseName : Str
  sqlStatement : Str
  viewMode : Str := "COMPACT".toList
  actor : Str := "system".toList

structure AnalyzeTabHealthArgs where
  databaseName : Str
  schemaName : Option Str := none
  tableName : Option Str := none
  includeIndexes : Bool := true
  includeStatistics : Bool := true
  includeHistogramAnalysis : Bool := false
  histogramTopN : ℤ := 10
  topN : ℤ := 50
  actor : Str := "system".toList

structure AnalyzeDbDataModelArgs where
  databaseName : Str
  schemaFilter : Option Str := none
  maxEdges : ℤ := 500
  actor : Str := "system".toList

structure AnalyzeSecConfigArgs where
  databaseName : Str
  includeServerScope : Bool := true
  actor : Str := "system".toList

structure SessionsDashboardArgs where
  databaseName : Str := "master".toList
  lookbackMinutes : ℤ := 15
  includeLocks : Bool := true
  actor : Str := "system".toList

structure TopStatementsArgs where
  databaseName : Str
  topN : ℤ := 25
  lookbackMinutes : ℤ := 1440
  viewMode : Str := "COMPACT".toList
  actor : Str := "system".toList

inductive Request
  | select (args : SelectArgs)
  | execProc (args : ExecProcArgs)
  | latencyReport (args : ActorArgs)
  | blockReport (args : BlockReportArgs)
  | topQueriesReport (args : ReportArgs 20)
  | activeSessionsReport (args : ReportArgs 50)
  | indexHealthReport (args : ReportArgs 50)
  | ping (args : ActorArgs)
  | listTools (args : ActorArgs)
  | listObject (args : ListObjectArgs)
  | executeQuery (args : ExecuteQueryArgs)
  | analyzeTabHealth (args : AnalyzeTabHealthArgs)
  | analyzeDbDataModel (args : AnalyzeDbDataModelArgs)
  | analyzeSecConfig (args : AnalyzeSecConfigArgs)
  | sessionsDashboard (args : SessionsDashboardArgs)
  | topStatements (args : TopStatementsArgs)

variable [UnicodeData]

structure TabHealthInput where
  dbName : Str
  schemaName : Option Str
  tableName : Option Str
  size : ℤ
  histogramLimit : ℤ

def optionalIdentifier (fieldName : Str) : Option Str → Except Exc (Option Str)
  | none => .ok none
  | some name => (validateIdentifier name fieldName).map some

def AnalyzeTabHealthArgs.check (args : AnalyzeTabHealthArgs) : Except Exc TabHealthInput := do
  let dbName ← validateDatabaseName args.databaseName
  let schemaName ← optionalIdentifier "schema_name".toList args.schemaName
  let tableName ← optionalIdentifier "table_name".toList args.tableName
  let size ← validatePositiveInt args.topN "top_n".toList 1 500
  let histogramLimit ← validatePositiveInt args.histogramTopN "histogram_top_n".toList 1 100
  pure ⟨dbName, schemaName, tableName, size, histogramLimit⟩

structure DataModelInput where
  dbName : Str
  schemaFilter : Option Str
  edgeLimit : ℤ

def AnalyzeDbDataModelArgs.check (args : AnalyzeDbDataModelArgs) : Except Exc DataModelInput := do
  let dbName ← validateDatabaseName args.databaseName
  let schemaFilter ← optionalIdentifier "schema_filter".toList args.schemaFilter
  let edgeLimit ← validatePositiveInt args.maxEdges "max_edges".toList 1 5000
  pure ⟨dbName, schemaFilter, edgeLimit⟩

def AnalyzeSecConfigArgs.check (args : AnalyzeSecConfigArgs) : Except Exc Str := validateDatabaseName args.databaseName

def SessionsDashboardArgs.check (args : SessionsDashboardArgs) : Except Exc Str := do
  let dbName ← validateDatabaseName args.databaseName
  let _ ← validatePositiveInt args.lookbackMinutes "lookback_minutes".toList 1 1440
  pure dbName

structure TopStatementsInput where
  dbName : Str
  size : ℤ
  lookbackMinutes : ℤ
  viewMode : Str

def TopStatementsArgs.check (args : TopStatementsArgs) : Except Exc TopStatementsInput := do
  let dbName ← validateDatabaseName args.databaseName
  let size ← validatePositiveInt args.topN "top_n".toList 1 500
  let lookbackMinutes ← validatePositiveInt args.lookbackMinutes "lookback_minutes".toList 1 10080
  let viewMode ← validateViewMode args.viewMode
  pure ⟨dbName, size, lookbackMinutes, viewMode⟩

end McpSqlServer

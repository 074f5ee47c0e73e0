import McpSqlServer.Tools.DashboardPages
import McpSqlServer.Tools.SqlTools
import Mathlib.Algebra.Ring.Nat

namespace McpSqlServer

open Library Library.Text Library.Python

variable {β : Type} [UnicodeData] (S : Site β)

def catalogQuery (instanceId dbName : Str) (query : CatalogQuery) (maxRows : ℤ) : ToolM β ResultSet :=
  executeCatalogQuery S instanceId dbName (.catalog query) maxRows

/-- The queries of a branch that may be left out; without it the tools use empty results. -/
def catalogQueriesIf (cond : Bool) (instanceId dbName : Str) (queries : List (CatalogQuery × ℤ)) :
    ToolM β (List ResultSet) :=
  if cond then Act.each (fun q ↦ catalogQuery S instanceId dbName q.1 q.2) queries
  else pure (queries.map (fun _ ↦ {}))

def histogramSteps (instanceId dbName : Str) (candidate : Str × Str × Str) : ToolM β ResultSet :=
  if candidate.1 = [] ∨ candidate.2.1 = [] ∨ candidate.2.2 = [] then pure {}
  else catalogQuery S instanceId dbName (.statisticsHistogram candidate.1 candidate.2.1 candidate.2.2) 200

def analyzeTabHealth (b : Binding) (args : AnalyzeTabHealthArgs) : ToolM β Value :=
  runTool S { binding := b, sql := "ANALYZE_TAB_HEALTH".toList, actor := args.actor, check := args.check,
              guards := [.enforce b.tool "SELECT 1".toList] }
    (analysisLadder S) (fun input _ ↦ do
      let tableSizes ← catalogQuery S b.instanceId input.dbName (.tableSize input.size) input.size
      let fragmented ← catalogQueriesIf S args.includeIndexes b.instanceId input.dbName
        [(.fragmentedIndexes input.size, input.size)]
      let missingPk ← catalogQuery S b.instanceId input.dbName .missingPk input.size
      let statistics ← catalogQueriesIf S args.includeStatistics b.instanceId input.dbName
        [(.staleStatistics input.size, input.size), (.statisticsNeverUpdated input.size, input.size),
          (.lowSampledStatistics input.size, input.size), (.databaseStatisticsSettings, 1),
          (.missingStatisticsCoverageCandidate input.size, input.size)]
      let results := [tableSizes] ++ fragmented ++ [missingPk] ++ statistics
      let candidates ← Act.ofExcept (S.reports.histogramCandidates args input results)
      let histograms ← Act.each (histogramSteps S b.instanceId input.dbName) candidates
      let (report, rows) ← Act.ofExcept (S.reports.tabHealth b args input results histograms)
      setRows rows
      pure report)

/-- One check of the `_subtool_analyze_*` helpers: a failed one is skipped. -/
def subtoolCheck (instanceId : Str) (input : DataModelInput) (check : Bool × CatalogQuery × ℤ) :
    ToolM β (Option Value) :=
  Act.catching (do
    notifyIf S check.1
    let result ← catalogQuery S instanceId input.dbName check.2.1 check.2.2
    let finding ← Act.ofExcept (S.reports.dataModelCheck check.2.1 input.schemaFilter result.rows)
    pure (some finding)) (fun e ↦
      if e.caught then do
        notify S
        pure none
      else Act.raise e)

omit [UnicodeData] in
/-- The checks of `_subtool_analyze_indexes`, `_normalization`, `_anomalies` and
`_datatype_consistency`, and whether they begin with a `ctx` notification. -/
def dataModelChecks : List (Bool × CatalogQuery × ℤ) :=
  [(true, .missingIndexDmv 50, 50), (false, .missingFkIndex, 200), (false, .redundantIndexes 100, 100),
    (false, .unusedIndexes 100, 100), (true, .normalizationColumnOverlap, 200), (true, .updateHeavyTables 50, 50),
    (true, .softDeleteColumns, 200), (true, .heapTables, 200), (true, .datatypeInconsistency 200, 200)]

def analyzeDbDataModel (b : Binding) (args : AnalyzeDbDataModelArgs) : ToolM β Value :=
  runTool S { binding := b, sql := "ANALYZE_DB_DATA_MODEL".toList, actor := args.actor, check := args.check,
              guards := [.enforce b.tool "SELECT 1".toList] }
    (analysisLadder S) (fun input _ ↦ do
      let graphRows ← catalogQuery S b.instanceId input.dbName .fkGraph input.edgeLimit
      Act.ofExcept (S.reports.dataModelGraph input graphRows.rows)
      notify S
      let checks ← Act.each (subtoolCheck S b.instanceId input) dataModelChecks
      let (report, rows) ← Act.ofExcept (S.reports.dataModel b input graphRows.rows checks)
      setRows rows
      pure report)

omit [UnicodeData] in
def xpCmdshellSql : Str :=
  "SELECT CAST(value_in_use AS INT) AS value_in_use FROM sys.configurations WHERE name = 'xp_cmdshell'".toList

def xpCmdshell (instanceId : Str) (includeServerScope : Bool) : ToolM β Value :=
  if includeServerScope then
    Act.catching (do
      let xpRows ← executeCatalogQuery S instanceId masterDatabase (.program xpCmdshellSql) 1
      let enabled ← Act.ofExcept (S.reports.xpCmdshellEnabled xpRows.rows)
      pure (.bool enabled)) (fun e ↦ if e.caught then pure (.str e.text) else Act.raise e)
  else pure (.bool false)

def analyzeSecConfig (b : Binding) (args : AnalyzeSecConfigArgs) : ToolM β Value :=
  runTool S { binding := b, sql := "ANALYZE_SEC_CONFIG".toList, actor := args.actor, check := args.check,
              guards := [.enforce b.tool "SELECT 1".toList] }
    (analysisLadder S) (fun dbName _ ↦ do
      let orphanUsers ← catalogQuery S b.instanceId dbName .orphanUser 200
      let elevatedRoles ← catalogQuery S b.instanceId dbName .elevatedRoles 500
      let backupRows ← catalogQuery S b.instanceId masterDatabase .backupRecency 200
      let xp ← xpCmdshell S b.instanceId args.includeServerScope
      let (report, rows) ← Act.ofExcept (S.reports.secConfig b dbName [orphanUsers, elevatedRoles, backupRows] xp)
      setRows rows
      pure report)

def dashboardQueries (instanceId dbName : Str) (includeLocks : Bool) : ToolM β (List ResultSet) := do
  let sessions ← catalogQuery S instanceId dbName (.activeSessions 200) 200
  let locks ← catalogQueriesIf S includeLocks instanceId dbName
    [(.lockChain 200, 200), (.tranLocks 200, 200), (.waitingTasks 200, 200), (.blockingChain 200, 200)]
  pure (sessions :: locks)

omit [UnicodeData] in
def refreshUrl (requestId : Str) : Str := "/diagnostics/dashboards/".toList ++ requestId ++ "/refresh".toList

def sessionsDashboard (b : Binding) (args : SessionsDashboardArgs) : ToolM β Value :=
  runTool S { binding := b, sql := "SESSIONS_DASHBOARD".toList, actor := args.actor, check := args.check,
              guards := [.enforce b.tool "SELECT 1".toList] }
    (analysisLadder S) (fun dbName _ ↦ do
      let results ← dashboardQueries S b.instanceId dbName args.includeLocks
      setRows (results.map (fun r ↦ r.rows.length)).sum
      let (html, payload) ← Act.ofExcept (S.reports.dashboardPage b dbName results (refreshUrl S.requestId))
      let dashboardUrl ← registerDashboardPageWithMetadata S S.requestId html 900 (some
        [("instance_id".toList, .str b.instanceId), ("instance_number".toList, .int b.instanceNumber),
          ("database_name".toList, .str dbName), ("lookback_minutes".toList, .int args.lookbackMinutes),
          ("include_locks".toList, .bool args.includeLocks)])
      let expiresAtUtc ← getDashboardPageExpiryUtc S S.requestId
      let head : Dict Value := [("dashboard_url".toList, .str dashboardUrl), ("request_id".toList, .str S.requestId),
        ("expires_at_utc".toList, expiresAtUtc)]
      pure (.dict (head ++ payload.filter (fun item ↦ (head.lookup item.1).isNone))))

def isQueryStoreUnavailable (exc : Exc) : Bool :=
  let text := lower exc.text
  exc.sqlstate ∈ [some "42S02".toList, some "42000".toList] || occursIn "query_store".toList text ||
    occursIn "invalid object name".toList text || occursIn "permission".toList text

def dmvFallback (instanceId dbName : Str) (topN : ℤ) (exc : Exc) : ToolM β (List Row × Str) :=
  if exc.caught && isQueryStoreUnavailable exc then
    Act.catching (do
      let result ← catalogQuery S instanceId dbName (.topStatementsDmvFallback topN) topN
      pure (result.rows, "dmv_fallback".toList)) (fun e ↦
        if e.caught then pure ([], "unavailable".toList) else Act.raise e)
  else Act.raise exc

def objectPressure (instanceId dbName : Str) (topN : ℤ) : ToolM β (List Row) :=
  Act.catching (do
    let result ← catalogQuery S instanceId dbName (.topStatementsObjectPressure topN) topN
    pure result.rows) (fun e ↦ if e.caught then pure [] else Act.raise e)

/-- `_collect_top_statement_metrics`, before its rows are normalised. -/
def collectTopStatementMetrics (instanceId dbName : Str) (topN lookbackMinutes : ℤ) :
    ToolM β (List Row × List Row × Str) := do
  let stmt ← Act.catching (do
      let result ← catalogQuery S instanceId dbName (.topStatementsQueryStore topN lookbackMinutes) topN
      pure (result.rows, "query_store".toList)) (dmvFallback S instanceId dbName topN)
  let objRows ← objectPressure S instanceId dbName topN
  pure (stmt.1, objRows, stmt.2)

def topStatements (b : Binding) (args : TopStatementsArgs) : ToolM β Value :=
  runTool S { binding := b, sql := "TOP_STATEMENTS".toList, actor := args.actor, check := args.check,
              guards := [.enforce b.tool "SELECT 1".toList] }
    (analysisLadder S) (fun input _ ↦ do
      let (stmtRows, objRows, dataSource) ← collectTopStatementMetrics S b.instanceId input.dbName input.size
        input.lookbackMinutes
      let (report, rows) ← Act.ofExcept (S.reports.topStatements b input stmtRows objRows dataSource)
      setRows rows
      pure report)

def runRequest (b : Binding) : Request → ToolM β Value
  | .select args => select S b args
  | .execProc args => execProc S b args
  | .latencyReport args => latencyReport b args
  | .blockReport args => blockReport S b args
  | .topQueriesReport args => topQueriesReport S b args
  | .activeSessionsReport args => activeSessionsReport S b args
  | .indexHealthReport args => indexHealthReport S b args
  | .ping args => ping S b args
  | .listTools args => listTools S b args
  | .listObject args => listObject S b args
  | .executeQuery args => executeQuery S b args
  | .analyzeTabHealth args => analyzeTabHealth S b args
  | .analyzeDbDataModel args => analyzeDbDataModel S b args
  | .analyzeSecConfig args => analyzeSecConfig S b args
  | .sessionsDashboard args => sessionsDashboard S b args
  | .topStatements args => topStatements S b args

/-- A call by a client, whose arguments are bound to the parameters of the function by name. -/
def invoke (b : Binding) (o : Overrides) (req : Request) : ToolM β Value := runRequest S (b.override o) req

end McpSqlServer

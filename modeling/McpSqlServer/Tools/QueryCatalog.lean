import McpSqlServer.Library.Python.Exc
import McpSqlServer.Library.Python.FString

namespace McpSqlServer

open Library.Text Library.Python

inductive QueryParam
  | topN
  | lookbackMinutes
  deriving DecidableEq

def QueryParam.maximum : QueryParam → ℤ
  | .topN => 10000
  | .lookbackMinutes => 10080

def QueryParam.message : QueryParam → Str
  | .topN => "top_n must be between 1 and 10000".toList
  | .lookbackMinutes => "lookback_minutes must be between 1 and 10080".toList

/-- `_validate_top_n` and `_validate_lookback_minutes` of an integer. -/
def QueryParam.validate (p : QueryParam) (value : ℤ) : Except Exc Unit :=
  if value < 1 ∨ p.maximum < value then .error (valueError p.message) else .ok ()

def tableSizeQuery : FString QueryParam :=
  [.text "SELECT TOP ", .hole .topN 1, .text " s.name AS schema_name, t.name AS table_name, ",
   .text "SUM(ps.row_count) AS row_count, ",
   .text "CAST(SUM(ps.used_page_count) * 8.0 / 1024 AS DECIMAL(18,2)) AS total_space_mb ",
   .text "FROM sys.tables t ", .text "JOIN sys.schemas s ON t.schema_id = s.schema_id ",
   .text "JOIN sys.dm_db_partition_stats ps ON t.object_id = ps.object_id AND ps.index_id IN (0,1) ",
   .text "WHERE t.is_ms_shipped = 0 ", .text "GROUP BY s.name, t.name ", .text "ORDER BY total_space_mb DESC ",
   .text "OPTION (MAXDOP 1)"]

def fragmentedIndexesQuery : FString QueryParam :=
  [.text "WITH candidate_tables AS (", .text "SELECT TOP ", .hole .topN 4, .text " t.object_id ",
   .text "FROM sys.tables t ",
   .text "JOIN sys.dm_db_partition_stats p ON t.object_id = p.object_id AND p.index_id IN (0,1) ",
   .text "GROUP BY t.object_id ", .text "ORDER BY SUM(p.row_count) DESC", .text ") ", .text "SELECT TOP ",
   .hole .topN 1, .text " OBJECT_SCHEMA_NAME(ps.object_id) AS schema_name, ",
   .text "OBJECT_NAME(ps.object_id) AS table_name, i.name AS index_name, ",
   .text "ps.avg_fragmentation_in_percent, ps.page_count ", .text "FROM candidate_tables ct ",
   .text "CROSS APPLY sys.dm_db_index_physical_stats(DB_ID(), ct.object_id, NULL, NULL, 'LIMITED') ps ",
   .text "JOIN sys.indexes i ON ps.object_id = i.object_id AND ps.index_id = i.index_id ",
   .text "WHERE ps.index_id > 0 AND ps.index_level = 0 AND ps.page_count >= 100 ",
   .text "AND OBJECTPROPERTY(ps.object_id, 'IsUserTable') = 1 ",
   .text "ORDER BY ps.avg_fragmentation_in_percent DESC, ps.page_count DESC ", .text "OPTION (MAXDOP 1)"]

def activeSessionsQuery : FString QueryParam :=
  [.text "SELECT TOP ", .hole .topN 1, .text " s.session_id, s.login_name, s.host_name, s.program_name, s.status, ",
   .text "DB_NAME(s.database_id) AS session_database_name, ",
   .text "s.open_transaction_count, s.login_time, s.last_request_start_time, ",
   .text "r.command, r.wait_type, r.wait_time, r.cpu_time, r.blocking_session_id, r.start_time, ",
   .text "SUBSTRING(st.text, 1, 500) AS sql_command ", .text "FROM sys.dm_exec_sessions s ",
   .text "LEFT JOIN sys.dm_exec_requests r ON s.session_id = r.session_id ",
   .text "OUTER APPLY sys.dm_exec_sql_text(r.sql_handle) st ", .text "WHERE s.is_user_process = 1 ",
   .text "ORDER BY r.wait_time DESC, s.session_id ", .text "OPTION (RECOMPILE)"]

def lockChainQuery : FString QueryParam :=
  [.text "SELECT TOP ", .hole .topN 1,
   .text " wt.session_id, wt.blocking_session_id, wt.wait_type, wt.wait_duration_ms, wt.resource_description ",
   .text "FROM sys.dm_os_waiting_tasks wt ", .text "WHERE wt.blocking_session_id IS NOT NULL ",
   .text "ORDER BY wt.wait_duration_ms DESC ", .text "OPTION (RECOMPILE)"]

def blockingChainQuery : FString QueryParam :=
  [.text "SELECT TOP ", .hole .topN 1, .text " ", .text "r.session_id, ", .text "r.blocking_session_id, ",
   .text "r.wait_type, ", .text "r.wait_time, ", .text "s.status, ", .text "s.login_name, ", .text "s.host_name, ",
   .text "r.command ", .text "FROM sys.dm_exec_requests r ",
   .text "JOIN sys.dm_exec_sessions s ON r.session_id = s.session_id ", .text "WHERE r.blocking_session_id > 0 ",
   .text "ORDER BY r.blocking_session_id, r.wait_time DESC ", .text "OPTION (RECOMPILE)"]

def tranLocksQuery : FString QueryParam :=
  [.text "SELECT TOP ", .hole .topN 1, .text " ", .text "tl.request_session_id AS session_id, ",
   .text "tl.resource_type, ", .text "tl.resource_database_id, ", .text "tl.resource_associated_entity_id, ",
   .text "tl.request_mode, ", .text "tl.request_status, ", .text "tl.request_owner_type ",
   .text "FROM sys.dm_tran_locks tl ", .text "WHERE tl.request_status IN ('GRANT', 'WAIT') ",
   .text "ORDER BY tl.request_status DESC, tl.request_session_id"]

def waitingTasksQuery : FString QueryParam :=
  [.text "SELECT TOP ", .hole .topN 1, .text " ", .text "wt.session_id, ", .text "wt.blocking_session_id, ",
   .text "wt.wait_type, ", .text "wt.wait_duration_ms, ", .text "wt.resource_description ",
   .text "FROM sys.dm_os_waiting_tasks wt ", .text "ORDER BY wt.wait_duration_ms DESC ", .text "OPTION (RECOMPILE)"]

def staleStatisticsQuery : FString QueryParam :=
  [.text "WITH top_tables AS (", .text "SELECT TOP ", .hole .topN 4, .text " t.object_id ",
   .text "FROM sys.tables t ",
   .text "JOIN sys.dm_db_partition_stats p ON t.object_id = p.object_id AND p.index_id IN (0,1) ",
   .text "GROUP BY t.object_id ORDER BY SUM(p.row_count) DESC", .text ") ", .text "SELECT TOP ", .hole .topN 1,
   .text " ", .text "OBJECT_SCHEMA_NAME(s.object_id) AS schema_name, ",
   .text "OBJECT_NAME(s.object_id) AS table_name, ", .text "s.name AS stat_name, ", .text "sp.last_updated, ",
   .text "sp.rows, ", .text "sp.rows_sampled, ", .text "sp.modification_counter ", .text "FROM sys.stats s ",
   .text "CROSS APPLY sys.dm_db_stats_properties(s.object_id, s.stats_id) sp ",
   .text "WHERE OBJECTPROPERTY(s.object_id, 'IsUserTable') = 1 ",
   .text "AND s.object_id IN (SELECT object_id FROM top_tables) ",
   .text "ORDER BY sp.modification_counter DESC, sp.last_updated ASC ", .text "OPTION (MAXDOP 1)"]

def statisticsNeverUpdatedQuery : FString QueryParam :=
  [.text "WITH top_tables AS (", .text "SELECT TOP ", .hole .topN 4, .text " t.object_id ",
   .text "FROM sys.tables t ",
   .text "JOIN sys.dm_db_partition_stats p ON t.object_id = p.object_id AND p.index_id IN (0,1) ",
   .text "GROUP BY t.object_id ORDER BY SUM(p.row_count) DESC", .text ") ", .text "SELECT TOP ", .hole .topN 1,
   .text " ", .text "OBJECT_SCHEMA_NAME(s.object_id) AS schema_name, ",
   .text "OBJECT_NAME(s.object_id) AS table_name, ", .text "s.name AS stat_name, ", .text "sp.last_updated, ",
   .text "sp.rows, ", .text "sp.rows_sampled, ", .text "sp.modification_counter ", .text "FROM sys.stats s ",
   .text "CROSS APPLY sys.dm_db_stats_properties(s.object_id, s.stats_id) sp ",
   .text "WHERE OBJECTPROPERTY(s.object_id, 'IsUserTable') = 1 ", .text "AND sp.last_updated IS NULL ",
   .text "AND s.object_id IN (SELECT object_id FROM top_tables) ",
   .text "ORDER BY sp.rows DESC, sp.modification_counter DESC"]

def lowSampledStatisticsQuery : FString QueryParam :=
  [.text "WITH top_tables AS (", .text "SELECT TOP ", .hole .topN 4, .text " t.object_id ",
   .text "FROM sys.tables t ",
   .text "JOIN sys.dm_db_partition_stats p ON t.object_id = p.object_id AND p.index_id IN (0,1) ",
   .text "GROUP BY t.object_id ORDER BY SUM(p.row_count) DESC", .text ") ", .text "SELECT TOP ", .hole .topN 1,
   .text " ", .text "OBJECT_SCHEMA_NAME(s.object_id) AS schema_name, ",
   .text "OBJECT_NAME(s.object_id) AS table_name, ", .text "s.name AS stat_name, ", .text "sp.last_updated, ",
   .text "sp.rows, ", .text "sp.rows_sampled, ", .text "sp.modification_counter, ", .text "CASE WHEN sp.rows > 0 ",
   .text "THEN CAST(sp.rows_sampled AS FLOAT) / CAST(sp.rows AS FLOAT) ", .text "ELSE 0 END AS sample_ratio ",
   .text "FROM sys.stats s ", .text "CROSS APPLY sys.dm_db_stats_properties(s.object_id, s.stats_id) sp ",
   .text "WHERE OBJECTPROPERTY(s.object_id, 'IsUserTable') = 1 ", .text "AND sp.rows > 0 ",
   .text "AND s.object_id IN (SELECT object_id FROM top_tables) ", .text "ORDER BY sample_ratio ASC, sp.rows DESC"]

def missingStatisticsCoverageCandidateQuery : FString QueryParam :=
  [.text "WITH top_tables AS (", .text "SELECT TOP ", .hole .topN 4,
   .text " t.object_id, SUM(p.row_count) AS row_count ", .text "FROM sys.tables t ",
   .text "JOIN sys.dm_db_partition_stats p ON t.object_id = p.object_id AND p.index_id IN (0,1) ",
   .text "GROUP BY t.object_id ORDER BY SUM(p.row_count) DESC", .text "), table_stats AS (",
   .text "SELECT st.object_id, COUNT(*) AS usable_stats_count ", .text "FROM sys.stats st ",
   .text "WHERE st.stats_id > 0 ", .text "GROUP BY st.object_id", .text ") ", .text "SELECT TOP ", .hole .topN 1,
   .text " ", .text "s.name AS schema_name, ", .text "t.name AS table_name, ",
   .text "ISNULL(ts.usable_stats_count, 0) AS usable_stats_count, ", .text "ISNULL(tt.row_count, 0) AS row_count ",
   .text "FROM top_tables tt ", .text "JOIN sys.tables t ON t.object_id = tt.object_id ",
   .text "JOIN sys.schemas s ON s.schema_id = t.schema_id ",
   .text "LEFT JOIN table_stats ts ON ts.object_id = t.object_id ",
   .text "WHERE ISNULL(ts.usable_stats_count, 0) = 0 ", .text "ORDER BY row_count DESC, s.name, t.name"]

def duplicateKeyCandidateQuery : FString QueryParam :=
  [.text "SELECT TOP ", .hole .topN 1, .text " ", .text "OBJECT_SCHEMA_NAME(i.object_id) AS schema_name, ",
   .text "OBJECT_NAME(i.object_id) AS table_name, ", .text "COL_NAME(ic.object_id, ic.column_id) AS column_name, ",
   .text "COUNT(*) AS index_count ", .text "FROM sys.indexes i ",
   .text "JOIN sys.index_columns ic ON ic.object_id = i.object_id AND ic.index_id = i.index_id ",
   .text "WHERE i.is_unique = 0 AND i.is_hypothetical = 0 AND ic.key_ordinal = 1 ",
   .text "AND OBJECTPROPERTY(i.object_id, 'IsUserTable') = 1 ",
   .text "GROUP BY i.object_id, ic.object_id, ic.column_id ", .text "HAVING COUNT(*) > 1 ",
   .text "ORDER BY index_count DESC"]

def missingIndexDmvQuery : FString QueryParam :=
  [.text "SELECT TOP ", .hole .topN 1, .text " ", .text "OBJECT_SCHEMA_NAME(mid.object_id) AS schema_name, ",
   .text "OBJECT_NAME(mid.object_id) AS table_name, ", .text "mid.equality_columns, ",
   .text "mid.inequality_columns, ", .text "mid.included_columns, ",
   .text "migs.avg_total_user_cost * migs.avg_user_impact * (migs.user_seeks + migs.user_scans) AS ",
   .text "estimated_impact, ", .text "migs.user_seeks, ", .text "migs.user_scans ",
   .text "FROM sys.dm_db_missing_index_details mid ",
   .text "JOIN sys.dm_db_missing_index_groups mig ON mig.index_handle = mid.index_handle ",
   .text "JOIN sys.dm_db_missing_index_group_stats migs ON migs.group_handle = mig.index_group_handle ",
   .text "WHERE mid.database_id = DB_ID() ", .text "ORDER BY estimated_impact DESC"]

def unusedIndexesQuery : FString QueryParam :=
  [.text "SELECT TOP ", .hole .topN 1, .text " ", .text "OBJECT_SCHEMA_NAME(i.object_id) AS schema_name, ",
   .text "OBJECT_NAME(i.object_id) AS table_name, ", .text "i.name AS index_name, ", .text "i.type_desc, ",
   .text "ISNULL(ius.user_seeks + ius.user_scans + ius.user_lookups, 0) AS total_reads, ",
   .text "ISNULL(ius.user_updates, 0) AS total_writes, ", .text "o.create_date AS table_create_date ",
   .text "FROM sys.indexes i ", .text "JOIN sys.objects o ON o.object_id = i.object_id ",
   .text "LEFT JOIN sys.dm_db_index_usage_stats ius ",
   .text "  ON ius.object_id = i.object_id AND ius.index_id = i.index_id AND ius.database_id = DB_ID() ",
   .text "WHERE i.type_desc = 'NONCLUSTERED' ", .text "  AND i.is_disabled = 0 ",
   .text "  AND OBJECTPROPERTY(i.object_id, 'IsUserTable') = 1 ",
   .text "  AND ISNULL(ius.user_seeks + ius.user_scans + ius.user_lookups, 0) = 0 ",
   .text "  AND ISNULL(ius.user_updates, 0) > 10 ", .text "  AND o.create_date < DATEADD(DAY, -7, GETDATE()) ",
   .text "ORDER BY total_writes DESC, i.name"]

def redundantIndexesQuery : FString QueryParam :=
  [.text "WITH leading_keys AS (", .text "  SELECT i.object_id, i.index_id, i.name, ic.column_id ",
   .text "  FROM sys.indexes i ", .text "  JOIN sys.index_columns ic ",
   .text "    ON ic.object_id = i.object_id AND ic.index_id = i.index_id AND ic.key_ordinal = 1 ",
   .text "  WHERE i.type_desc = 'NONCLUSTERED' ", .text "    AND i.is_disabled = 0 ",
   .text "    AND i.is_hypothetical = 0 ", .text "    AND OBJECTPROPERTY(i.object_id, 'IsUserTable') = 1",
   .text ") ", .text "SELECT TOP ", .hole .topN 1, .text " ",
   .text "OBJECT_SCHEMA_NAME(a.object_id) AS schema_name, ", .text "OBJECT_NAME(a.object_id) AS table_name, ",
   .text "a.name AS index_a, ", .text "b.name AS index_b, ",
   .text "COL_NAME(a.object_id, a.column_id) AS shared_leading_key_column ", .text "FROM leading_keys a ",
   .text "JOIN leading_keys b ", .text "  ON b.object_id = a.object_id ", .text " AND b.column_id = a.column_id ",
   .text " AND b.index_id > a.index_id ", .text "ORDER BY schema_name, table_name, index_a"]

def datatypeInconsistencyQuery : FString QueryParam :=
  [.text "SELECT TOP ", .hole .topN 1, .text " ", .text "fk.name AS fk_name, ",
   .text "OBJECT_SCHEMA_NAME(fkc.parent_object_id) AS child_schema, ",
   .text "OBJECT_NAME(fkc.parent_object_id) AS child_table, ", .text "c_child.name AS child_column, ",
   .text "tp_child.name AS child_type, ", .text "c_child.max_length AS child_max_length, ",
   .text "c_child.precision AS child_precision, ",
   .text "OBJECT_SCHEMA_NAME(fkc.referenced_object_id) AS parent_schema, ",
   .text "OBJECT_NAME(fkc.referenced_object_id) AS parent_table, ", .text "c_parent.name AS parent_column, ",
   .text "tp_parent.name AS parent_type, ", .text "c_parent.max_length AS parent_max_length, ",
   .text "c_parent.precision AS parent_precision ", .text "FROM sys.foreign_key_columns fkc ",
   .text "JOIN sys.foreign_keys fk ON fk.object_id = fkc.constraint_object_id ", .text "JOIN sys.columns c_child ",
   .text "  ON c_child.object_id = fkc.parent_object_id AND c_child.column_id = fkc.parent_column_id ",
   .text "JOIN sys.types tp_child ON tp_child.user_type_id = c_child.user_type_id ",
   .text "JOIN sys.columns c_parent ",
   .text "  ON c_parent.object_id = fkc.referenced_object_id AND c_parent.column_id = fkc.referenced_column_id ",
   .text "JOIN sys.types tp_parent ON tp_parent.user_type_id = c_parent.user_type_id ",
   .text "WHERE tp_child.name != tp_parent.name ", .text "   OR (",
   .text "      tp_child.name IN ('char','varchar','nchar','nvarchar','binary','varbinary') ",
   .text "      AND tp_parent.name IN ('char','varchar','nchar','nvarchar','binary','varbinary') ",
   .text "      AND c_child.max_length != c_parent.max_length", .text "   ) ", .text "   OR (",
   .text "      tp_child.name IN ('decimal','numeric') ",
   .text "      AND tp_parent.name IN ('decimal','numeric') ",
   .text "      AND (c_child.precision != c_parent.precision OR c_child.scale != c_parent.scale)", .text "   ) ",
   .text "ORDER BY child_schema, child_table, child_column"]

def updateHeavyTablesQuery : FString QueryParam :=
  [.text "WITH index_usage AS (", .text "  SELECT i.object_id, ",
   .text "         SUM(ius.user_seeks + ius.user_scans + ius.user_lookups) AS total_reads, ",
   .text "         SUM(ius.user_updates) AS total_writes ", .text "  FROM sys.indexes i ",
   .text "  JOIN sys.dm_db_index_usage_stats ius ",
   .text "    ON ius.object_id = i.object_id AND ius.index_id = i.index_id AND ius.database_id = DB_ID() ",
   .text "  WHERE i.index_id = 1 AND OBJECTPROPERTY(i.object_id, 'IsUserTable') = 1 ",
   .text "  GROUP BY i.object_id", .text ") ", .text "SELECT TOP ", .hole .topN 1, .text " ",
   .text "OBJECT_SCHEMA_NAME(iu.object_id) AS schema_name, ", .text "OBJECT_NAME(iu.object_id) AS table_name, ",
   .text "iu.total_reads, ", .text "iu.total_writes, ",
   .text "CAST(iu.total_writes AS FLOAT) / NULLIF(iu.total_reads, 0) AS write_read_ratio ",
   .text "FROM index_usage iu ", .text "WHERE iu.total_writes > 100 ", .text "  AND (iu.total_reads = 0 ",
   .text "    OR CAST(iu.total_writes AS FLOAT) / NULLIF(iu.total_reads, 0) > 5) ",
   .text "ORDER BY write_read_ratio DESC, iu.total_writes DESC"]

def excessivePermissionsQuery : FString QueryParam :=
  [.text "SELECT TOP ", .hole .topN 1, .text " ", .text "dp.name AS principal_name, dp.type_desc, ",
   .text "COUNT(*) AS explicit_grant_count ", .text "FROM sys.database_permissions perm ",
   .text "JOIN sys.database_principals dp ON dp.principal_id = perm.grantee_principal_id ",
   .text "WHERE perm.state_desc = 'GRANT' AND dp.principal_id > 4 ", .text "GROUP BY dp.name, dp.type_desc ",
   .text "ORDER BY explicit_grant_count DESC"]

-- The line with the lookback is no f-string: its placeholder is plain text.
def topStatementsQueryStoreQuery : FString QueryParam :=
  [.text "SELECT TOP ", .hole .topN 1, .text " ", .text "qsq.query_id, ",
   .text "CAST(SUM(rs.avg_duration * rs.count_executions) ",
   .text "  / NULLIF(SUM(rs.count_executions), 0) AS BIGINT) AS weighted_avg_duration_us, ",
   .text "CAST(MAX(rs.max_duration) AS BIGINT) AS max_duration_us, ",
   .text "SUM(rs.count_executions) AS execution_count, ", .text "CAST(SUM(rs.avg_cpu_time * rs.count_executions) ",
   .text "  / NULLIF(SUM(rs.count_executions), 0) AS FLOAT) AS weighted_avg_cpu_time_us, ",
   .text "CAST(SUM(rs.avg_logical_io_reads * rs.count_executions) ",
   .text "  / NULLIF(SUM(rs.count_executions), 0) AS FLOAT) AS weighted_avg_logical_reads, ",
   .text "CAST(SUM(rs.avg_physical_io_reads * rs.count_executions) ",
   .text "  / NULLIF(SUM(rs.count_executions), 0) AS FLOAT) AS weighted_avg_physical_reads, ",
   .text "CAST(SUM(rs.avg_log_bytes_used * rs.count_executions) ",
   .text "  / NULLIF(SUM(rs.count_executions), 0) AS FLOAT) AS weighted_avg_log_bytes, ",
   .text "MAX(rsi.end_time) AS last_exec_time, ", .text "LEFT(TRIM(qt.query_sql_text), 4000) AS query_sql_text, ",
   .text "qsq.object_id AS containing_object_id, ",
   .text "OBJECT_SCHEMA_NAME(qsq.object_id) AS containing_schema, ",
   .text "OBJECT_NAME(qsq.object_id) AS containing_object ", .text "FROM sys.query_store_query qsq ",
   .text "JOIN sys.query_store_query_text qt ", .text "  ON qsq.query_text_id = qt.query_text_id ",
   .text "JOIN sys.query_store_plan qsp ", .text "  ON qsq.query_id = qsp.query_id ",
   .text "JOIN sys.query_store_runtime_stats rs ", .text "  ON qsp.plan_id = rs.plan_id ",
   .text "JOIN sys.query_store_runtime_stats_interval rsi ",
   .text "  ON rs.runtime_stats_interval_id = rsi.runtime_stats_interval_id ",
   .text "WHERE rsi.start_time >= DATEADD(minute, -\x7blookback_minutes\x7d, SYSUTCDATETIME()) ",
   .text "GROUP BY qsq.query_id, qt.query_sql_text, qsq.object_id ",
   .text "ORDER BY weighted_avg_duration_us DESC ", .text "OPTION (RECOMPILE)"]

def topStatementsDmvFallbackQuery : FString QueryParam :=
  [.text "SELECT TOP ", .hole .topN 1, .text " ", .text "NULL AS query_id, ",
   .text "qs.total_elapsed_time / NULLIF(qs.execution_count, 0) AS weighted_avg_duration_us, ",
   .text "qs.max_elapsed_time AS max_duration_us, ", .text "qs.execution_count, ",
   .text "qs.total_worker_time / NULLIF(qs.execution_count, 0) AS weighted_avg_cpu_time_us, ",
   .text "qs.total_logical_reads / NULLIF(qs.execution_count, 0) AS weighted_avg_logical_reads, ",
   .text "qs.total_physical_reads / NULLIF(qs.execution_count, 0) AS weighted_avg_physical_reads, ",
   .text "0 AS weighted_avg_log_bytes, ", .text "qs.last_execution_time AS last_exec_time, ",
   .text "LEFT(TRIM(TRY_CAST(st.text AS nvarchar(max))), 4000) AS query_sql_text, ",
   .text "NULL AS containing_object_id, ", .text "NULL AS containing_schema, ", .text "NULL AS containing_object ",
   .text "FROM sys.dm_exec_query_stats qs ", .text "CROSS APPLY sys.dm_exec_sql_text(qs.sql_handle) st ",
   .text "WHERE qs.execution_count > 0 ", .text "ORDER BY weighted_avg_duration_us DESC ",
   .text "OPTION (RECOMPILE)"]

def topStatementsObjectPressureQuery : FString QueryParam :=
  [.text "WITH table_row_counts AS (", .text "  SELECT ps.object_id, SUM(ps.row_count) AS row_count ",
   .text "  FROM sys.dm_db_partition_stats ps ", .text "  WHERE ps.index_id IN (0, 1) ",
   .text "  GROUP BY ps.object_id", .text "), table_usage AS (", .text "  SELECT ius.object_id, ",
   .text "         SUM(ius.user_seeks) AS user_seeks, ", .text "         SUM(ius.user_scans) AS user_scans, ",
   .text "         SUM(ius.user_lookups) AS user_lookups, ",
   .text "         SUM(ius.user_updates) AS user_updates ", .text "  FROM sys.dm_db_index_usage_stats ius ",
   .text "  WHERE ius.database_id = DB_ID() AND ius.index_id IN (0, 1) ", .text "  GROUP BY ius.object_id",
   .text ") ", .text "SELECT TOP ", .hole .topN 1, .text " ",
   .text "OBJECT_SCHEMA_NAME(tr.object_id) AS schema_name, ", .text "OBJECT_NAME(tr.object_id) AS table_name, ",
   .text "ISNULL(tu.user_seeks, 0) AS user_seeks, ", .text "ISNULL(tu.user_scans, 0) AS user_scans, ",
   .text "ISNULL(tu.user_lookups, 0) AS user_lookups, ", .text "ISNULL(tu.user_updates, 0) AS user_updates, ",
   .text "tr.row_count, ", .text "CAST(ISNULL(tu.user_scans, 0) AS FLOAT) ",
   .text "  / NULLIF(ISNULL(tu.user_seeks, 0) + ISNULL(tu.user_scans, 0), 0) AS scan_ratio ",
   .text "FROM table_row_counts tr ", .text "LEFT JOIN table_usage tu ON tu.object_id = tr.object_id ",
   .text "WHERE OBJECTPROPERTY(tr.object_id, 'IsUserTable') = 1 ", .text "  AND tr.row_count > 0 ",
   .text "ORDER BY scan_ratio DESC, tr.row_count DESC ", .text "OPTION (RECOMPILE)"]

/-- The builders of `query_catalog` that take integers. -/
inductive QueryBuilder
  | tableSize
  | fragmentedIndexes
  | activeSessions
  | lockChain
  | blockingChain
  | tranLocks
  | waitingTasks
  | staleStatistics
  | statisticsNeverUpdated
  | lowSampledStatistics
  | missingStatisticsCoverageCandidate
  | duplicateKeyCandidate
  | missingIndexDmv
  | unusedIndexes
  | redundantIndexes
  | datatypeInconsistency
  | updateHeavyTables
  | excessivePermissions
  | topStatementsQueryStore
  | topStatementsDmvFallback
  | topStatementsObjectPressure
  deriving DecidableEq

namespace QueryBuilder

def params : QueryBuilder → List QueryParam
  | topStatementsQueryStore => [.topN, .lookbackMinutes]
  | _ => [.topN]

def template : QueryBuilder → FString QueryParam
  | tableSize => tableSizeQuery
  | fragmentedIndexes => fragmentedIndexesQuery
  | activeSessions => activeSessionsQuery
  | lockChain => lockChainQuery
  | blockingChain => blockingChainQuery
  | tranLocks => tranLocksQuery
  | waitingTasks => waitingTasksQuery
  | staleStatistics => staleStatisticsQuery
  | statisticsNeverUpdated => statisticsNeverUpdatedQuery
  | lowSampledStatistics => lowSampledStatisticsQuery
  | missingStatisticsCoverageCandidate => missingStatisticsCoverageCandidateQuery
  | duplicateKeyCandidate => duplicateKeyCandidateQuery
  | missingIndexDmv => missingIndexDmvQuery
  | unusedIndexes => unusedIndexesQuery
  | redundantIndexes => redundantIndexesQuery
  | datatypeInconsistency => datatypeInconsistencyQuery
  | updateHeavyTables => updateHeavyTablesQuery
  | excessivePermissions => excessivePermissionsQuery
  | topStatementsQueryStore => topStatementsQueryStoreQuery
  | topStatementsDmvFallback => topStatementsDmvFallbackQuery
  | topStatementsObjectPressure => topStatementsObjectPressureQuery

def build (b : QueryBuilder) (args : QueryParam → ℤ) : Except Exc Str := do
  let _ ← b.params.mapM (fun p ↦ p.validate (args p))
  pure (b.template.render args)

def Valid (b : QueryBuilder) (args : QueryParam → ℤ) : Prop := ∀ p ∈ b.params, 1 ≤ args p ∧ args p ≤ p.maximum

instance (b : QueryBuilder) (args : QueryParam → ℤ) : Decidable (b.Valid args) :=
  inferInstanceAs (Decidable (∀ p ∈ b.params, _))

end QueryBuilder

def isBrace (c : Char) : Bool := c = '{' || c = '}'

/-- The text for `args` holds no placeholder, and other arguments give another text. -/
structure Instantiated (b : QueryBuilder) (args args' : QueryParam → ℤ) : Prop where
  complete : ∃ s, b.build args = .ok s ∧ '{' ∉ s ∧ '}' ∉ s
  distinct : (∃ p ∈ b.params, args p ≠ args' p) → b.build args ≠ b.build args'

namespace QueryBuilder

variable {b : QueryBuilder} {args args' : QueryParam → ℤ}

theorem build_of_valid (h : b.Valid args) : b.build args = .ok (b.template.render args) := by
  have hok : ∀ p ∈ b.params, p.validate (args p) = .ok () := by
    intro p hp
    have hr := h p hp
    rw [QueryParam.validate, if_neg (by omega)]
  have hall : ∀ ps : List QueryParam, (∀ p ∈ ps, p.validate (args p) = .ok ()) →
      ∃ us, ps.mapM (fun p ↦ p.validate (args p)) = .ok us := by
    intro ps hps
    induction ps with
    | nil => exact ⟨[], rfl⟩
    | cons p ps ih =>
      obtain ⟨us, hus⟩ := ih (fun q hq ↦ hps q (List.mem_cons_of_mem p hq))
      refine ⟨() :: us, ?_⟩
      rw [List.mapM_cons, hps p List.mem_cons_self, hus]
      rfl
  obtain ⟨us, hus⟩ := hall b.params hok
  rw [build, hus]
  rfl

theorem template_separated (b : QueryBuilder) : b.template.Separated := by
  cases b
  all_goals
    simp only [template]
    repeat first
      | refine .text ?_
      | refine .hole (by decide) rfl rfl ?_
      | exact .nil

theorem template_free (h : b ≠ topStatementsQueryStore) : b.template.Free isBrace := by
  cases b with
  | topStatementsQueryStore => exact absurd rfl h
  | _ =>
    simp only [template]
    repeat first
      | refine .text rfl rfl ?_
      | refine .hole ?_
      | exact .nil

theorem holes_template (b : QueryBuilder) : ∀ p, p ∈ b.template.holes ↔ p = .topN := by
  have hholes : b.template.holes = [.topN] ∨ b.template.holes = [.topN, .topN] := by
    cases b
    all_goals first
      | exact .inl rfl
      | exact .inr rfl
  intro p
  rcases hholes with h | h
  · simp [h]
  · simp [h]

theorem build_eq_iff (h : b.Valid args) (h' : b.Valid args') :
    b.build args = b.build args' ↔ args .topN = args' .topN := by
  rw [build_of_valid h, build_of_valid h', Except.ok.injEq, b.template_separated.render_eq_iff]
  simp only [holes_template, forall_eq]

theorem brace_mem_topStatementsQueryStore (args : QueryParam → ℤ) :
    '{' ∈ topStatementsQueryStore.template.render args := by
  have hline : topStatementsQueryStoreQuery[30]? =
      some (.text "WHERE rsi.start_time >= DATEADD(minute, -\x7blookback_minutes\x7d, SYSUTCDATETIME()) ") := rfl
  exact FString.mem_render_of_text (List.mem_of_getElem? hline) (FString.mem_toList rfl rfl)

end QueryBuilder

/-- Every builder fills its template in completely, but for the one of the Query Store: it leaves
a placeholder in the text and ignores the lookback. -/
theorem instantiated_iff {b : QueryBuilder} {args args' : QueryParam → ℤ} (h : b.Valid args) (h' : b.Valid args') :
    Instantiated b args args' ↔ b ≠ .topStatementsQueryStore := by
  constructor
  · rintro ⟨⟨s, hs, hopen, -⟩, -⟩ rfl
    rw [QueryBuilder.build_of_valid h, Except.ok.injEq] at hs
    exact hopen (hs ▸ QueryBuilder.brace_mem_topStatementsQueryStore args)
  · intro hb
    have hnum : ∀ c, inNumber c = true → isBrace c = false := by
      intro c hc
      rw [isBrace, Bool.or_eq_false_iff, decide_eq_false_iff_not, decide_eq_false_iff_not]
      constructor
      · rintro rfl
        cases hc
      · rintro rfl
        cases hc
    have hfree := QueryBuilder.template_free hb
    have hparams : b.params = [.topN] := by
      cases b
      all_goals first
        | rfl
        | exact absurd rfl hb
    refine ⟨⟨_, QueryBuilder.build_of_valid h, hfree.notMem_render hnum rfl, hfree.notMem_render hnum rfl⟩, ?_⟩
    rintro ⟨p, hp, hne⟩ heq
    rw [hparams, List.mem_singleton] at hp
    subst hp
    exact hne ((QueryBuilder.build_eq_iff h h').mp heq)

def queryArgs (topN lookbackMinutes : ℤ) : QueryParam → ℤ
  | .topN => topN
  | .lookbackMinutes => lookbackMinutes

theorem instantiated_lockChain : Instantiated .lockChain (queryArgs 25 1) (queryArgs 26 1) :=
  (instantiated_iff (by decide) (by decide)).mpr (by decide)

theorem topStatementsQueryStore_ignores :
    QueryBuilder.topStatementsQueryStore.Valid (queryArgs 20 15) ∧
      QueryBuilder.topStatementsQueryStore.Valid (queryArgs 20 1440) ∧
      ¬ Instantiated .topStatementsQueryStore (queryArgs 20 15) (queryArgs 20 1440) ∧
      QueryBuilder.topStatementsQueryStore.build (queryArgs 20 15) =
        QueryBuilder.topStatementsQueryStore.build (queryArgs 20 1440) := by
  have h : QueryBuilder.topStatementsQueryStore.Valid (queryArgs 20 15) := by decide
  have h' : QueryBuilder.topStatementsQueryStore.Valid (queryArgs 20 1440) := by decide
  have heq := (QueryBuilder.build_eq_iff h h').mpr rfl
  exact ⟨h, h', fun hi ↦ hi.distinct ⟨.lookbackMinutes, by decide, by decide⟩ heq, heq⟩

end McpSqlServer

import McpSqlServer.Models
import McpSqlServer.Library.Text.Words

namespace McpSqlServer

open Library.Text

/-! `config/runtime-policy.yaml`. -/

def primaryExecProc : Str := "db_primary_sql2019_exec_proc".toList

def secondaryExecProc : Str := "db_secondary_sql2019_exec_proc".toList

def blockedVerbs : List Str :=
  ["drop".toList, "alter".toList, "truncate".toList, "create".toList, "insert".toList, "update".toList,
    "delete".toList, "merge".toList, "grant".toList, "revoke".toList, "deny".toList]

def shippedPatterns [UnicodeData] : List (Str → Bool) :=
  [searchWords blockedVerbs, searchWords ["xp_cmdshell".toList]]

def shippedPolicy [UnicodeData] : RuntimePolicy where
  writeModeDefault := "deny".toList
  allowedWriteTools := [primaryExecProc, secondaryExecProc]
  blockedSqlPatterns := shippedPatterns
  maxResultRows := 5000
  allowedTools :=
    [(primaryExecProc, [("allowed_procedures".toList,
      ["dbo.usp_RunApprovedMaintenance".toList, "USGISPRO_800.dbo.gisadmin_GetActiveCompanies".toList,
        "USGISPRO_800.dbo.usp_CaptureProcOutput".toList, "dbo.usp_RefreshMaterializedView".toList])]),
      (secondaryExecProc, [("allowed_procedures".toList,
        ["dbo.usp_RunApprovedMaintenance".toList, "dbo.usp_RefreshMaterializedView".toList])])]
  instanceEnableFlags := [("primary".toList, true), ("secondary".toList, true)]
  toolEnableFlags :=
    [("top_queries_report".toList, true), ("active_sessions_report".toList, true),
      ("index_health_report".toList, true)]
  instanceToolEnableFlags :=
    [("primary".toList, [("exec_proc".toList, true)]), ("secondary".toList, [("exec_proc".toList, true)])]

end McpSqlServer

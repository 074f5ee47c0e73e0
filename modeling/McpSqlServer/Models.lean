import McpSqlServer.Library.Text.Str
import Mathlib.Data.Int.Basic

namespace McpSqlServer

open Library.Text

structure SqlInstanceConfig where
  id : Str
  host : Str
  port : ℤ := 1433
  database : Str
  authSecretRef : Str
  poolMax : ℤ := 20
  poolEnabled : Bool := true
  poolAcquireTimeoutSec : ℤ := 5
  enabled : Bool := true

def SqlInstanceConfig.poolCap (inst : SqlInstanceConfig) : ℕ := (max 1 inst.poolMax).toNat

def SqlInstanceConfig.databaseFor (inst : SqlInstanceConfig) (databaseOverride : Option Str) : Str :=
  match databaseOverride with
  | some name => if name = [] then inst.database else name
  | none => inst.database

theorem SqlInstanceConfig.one_le_poolCap (inst : SqlInstanceConfig) : 1 ≤ inst.poolCap := by
  simp only [poolCap]
  omega

/-- `RuntimePolicy`. A pattern of the denylist is its `search` predicate. -/
structure RuntimePolicy where
  writeModeDefault : Str := "deny".toList
  allowedWriteTools : List Str := []
  procedureNameMatchMode : Str := "default_schema_expand".toList
  procedureDefaultSchema : Str := "dbo".toList
  blockedSqlPatterns : List (Str → Bool) := []
  maxResultRows : ℤ := 5000
  instanceEnableFlags : List (Str × Bool) := []
  toolEnableFlags : List (Str × Bool) := []
  instanceToolEnableFlags : List (Str × List (Str × Bool)) := []
  allowedTools : List (Str × List (Str × List Str)) := []

structure AuthConfig where
  authMode : Str := "disabled".toList
  azureAuthEnabled : Bool := false
  azureGroupAuthorizationEnabled : Bool := false
  azureGroupClaimName : Str := "groups".toList
  azureReadGroups : List Str := []
  azureWriteGroups : List Str := []

structure SessionLimits where
  concurrentSessionsLimit : ℤ := 10
  sessionTtlMinutes : ℤ := 60
  inactivityTimeoutMinutes : ℤ := 15

end McpSqlServer

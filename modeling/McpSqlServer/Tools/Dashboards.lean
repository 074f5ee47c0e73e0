import McpSqlServer.Tools.AnalysisTools

namespace McpSqlServer

open Library Library.Text Library.Python

variable {β : Type} [UnicodeData] (S : Site β)

structure FetchArgs where
  instanceNumber : ℤ := 1
  databaseName : Str := "master".toList
  lookbackMinutes : ℤ := 15
  includeLocks : Value := .bool true
  actor : Str := "system".toList

omit [UnicodeData] in
def instanceByNumber (number : ℤ) : Except Exc Str :=
  match if 1 ≤ number then S.instances[(number - 1).toNat]? else none with
  | some inst => .ok inst.id
  | none => .error (valueError ("INVALID_INPUT: instance_number must be one of [".toList ++
      ", ".toList.intercalate ((List.range S.instances.length).map (fun n ↦ intText (n + 1))) ++ "]".toList))

def FetchArgs.check (args : FetchArgs) : Except Exc (Str × Str) := do
  let dbName ← validateDatabaseName args.databaseName
  let _ ← validatePositiveInt args.lookbackMinutes "lookback_minutes".toList 1 1440
  let instanceId ← instanceByNumber S args.instanceNumber
  pure (dbName, instanceId)

def locksFlag (includeLocks : Value) : Bool :=
  match includeLocks with
  | .str s => lower (strip s) ∈ ["true".toList, "1".toList, "yes".toList, "on".toList]
  | v => v.truthy

omit [UnicodeData] in
def appFetchGuard : Gate := .enforce "sessions_dashboard_app_fetch".toList "SELECT 1".toList

/-- `fetch_sessions_dashboard_data`; it has no `ctx`, and the request id keys its session. -/
def fetchSessionsDashboardData (args : FetchArgs) : ToolM β Value := do
  Act.modify (fun w ↦ w.begin args.actor)
  let (dbName, instanceId) ← Act.ofExcept (args.check S)
  touchSession S none
  allowRequest S
  checkGuard S appFetchGuard
  let sessions ← catalogQuery S instanceId dbName (.activeSessions 200) 200
  let locks ← catalogQueriesIf S (locksFlag args.includeLocks) instanceId dbName
    [(.lockChain 200, 200), (.blockingChain 200, 200)]
  Act.ofExcept (S.reports.appDashboard args.instanceNumber dbName args.lookbackMinutes (sessions :: locks))

structure RefreshTarget where
  metadata : Dict Value
  instanceId : Str
  instanceNumber : ℤ
  databaseName : Str
  includeLocks : Bool

omit [UnicodeData] in
def badMetadata (detail : Str) : Exc := httpException "400".toList ("Invalid dashboard metadata: ".toList ++ detail)

def refreshInstanceNumber : Value → Option ℤ
  | .int n => some n
  | .str s => parseInt s
  | _ => none

def refreshTarget (metadata : Option (Dict Value)) : Except Exc RefreshTarget :=
  match metadata with
  | none => .error (httpException "404".toList "dashboard_page_not_found_or_expired".toList)
  | some metadata => do
    let instanceId ← match metadata.lookup "instance_id".toList with
      | some (.str s) =>
        if strip s = [] then .error (badMetadata "instance_id must be a non-empty string".toList) else .ok (strip s)
      | _ => .error (badMetadata "instance_id must be a non-empty string".toList)
    let instanceNumber ← match (metadata.lookup "instance_number".toList).bind refreshInstanceNumber with
      | some n => if n < 1 then .error (badMetadata "instance_number must be positive".toList) else .ok n
      | none => .error (badMetadata "instance_number must be an integer".toList)
    let databaseName ← match (metadata.lookup "database_name".toList).getD (.str masterDatabase) with
      | .none => .ok masterDatabase
      | .str s => validateDatabaseName s
      | _ => .error (badMetadata "database_name must be a string".toList)
    pure ⟨metadata, instanceId, instanceNumber, databaseName,
      ((metadata.lookup "include_locks".toList).getD (.bool true)).truthy⟩

/-- Metadata that denote a target, and where the name of its database comes from. -/
theorem refreshTarget_ok {metadata : Option (Dict Value)} {target : RefreshTarget}
    (h : refreshTarget metadata = .ok target) : metadata = some target.metadata ∧
      (target.databaseName = masterDatabase ∨
        ∃ s, (target.metadata.lookup "database_name".toList).getD (.str masterDatabase) = .str s ∧
          validateDatabaseName s = .ok target.databaseName) := by
  cases metadata with
  | none => cases h
  | some metadata =>
    simp only [refreshTarget, bind, Except.bind, pure, Except.pure] at h
    split at h
    · split at h
      · cases h
      · split at h
        · split at h
          · cases h
          · split at h
            · cases h
              exact ⟨rfl, .inl rfl⟩
            · rename_i s hs
              cases hv : validateDatabaseName s with
              | error e =>
                rw [hv] at h
                cases h
              | ok name =>
                rw [hv] at h
                cases h
                exact ⟨rfl, .inr ⟨s, hs, hv⟩⟩
            · cases h
        · cases h
    · cases h

omit [UnicodeData] in
def refreshGuard : Gate := .enforce "sessions_dashboard_page_refresh".toList "SELECT 1".toList

def refreshDashboardHtml (requestId : Str) : ToolM β Str := do
  Act.modify (fun w ↦ w.begin [])
  let metadata ← getDashboardPageMetadata S requestId
  let target ← Act.ofExcept (refreshTarget metadata)
  checkGuard S refreshGuard
  let results ← dashboardQueries S target.instanceId target.databaseName target.includeLocks
  let (html, _) ← Act.ofExcept (S.reports.dashboardPage ⟨[], target.instanceId, target.instanceNumber⟩
    target.databaseName results (refreshUrl requestId))
  let _ ← registerDashboardPageWithMetadata S requestId html 900 (some target.metadata)
  pure html

end McpSqlServer

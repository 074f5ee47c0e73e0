import McpSqlServer.Library.Text.Attributes
import McpSqlServer.Tools.DashboardAccess
import McpSqlServer.Tools.CallerText
import McpSqlServer.Tools.InstanceBinding

namespace McpSqlServer

open Library Library.Text Library.Python Library.Sql

/-- A name that is the literal `master` or what the validation makes of the name that is
given; it leaves the connection string with the one attribute that it is the value of. -/
structure CheckedName [UnicodeData] (given : Option Str) (name : Str) : Prop where
  source : name = masterDatabase ∨ ∃ s ∈ given, validateDatabaseName s = .ok name
  semicolon : ';' ∉ name
  dashes : hasPair '-' '-' name = false
  single : ∀ l, attributes ("DATABASE=".toList ++ name) = some l → l.length = 1

def Event.Targets (p : Str → Prop) : Event → Prop
  | .connect _ (some name) => p name
  | _ => True

abbrev Within {β α : Type} (p : Str → Prop) (m : ToolM β α) : Prop := Invariant (Every (Event.Targets p)) m

section Names

variable [UnicodeData] {given : Option Str} {name : Str}

omit [UnicodeData] in
theorem database_single (h : ';' ∉ name) {l : List (Str × Str)}
    (hl : attributes ("DATABASE=".toList ++ name) = some l) : l.length = 1 := by
  have hkey : IsKey "DATABASE".toList := by decide
  have htext : "DATABASE=".toList ++ name = "DATABASE".toList ++ '=' :: name := rfl
  rw [htext] at hl
  exact attributes_single hkey h hl

theorem validateDatabaseName_master : validateDatabaseName masterDatabase = .ok masterDatabase := rfl

theorem CheckedName.of_validated {s : Str} (hs : s ∈ given) (h : validateDatabaseName s = .ok name) :
    CheckedName given name := by
  obtain ⟨-, -, hsemi, hdash⟩ := validateName_eq_ok.mp h
  exact ⟨.inr ⟨s, hs, h⟩, hsemi, hdash, fun _ hl ↦ database_single hsemi hl⟩

theorem checkedName_master (given : Option Str) : CheckedName given masterDatabase :=
  ⟨.inl rfl, by decide, by decide, fun _ hl ↦ database_single (by decide) hl⟩

theorem checkedName_self_iff : CheckedName (some name) name ↔ validateDatabaseName name = .ok name := by
  constructor
  · intro h
    rcases h.source with rfl | ⟨s, hs, hv⟩
    · exact validateDatabaseName_master
    · rwa [← Option.some.inj hs] at hv
  · exact CheckedName.of_validated rfl

theorem optionalDatabase_eq_ok {s : Str} {db : Option Str} (h : optionalDatabase s = .ok db) (hn : name ∈ db) :
    validateDatabaseName s = .ok name := by
  unfold optionalDatabase at h
  split at h
  · cases h
    cases hn
  · cases hv : validateDatabaseName s with
    | error e =>
      rw [hv] at h
      cases h
    | ok v =>
      rw [hv] at h
      cases h
      rw [Option.some.inj hn]

end Names

section Queries

variable {β α : Type} {S : Site β} {p : Str → Prop} {instanceId dbName : Str} {db : Option Str} {stmt : Statement}

theorem within_notify : Within p (notify S) := notify_invariant (fun _ h ↦ h.record trivial)

theorem within_setRows (n : ℕ) : Within p (setRows (β := β) n) := Invariant.modify (fun _ h ↦ h)

theorem within_driver {e : Event} (he : e.Targets p) : Within p (driver S e) := driver_invariant (fun _ h ↦ h.record he)

theorem within_manager : Within p (record (β := β) (.manager instanceId)) :=
  record_invariant (fun _ h ↦ h.record trivial)

theorem within_connect {block : ToolM β α} (hdb : ∀ name ∈ db, p name) (hb : Within p block) :
    Within p (connect S instanceId db block) := by
  unfold connect
  split
  · have htarget : (Event.connect instanceId db).Targets p := by
      cases db with
      | none => trivial
      | some name => exact hdb name rfl
    exact .bind (within_driver htarget) (fun _ ↦ hb)
  · exact Invariant.raise _

theorem within_execute : Within p (execute S instanceId stmt) := within_driver trivial

theorem within_executeProc {procName : Str} {params : List Value} (hdb : ∀ name ∈ db, p name) :
    Within p (executeProc S instanceId procName params db) := by
  refine .bind within_manager (fun _ ↦ within_connect hdb ?_)
  exact .bind within_execute (fun _ ↦ .bind (within_driver trivial) (fun _ ↦ Invariant.pure _))

variable [UnicodeData]

theorem within_runReadOperation {operation : ToolM β α} (hdb : ∀ name ∈ db, p name) (ho : Within p operation) :
    Within p (runReadOperation S instanceId db operation) := by
  unfold runReadOperation
  generalize readRetryAttempts = n
  induction n with
  | zero => exact Invariant.raise _
  | succ n ih =>
    refine .catching (within_connect hdb ho) (fun e ↦ ?_)
    split
    · exact ih
    · exact Invariant.raise e

theorem within_executeReadInDatabase (h : p dbName) (maxRows : ℤ) :
    Within p (executeReadInDatabase S instanceId dbName stmt maxRows) := by
  refine .bind within_manager (fun _ ↦ within_runReadOperation ?_ (.bind within_execute (fun _ ↦ Invariant.pure _)))
  intro name hn
  rwa [← Option.some.inj hn]

theorem within_readRows (hdb : ∀ name ∈ db, p name) (maxRows : ℤ) :
    Within p (readRows S instanceId db stmt maxRows) := by
  cases db with
  | none => exact .bind within_manager (fun _ ↦ within_runReadOperation hdb (.bind within_execute (fun _ ↦ .pure _)))
  | some dbName => exact .bind (within_executeReadInDatabase (hdb dbName rfl) maxRows) (fun _ ↦ .pure _)

theorem within_fetchSingleRow (h : p dbName) : Within p (fetchSingleRowInDatabase S instanceId dbName stmt) := by
  refine .bind within_manager (fun _ ↦ within_runReadOperation ?_ (.bind within_execute (fun _ ↦ Invariant.pure _)))
  intro name hn
  rwa [← Option.some.inj hn]

theorem within_listObjects {objectType : Str}
    (h : (objectTypeMap.lookup (strip (lower objectType))).isSome = true → p dbName) :
    Within p (listObjects S instanceId dbName objectType) := by
  refine .bind within_manager (fun _ ↦ ?_)
  split
  · rename_i hs
    refine within_runReadOperation ?_ (.bind within_execute (fun _ ↦ Invariant.pure _))
    intro name hn
    rw [← Option.some.inj hn]
    exact h hs
  · exact Invariant.raise _

theorem within_explainedPlan {b : Binding} {args : ExecuteQueryArgs} (h : p args.databaseName) :
    Within p (explainedPlan S b args) := by
  refine .catching (.bind within_manager (fun _ ↦ .bind (within_runReadOperation ?_ ?_) (fun _ ↦ .pure _))) (fun e ↦ ?_)
  · intro name hn
    rwa [← Option.some.inj hn]
  · refine .bind within_execute (fun _ ↦ .ensuring within_execute ?_)
    exact .bind within_execute (fun _ ↦ Invariant.pure ())
  · split
    · exact Invariant.pure _
    · exact Invariant.raise e

theorem within_catalogQuery (h : p dbName) (query : CatalogQuery) (maxRows : ℤ) :
    Within p (catalogQuery S instanceId dbName query maxRows) := within_executeReadInDatabase h maxRows

theorem within_catalogQueriesIf (h : p dbName) (cond : Bool) (queries : List (CatalogQuery × ℤ)) :
    Within p (catalogQueriesIf S cond instanceId dbName queries) := by
  unfold catalogQueriesIf
  split
  · refine Invariant.each (fun q ↦ ?_) queries
    exact within_catalogQuery h q.1 q.2
  · exact Invariant.pure _

theorem within_dashboardQueries (h : p dbName) (includeLocks : Bool) :
    Within p (dashboardQueries S instanceId dbName includeLocks) :=
  .bind (within_catalogQuery h _ _) (fun _ ↦ .bind (within_catalogQueriesIf h _ _) (fun _ ↦ Invariant.pure _))

theorem within_collectTopStatementMetrics (h : p dbName) (topN lookbackMinutes : ℤ) :
    Within p (collectTopStatementMetrics S instanceId dbName topN lookbackMinutes) := by
  refine .bind (.catching ?_ (fun exc ↦ ?_)) (fun stmt ↦ .bind (.catching ?_ (fun e ↦ ?_)) (fun _ ↦ .pure _))
  · exact .bind (within_catalogQuery h _ _) (fun _ ↦ Invariant.pure _)
  · unfold dmvFallback
    split
    · refine .catching (.bind (within_catalogQuery h _ _) (fun _ ↦ Invariant.pure _)) (fun e ↦ ?_)
      split
      · exact Invariant.pure _
      · exact Invariant.raise e
    · exact Invariant.raise exc
  · exact .bind (within_catalogQuery h _ _) (fun _ ↦ Invariant.pure _)
  · split
    · exact Invariant.pure _
    · exact Invariant.raise e

omit [UnicodeData] in
theorem within_report (r : Except Exc (Value × ℕ)) : Within p (do
    let (report, rows) ← Act.ofExcept r
    setRows rows
    pure report : ToolM β Value) :=
  .bind (.ofExcept r) (fun _ ↦ .bind (within_setRows _) (fun _ ↦ Invariant.pure _))

end Queries

def Request.databaseName : Request → Option Str
  | .select args => some args.databaseName
  | .execProc args => some args.databaseName
  | .latencyReport _ | .ping _ | .listTools _ => none
  | .blockReport args => some args.databaseName
  | .topQueriesReport args => some args.databaseName
  | .activeSessionsReport args | .indexHealthReport args => some args.databaseName
  | .listObject args => some args.databaseName
  | .executeQuery args => some args.databaseName
  | .analyzeTabHealth args => some args.databaseName
  | .analyzeDbDataModel args => some args.databaseName
  | .analyzeSecConfig args => some args.databaseName
  | .sessionsDashboard args => some args.databaseName
  | .topStatements args => some args.databaseName

section Tools

variable {β α : Type} [UnicodeData] {S : Site β} {b : Binding} {w : World β} {p : Str → Prop}

theorem runTool_within {call : ToolCall α} {ladder : Exc → ToolM β Value} {body : α → Option Str → ToolM β Value}
    (hladder : ∀ I, Quiet I → ∀ e, Invariant I (ladder e))
    (hbody : ∀ input db, call.check = .ok input → call.target = .ok db → Within p (body input db)) :
    Every (Event.Targets p) (runTool S call ladder body w).2 := by
  have hrun : Triple (fun _ ↦ True) (runTool S call ladder body)
      (fun _ ↦ Every (Event.Targets p)) (fun _ ↦ Every (Event.Targets p)) :=
    runTool_every trivial trivial (fun g _ ↦ ⟨trivial, trivial⟩) (hladder _ (quiet_every trivial)) hbody
  exact (hrun w trivial).snd (fun _ _ h ↦ h) (fun _ _ h ↦ h)

/-- The tools that validate the optional name behind their gates. -/
theorem optional_within {name : Str} {db : Option Str} (h : optionalDatabase name = .ok db) :
    ∀ n ∈ db, CheckedName (some name) n := fun _ hn ↦ .of_validated rfl (optionalDatabase_eq_ok h hn)

theorem select_within (args : SelectArgs) :
    Every (Event.Targets (CheckedName (some args.databaseName))) (select S b args w).2 := by
  refine runTool_within (fun I hI ↦ readLadder_invariant hI) (fun _ db _ ht ↦ ?_)
  refine .bind (within_readRows (optional_within ht) _) (fun rows ↦ ?_)
  exact .bind (within_setRows _) (fun _ ↦ Invariant.pure _)

theorem execProc_within (args : ExecProcArgs) :
    Every (Event.Targets (CheckedName (some args.databaseName))) (execProc S b args w).2 := by
  refine runTool_within (fun I hI ↦ readLadder_invariant hI) (fun _ db _ ht ↦ ?_)
  refine .bind (within_executeProc (optional_within ht)) (fun result ↦ ?_)
  exact .bind (within_setRows _) (fun _ ↦ Invariant.pure _)

theorem runReadTool_within (sql actor : Str) (maxRows : ℤ) (databaseName : Str) :
    Every (Event.Targets (CheckedName (some databaseName))) (runReadTool S b sql actor maxRows databaseName w).2 := by
  refine runTool_within (fun I hI ↦ readLadder_invariant hI) (fun _ db _ ht ↦ ?_)
  refine .bind (within_readRows (optional_within ht) _) (fun rows ↦ ?_)
  exact .bind (within_setRows _) (fun _ ↦ Invariant.pure _)

theorem ping_within (args : ActorArgs) : Every (Event.Targets (CheckedName none)) (ping S b args w).2 := by
  refine runTool_within (fun I hI ↦ pingLadder_invariant hI) (fun _ _ _ _ ↦ ?_)
  refine .bind (within_fetchSingleRow (checkedName_master none)) (fun payload ↦ ?_)
  exact .bind (within_setRows _) (fun _ ↦ Invariant.pure _)

theorem listTools_within (args : ActorArgs) : Every (Event.Targets (CheckedName none)) (listTools S b args w).2 := by
  refine runTool_within (fun I hI ↦ wrapLadder_invariant [] hI) (fun _ _ _ _ ↦ ?_)
  refine .bind (within_fetchSingleRow (checkedName_master none)) (fun info ↦ ?_)
  exact .bind (within_setRows _) (fun _ ↦ Invariant.pure _)

theorem listObject_within (args : ListObjectArgs)
    (h : (objectTypeMap.lookup (strip (lower args.objectType))).isSome = true → p args.databaseName) :
    Every (Event.Targets p) (listObject S b args w).2 := by
  refine runTool_within (fun I hI ↦ wrapLadder_invariant [.valueError] hI) (fun _ _ _ _ ↦ ?_)
  refine .bind (within_listObjects h) (fun rows ↦ ?_)
  exact .bind (within_setRows _) (fun _ ↦ .bind utcNow_invariant (fun _ ↦ Invariant.pure _))

theorem executeQuery_within (args : ExecuteQueryArgs) (h : Succeeds (validateViewMode args.viewMode) → p args.databaseName) :
    Every (Event.Targets p) (executeQuery S b args w).2 := by
  refine runTool_within (fun I hI ↦ wrapLadder_invariant _ hI) (fun viewMode _ hc _ ↦ ?_)
  have hp : p args.databaseName := h ⟨viewMode, hc⟩
  refine .bind (within_executeReadInDatabase hp _) (fun result ↦ ?_)
  refine .bind (within_setRows _) (fun _ ↦ .bind utcNow_invariant (fun now ↦ ?_))
  dsimp only
  split
  · exact .bind (within_explainedPlan hp) (fun _ ↦ Invariant.pure _)
  · exact Invariant.pure _

theorem analyzeTabHealth_within (args : AnalyzeTabHealthArgs) :
    Every (Event.Targets (CheckedName (some args.databaseName))) (analyzeTabHealth S b args w).2 := by
  refine runTool_within (fun I hI ↦ wrapLadder_invariant _ hI) (fun input _ hc _ ↦ ?_)
  have hp : CheckedName (some args.databaseName) input.dbName := by
    obtain ⟨dbName, hv, hc⟩ := exists_of_bind_ok hc
    obtain ⟨_, _, hc⟩ := exists_of_bind_ok hc
    obtain ⟨_, _, hc⟩ := exists_of_bind_ok hc
    obtain ⟨_, _, hc⟩ := exists_of_bind_ok hc
    obtain ⟨_, _, hc⟩ := exists_of_bind_ok hc
    cases hc
    exact .of_validated rfl hv
  refine .bind (within_catalogQuery hp _ _) (fun tableSizes ↦ .bind (within_catalogQueriesIf hp _ _) (fun fragmented ↦ ?_))
  refine .bind (within_catalogQuery hp _ _) (fun missingPk ↦ .bind (within_catalogQueriesIf hp _ _) (fun statistics ↦ ?_))
  refine .bind (.ofExcept _) (fun candidates ↦ .bind (.each (fun candidate ↦ ?_) _) (fun histograms ↦ within_report _))
  unfold histogramSteps
  split
  · exact Invariant.pure _
  · exact within_catalogQuery hp _ _

theorem analyzeDbDataModel_within (args : AnalyzeDbDataModelArgs) :
    Every (Event.Targets (CheckedName (some args.databaseName))) (analyzeDbDataModel S b args w).2 := by
  refine runTool_within (fun I hI ↦ wrapLadder_invariant _ hI) (fun input _ hc _ ↦ ?_)
  have hp : CheckedName (some args.databaseName) input.dbName := by
    obtain ⟨dbName, hv, hc⟩ := exists_of_bind_ok hc
    obtain ⟨_, _, hc⟩ := exists_of_bind_ok hc
    obtain ⟨_, _, hc⟩ := exists_of_bind_ok hc
    cases hc
    exact .of_validated rfl hv
  refine .bind (within_catalogQuery hp _ _) (fun graphRows ↦ .bind (.ofExcept _) (fun _ ↦ .bind within_notify (fun _ ↦ ?_)))
  refine .bind (.each (fun check ↦ .catching ?_ (fun e ↦ ?_)) _) (fun checks ↦ within_report _)
  · refine .bind (notifyIf_invariant check.1 (fun _ h ↦ h.record trivial)) (fun _ ↦ ?_)
    exact .bind (within_catalogQuery hp _ _) (fun result ↦ .bind (.ofExcept _) (fun _ ↦ Invariant.pure _))
  · split
    · exact .bind within_notify (fun _ ↦ Invariant.pure _)
    · exact Invariant.raise e

theorem analyzeSecConfig_within (args : AnalyzeSecConfigArgs) :
    Every (Event.Targets (CheckedName (some args.databaseName))) (analyzeSecConfig S b args w).2 := by
  refine runTool_within (fun I hI ↦ wrapLadder_invariant _ hI) (fun dbName _ hc _ ↦ ?_)
  have hp : CheckedName (some args.databaseName) dbName := .of_validated rfl hc
  have hm : CheckedName (some args.databaseName) masterDatabase := checkedName_master _
  refine .bind (within_catalogQuery hp _ _) (fun orphanUsers ↦ .bind (within_catalogQuery hp _ _) (fun elevatedRoles ↦ ?_))
  refine .bind (within_catalogQuery hm _ _) (fun backupRows ↦ .bind ?_ (fun xp ↦ within_report _))
  unfold xpCmdshell
  split
  · refine .catching (.bind (within_executeReadInDatabase hm _) (fun xpRows ↦ ?_)) (fun e ↦ ?_)
    · exact .bind (.ofExcept _) (fun _ ↦ Invariant.pure _)
    · split
      · exact Invariant.pure _
      · exact Invariant.raise e
  · exact Invariant.pure _

theorem sessionsDashboard_within (args : SessionsDashboardArgs) :
    Every (Event.Targets (CheckedName (some args.databaseName))) (sessionsDashboard S b args w).2 := by
  refine runTool_within (fun I hI ↦ wrapLadder_invariant _ hI) (fun dbName _ hc _ ↦ ?_)
  have hp : CheckedName (some args.databaseName) dbName := by
    obtain ⟨name, hv, hc⟩ := exists_of_bind_ok hc
    obtain ⟨_, _, hc⟩ := exists_of_bind_ok hc
    cases hc
    exact .of_validated rfl hv
  refine .bind (within_dashboardQueries hp _) (fun results ↦ .bind (within_setRows _) (fun _ ↦ ?_))
  refine .bind (.ofExcept _) (fun page ↦ .bind ?_ (fun dashboardUrl ↦ .bind ?_ (fun expiresAtUtc ↦ Invariant.pure _)))
  · exact .bind (.ofExcept _) (fun _ ↦ .bind (.ofExcept _) (fun _ ↦ .bind (.ofExcept _) (fun _ ↦
      .bind (.modify (fun _ h ↦ h)) (fun _ ↦ Invariant.pure _))))
  · refine .bind (.bind (.ofExcept _) (fun _ ↦ .bind (.modify (fun _ h ↦ h)) (fun _ ↦ .read _))) (fun _ ↦ .pure _)

theorem topStatements_within (args : TopStatementsArgs) :
    Every (Event.Targets (CheckedName (some args.databaseName))) (topStatements S b args w).2 := by
  refine runTool_within (fun I hI ↦ wrapLadder_invariant _ hI) (fun input _ hc _ ↦ ?_)
  have hp : CheckedName (some args.databaseName) input.dbName := by
    obtain ⟨dbName, hv, hc⟩ := exists_of_bind_ok hc
    obtain ⟨_, _, hc⟩ := exists_of_bind_ok hc
    obtain ⟨_, _, hc⟩ := exists_of_bind_ok hc
    obtain ⟨_, _, hc⟩ := exists_of_bind_ok hc
    cases hc
    exact .of_validated rfl hv
  exact .bind (within_collectTopStatementMetrics hp _ _) (fun metrics ↦ within_report _)

end Tools

section Paths

variable {β : Type} [UnicodeData] {S : Site β} {w : World β} {given : Option Str}

def metadataDatabase (metadata : Option (Dict Value)) : Option Str :=
  match metadata.bind (fun m ↦ m.lookup "database_name".toList) with
  | some (.str s) => some s
  | _ => none

theorem within_gate {g : Gate} {p : Str → Prop} : Invariant (Every (β := β) (Event.Targets p)) (checkGuard S g) :=
  checkGuard_triple (fun _ h _ ↦ h.record trivial) (fun _ _ h _ ↦ h.record trivial)

theorem fetch_within (args : FetchArgs) :
    Every (Event.Targets (CheckedName (some args.databaseName))) (fetchSessionsDashboardData S args w).2 := by
  have hfree : ∀ g : Gate, g.isGuard = false → Event.Targets (CheckedName (some args.databaseName)) (.passed g) ∧
      Event.Targets (CheckedName (some args.databaseName)) (.refused g) := fun g _ ↦ ⟨trivial, trivial⟩
  have hrun : Triple (fun _ ↦ True) (fetchSessionsDashboardData S args)
      (fun _ ↦ Every (Event.Targets (CheckedName (some args.databaseName))))
      (fun _ ↦ Every (Event.Targets (CheckedName (some args.databaseName)))) := by
    refine .modify_bind (I := Every (Event.Targets (CheckedName (some args.databaseName))))
      (fun _ _ _ he ↦ absurd he List.not_mem_nil) ?_
    refine .bind (.ofExcept (Q := fun target w ↦ args.check S = .ok target ∧
      Every (Event.Targets (CheckedName (some args.databaseName))) w) (fun _ _ h hw ↦ ⟨h, hw⟩)
      (fun _ _ _ hw ↦ hw)) (fun target ↦ .extract (fun hcheck ↦ ?_))
    obtain ⟨dbName, hv, hcheck⟩ := exists_of_bind_ok hcheck
    obtain ⟨_, _, hcheck⟩ := exists_of_bind_ok hcheck
    obtain ⟨instanceId, _, hcheck⟩ := exists_of_bind_ok hcheck
    cases hcheck
    have hp : CheckedName (some args.databaseName) dbName := .of_validated rfl hv
    refine .bind (touchSession_every hfree none) (fun _ ↦ .bind (allowRequest_every hfree) (fun _ ↦ ?_))
    refine .bind within_gate (fun _ ↦ .bind (within_catalogQuery hp _ _) (fun sessions ↦ ?_))
    exact .bind (within_catalogQueriesIf hp _ _) (fun locks ↦ Invariant.ofExcept _)
  exact (hrun w trivial).snd (fun _ _ h ↦ h) (fun _ _ h ↦ h)

theorem refreshTarget_checkedName {metadata : Option (Dict Value)} {target : RefreshTarget}
    (h : refreshTarget metadata = .ok target) : CheckedName (metadataDatabase metadata) target.databaseName := by
  obtain ⟨rfl, hmaster | ⟨s, hs, hv⟩⟩ := refreshTarget_ok h
  · rw [hmaster]
    exact checkedName_master _
  · cases hl : target.metadata.lookup "database_name".toList with
    | none =>
      rw [hl] at hs
      obtain rfl : masterDatabase = s := Value.str.inj hs
      have hname : masterDatabase = target.databaseName := Except.ok.inj hv
      rw [← hname]
      exact checkedName_master _
    | some v =>
      rw [hl] at hs
      obtain rfl : v = .str s := hs
      have hgiven : metadataDatabase (some target.metadata) = some s := by
        simp only [metadataDatabase, Option.bind_some, hl]
      exact .of_validated hgiven hv

theorem refresh_within (requestId : Str) :
    Every (Event.Targets (CheckedName
      ((getDashboardPageMetadata S requestId (w.begin [])).1.toOption.bind metadataDatabase)))
      (refreshDashboardHtml S requestId w).2 := by
  generalize hg : (getDashboardPageMetadata S requestId (w.begin [])).1.toOption.bind metadataDatabase = given
  have hnil {w : World β} (ht : w.trace = []) : Every (Event.Targets (CheckedName given)) w := by
    intro e he
    rw [ht] at he
    cases he
  have hrun : Triple (fun w' ↦ w' = w) (refreshDashboardHtml S requestId)
      (fun _ ↦ Every (Event.Targets (CheckedName given))) (fun _ ↦ Every (Event.Targets (CheckedName given))) := by
    refine .modify_bind (I := fun w' ↦ w' = w.begin []) (fun w' hw ↦ by rw [hw]) ?_
    refine .bind ((getDashboardPageMetadata_triple requestId).mono (fun _ h ↦ h) (fun _ _ h ↦ h)
      (fun e w' h ↦ hnil h.2)) (fun metadata ↦ .extract (fun hmetadata ↦ ?_))
    rw [hmetadata] at hg
    refine .bind (.ofExcept (Q := fun target w' ↦ refreshTarget metadata = .ok target ∧ w'.trace = [])
      (fun _ _ h hw ↦ ⟨h, hw⟩) (fun _ _ _ hw ↦ hnil hw)) (fun target ↦ .extract (fun htarget ↦ ?_))
    have hp : CheckedName given target.databaseName := hg ▸ refreshTarget_checkedName htarget
    refine Triple.mono (P := Every (Event.Targets (CheckedName given))) ?_ (fun _ hw ↦ hnil hw) (fun _ _ h ↦ h)
      (fun _ _ h ↦ h)
    refine .bind within_gate (fun _ ↦ .bind (within_dashboardQueries hp _) (fun results ↦ ?_))
    refine .bind (Invariant.ofExcept _) (fun page ↦ .bind (R := fun _ ↦ Every (Event.Targets (CheckedName given))) ?_
      (fun _ ↦ Invariant.pure _))
    exact Invariant.bind (.ofExcept _) (fun _ ↦ .bind (.ofExcept _) (fun _ ↦ .bind (.ofExcept _) (fun _ ↦
      .bind (.modify (fun _ h ↦ h)) (fun _ ↦ Invariant.pure _))))
  exact (hrun w rfl).snd (fun _ _ h ↦ h) (fun _ _ h ↦ h)

end Paths

/-- A tool of an instance, the app tool of the dashboard, or the route that refreshes a page. -/
inductive EntryPoint
  | tool (b : Binding) (o : Overrides) (req : Request)
  | app (args : FetchArgs)
  | refresh (requestId : Str)

section EntryPoints

variable {β : Type} [UnicodeData]

def EntryPoint.trace (S : Site β) (w : World β) : EntryPoint → List Event
  | .tool b o req => (invoke S b o req w).2.trace
  | .app args => (fetchSessionsDashboardData S args w).2.trace
  | .refresh requestId => (refreshDashboardHtml S requestId w).2.trace

def EntryPoint.given (S : Site β) (w : World β) : EntryPoint → Option Str
  | .tool _ _ req => req.databaseName
  | .app args => some args.databaseName
  | .refresh requestId => (getDashboardPageMetadata S requestId (w.begin [])).1.toOption.bind metadataDatabase

/-- The name that a call passes on as it is given. -/
def EntryPoint.rawName : EntryPoint → Option Str
  | .tool _ _ (.listObject args) =>
    if (objectTypeMap.lookup (strip (lower args.objectType))).isSome then some args.databaseName else none
  | .tool _ _ (.executeQuery args) => (validateViewMode args.viewMode).toOption.map (fun _ ↦ args.databaseName)
  | _ => none

theorem runRequest_within {S : Site β} {w : World β} {b : Binding} {o : Overrides} {req : Request}
    (h : ∀ name ∈ (EntryPoint.tool b o req).rawName, validateDatabaseName name = .ok name) :
    Every (Event.Targets (CheckedName req.databaseName)) (runRequest S (b.override o) req w).2 := by
  cases req with
  | select args => exact select_within args
  | execProc args => exact execProc_within args
  | latencyReport args => exact fun _ he ↦ absurd he List.not_mem_nil
  | blockReport args => exact runReadTool_within _ _ _ _
  | topQueriesReport args => exact runReadTool_within _ _ _ _
  | activeSessionsReport args => exact runReadTool_within _ _ _ _
  | indexHealthReport args => exact runReadTool_within _ _ _ _
  | ping args => exact ping_within args
  | listTools args => exact listTools_within args
  | listObject args =>
    exact listObject_within args (fun hs ↦ checkedName_self_iff.mpr (h _ (if_pos hs)))
  | executeQuery args =>
    refine executeQuery_within args (fun ⟨viewMode, hv⟩ ↦ checkedName_self_iff.mpr (h _ ?_))
    simp only [EntryPoint.rawName, hv, Except.toOption, Option.map_some, Option.mem_def]
  | analyzeTabHealth args => exact analyzeTabHealth_within args
  | analyzeDbDataModel args => exact analyzeDbDataModel_within args
  | analyzeSecConfig args => exact analyzeSecConfig_within args
  | sessionsDashboard args => exact sessionsDashboard_within args
  | topStatements args => exact topStatements_within args

end EntryPoints

section Raw

variable {β α : Type} {S : Site β} {instanceId dbName : Str} {db : Option Str}

theorem connect_mentions {block : ToolM β α} (hi : S.instances.any (fun inst ↦ inst.id = instanceId) = true)
    (hb : Invariant (Mentions (.connect instanceId db)) block) : Triple (fun _ ↦ True) (connect S instanceId db block)
      (fun _ ↦ Mentions (.connect instanceId db)) (fun _ ↦ Mentions (.connect instanceId db)) := by
  have hasked : Triple (fun _ : World β ↦ True) (driver S (.connect instanceId db))
      (fun _ ↦ Mentions (.connect instanceId db)) (fun _ ↦ Mentions (.connect instanceId db)) := by
    refine .modify_bind (I := Mentions (.connect instanceId db))
      (fun _ _ ↦ List.mem_append_right _ (List.mem_singleton_self _)) ?_
    exact Invariant.bind (.read _) (fun trace ↦ .ofExcept _)
  rw [connect, if_pos hi]
  exact .bind hasked (fun _ ↦ hb)

variable [UnicodeData]

theorem runReadOperation_mentions {operation : ToolM β α}
    (hi : S.instances.any (fun inst ↦ inst.id = instanceId) = true)
    (ho : Invariant (Mentions (.connect instanceId db)) operation) :
    Triple (fun _ ↦ True) (runReadOperation S instanceId db operation)
      (fun _ ↦ Mentions (.connect instanceId db)) (fun _ ↦ Mentions (.connect instanceId db)) := by
  have hkeep := undisturbed_mentions (β := β) instanceId (fun _ ↦ True) (.connect instanceId db)
  refine .catching (connect_mentions hi ho) (fun e ↦ ?_)
  split
  · exact readAttempts_invariant hkeep.query ho _
  · exact Invariant.raise e

theorem listObject_mentions (h : Open S) {b : Binding} {args : ListObjectArgs} {w : World β}
    (hi : S.instances.any (fun inst ↦ inst.id = b.instanceId) = true)
    (hs : (objectTypeMap.lookup (strip (lower args.objectType))).isSome = true) (hw : w.sessions = []) :
    Mentions (.connect b.instanceId (some args.databaseName)) (listObject S b args w).2 := by
  have hkeep := undisturbed_mentions (β := β) b.instanceId (fun _ ↦ True)
    (.connect b.instanceId (some args.databaseName))
  unfold listObject
  refine (h.runTool_mentions (fun g hg ↦ absurd hg List.not_mem_nil) (succeeds_ok ()) (succeeds_ok none)
    (fun exc ↦ wrapLadder_invariant _ (quiet_mentions _) exc) (fun _ _ ↦
      .bind (R := fun _ ↦ Mentions (.connect b.instanceId (some args.databaseName))) ?_ (fun rows ↦ ?_)) w hw).snd
    (fun _ _ h ↦ h) (fun _ _ h ↦ h)
  · unfold listObjects
    refine .modify_bind (I := fun _ ↦ True) (fun _ _ ↦ trivial) ?_
    rw [if_pos hs]
    exact runReadOperation_mentions hi (.bind (execute_invariant hkeep.query trivial) (fun _ ↦ Invariant.pure _))
  · exact Invariant.bind (setRows_invariant hkeep _) (fun _ ↦ .bind utcNow_invariant (fun _ ↦ Invariant.pure _))

theorem executeQuery_mentions (h : Open S) {b : Binding} {args : ExecuteQueryArgs} {w : World β}
    (hi : S.instances.any (fun inst ↦ inst.id = b.instanceId) = true) (hv : Succeeds (validateViewMode args.viewMode))
    (hg : enforce S.policy b.tool args.sqlStatement = .ok ()) (hw : w.sessions = []) :
    Mentions (.connect b.instanceId (some args.databaseName)) (executeQuery S b args w).2 := by
  have hkeep := undisturbed_mentions (β := β) b.instanceId (fun _ ↦ True)
    (.connect b.instanceId (some args.databaseName))
  have hguards : ∀ g ∈ [Gate.enforce b.tool args.sqlStatement], guardVerdict S.policy g = .ok () := by
    intro g hmem
    rw [List.mem_singleton.mp hmem]
    exact hg
  unfold executeQuery
  refine (h.runTool_mentions hguards hv (succeeds_ok none) (fun exc ↦ wrapLadder_invariant _ (quiet_mentions _) exc)
    (fun viewMode _ ↦
      .bind (R := fun _ ↦ Mentions (.connect b.instanceId (some args.databaseName))) ?_ (fun result ↦ ?_)) w hw).snd (fun _ _ h ↦ h) (fun _ _ h ↦ h)
  · refine .modify_bind (I := fun _ ↦ True) (fun _ _ ↦ trivial) ?_
    exact runReadOperation_mentions hi (.bind (execute_invariant hkeep.query trivial) (fun _ ↦ Invariant.pure _))
  · refine Invariant.bind (setRows_invariant hkeep _) (fun _ ↦ .bind utcNow_invariant (fun now ↦ ?_))
    dsimp only
    split
    · refine .bind (.catching (explainQuery_invariant hkeep trivial (fun _ ↦ trivial)) (fun e ↦ ?_))
        (fun _ ↦ Invariant.pure _)
      split
      · exact Invariant.pure _
      · exact Invariant.raise e
    · exact Invariant.pure _

end Raw

/-- Every connection of a call is for `master` or for what the validation makes of the name
that is given, exactly when a name that is passed on as it is given passes the validation unchanged. -/
theorem connect_checkedName_iff [UnicodeData] (entry : EntryPoint) :
    (∀ (β : Type) (S : Site β) (w : World β) (instanceId name : Str),
      .connect instanceId (some name) ∈ entry.trace S w → CheckedName (entry.given S w) name) ↔
      ∀ name ∈ entry.rawName, validateDatabaseName name = .ok name := by
  constructor
  · intro h name hn
    cases entry with
    | tool b o req =>
      have hopen (policy : RuntimePolicy) := open_openSite policy [instanceNamed (b.override o).instanceId]
      have hinst : [instanceNamed (b.override o).instanceId].any
          (fun inst ↦ inst.id = (b.override o).instanceId) = true := by simp [instanceNamed]
      have hraw (policy : RuntimePolicy) := h Unit (openSite policy [instanceNamed (b.override o).instanceId])
        freshWorld (b.override o).instanceId name
      cases req with
      | listObject args =>
        obtain ⟨hs, hname⟩ := Option.ite_none_right_eq_some.mp hn
        cases Option.some.inj hname
        exact checkedName_self_iff.mp (hraw {} (listObject_mentions (hopen {}) hinst hs rfl))
      | executeQuery args =>
        cases hv : validateViewMode args.viewMode with
        | error e =>
          simp only [EntryPoint.rawName, hv, Except.toOption, Option.map_none] at hn
          cases hn
        | ok viewMode =>
          simp only [EntryPoint.rawName, hv, Except.toOption, Option.map_some, Option.mem_def] at hn
          cases Option.some.inj hn
          exact checkedName_self_iff.mp (hraw (permissivePolicy (b.override o).tool [])
            (executeQuery_mentions (hopen _) hinst ⟨viewMode, hv⟩ (enforce_permissive _ _ _) rfl))
      | _ => cases hn
    | app args => cases hn
    | refresh requestId => cases hn
  · intro h β S w instanceId name hname
    cases entry with
    | tool b o req => exact runRequest_within h _ hname
    | app args => exact fetch_within args _ hname
    | refresh requestId => exact refresh_within requestId _ hname

/-- `list_object` opens a connection with the attributes that its caller writes. -/
theorem listObject_adds_attributes :
    ¬ ∀ (entry : EntryPoint) (β : Type) (S : Site β) (w : World β) (instanceId name : Str),
      .connect instanceId (some name) ∈ @EntryPoint.trace β asciiData S w entry →
        @CheckedName asciiData (@EntryPoint.given β asciiData S w entry) name := by
  intro h
  let _ := asciiData
  obtain ⟨b, hb⟩ : ∃ b : Binding, b = ⟨"db_1_sql2019_list_object".toList, "primary".toList, 1⟩ := ⟨_, rfl⟩
  obtain ⟨args, hargs⟩ : ∃ args : ListObjectArgs,
      args = { databaseName := "Sales;UID=sa".toList, objectType := "table".toList } := ⟨_, rfl⟩
  have hmem : Mentions (.connect b.instanceId (some args.databaseName))
      (listObject (openSite {} [instanceNamed "primary".toList]) b args freshWorld).2 :=
    listObject_mentions (open_openSite {} [instanceNamed "primary".toList]) (by rw [hb]; decide) (by rw [hargs]; decide) rfl
  have hchecked := h (.tool b {} (.listObject args)) Unit _ _ _ _ hmem
  rw [hargs] at hchecked
  exact hchecked.semicolon (by decide)

end McpSqlServer

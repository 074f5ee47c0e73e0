import McpSqlServer.Tools.Traces

namespace McpSqlServer

open Library Library.Text Library.Python

def Statement.callerText : Statement → Option Str
  | .caller sql => some sql
  | .exec procName _ => some procName
  | _ => none

inductive Clauses
  | none
  | read
  | wrap (plain : List ExcKind)
  | ping

namespace Request

/-- The `except` clauses of a tool; `_latency_report` has none. -/
def clauses : Request → Clauses
  | .select _ | .execProc _ | .blockReport _ | .topQueriesReport _ => .read
  | .activeSessionsReport _ | .indexHealthReport _ => .read
  | .latencyReport _ => .none
  | .ping _ => .ping
  | .listTools _ => .wrap []
  | .listObject _ => .wrap [.valueError]
  | .executeQuery _ | .analyzeTabHealth _ | .analyzeDbDataModel _ => .wrap [.valueError, .permissionError]
  | .analyzeSecConfig _ | .sessionsDashboard _ | .topStatements _ => .wrap [.valueError, .permissionError]

def sendsSql : Request → Bool
  | .latencyReport _ => false
  | _ => true

def actor : Request → Str
  | .select args => args.actor
  | .execProc args => args.actor
  | .latencyReport args | .ping args | .listTools args => args.actor
  | .blockReport args => args.actor
  | .topQueriesReport args => args.actor
  | .activeSessionsReport args | .indexHealthReport args => args.actor
  | .listObject args => args.actor
  | .executeQuery args => args.actor
  | .analyzeTabHealth args => args.actor
  | .analyzeDbDataModel args => args.actor
  | .analyzeSecConfig args => args.actor
  | .sessionsDashboard args => args.actor
  | .topStatements args => args.actor

def required : Request → Privilege
  | .execProc _ => .write
  | _ => .read

def guards (b : Binding) : Request → List Gate
  | .select args => [.enforce b.tool args.sql]
  | .execProc args => [.validateProcedure b.tool args.procName, .enforce b.tool policyProbe]
  | .blockReport _ => [.enforce b.tool blockReportSql]
  | .topQueriesReport args => [.enforce b.tool (topQueriesReportSql (clamp args.limit 100))]
  | .activeSessionsReport args => [.enforce b.tool (activeSessionsReportSql (clamp args.limit 200))]
  | .indexHealthReport args => [.enforce b.tool (indexHealthReportSql (clamp args.limit 200))]
  | .latencyReport _ | .ping _ | .listTools _ | .listObject _ => []
  | .executeQuery args => [.enforce b.tool args.sqlStatement]
  | .analyzeTabHealth _ | .analyzeDbDataModel _ | .analyzeSecConfig _ | .sessionsDashboard _ | .topStatements _ =>
    [.enforce b.tool "SELECT 1".toList]

def auditSql : Request → Str
  | .select args => args.sql
  | .execProc args => "EXEC ".toList ++ args.procName
  | .latencyReport _ => []
  | .blockReport _ => blockReportSql
  | .topQueriesReport args => topQueriesReportSql (clamp args.limit 100)
  | .activeSessionsReport args => activeSessionsReportSql (clamp args.limit 200)
  | .indexHealthReport args => indexHealthReportSql (clamp args.limit 200)
  | .ping _ => pingSql
  | .listTools _ => listToolsSql
  | .listObject args => "LIST_OBJECT database=".toList ++ args.databaseName ++ " type=".toList ++ args.objectType
  | .executeQuery args => args.sqlStatement
  | .analyzeTabHealth _ => "ANALYZE_TAB_HEALTH".toList
  | .analyzeDbDataModel _ => "ANALYZE_DB_DATA_MODEL".toList
  | .analyzeSecConfig _ => "ANALYZE_SEC_CONFIG".toList
  | .sessionsDashboard _ => "SESSIONS_DASHBOARD".toList
  | .topStatements _ => "TOP_STATEMENTS".toList

def FailurePayload : Request → Value → Prop
  | .ping _, .dict reply => reply.lookup "accessible".toList = some (.bool false)
  | _, _ => False

def callerStatement : Request → Option Statement
  | .select args => some (.caller args.sql)
  | .execProc args => some (.exec args.procName args.params.length)
  | .executeQuery args => some (.caller args.sqlStatement)
  | _ => none

def Sends (req : Request) (stmt : Statement) : Prop := stmt.callerText = none ∨ req.callerStatement = some stmt

end Request

def Succeeds {α : Type} (r : Except Exc α) : Prop := ∃ a, r = .ok a

def Request.Valid [UnicodeData] : Request → Prop
  | .select args => Succeeds (optionalDatabase args.databaseName)
  | .execProc args => Succeeds (optionalDatabase args.databaseName)
  | .blockReport args => Succeeds (optionalDatabase args.databaseName)
  | .topQueriesReport args => Succeeds (optionalDatabase args.databaseName)
  | .activeSessionsReport args | .indexHealthReport args => Succeeds (optionalDatabase args.databaseName)
  | .latencyReport _ | .ping _ | .listTools _ | .listObject _ => True
  | .executeQuery args => Succeeds (validateViewMode args.viewMode)
  | .analyzeTabHealth args => Succeeds args.check
  | .analyzeDbDataModel args => Succeeds args.check
  | .analyzeSecConfig args => Succeeds args.check
  | .sessionsDashboard args => Succeeds args.check
  | .topStatements args => Succeeds args.check

variable {β α γ : Type} {b : Binding} {stmts : Statement → Prop} {I : World β → Prop}

def Mentions (e : Event) (w : World β) : Prop := e ∈ w.trace

theorem Mentions.record {w : World β} {e d : Event} (h : Mentions e w) : Mentions e (w.record d) :=
  List.mem_append_left _ h

def Contacts (instanceId : Str) (m : ToolM β α) : Prop :=
  Triple (fun _ ↦ True) m (fun _ ↦ Mentions (.manager instanceId)) (fun _ ↦ Mentions (.manager instanceId))

theorem undisturbed_mentions (instanceId : Str) (stmts : Statement → Prop) (e : Event) :
    Undisturbed (β := β) instanceId stmts (Mentions e) where
  notify _ h := h.record
  query _ _ _ h := h.record
  rows _ _ h := h
  pages _ _ h := h

theorem contacts_record {instanceId : Str} {m : ToolM β α}
    (hm : ∀ I, Undisturbed instanceId (fun _ ↦ True) I → Invariant I m) :
    Contacts instanceId (record (.manager instanceId) >>= fun _ ↦ m) := by
  have hr : Triple (fun _ : World β ↦ True) (record (.manager instanceId)) (fun _ ↦ Mentions (.manager instanceId))
      (fun _ ↦ Mentions (.manager instanceId)) :=
    Triple.modify (fun _ _ ↦ List.mem_append_right _ (List.mem_singleton_self _))
  exact .bind hr (fun _ ↦ hm _ (undisturbed_mentions instanceId _ _))

theorem Contacts.bind {instanceId : Str} {m : ToolM β γ} {f : γ → ToolM β α} (hm : Contacts instanceId m)
    (hf : ∀ I, Undisturbed instanceId (fun _ ↦ True) I → ∀ a, Invariant I (f a)) : Contacts instanceId (m >>= f) :=
  Triple.bind hm (hf _ (undisturbed_mentions instanceId _ _))

theorem Contacts.catching {instanceId : Str} {m : ToolM β α} {handler : Exc → ToolM β α} (hm : Contacts instanceId m)
    (hh : ∀ I, Undisturbed instanceId (fun _ ↦ True) I → ∀ e, Invariant I (handler e)) :
    Contacts instanceId (Act.catching m handler) :=
  Triple.catching hm (hh _ (undisturbed_mentions instanceId _ _))

theorem deny_invariant {S : Site β} (hI : Quiet I) (counted : Bool)
    (code : Str) : Invariant I (deny S counted code) :=
  .bind (.modify (fun w h ↦ hI.frame w _ h)) (fun _ ↦ .bind (.modify (fun w h ↦ hI.denied w _ h))
    (fun _ ↦ notify_invariant hI.notify))

theorem pingLadder_invariant {S : Site β} (hI : Quiet I) (e : Exc) :
    Invariant I (pingLadder S b e) := by
  unfold pingLadder
  split
  · exact .bind (deny_invariant hI true _) (fun _ ↦ .bind utcNow_invariant (fun _ ↦ Invariant.pure _))
  · exact Invariant.raise e

variable [UnicodeData] (S : Site β)

/-- The queries and the `except` clauses of a tool do only what a tool of its binding may do,
and its queries begin with a call of the connection manager. -/
structure ToolBody (b : Binding) (stmts : Statement → Prop) (ladder : Exc → ToolM β Value)
    (body : α → Option Str → ToolM β Value) : Prop where
  body_invariant : ∀ I, Undisturbed b.instanceId stmts I → ∀ input db, Invariant I (body input db)
  ladder_invariant : ∀ I, Quiet I → ∀ e, Invariant I (ladder e)
  contacts : ∀ input db, Contacts b.instanceId (body input db)

variable {S}

theorem readLadder_invariant (hI : Quiet I) (e : Exc) :
    Invariant I (readLadder S e) := by
  unfold readLadder
  split
  · exact .bind (deny_invariant hI true e.text) (fun _ ↦ .raise e)
  · split
    · exact .bind (deny_invariant hI false _) (fun _ ↦ .raise e)
    · exact Invariant.raise e

theorem wrapLadder_invariant (plain : List ExcKind) (hI : Quiet I) (e : Exc) :
    Invariant I (wrapLadder S plain e) := by
  unfold wrapLadder
  split
  · exact .bind (deny_invariant hI true e.text) (fun _ ↦ .raise e)
  · split
    · exact .bind (deny_invariant hI true _) (fun _ ↦ .raise _)
    · exact Invariant.raise e

def Clauses.ladder (S : Site β) (b : Binding) : Clauses → Exc → ToolM β Value
  | .none => Act.raise
  | .read => readLadder S
  | .wrap plain => wrapLadder S plain
  | .ping => pingLadder S b

def Request.ladder (S : Site β) (b : Binding) (req : Request) : Exc → ToolM β Value := req.clauses.ladder S b

/-- The tool is `runTool` with the checks and the `except` clauses that the request says,
around such a body. -/
structure ToolParts (S : Site β) (b : Binding) (req : Request) (m : ToolM β Value) (call : ToolCall α)
    (body : α → Option Str → ToolM β Value) : Prop where
  run : m = runTool S call (req.ladder S b) body
  binding : call.binding = b
  sql : req.auditSql = call.sql
  actor : call.actor = req.actor
  required : call.required = req.required
  guards : call.guards = req.guards b
  valid : Succeeds call.check ∧ Succeeds call.target ↔ req.Valid
  toolBody : ToolBody b req.Sends (req.ladder S b) body
  reply : ∀ input db, Triple (fun _ ↦ True) (body input db) (fun v _ ↦ ¬ req.FailurePayload v) (fun _ _ ↦ True)

def IsTool (S : Site β) (b : Binding) (req : Request) (m : ToolM β Value) : Prop :=
  ∃ (α : Type) (call : ToolCall α) (body : α → Option Str → ToolM β Value), ToolParts S b req m call body

omit [UnicodeData] in
theorem succeeds_ok (a : α) : Succeeds (.ok a : Except Exc α) := ⟨a, rfl⟩

section Queries

variable {instanceId dbName : Str} {stmt : Statement}

theorem executeRead_contacts (maxRows : ℤ) : Contacts instanceId (executeRead S instanceId stmt maxRows) :=
  contacts_record (fun _ hI ↦ runReadOperation_invariant hI.query
    (.bind (execute_invariant hI.query trivial) (fun _ ↦ Invariant.pure _)))

theorem executeReadInDatabase_contacts (maxRows : ℤ) :
    Contacts instanceId (executeReadInDatabase S instanceId dbName stmt maxRows) :=
  contacts_record (fun _ hI ↦ runReadOperation_invariant hI.query
    (.bind (execute_invariant hI.query trivial) (fun _ ↦ Invariant.pure _)))

theorem readRows_contacts (db : Option Str) (maxRows : ℤ) :
    Contacts instanceId (readRows S instanceId db stmt maxRows) := by
  cases db with
  | none => exact executeRead_contacts maxRows
  | some dbName => exact (executeReadInDatabase_contacts maxRows).bind (fun _ _ _ ↦ Invariant.pure _)

theorem fetchSingleRowInDatabase_contacts :
    Contacts instanceId (fetchSingleRowInDatabase S instanceId dbName stmt) :=
  contacts_record (fun _ hI ↦ runReadOperation_invariant hI.query
    (.bind (execute_invariant hI.query trivial) (fun _ ↦ Invariant.pure _)))

theorem listObjects_contacts (objectType : Str) : Contacts instanceId (listObjects S instanceId dbName objectType) := by
  refine contacts_record (fun I hI ↦ ?_)
  split
  · exact runReadOperation_invariant hI.query (.bind (execute_invariant hI.query trivial) (fun _ ↦ Invariant.pure _))
  · exact Invariant.raise _

theorem catalogQuery_contacts (query : CatalogQuery) (maxRows : ℤ) :
    Contacts instanceId (catalogQuery S instanceId dbName query maxRows) := executeReadInDatabase_contacts maxRows

theorem dashboardQueries_contacts (includeLocks : Bool) :
    Contacts instanceId (dashboardQueries S instanceId dbName includeLocks) :=
  (catalogQuery_contacts _ _).bind (fun _ hI _ ↦
    .bind (catalogQueriesIf_invariant hI.query (fun _ ↦ trivial) _ _) (fun _ ↦ Invariant.pure _))

theorem collectTopStatementMetrics_contacts (topN lookbackMinutes : ℤ) :
    Contacts instanceId (collectTopStatementMetrics S instanceId dbName topN lookbackMinutes) := by
  refine .bind (.catching ?_ (fun I hI e ↦ ?_)) (fun I hI rows ↦ ?_)
  · exact (catalogQuery_contacts _ _).bind (fun _ _ _ ↦ Invariant.pure _)
  · exact dmvFallback_invariant hI (fun _ ↦ trivial) topN e
  · exact .bind (objectPressure_invariant hI (fun _ ↦ trivial) topN) (fun _ ↦ Invariant.pure _)

end Queries

omit [UnicodeData] in
/-- A body whose first step asks an instance for something. -/
theorem ToolBody.of_first {ladder : Exc → ToolM β Value} {first : α → Option Str → ToolM β γ}
    {rest : α → Option Str → γ → ToolM β Value}
    (hl : ∀ I, Quiet I → ∀ e, Invariant I (ladder e))
    (hc : ∀ input db, Contacts b.instanceId (first input db))
    (hf : ∀ I, Undisturbed b.instanceId stmts I → ∀ input db, Invariant I (first input db))
    (hr : ∀ I, Undisturbed b.instanceId stmts I → ∀ input db a, Invariant I (rest input db a)) :
    ToolBody b stmts ladder (fun input db ↦ first input db >>= rest input db) where
  body_invariant I hI input db := .bind (hf I hI input db) (hr I hI input db)
  ladder_invariant := hl
  contacts input db := by
    refine Triple.bind (hc input db) (fun a ↦ ?_)
    exact hr _ (undisturbed_mentions b.instanceId stmts _) input db a

omit [UnicodeData] in
theorem reply_triple {req : Request} {body : α → Option Str → ToolM β Value} (h : ∀ {v}, ¬ req.FailurePayload v)
    (input : α) (db : Option Str) :
    Triple (fun _ ↦ True) (body input db) (fun v _ ↦ ¬ req.FailurePayload v) (fun _ _ ↦ True) :=
  .of_forall (fun _ _ ↦ h) (fun _ _ ↦ trivial)

variable (S b)

theorem select_isTool (args : SelectArgs) : IsTool S b (.select args) (select S b args) := by
  refine ⟨_, _, _, rfl, rfl, rfl, rfl, rfl, rfl, and_iff_right (succeeds_ok ()), .of_first ?_ ?_ ?_ ?_, reply_triple id⟩
  · exact fun I hI ↦ readLadder_invariant hI
  · exact fun _ db ↦ readRows_contacts db _
  · exact fun I hI _ db ↦ readRows_invariant hI (.inr rfl) db _
  · intro I hI _ db rows
    exact .bind (setRows_invariant hI _) (fun _ ↦ Invariant.pure _)

theorem execProc_isTool (args : ExecProcArgs) : IsTool S b (.execProc args) (execProc S b args) := by
  refine ⟨_, _, _, rfl, rfl, rfl, rfl, rfl, rfl, and_iff_right (succeeds_ok ()), .of_first ?_ ?_ ?_ ?_, reply_triple id⟩
  · exact fun I hI ↦ readLadder_invariant hI
  · intro _ db
    refine contacts_record (fun I hI ↦ connect_invariant hI.query ?_)
    refine .bind (execute_invariant hI.query trivial) (fun result ↦ ?_)
    exact .bind (commit_invariant hI) (fun _ ↦ Invariant.pure _)
  · intro I hI _ db
    exact executeProc_invariant hI (.inr rfl)
  · intro I hI _ db result
    exact .bind (setRows_invariant hI _) (fun _ ↦ Invariant.pure _)

variable {S b}

theorem runReadTool_isTool {req : Request} {sql databaseName : Str} {maxRows : ℤ} (hl : req.ladder S b = readLadder S)
    (hs : req.auditSql = sql) (hr : req.required = .read) (hg : req.guards b = [.enforce b.tool sql])
    (hv : Succeeds (optionalDatabase databaseName) ↔ req.Valid) (hf : ∀ {v}, ¬ req.FailurePayload v) :
    IsTool S b req (runReadTool S b sql req.actor maxRows databaseName) := by
  have hrun : runReadTool S b sql req.actor maxRows databaseName = runTool S _ (readLadder S) _ := rfl
  refine ⟨_, _, _, hl ▸ hrun, rfl, hs, rfl, hr.symm, hg.symm, (and_iff_right (succeeds_ok ())).trans hv, ?_,
    reply_triple hf⟩
  rw [hl]
  refine .of_first ?_ ?_ ?_ ?_
  · exact fun I hI ↦ readLadder_invariant hI
  · exact fun _ db ↦ readRows_contacts db _
  · exact fun I hI _ db ↦ readRows_invariant hI (.inl rfl) db _
  · intro I hI _ db rows
    exact .bind (setRows_invariant hI _) (fun _ ↦ Invariant.pure _)

variable (S b)

theorem ping_isTool (args : ActorArgs) : IsTool S b (.ping args) (ping S b args) := by
  have hsql : (Request.ping args).auditSql = pingSql := rfl
  refine ⟨_, _, _, rfl, rfl, by rw [hsql], rfl, rfl, rfl, iff_of_true ⟨succeeds_ok (), succeeds_ok none⟩ trivial,
    .of_first ?_ ?_ ?_ ?_, fun _ _ ↦ ?_⟩
  · exact fun I hI ↦ pingLadder_invariant hI
  · exact fun _ _ ↦ fetchSingleRowInDatabase_contacts
  · exact fun I hI _ _ ↦ fetchSingleRowInDatabase_invariant hI (.inl rfl)
  · intro I hI _ _ payload
    exact .bind (setRows_invariant hI _) (fun _ ↦ Invariant.pure _)
  · have hany {γ : Type} (m : ToolM β γ) : Triple (fun _ ↦ True) m (fun _ _ ↦ True) (fun _ _ ↦ True) :=
      .of_forall (fun _ _ ↦ trivial) (fun _ _ ↦ trivial)
    refine .bind (hany _) (fun payload ↦ .bind (hany _) (fun _ ↦ .pure (fun _ _ h ↦ ?_)))
    cases h

theorem listTools_isTool (args : ActorArgs) : IsTool S b (.listTools args) (listTools S b args) := by
  have hsql : (Request.listTools args).auditSql = listToolsSql := rfl
  refine ⟨_, _, _, rfl, rfl, by rw [hsql], rfl, rfl, rfl, iff_of_true ⟨succeeds_ok (), succeeds_ok none⟩ trivial,
    .of_first ?_ ?_ ?_ ?_, reply_triple id⟩
  · exact fun I hI ↦ wrapLadder_invariant [] hI
  · exact fun _ _ ↦ fetchSingleRowInDatabase_contacts
  · exact fun I hI _ _ ↦ fetchSingleRowInDatabase_invariant hI (.inl rfl)
  · intro I hI _ _ info
    exact .bind (setRows_invariant hI _) (fun _ ↦ Invariant.pure _)

theorem listObject_isTool (args : ListObjectArgs) : IsTool S b (.listObject args) (listObject S b args) := by
  refine ⟨_, _, _, rfl, rfl, rfl, rfl, rfl, rfl, iff_of_true ⟨succeeds_ok (), succeeds_ok none⟩ trivial,
    .of_first ?_ ?_ ?_ ?_, reply_triple id⟩
  · exact fun I hI ↦ wrapLadder_invariant [.valueError] hI
  · exact fun _ _ ↦ listObjects_contacts args.objectType
  · exact fun I hI _ _ ↦ listObjects_invariant hI (.inl rfl)
  · intro I hI _ _ rows
    exact .bind (setRows_invariant hI _) (fun _ ↦ .bind utcNow_invariant (fun _ ↦ Invariant.pure _))

theorem executeQuery_isTool (args : ExecuteQueryArgs) :
    IsTool S b (.executeQuery args) (executeQuery S b args) := by
  refine ⟨_, _, _, rfl, rfl, rfl, rfl, rfl, rfl, and_iff_left (succeeds_ok none), .of_first ?_ ?_ ?_ ?_, reply_triple id⟩
  · exact fun I hI ↦ wrapLadder_invariant _ hI
  · exact fun _ _ ↦ executeReadInDatabase_contacts _
  · exact fun I hI _ _ ↦ executeReadInDatabase_invariant hI.query (.inr rfl) _
  · intro I hI viewMode _ result
    refine .bind (setRows_invariant hI _) (fun _ ↦ .bind utcNow_invariant (fun now ↦ ?_))
    have hplan : Invariant I (explainedPlan S b args) := by
      refine .catching (explainQuery_invariant hI (.inr rfl) (fun _ ↦ .inl rfl)) (fun e ↦ ?_)
      split
      · exact Invariant.pure _
      · exact Invariant.raise e
    dsimp only
    split
    · exact .bind hplan (fun _ ↦ Invariant.pure _)
    · exact Invariant.pure _

omit [UnicodeData] in
theorem report_invariant {instanceId : Str} (hI : Undisturbed instanceId stmts I) (r : Except Exc (Value × ℕ)) :
    Invariant I (do
      let (report, rows) ← Act.ofExcept r
      setRows rows
      pure report : ToolM β Value) :=
  .bind (.ofExcept r) (fun _ ↦ .bind (setRows_invariant hI _) (fun _ ↦ Invariant.pure _))

theorem analyzeTabHealth_isTool (args : AnalyzeTabHealthArgs) :
    IsTool S b (.analyzeTabHealth args) (analyzeTabHealth S b args) := by
  refine ⟨_, _, _, rfl, rfl, rfl, rfl, rfl, rfl, and_iff_left (succeeds_ok none), .of_first ?_ ?_ ?_ ?_, reply_triple id⟩
  · exact fun I hI ↦ wrapLadder_invariant _ hI
  · exact fun _ _ ↦ catalogQuery_contacts _ _
  · exact fun I hI _ _ ↦ catalogQuery_invariant hI.query (fun _ ↦ .inl rfl) _ _
  · intro I hI input _ tableSizes
    refine .bind (catalogQueriesIf_invariant hI.query (fun _ ↦ .inl rfl) _ _) (fun fragmented ↦ ?_)
    refine .bind (catalogQuery_invariant hI.query (fun _ ↦ .inl rfl) _ _) (fun missingPk ↦ ?_)
    refine .bind (catalogQueriesIf_invariant hI.query (fun _ ↦ .inl rfl) _ _) (fun statistics ↦ ?_)
    refine .bind (.ofExcept _) (fun candidates ↦ .bind (.each (fun candidate ↦ ?_) _) (fun histograms ↦ ?_))
    · unfold histogramSteps
      split
      · exact Invariant.pure _
      · exact catalogQuery_invariant hI.query (fun _ ↦ .inl rfl) _ _
    · exact report_invariant hI _

theorem analyzeDbDataModel_isTool (args : AnalyzeDbDataModelArgs) :
    IsTool S b (.analyzeDbDataModel args) (analyzeDbDataModel S b args) := by
  refine ⟨_, _, _, rfl, rfl, rfl, rfl, rfl, rfl, and_iff_left (succeeds_ok none), .of_first ?_ ?_ ?_ ?_, reply_triple id⟩
  · exact fun I hI ↦ wrapLadder_invariant _ hI
  · exact fun _ _ ↦ catalogQuery_contacts _ _
  · exact fun I hI _ _ ↦ catalogQuery_invariant hI.query (fun _ ↦ .inl rfl) _ _
  · intro I hI input _ graphRows
    refine .bind (.ofExcept _) (fun _ ↦ .bind (notify_invariant hI.notify) (fun _ ↦ ?_))
    refine .bind (.each (fun check ↦ .catching ?_ (fun e ↦ ?_)) _) (fun checks ↦ report_invariant hI _)
    · refine .bind (notifyIf_invariant check.1 hI.notify) (fun _ ↦ ?_)
      refine .bind (catalogQuery_invariant hI.query (fun _ ↦ .inl rfl) _ _) (fun result ↦ ?_)
      exact .bind (.ofExcept _) (fun _ ↦ Invariant.pure _)
    · split
      · exact .bind (notify_invariant hI.notify) (fun _ ↦ Invariant.pure _)
      · exact Invariant.raise e

theorem analyzeSecConfig_isTool (args : AnalyzeSecConfigArgs) :
    IsTool S b (.analyzeSecConfig args) (analyzeSecConfig S b args) := by
  refine ⟨_, _, _, rfl, rfl, rfl, rfl, rfl, rfl, and_iff_left (succeeds_ok none), .of_first ?_ ?_ ?_ ?_, reply_triple id⟩
  · exact fun I hI ↦ wrapLadder_invariant _ hI
  · exact fun _ _ ↦ catalogQuery_contacts _ _
  · exact fun I hI _ _ ↦ catalogQuery_invariant hI.query (fun _ ↦ .inl rfl) _ _
  · intro I hI dbName _ orphanUsers
    refine .bind (catalogQuery_invariant hI.query (fun _ ↦ .inl rfl) _ _) (fun elevatedRoles ↦ ?_)
    refine .bind (catalogQuery_invariant hI.query (fun _ ↦ .inl rfl) _ _) (fun backupRows ↦ ?_)
    refine .bind ?_ (fun xp ↦ report_invariant hI _)
    unfold xpCmdshell
    split
    · refine .catching ?_ (fun e ↦ ?_)
      · refine .bind (executeReadInDatabase_invariant hI.query (.inl rfl) _) (fun xpRows ↦ ?_)
        exact .bind (.ofExcept _) (fun _ ↦ Invariant.pure _)
      · split
        · exact Invariant.pure _
        · exact Invariant.raise e
    · exact Invariant.pure _

theorem sessionsDashboard_isTool (args : SessionsDashboardArgs) :
    IsTool S b (.sessionsDashboard args) (sessionsDashboard S b args) := by
  refine ⟨_, _, _, rfl, rfl, rfl, rfl, rfl, rfl, and_iff_left (succeeds_ok none), .of_first ?_ ?_ ?_ ?_, reply_triple id⟩
  · exact fun I hI ↦ wrapLadder_invariant _ hI
  · exact fun _ _ ↦ dashboardQueries_contacts _
  · exact fun I hI _ _ ↦ dashboardQueries_invariant hI.query (fun _ ↦ .inl rfl) _
  · intro I hI dbName _ results
    refine .bind (setRows_invariant hI _) (fun _ ↦ .bind (.ofExcept _) (fun page ↦ ?_))
    refine .bind (registerDashboardPage_invariant hI _ _ _ _) (fun dashboardUrl ↦ ?_)
    refine .bind ?_ (fun expiresAtUtc ↦ Invariant.pure _)
    exact .bind (getValidEntry_invariant hI _) (fun _ ↦ Invariant.pure _)

theorem topStatements_isTool (args : TopStatementsArgs) :
    IsTool S b (.topStatements args) (topStatements S b args) := by
  refine ⟨_, _, _, rfl, rfl, rfl, rfl, rfl, rfl, and_iff_left (succeeds_ok none), .of_first ?_ ?_ ?_ ?_, reply_triple id⟩
  · exact fun I hI ↦ wrapLadder_invariant _ hI
  · exact fun _ _ ↦ collectTopStatementMetrics_contacts _ _
  · exact fun I hI _ _ ↦ collectTopStatementMetrics_invariant hI (fun _ ↦ .inl rfl) _ _
  · intro I hI input _ metrics
    exact report_invariant hI _

/-- Every tool but `_latency_report` runs its queries behind the same checks. -/
theorem runRequest_isTool {req : Request} (h : req.sendsSql = true) : IsTool S b req (runRequest S b req) := by
  cases req with
  | select args => exact select_isTool b S args
  | execProc args => exact execProc_isTool b S args
  | latencyReport args => cases h
  | blockReport args => exact runReadTool_isTool rfl rfl rfl rfl Iff.rfl id
  | topQueriesReport args => exact runReadTool_isTool rfl rfl rfl rfl Iff.rfl id
  | activeSessionsReport args => exact runReadTool_isTool rfl rfl rfl rfl Iff.rfl id
  | indexHealthReport args => exact runReadTool_isTool rfl rfl rfl rfl Iff.rfl id
  | ping args => exact ping_isTool b S args
  | listTools args => exact listTools_isTool b S args
  | listObject args => exact listObject_isTool b S args
  | executeQuery args => exact executeQuery_isTool b S args
  | analyzeTabHealth args => exact analyzeTabHealth_isTool b S args
  | analyzeDbDataModel args => exact analyzeDbDataModel_isTool b S args
  | analyzeSecConfig args => exact analyzeSecConfig_isTool b S args
  | sessionsDashboard args => exact sessionsDashboard_isTool b S args
  | topStatements args => exact topStatements_isTool b S args

end McpSqlServer

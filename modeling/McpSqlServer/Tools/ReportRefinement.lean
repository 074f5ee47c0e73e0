import McpSqlServer.Tools.TableHealth
import McpSqlServer.Tools.DataModel
import McpSqlServer.Tools.StatementSources
import McpSqlServer.Tools.SecurityConfig
import McpSqlServer.Tools.CallTraces
import McpSqlServer.Pool.Capacity

namespace McpSqlServer

open Library Library.Text Library.Python

section Values

def Finding.value (finding : Finding) : Value :=
  .dict [("code".toList, .str finding.code), ("severity".toList, .str finding.severity.text),
    ("title".toList, .str finding.title), ("detail".toList, .str finding.detail),
    ("evidence".toList, ofRows finding.evidence)]

def Recommendation.value (recommendation : Recommendation) : Value :=
  .dict [("priority".toList, .str recommendation.priority.text), ("action".toList, .str recommendation.action),
    ("rationale".toList, .str recommendation.rationale)]

def Report.items (report : Report) : Dict Value :=
  [("instance_number".toList, .int report.instanceNumber), ("database_name".toList, .str report.databaseName),
    ("tool".toList, .str report.tool), ("generated_at_utc".toList, .str report.generatedAtUtc),
    ("summary".toList, .dict report.summary),
    ("severity_counts".toList, .dict (report.severityCounts.map (fun item ↦ (item.1, .int item.2)))),
    ("findings".toList, .list (report.findings.map Finding.value)),
    ("recommendations".toList, .list (report.recommendations.map Recommendation.value))] ++
  report.disclaimer.elim [] (fun disclaimer ↦ [("disclaimer".toList, .str disclaimer)])

def Report.value (report : Report) : Value := .dict report.items

def TopStatementsReport.value (report : TopStatementsReport) : Value :=
  .dict (setItem "data_source".toList (.str report.dataSource)
    (setItem "top_statements".toList (ofRows report.topStatements) report.toReport.items))

def dictRows : Value → List Row
  | .list l => l.map (fun
    | .dict row => row
    | _ => [])
  | _ => []

theorem dictRows_ofRows (rows : List Row) : dictRows (ofRows rows) = rows := by
  show (rows.map Value.dict).map _ = rows
  rw [List.map_map]
  exact List.map_id rows

def XpCheck.value (xp : XpCheck) : Value := xp.error.elim (.bool xp.enabled) .str

def XpCheck.ofValue : Value → XpCheck
  | .bool enabled => { enabled := enabled }
  | .str text => { error := some text }
  | _ => {}

end Values

section Rules

variable [UnicodeData]

omit [UnicodeData] in
/-- What the analysis tools compute with besides the rows: how values are written and compared, the iteration order of
a set, a bound of the recursion, and the time of the report. -/
structure AnalysisRules where
  containerText : Value → Str
  statistics : StatisticsRules
  numerals : Numerals
  order : SetOrder Str
  depth : ℕ
  int : Value → Except Exc ℤ
  generatedAtUtc : Str

omit [UnicodeData] in
def TabHealthRows.ofResults : List (List Row) → TabHealthRows
  | [tableSizes, fragmented, missingPk, stale, neverUpdated, lowSampled, settings, coverage] =>
    ⟨tableSizes, fragmented, missingPk, stale, neverUpdated, lowSampled, settings, coverage⟩
  | _ => ⟨[], [], [], [], [], [], [], []⟩

omit [UnicodeData] in
def TabHealthRows.audited (rows : TabHealthRows) : ℕ :=
  rows.tableSizes.length + rows.fragmented.length + rows.missingPk.length + rows.staleStats.length +
    rows.neverUpdatedStats.length + rows.lowSampledStats.length + rows.missingStatsCoverage.length

omit [UnicodeData] in
def histogramNames (containerText : Value → Str) (candidate : Row) : Str × Str × Str :=
  (cellText containerText "schema_name".toList candidate, cellText containerText "table_name".toList candidate,
    cellText containerText "stat_name".toList candidate)

omit [UnicodeData] in
def histogramEvidence (rules : StatisticsRules) (names : Str × Str × Str) (steps : List Row) : Option Row :=
  if steps.isEmpty then none else rules.histogramSkew names steps

namespace AnalysisRules

variable (rules : AnalysisRules)

def filteredRows (input : TabHealthInput) (results : List (List Row)) : TabHealthRows :=
  (TabHealthRows.ofResults results).filter rules.containerText input.schemaName input.tableName

omit [UnicodeData] in
def stale (rows : TabHealthRows) : List Row := rows.staleStats.filterMap rules.statistics.classifyStaleStatisticsRow

omit [UnicodeData] in
def lowSample (rows : TabHealthRows) : List Row :=
  rows.lowSampledStats.filterMap rules.statistics.classifyLowSampleStatisticsRow

omit [UnicodeData] in
def candidates (args : AnalyzeTabHealthArgs) (input : TabHealthInput) (rows : TabHealthRows) : List (Str × Str × Str) :=
  (histogramCandidates args input (rules.stale rows) (rules.lowSample rows)).map (histogramNames rules.containerText)

def tabHealth (b : Binding) (args : AnalyzeTabHealthArgs) (input : TabHealthInput)
    (results histograms : List (List Row)) : Except Exc (Value × ℕ) :=
  let rows := rules.filteredRows input results
  let evidence := List.zipWith (histogramEvidence rules.statistics) (rules.candidates args input rows) histograms
  (tabHealthReport rules.containerText rules.statistics b args input rules.generatedAtUtc rows (rules.stale rows)
    (rules.lowSample rows) evidence.reduceOption).map (fun report ↦ (report.value, rows.audited))

def graph (input : DataModelInput) (rows : List Row) : Except Exc FkGraph :=
  requireGraph (dataModelGraph rules.containerText rules.order rules.depth input.schemaFilter rows)

/-- What a check makes of the rows of its query; a check that failed has none. -/
def judged (schemaFilter : Option Str) (check : SubtoolCheck) (rows : Option Value) : SubtoolCheck × CheckResult :=
  (check, rows.elim {} (fun rows ↦ check.judge (check.matching rules.containerText schemaFilter (dictRows rows))))

def dataModel (b : Binding) (input : DataModelInput) (graphRows : List Row) (checks : List (Option Value)) :
    Except Exc (Value × ℕ) := do
  let graph ← rules.graph input graphRows
  let report ← dataModelReport b input rules.generatedAtUtc graph
    (List.zipWith (rules.judged input.schemaFilter) (subtoolChecks rules.containerText) checks)
  pure (report.value, (filterBySchema rules.containerText input.schemaFilter graphRows).length)

omit [UnicodeData] in
def metrics (stmtRows objRows : List Row) (dataSource : Str) : Except Exc TopStatementMetrics :=
  normalizedMetrics rules.numerals stmtRows objRows dataSource

def topStatementsOf (b : Binding) (input : TopStatementsInput) (metrics : TopStatementMetrics) :
    Except Exc TopStatementsReport := do
  let advices ← recommendTopStatementActions rules.containerText rules.numerals metrics.statementRows metrics.objectRows
  let advised ← advices.mapM Advice.build
  let findings ← if advised.isEmpty then (noStatementFinding metrics.dataSource).map (fun finding ↦ [finding])
    else .ok (advised.map Prod.fst)
  let report := buildReportEnvelope b.instanceNumber input.dbName b.tool rules.generatedAtUtc
    [("statements_analyzed".toList, .int metrics.statementRows.length),
      ("objects_checked".toList, .int metrics.objectRows.length),
      ("lookback_minutes".toList, .int input.lookbackMinutes), ("data_source".toList, .str metrics.dataSource)]
    findings (advised.map Prod.snd)
  pure { toReport := report, topStatements := metrics.statementRows.take input.size.toNat,
         dataSource := metrics.dataSource }

def topStatements (b : Binding) (input : TopStatementsInput) (stmtRows objRows : List Row) (dataSource : Str) :
    Except Exc (Value × ℕ) :=
  (rules.metrics stmtRows objRows dataSource >>= rules.topStatementsOf b input).map (fun report ↦
    (report.value, stmtRows.length + objRows.length))

def secConfig (b : Binding) (dbName : Str) : List (List Row) → Value → Except Exc (Value × ℕ)
  | [orphanRows, elevatedRows, backupRows], xp =>
    (secConfigReport b dbName rules.generatedAtUtc true orphanRows elevatedRows backupRows (.ofValue xp)).map
      (fun report ↦ (report.value, orphanRows.length + elevatedRows.length + backupRows.length))
  | _, _ => .error (runtimeError [])

/-- The analysis tools of a server, with the other parts of `base`. -/
def reports (base : Reports) : Reports :=
  { base with
    histogramCandidates := fun args input results ↦
      .ok (rules.candidates args input (rules.filteredRows input (results.map ResultSet.rows)))
    tabHealth := fun b args input results histograms ↦
      rules.tabHealth b args input (results.map ResultSet.rows) (histograms.map ResultSet.rows)
    dataModelGraph := fun input rows ↦ (rules.graph input rows).map (fun _ ↦ ())
    dataModelCheck := fun _ _ rows ↦ .ok (ofRows rows)
    dataModel := rules.dataModel
    xpCmdshellEnabled := xpCmdshellEnabled rules.int
    secConfig := fun b dbName results xp ↦ rules.secConfig b dbName (results.map ResultSet.rows) xp
    topStatements := rules.topStatements }

end AnalysisRules

end Rules

section Queries

variable {β γ : Type} [UnicodeData] {S : Site β} {instanceId dbName : Str} {catalog : Catalog}

theorem Answers.shows (h : Answers S instanceId dbName catalog) (query : CatalogQuery) (maxRows : ℤ) :
    Shows ResultSet.rows (catalogQuery S instanceId dbName query maxRows) (catalog.rows query maxRows) :=
  fun w ↦ h query maxRows w

omit [UnicodeData] in
def Catalog.branch (catalog : Catalog) (cond : Bool) (queries : List (CatalogQuery × ℤ)) :
    Except Exc (List (List Row)) :=
  if cond then queries.mapM (fun q ↦ catalog.rows q.1 q.2) else .ok (queries.map (fun _ ↦ []))

theorem Answers.branch (h : Answers S instanceId dbName catalog) (cond : Bool) (queries : List (CatalogQuery × ℤ)) :
    Shows (List.map ResultSet.rows) (catalogQueriesIf S cond instanceId dbName queries)
      (catalog.branch cond queries) := by
  have heach := Shows.each (fun q : CatalogQuery × ℤ ↦ h.shows q.1 q.2) queries
  cases cond with
  | true => exact heach
  | false =>
    have hnone : (queries.map (fun _ ↦ ({} : ResultSet))).map ResultSet.rows = queries.map (fun _ ↦ []) := by
      rw [List.map_map]
      rfl
    show Shows (List.map ResultSet.rows) (pure (queries.map (fun _ ↦ ({} : ResultSet))))
      (.ok (queries.map (fun _ ↦ [])))
    exact hnone ▸ .pure _

/-- Notifications of the client that never fail. -/
def Listens (S : Site β) : Prop := ∀ ctx, S.ctx = some ctx → ∀ trace, ctx.outcome trace = .ok ()

omit [UnicodeData] in
theorem Listens.notify (h : Listens S) : EndsIn (notify S) (.ok ()) := by
  unfold McpSqlServer.notify
  split
  · exact .pure ()
  · rename_i ctx hctx
    intro w
    exact h ctx hctx _

omit [UnicodeData] in
theorem Listens.notifyIf (h : Listens S) (condition : Bool) : EndsIn (notifyIf S condition) (.ok ()) := by
  unfold McpSqlServer.notifyIf
  split
  · exact h.notify
  · exact .pure ()

end Queries

section Parts

variable [UnicodeData] {catalog : Catalog} {rules : AnalysisRules}

omit [UnicodeData] in
theorem Catalog.branch_cons (catalog : Catalog) (cond : Bool) (q : CatalogQuery × ℤ)
    (queries : List (CatalogQuery × ℤ)) :
    catalog.branch cond (q :: queries) = (do
      let rows ← catalog.rowsIf cond q.1 q.2
      let rest ← catalog.branch cond queries
      pure (rows :: rest)) := by
  cases cond with
  | true =>
    show List.mapM (fun q ↦ catalog.rows q.1 q.2) (q :: queries) = _
    rw [List.mapM_cons]
    rfl
  | false => rfl

omit [UnicodeData] in
theorem Catalog.branch_nil (catalog : Catalog) (cond : Bool) : catalog.branch cond [] = .ok [] := by
  cases cond <;> rfl

variable {source : InstanceSource}

def secConfigRun (rules : AnalysisRules) (source : InstanceSource) (b : Binding) (dbName : Str)
    (includeServerScope : Bool) : Except Exc Value := do
  let orphanRows ← (source.catalogs dbName).rows .orphanUser 200
  let elevatedRows ← (source.catalogs dbName).rows .elevatedRoles 500
  let backupRows ← (source.catalogs masterDatabase).rows .backupRecency 200
  let xp ← (checkXpCmdshell rules.int source.xpRows includeServerScope).map XpCheck.value
  (rules.secConfig b dbName [orphanRows, elevatedRows, backupRows] xp).map Prod.fst

omit [UnicodeData] in
theorem checkXpCmdshell_cases {int : Value → Except Exc ℤ} {xpRows : Except Exc (List Row)} {includeServerScope : Bool}
    {xp : XpCheck} (h : checkXpCmdshell int xpRows includeServerScope = .ok xp) :
    XpCheck.ofValue xp.value = xp ∧ (true && xp.enabled) = (includeServerScope && xp.enabled) := by
  unfold checkXpCmdshell at h
  cases includeServerScope with
  | false =>
    obtain rfl := Except.ok.inj h
    exact ⟨rfl, rfl⟩
  | true =>
    refine ⟨?_, rfl⟩
    rw [if_pos rfl] at h
    split at h
    · obtain rfl := Except.ok.inj h
      rfl
    · split at h
      · obtain rfl := Except.ok.inj h
        rfl
      · cases h

omit [UnicodeData] in
theorem checkXpCmdshell_eq (int : Value → Except Exc ℤ) (xpRows : Except Exc (List Row)) :
    (checkXpCmdshell int xpRows true).map XpCheck.value =
      tryCatch ((xpRows >>= fun rows ↦ xpCmdshellEnabled int (rows.take 1)).map Value.bool)
        (fun e ↦ if e.caught then .ok (.str e.text) else .error e) := by
  unfold checkXpCmdshell
  rw [if_pos rfl]
  cases xpRows >>= fun rows ↦ xpCmdshellEnabled int (rows.take 1) with
  | ok enabled => rfl
  | error e =>
    show Except.map XpCheck.value (if e.caught then _ else _) = if e.caught then _ else _
    split
    · rfl
    · rfl

theorem secConfigRun_eq (b : Binding) (dbName : Str) (includeServerScope : Bool) :
    secConfigRun rules source b dbName includeServerScope =
      (secConfig rules.int source b dbName rules.generatedAtUtc includeServerScope).map Report.value := by
  simp only [secConfigRun, secConfig, map_bind_except]
  refine bind_congr fun orphanRows ↦ bind_congr fun elevatedRows ↦ bind_congr fun backupRows ↦ ?_
  cases hxp : checkXpCmdshell rules.int source.xpRows includeServerScope with
  | error e => rfl
  | ok xp =>
    obtain ⟨hvalue, henabled⟩ := checkXpCmdshell_cases hxp
    show (rules.secConfig b dbName [orphanRows, elevatedRows, backupRows] xp.value).map Prod.fst =
      (secConfigReport b dbName rules.generatedAtUtc includeServerScope orphanRows elevatedRows backupRows xp).map _
    unfold AnalysisRules.secConfig secConfigReport
    dsimp only
    rw [map_fst_except, hvalue, henabled]

end Parts

section Returning

variable {β α : Type} [UnicodeData] {S : Site β}

theorem wrapLadder_raises (plain : List ExcKind) (e : Exc) :
    Triple (fun _ ↦ True) (wrapLadder S plain e) (fun _ _ ↦ False) (fun _ _ ↦ True) := by
  have hraise (code : Str) (e' : Exc) : Triple (fun _ ↦ True) (do
      deny S true code
      Act.raise e') (fun (_ : Value) _ ↦ False) (fun _ _ ↦ True) :=
    .bind (R := fun _ _ ↦ True) (.of_forall (fun _ _ ↦ trivial) (fun _ _ ↦ trivial))
      (fun _ ↦ .raise (fun _ _ ↦ trivial))
  unfold wrapLadder
  split
  · exact hraise _ e
  · split
    · exact hraise _ _
    · exact .raise (fun _ _ ↦ trivial)

/-- A tool behind the gate of a read whose queries end in `r`. -/
def RunsTo (S : Site β) (b : Binding) (r : Except Exc Value) (m : ToolM β Value) : Prop :=
  ∃ (α : Type) (call : ToolCall α) (body : α → Option Str → ToolM β Value),
    m = runTool S call (analysisLadder S) body ∧ call.guards = [.enforce b.tool "SELECT 1".toList] ∧
    call.target = .ok none ∧ (∀ e, call.check = .error e → r = .error e) ∧
    ∀ input db, call.check = .ok input → EndsIn (body input db) r

variable {b : Binding} {r : Except Exc Value} {m : ToolM β Value}

omit [UnicodeData] in
theorem endsIn_triple {γ : Type} {m : ToolM β γ} {r : Except Exc γ} {P : World β → Prop} (h : EndsIn m r) :
    Triple P m (fun v _ ↦ r = .ok v) (fun e _ ↦ r = .error e) := by
  intro w _
  have hr := h w
  rcases hw : m w with ⟨r', w'⟩
  rw [hw] at hr
  cases r' with
  | ok v => exact hr.symm
  | error e => exact hr.symm

omit [UnicodeData] in
/-- What a value is does not depend on the steps behind it. -/
theorem kept_triple {γ : Type} {m : ToolM β γ} {p : Prop} {E : Exc → World β → Prop}
    (hm : Triple (fun _ ↦ True) m (fun _ _ ↦ True) E) : Triple (fun _ ↦ p) m (fun _ _ ↦ p) E :=
  fun w hp ↦ (hm w trivial).mono (fun _ _ _ ↦ hp) (fun _ _ h ↦ h)

/-- What a tool with the ladder of the analyses returns was returned by its body. -/
theorem runTool_returns {call : ToolCall α} {body : α → Option Str → ToolM β Value} {K : Value → Prop}
    (hbody : ∀ input db, call.check = .ok input →
      Triple (fun _ ↦ True) (body input db) (fun v _ ↦ K v) (fun _ _ ↦ True)) :
    Triple (fun _ ↦ True) (runTool S call (analysisLadder S) body) (fun v _ ↦ K v) (fun _ _ ↦ True) := by
  have hany {γ : Type} (m : ToolM β γ) : Triple (fun _ ↦ True) m (fun _ _ ↦ True) (fun _ _ ↦ True) :=
    .of_forall (fun _ _ ↦ trivial) (fun _ _ ↦ trivial)
  have hstages : GateStages S call (fun _ ↦ True) (fun _ ↦ True) (fun _ ↦ True) (fun _ ↦ True) (fun _ ↦ True)
      (fun _ _ ↦ True) :=
    { notified := hany _, checked := fun _ _ _ _ ↦ trivial, resolved := hany _, touched := hany _,
      touched_notified := hany _, allowed := hany _, allowed_notified := hany _, guarded := hany _,
      guarded_notified := hany _, targeted := fun _ _ _ _ ↦ trivial }
  have htry : Triple (fun _ ↦ True) (tryBlock S call body) (fun v _ ↦ K v) (fun _ _ ↦ True) :=
    tryBlock_triple hstages (fun input db hinput _ ↦ hbody input db hinput) (fun v ↦ kept_triple (hany _))
  refine .bind (R := fun _ _ ↦ True) (hany _) (fun _ ↦ ?_)
  refine .ensuring (.catching htry (fun e ↦ ?_)) (fun v ↦ kept_triple (hany _)) (fun e ↦ hany _)
  exact (wrapLadder_raises _ e).mono (fun _ h ↦ h) (fun _ _ h ↦ h.elim) (fun _ _ h ↦ h)

omit [UnicodeData] in
theorem of_returned {K : Value → Prop} (h : Triple (fun _ ↦ True) m (fun v _ ↦ K v) (fun _ _ ↦ True)) {w : World β}
    {v : Value} (hv : (m w).1 = .ok v) : K v := by
  have hend := h w trivial
  rcases hw : m w with ⟨r', w'⟩
  rw [hw] at hend hv
  rw [show r' = .ok v from hv] at hend
  exact hend

theorem RunsTo.of_returned (h : RunsTo S b r m) {w : World β} {v : Value} (hv : (m w).1 = .ok v) : r = .ok v := by
  obtain ⟨α, call, body, rfl, -, -, -, hbody⟩ := h
  have hreturns := runTool_returns (S := S) (K := fun v ↦ r = .ok v) (fun input db hinput ↦
    (endsIn_triple (hbody input db hinput)).mono (fun _ h ↦ h) (fun _ _ h ↦ h) (fun _ _ _ ↦ trivial))
  exact McpSqlServer.of_returned hreturns hv

def reraised : Except Exc Value → Except Exc Value
  | .ok v => .ok v
  | .error e =>
    .error (if e.kind ∈ [.valueError, .permissionError] then e
      else if e.caught then runtimeError (sqlErrorCode e)
      else e)

theorem Open.ladder_reraises (h : Open S) (e : Exc) :
    Triple (fun _ ↦ True) (analysisLadder S e) (fun _ _ ↦ False) (fun e' _ ↦ reraised (.error e) = .error e') := by
  have hraise (code : Str) {e' : Exc} (he' : reraised (.error e) = .error e') : Triple (fun _ ↦ True) (do
      deny S true code
      Act.raise e') (fun (_ : Value) _ ↦ False) (fun e' _ ↦ reraised (.error e) = .error e') := by
    refine .bind (R := fun _ _ ↦ True) ?_ (fun _ ↦ .raise (fun _ _ ↦ he'))
    refine .modify_bind (I := fun _ ↦ True) (fun _ _ ↦ trivial) ?_
    refine .modify_bind (I := fun _ ↦ True) (fun _ _ ↦ trivial) ?_
    exact (h.notify_clear (P := fun _ ↦ True)).mono (fun _ h ↦ h) (fun _ _ h ↦ h) (fun _ _ h ↦ h.elim)
  unfold analysisLadder wrapLadder
  split
  · rename_i hkind
    exact hraise _ (by rw [reraised, if_pos hkind])
  · rename_i hkind
    split
    · rename_i hcaught
      exact hraise _ (by rw [reraised, if_neg hkind, if_pos hcaught])
    · rename_i hcaught
      exact .raise (fun _ _ ↦ by rw [reraised, if_neg hkind, if_neg hcaught])

/-- No gate stands in the way of a read by the tool, and its audit event can be written. -/
structure Unhindered (S : Site β) (b : Binding) (w : World β) : Prop where
  isOpen : Open S
  log : ∀ trace, S.log trace = .ok ()
  guard : guardVerdict S.policy (.enforce b.tool "SELECT 1".toList) = .ok ()
  sessions : w.sessions = []

theorem RunsTo.answers (h : RunsTo S b r m) {w : World β} (hw : Unhindered S b w) : (m w).1 = reraised r := by
  have hopen := hw.isOpen
  obtain ⟨α, call, body, rfl, hguards, htarget, hcheck, hbody⟩ := h
  have hg : ∀ g ∈ call.guards, guardVerdict S.policy g = .ok () := by
    intro g hg
    rw [hguards, List.mem_singleton] at hg
    rw [hg, hw.guard]
  have hstep {P Q : World β → Prop} {γ : Type} {m : ToolM β γ} (hm : Triple P m (fun _ ↦ Q) (fun _ _ ↦ False)) :
      Triple P m (fun _ ↦ Q) (fun e _ ↦ r = .error e) := hm.mono (fun _ h ↦ h) (fun _ _ h ↦ h) (fun _ _ h ↦ h.elim)
  have hstages : GateStages S call (fun w ↦ w.sessions = []) (fun w ↦ w.sessions = []) (fun _ ↦ True) (fun _ ↦ True)
      (fun _ ↦ True) (fun e _ ↦ r = .error e) :=
    { notified := hstep hopen.notify_clear
      checked := fun e _ herr _ ↦ hcheck e herr
      resolved := hstep (hopen.resolveActor_clear _)
      touched := hstep (hopen.touchSession_clear _)
      touched_notified := hstep (hopen.notifyIf_clear _)
      allowed := hstep hopen.allowRequest_clear
      allowed_notified := hstep (hopen.notifyIf_clear _)
      guarded := hstep (checkGuards_clear hg)
      guarded_notified := hstep (hopen.notifyIf_clear _)
      targeted := fun _ _ herr ↦ by rw [htarget] at herr; cases herr }
  have htry : Triple (fun w ↦ w.sessions = []) (tryBlock S call body) (fun v _ ↦ r = .ok v) (fun e _ ↦ r = .error e) :=
    tryBlock_triple hstages (fun input db hinput _ ↦ endsIn_triple (hbody input db hinput))
      (fun v ↦ hstep (kept_triple hopen.notify_clear))
  have hcaught : Triple (fun w ↦ w.sessions = []) (Act.catching (tryBlock S call body) (analysisLadder S))
      (fun v _ ↦ reraised r = .ok v) (fun e _ ↦ reraised r = .error e) := by
    refine .catching (htry.mono (fun _ h ↦ h) (fun v _ h ↦ ?_) (fun _ _ h ↦ h)) (fun e _ he ↦ ?_)
    · rw [h, reraised]
    · rw [he]
      exact (hopen.ladder_reraises e _ trivial).mono (fun _ _ h ↦ h.elim) (fun _ _ h ↦ h)
  have hlogged {p : Prop} {E : Exc → World β → Prop} :
      Triple (fun _ ↦ p) (logAuditEvent S call.binding call.sql) (fun _ _ ↦ p) E := by
    refine kept_triple (.bind (R := fun _ _ ↦ True) (.modify (fun _ _ ↦ trivial)) (fun _ ↦ .read_bind (fun w _ ↦ ?_)))
    rw [hw.log]
    exact .modify (fun _ _ ↦ trivial)
  have hrun : Triple (fun w ↦ w.sessions = []) (runTool S call (analysisLadder S) body) (fun v _ ↦ reraised r = .ok v)
      (fun e _ ↦ reraised r = .error e) :=
    .modify_bind (I := fun w ↦ w.sessions = []) (fun w hw ↦ hw) (.ensuring hcaught (fun _ ↦ hlogged) (fun _ ↦ hlogged))
  exact (Ends.result (K := fun r' _ ↦ reraised r = r') (hrun w hw.sessions)).symm

end Returning

section Tools

variable {β : Type} [UnicodeData] {S : Site β} {b : Binding} {rules : AnalysisRules} {base : Reports}
  {source : InstanceSource}

/-- The site answers the queries of the analysis tools on an instance as `source` says. -/
structure AnsweredBy (S : Site β) (instanceId : Str) (source : InstanceSource) : Prop where
  catalogs : ∀ dbName, Answers S instanceId dbName (source.catalogs dbName)
  xpRows : Shows ResultSet.rows (executeCatalogQuery S instanceId masterDatabase (.program xpCmdshellSql) 1)
    (source.xpRows.map (List.take 1))

omit [UnicodeData] in
theorem report_endsIn (r : Except Exc (Value × ℕ)) :
    EndsIn (do
      let (report, rows) ← (Act.ofExcept r : ToolM β (Value × ℕ))
      setRows rows
      pure report) (r.map Prod.fst) := by
  intro w
  cases r with
  | ok p => rfl
  | error e => rfl

theorem xpCmdshell_endsIn (h : AnsweredBy S b.instanceId source) (hS : S.reports = rules.reports base)
    (includeServerScope : Bool) :
    EndsIn (xpCmdshell S b.instanceId includeServerScope)
      ((checkXpCmdshell rules.int source.xpRows includeServerScope).map XpCheck.value) := by
  cases includeServerScope with
  | false => exact .pure _
  | true =>
    have hrun : EndsIn (do
        let xpRows ← executeCatalogQuery S b.instanceId masterDatabase (.program xpCmdshellSql) 1
        let enabled ← Act.ofExcept (S.reports.xpCmdshellEnabled xpRows.rows)
        pure (Value.bool enabled)) (source.xpRows.map (List.take 1) >>= fun rows ↦
          xpCmdshellEnabled rules.int rows >>= fun enabled ↦ .ok (.bool enabled)) := by
      rw [hS]
      exact h.xpRows.bind (fun result ↦ .bind (fun _ ↦ rfl) (fun enabled ↦ .pure _))
    have hcatch : EndsIn (xpCmdshell S b.instanceId true) (tryCatch (source.xpRows.map (List.take 1) >>= fun rows ↦
        xpCmdshellEnabled rules.int rows >>= fun enabled ↦ .ok (.bool enabled))
          (fun e ↦ if e.caught then .ok (.str e.text) else .error e)) := by
      refine .catching hrun (fun e ↦ ?_)
      split
      · exact .pure _
      · exact .raise _
    rw [checkXpCmdshell_eq]
    convert hcatch using 2
    cases source.xpRows with
    | ok rows => rfl
    | error e => rfl

/-- What an analysis tool returns behind its gates; other requests are no analyses. -/
def analysis (rules : AnalysisRules) (source : InstanceSource) (b : Binding) : Request → Option (Except Exc Value)
  | .analyzeTabHealth args => some (do
    let input ← args.check
    let report ← tabHealth rules.containerText rules.statistics (source.catalogs input.dbName) b args input
      rules.generatedAtUtc
    pure report.value)
  | .analyzeDbDataModel args => some (do
    let input ← args.check
    let report ← dataModel rules.containerText rules.order rules.depth (source.catalogs input.dbName) b input
      rules.generatedAtUtc
    pure report.value)
  | .analyzeSecConfig args => some (do
    let dbName ← args.check
    let report ← secConfig rules.int source b dbName rules.generatedAtUtc args.includeServerScope
    pure report.value)
  | .topStatements args => some (do
    let input ← args.check
    let report ← topStatementsReport rules.containerText rules.numerals (source.catalogs input.dbName) b input
      rules.generatedAtUtc
    pure report.value)
  | _ => none

theorem analyzeSecConfig_runsTo (h : AnsweredBy S b.instanceId source) (hS : S.reports = rules.reports base)
    (args : AnalyzeSecConfigArgs) {r : Except Exc Value}
    (hr : analysis rules source b (.analyzeSecConfig args) = some r) :
    RunsTo S b r (analyzeSecConfig S b args) := by
  refine ⟨_, _, _, rfl, rfl, rfl, fun e he ↦ ?_,
    fun dbName db hdbName ↦ ?_⟩
  · exact (Option.some.inj hr).symm.trans (error_bind he _)
  have hcatalog := h.catalogs dbName
  have hrun : r = secConfigRun rules source b dbName args.includeServerScope := by
    rw [secConfigRun_eq, ← bind_pure_eq_map, ← Option.some.inj hr]
    show args.check >>= _ = _
    rw [show args.check = .ok dbName from hdbName]
    rfl
  rw [hrun]
  refine (hcatalog.shows _ _).bind (fun orphanRows ↦ (hcatalog.shows _ _).bind (fun elevatedRows ↦ ?_))
  refine ((h.catalogs masterDatabase).shows _ _).bind (fun backupRows ↦ (xpCmdshell_endsIn h hS _).bind (fun xp ↦ ?_))
  rw [hS]
  exact report_endsIn _

/-- A report of `analyze_sec_config` counts one finding for every check that found something, gives a clean bill only
if none did, and says of the server scope whether the setting is on or why it could not be read. -/
theorem analyzeSecConfig_verdict (h : AnsweredBy S b.instanceId source) (hS : S.reports = rules.reports base)
    (args : AnalyzeSecConfigArgs) {w : World β} {v : Value}
    (hv : (runRequest S b (.analyzeSecConfig args) w).1 = .ok v) :
    ∃ dbName report orphanRows elevatedRows backupRows xp, args.check = .ok dbName ∧ v = Report.value report ∧
      (source.catalogs dbName).rows .orphanUser 200 = .ok orphanRows ∧
      (source.catalogs dbName).rows .elevatedRoles 500 = .ok elevatedRows ∧
      (source.catalogs masterDatabase).rows .backupRecency 200 = .ok backupRows ∧
      xp.Exact rules.int source args.includeServerScope ∧
      SecurityVerdict orphanRows elevatedRows backupRows xp report := by
  have hrun := (analyzeSecConfig_runsTo h hS args rfl).of_returned hv
  obtain ⟨dbName, hcheck, hrun⟩ := exists_of_bind_ok hrun
  obtain ⟨report, hreport, hvalue⟩ := exists_of_bind_ok hrun
  obtain ⟨orphanRows, elevatedRows, backupRows, xp, hverdict⟩ := secConfig_verdict hreport
  exact ⟨dbName, report, orphanRows, elevatedRows, backupRows, xp, hcheck, (Except.ok.inj hvalue).symm, hverdict⟩

/-- Apart from its time, the report of `analyze_sec_config` does not depend on the sensitive columns of users and roles. -/
theorem analyzeSecConfig_hides {S' : Site β} {source' : InstanceSource} {base' : Reports}
    (h : AnsweredBy S b.instanceId source) (h' : AnsweredBy S' b.instanceId source')
    (hS : S.reports = rules.reports base) (hS' : S'.reports = rules.reports base')
    (halike : source.Alike source') (args : AnalyzeSecConfigArgs) (w w' : World β) :
    (∀ v v', (runRequest S b (.analyzeSecConfig args) w).1 = .ok v →
      (runRequest S' b (.analyzeSecConfig args) w').1 = .ok v' → v = v') ∧
    (Unhindered S b w → Unhindered S' b w' →
      (runRequest S b (.analyzeSecConfig args) w).1 = (runRequest S' b (.analyzeSecConfig args) w').1) := by
  have hrun := analyzeSecConfig_runsTo h hS args rfl
  have hrun' := analyzeSecConfig_runsTo h' hS' args rfl
  simp only [← secConfig_congr halike] at hrun'
  refine ⟨fun v v' hv hv' ↦ ?_, fun hw hw' ↦ (hrun.answers hw).trans (hrun'.answers hw').symm⟩
  exact Except.ok.inj ((hrun.of_returned hv).symm.trans (hrun'.of_returned hv'))

end Tools

def plainRules : AnalysisRules where
  containerText _ := []
  statistics := someRules
  numerals := sampleNumerals
  order := insertionOrder
  depth := 0
  int
    | .int n => .ok n
    | _ => .error (typeError [])
  generatedAtUtc := []

section Sample

variable [UnicodeData] {answer : Event → Except Exc ResultSet}

def answeringSite (answer : Event → Except Exc ResultSet) : Site Unit :=
  { openSite {} [Pool.smallInstance] with
    driver := fun trace ↦ (trace.getLast?.map answer).getD (.ok {})
    reports := plainRules.reports blankReports }

theorem driver_answeringSite (e : Event) (w : World Unit) :
    driver (answeringSite answer) e w = (answer e, w.record e) := by
  show (((w.trace ++ [e]).getLast?.map answer).getD (.ok {}), w.record e) = _
  rw [List.getLast?_concat]
  rfl

theorem executeCatalogQuery_answeringSite {dbName : Str} {sql : Statement} {maxRows : ℤ} {result : ResultSet}
    (hconnect : answer (.connect "primary".toList (some dbName)) = .ok {})
    (hexecute : answer (.execute "primary".toList sql) = .ok result) :
    Shows ResultSet.rows (executeCatalogQuery (answeringSite answer) "primary".toList dbName sql maxRows)
      (.ok (result.rows.take maxRows.toNat)) := by
  intro w
  obtain ⟨w₁, hw₁⟩ : ∃ w₁, record (.manager "primary".toList) w = (.ok (), w₁) := ⟨_, rfl⟩
  obtain ⟨w₂, hw₂⟩ : ∃ w₂, w₂ = w₁.record (.connect "primary".toList (some dbName)) := ⟨_, rfl⟩
  have hconnected : driver (answeringSite answer) (.connect "primary".toList (some dbName)) w₁ = (.ok {}, w₂) := by
    rw [driver_answeringSite, hconnect, hw₂]
  have hexecuted : driver (answeringSite answer) (.execute "primary".toList sql) w₂ =
      (.ok result, w₂.record (.execute "primary".toList sql)) := by
    rw [driver_answeringSite, hexecute]
  have hblock : connect (answeringSite answer) "primary".toList (some dbName) (do
      let result ← execute (answeringSite answer) "primary".toList sql
      pure { result with rows := result.rows.take maxRows.toNat }) w₁ =
        (.ok { result with rows := result.rows.take maxRows.toNat },
          w₂.record (.execute "primary".toList sql)) := by
    rw [connect, if_pos (by rfl), Act.bind_of_ok hconnected, execute, Act.bind_of_ok hexecuted]
    rfl
  rw [executeCatalogQuery, executeReadInDatabase, Act.bind_of_ok hw₁, runReadOperation, readRetryAttempts, readAttempts,
    Act.catching_of_ok hblock]
  rfl

omit [UnicodeData] in
def orphanRow (hash : String) : Row := [("name".toList, .str "app".toList), ("password_hash".toList, .str hash.toList)]

omit [UnicodeData] in
def orphanRows (hash : String) : CatalogQuery → List Row
  | .orphanUser => [orphanRow hash]
  | _ => []

omit [UnicodeData] in
def orphanAnswer (hash : String) : Event → Except Exc ResultSet
  | .execute _ (.catalog query) => .ok { rows := orphanRows hash query }
  | _ => .ok {}

omit [UnicodeData] in
def orphanSource (hash : String) : InstanceSource where
  catalogs _ query := .ok (orphanRows hash query)
  xpRows := .ok []

omit [UnicodeData] in
def securityBinding : Binding := ⟨"analyze_sec_config".toList, "primary".toList, 1⟩

omit [UnicodeData] in
def securityCall : AnalyzeSecConfigArgs := { databaseName := "db".toList }

theorem answeredBy_orphan (hash : String) :
    AnsweredBy (answeringSite (orphanAnswer hash)) securityBinding.instanceId (orphanSource hash) where
  catalogs dbName query maxRows := by
    have hquery : orphanAnswer hash (.execute "primary".toList (.catalog query)) =
        .ok { rows := orphanRows hash query } := rfl
    exact executeCatalogQuery_answeringSite rfl hquery
  xpRows := by
    have hprogram : orphanAnswer hash (.execute "primary".toList (.program xpCmdshellSql)) = .ok {} := rfl
    exact executeCatalogQuery_answeringSite rfl hprogram

theorem unhindered_orphan (hash : String) :
    Unhindered (answeringSite (orphanAnswer hash)) securityBinding freshWorld where
  isOpen := ⟨rfl, rfl, (open_openSite {} []).limit, fun _ _ _ ↦ rfl⟩
  log _ := rfl
  guard := rfl
  sessions := rfl

end Sample

theorem analyzeSecConfig_verdict_orphan :
    let _ := asciiData
    ∃ v, (runRequest (answeringSite (orphanAnswer "x")) securityBinding (.analyzeSecConfig securityCall) freshWorld).1 =
        .ok v ∧
      ∃ dbName report orphanRows elevatedRows backupRows xp, securityCall.check = .ok dbName ∧ v = Report.value report ∧
        ((orphanSource "x").catalogs dbName).rows .orphanUser 200 = .ok orphanRows ∧
        ((orphanSource "x").catalogs dbName).rows .elevatedRoles 500 = .ok elevatedRows ∧
        ((orphanSource "x").catalogs masterDatabase).rows .backupRecency 200 = .ok backupRows ∧
        xp.Exact plainRules.int (orphanSource "x") true ∧
        SecurityVerdict orphanRows elevatedRows backupRows xp report := by
  intro U
  have hS : (answeringSite (orphanAnswer "x")).reports = plainRules.reports blankReports := rfl
  have hrun := (analyzeSecConfig_runsTo (answeredBy_orphan "x") hS securityCall rfl).answers (unhindered_orphan "x")
  exact ⟨_, hrun, analyzeSecConfig_verdict (answeredBy_orphan "x") rfl securityCall hrun⟩

theorem alike_orphan (hash hash' : String) : let _ := asciiData
    (orphanSource hash).Alike (orphanSource hash') := by
  intro U
  refine ⟨fun _ ↦ .cons (.cons ⟨rfl, fun _ ↦ rfl⟩ (.cons ⟨rfl, fun h ↦ ?_⟩ .nil)) .nil, fun _ ↦ .nil, .nil, rfl⟩
  have hs : isSensitive "password_hash".toList = true := by decide
  cases hs.symm.trans h

theorem analyzeSecConfig_hides_hash :
    let _ := asciiData
    (runRequest (answeringSite (orphanAnswer "x")) securityBinding (.analyzeSecConfig securityCall) freshWorld).1 =
      (runRequest (answeringSite (orphanAnswer "y")) securityBinding (.analyzeSecConfig securityCall)
        freshWorld).1 := by
  intro U
  exact (analyzeSecConfig_hides (answeredBy_orphan "x") (answeredBy_orphan "y") rfl rfl (alike_orphan "x" "y")
    securityCall freshWorld freshWorld).2 (unhindered_orphan "x") (unhindered_orphan "y")

end McpSqlServer

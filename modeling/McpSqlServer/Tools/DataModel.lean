import McpSqlServer.Tools.DatatypeConsistency

namespace McpSqlServer

open Library Library.Text Library.Python

/-- What a check of the `_subtool_analyze_*` helpers leaves; these are the values of one that failed. -/
structure CheckResult where
  count : ℕ := 0
  advices : List Advice := []

/-- A check of the `_subtool_analyze_*` helpers: its query, the columns that the schema filter looks
at, the place of its count in the summary, and what it makes of the rows. -/
structure SubtoolCheck where
  query : CatalogQuery
  maxRows : ℤ
  schemaKeys : List Str
  part : Str
  countKey : Str
  judge : List Row → CheckResult

structure TableCheck where
  code : String
  severity : ℕ → Severity
  noun : String
  detail : String
  schemaKey : String := "schema_name"
  tableKey : String := "table_name"
  columns : List (String × String)
  shown : ℕ
  action : String
  rationale : String

def integrityFindings : Str := "integrity_findings".toList

def normalizationFindings : Str := "normalization_findings".toList

section Checks

variable (containerText : Value → Str)

def tableText (schemaKey tableKey : String) (row : Row) : Str :=
  cellText containerText schemaKey.toList row ++ ['.'] ++ cellText containerText tableKey.toList row

def TableCheck.evidence (check : TableCheck) (row : Row) : Row :=
  ("table".toList, .str (tableText containerText check.schemaKey check.tableKey row)) ::
    check.columns.map (fun column ↦ (column.1.toList, row.get column.2.toList))

def TableCheck.judge (check : TableCheck) (rows : List Row) : CheckResult where
  count := rows.length
  advices := adviceIf (!rows.isEmpty)
    { code := check.code.toList, severity := check.severity rows.length,
      title := intText rows.length ++ [' '] ++ check.noun.toList, detail := check.detail.toList,
      evidence := (rows.take check.shown).map (check.evidence containerText),
      action := check.action.toList, rationale := check.rationale.toList }

def missingOptimizerIndexes : SubtoolCheck where
  query := .missingIndexDmv 50
  maxRows := 50
  schemaKeys := ["schema_name".toList]
  part := integrityFindings
  countKey := "missing_optimizer_index_count".toList
  judge := TableCheck.judge containerText
    { code := "INDEX_MISSING_QUERY"
      severity count := if 5 ≤ count then .high else .medium
      noun := "missing index(es) identified by SQL Server optimizer"
      detail := "SQL Server DMV analysis detected indexes whose creation would significantly " ++
        "reduce query cost. Sorted by estimated_impact descending."
      columns := [("equality_columns", "equality_columns"), ("inequality_columns", "inequality_columns"),
        ("included_columns", "included_columns"), ("estimated_impact", "estimated_impact")]
      shown := 10
      action := "Create the top missing indexes (highest estimated_impact first). Validate impact in " ++
        "non-production before applying to production."
      rationale := "Missing indexes cause full or partial scans, increasing I/O, CPU, and query latency under load." }

def missingFkIndexes : SubtoolCheck where
  query := .missingFkIndex
  maxRows := 200
  schemaKeys := ["parent_schema".toList]
  part := integrityFindings
  countKey := "missing_fk_index_count".toList
  judge := TableCheck.judge containerText
    { code := "INDEX_MISSING_FK"
      severity _ := .medium
      noun := "FK column(s) lack a supporting index"
      detail := "Foreign key columns without an index force full scans during joins, cascade deletes, and " ++
        "parent updates."
      schemaKey := "parent_schema"
      tableKey := "parent_table"
      columns := [("fk_column", "fk_column"), ("constraint", "fk_constraint_name")]
      shown := 20
      action := "Create a nonclustered index on each FK column listed in the evidence."
      rationale := "Indexed FK columns reduce lookup cost during joins, cascades, and parent-row deletes." }

def redundantIndexes : SubtoolCheck where
  query := .redundantIndexes 100
  maxRows := 100
  schemaKeys := ["schema_name".toList]
  part := integrityFindings
  countKey := "redundant_index_count".toList
  judge := TableCheck.judge containerText
    { code := "INDEX_REDUNDANT"
      severity _ := .low
      noun := "redundant index pair(s) detected"
      detail := "Index pairs sharing the same leading key column add write overhead without additional read benefit."
      columns := [("index_a", "index_a"), ("index_b", "index_b"), ("shared_leading_key", "shared_leading_key_column")]
      shown := 20
      action := "Review each redundant pair; remove the less selective index after confirming no exclusive usage."
      rationale := "Redundant indexes increase INSERT/UPDATE/DELETE maintenance cost and waste storage." }

def unusedIndexes : SubtoolCheck where
  query := .unusedIndexes 100
  maxRows := 100
  schemaKeys := ["schema_name".toList]
  part := integrityFindings
  countKey := "unused_index_count".toList
  judge := TableCheck.judge containerText
    { code := "INDEX_UNUSED"
      severity _ := .low
      noun := "unused nonclustered index(es) detected"
      detail := "Indexes with zero reads but positive write counts incur maintenance cost with no query benefit."
      columns := [("index", "index_name"), ("total_writes", "total_writes")]
      shown := 20
      action := "Confirm index is unnecessary after a full workload cycle, then drop unused indexes."
      rationale := "Unused indexes waste I/O on every write and consume storage without improving any query." }

def addOverlap (tables : Dict (List Str)) (row : Row) : Dict (List Str) :=
  let key := tableText containerText "child_schema" "child_table" row
  setItem key ((tables.lookup key).getD [] ++ [cellText containerText "overlapping_column".toList row]) tables

def judgeOverlaps (rows : List Row) : CheckResult :=
  let tables := rows.foldl (addOverlap containerText) []
  { count := tables.length
    advices := adviceIf (!tables.isEmpty)
      { code := "NORM_VIOLATION_TRANSITIVE".toList, severity := if 3 ≤ tables.length then .medium else .low,
        title := intText tables.length ++ " table(s) with potential transitive dependency (3NF violation)".toList,
        detail := ("These child tables contain non-key columns whose names match non-key columns in the " ++
          "referenced parent table. This pattern suggests denormalized copies that violate 3NF.").toList,
        evidence := (tables.take 15).map (fun entry ↦
          [("table".toList, .str entry.1), ("overlapping_columns".toList, .list (entry.2.map .str))]),
        action := ("Review overlapping columns per table. If the child table duplicates data from the parent, " ++
          "remove the copy and rely on the FK join to retrieve parent attributes.").toList,
        rationale := ("Denormalized copies of parent attributes create update anomalies: " ++
          "a change in the parent must be propagated to every child row manually.").toList } }

def transitiveDependencies : SubtoolCheck where
  query := .normalizationColumnOverlap
  maxRows := 200
  schemaKeys := ["child_schema".toList, "parent_schema".toList]
  part := normalizationFindings
  countKey := "transitive_dependency_tables".toList
  judge := judgeOverlaps containerText

def updateAnomalies : SubtoolCheck where
  query := .updateHeavyTables 50
  maxRows := 50
  schemaKeys := ["schema_name".toList]
  part := normalizationFindings
  countKey := "update_anomaly_tables".toList
  judge := TableCheck.judge containerText
    { code := "ANOMALY_UPDATE_WITHOUT_DELETE"
      severity _ := .medium
      noun := "table(s) with abnormally high write-to-read ratio"
      detail := "These tables receive many more writes than reads. This may indicate data being " ++
        "overwritten in-place (update anomaly) rather than versioned or appended."
      columns := [("total_reads", "total_reads"), ("total_writes", "total_writes"),
        ("write_read_ratio", "write_read_ratio")]
      shown := 10
      action := "Evaluate whether high-write tables should use append-only/event-sourced patterns or audit trails."
      rationale := "In-place updates without audit history violate auditability requirements and hide data lineage." }

def deleteAnomalies : SubtoolCheck where
  query := .softDeleteColumns
  maxRows := 200
  schemaKeys := ["schema_name".toList]
  part := normalizationFindings
  countKey := "soft_delete_no_audit_tables".toList
  judge := TableCheck.judge containerText
    { code := "ANOMALY_SOFT_DELETE_NO_AUDIT"
      severity _ := .medium
      noun := "table(s) use soft-delete without a corresponding audit/history table"
      detail := "Soft-delete columns were detected, but no matching audit, history, or log table " ++
        "exists in the same schema. Deleted records remain in the main table with no immutable audit trail."
      columns := [("soft_delete_column", "soft_delete_column"), ("column_type", "column_type")]
      shown := 20
      action := "Add a corresponding _Audit or _History table, or implement temporal tables (system-versioned) for " ++
        "soft-delete entities."
      rationale := "Soft deletes without audit tables violate data governance requirements and complicate " ++
        "compliance reporting." }

def insertAnomalies : SubtoolCheck where
  query := .heapTables
  maxRows := 200
  schemaKeys := ["schema_name".toList]
  part := normalizationFindings
  countKey := "heap_tables".toList
  judge := TableCheck.judge containerText
    { code := "ANOMALY_INSERT_INEFFICIENT"
      severity _ := .low
      noun := "heap table(s) detected (no clustered index)"
      detail := "Heap tables accumulate forwarded records on updates and become fragmented over time, " ++
        "causing insert anomalies and degraded scan performance."
      columns := [("row_count", "row_count")]
      shown := 20
      action := "Add a clustered index (ideally on a natural key or sequential surrogate) to heap tables."
      rationale := "A clustered index eliminates forwarded records, reduces fragmentation, and improves range-scan " ++
        "efficiency." }

def datatypeInconsistencies : SubtoolCheck where
  query := .datatypeInconsistency 200
  maxRows := 200
  schemaKeys := ["child_schema".toList, "parent_schema".toList]
  part := integrityFindings
  countKey := "fk_datatype_mismatches".toList
  judge rows := ⟨(classifyDatatypes containerText rows).mismatchCount, (classifyDatatypes containerText rows).advices⟩

def earlierChecks : List SubtoolCheck :=
  [missingOptimizerIndexes containerText, missingFkIndexes containerText, redundantIndexes containerText,
    unusedIndexes containerText, transitiveDependencies containerText, updateAnomalies containerText,
    deleteAnomalies containerText, insertAnomalies containerText]

/-- The checks of the four helpers, in the order in which they run. -/
def subtoolChecks : List SubtoolCheck := earlierChecks containerText ++ [datatypeInconsistencies containerText]

end Checks

section Report

def graphAdvices (graph : FkGraph) : List Advice :=
  adviceIf (!graph.circularDependencyTables.isEmpty)
      { code := "DATA_MODEL_CIRCULAR_DEPENDENCY".toList, severity := .high,
        title := "Circular foreign-key dependencies detected".toList,
        detail := "Cyclic dependencies increase migration and delete/update complexity.".toList,
        evidence := graph.circularDependencyTables.map (fun table ↦ [("table".toList, .str table)]),
        action := "Refactor cyclic relationships or introduce nullable staging keys.".toList,
        rationale := "Breaking FK cycles simplifies deployment and data lifecycle operations.".toList } ++
    adviceIf (graph.edgeCount = 0)
      { code := "DATA_MODEL_NO_FK_RELATIONSHIPS".toList, severity := .medium,
        title := "No foreign-key relationships detected".toList,
        detail := "Database appears to have no declared FK relationships.".toList,
        evidence := [],
        action := "Define explicit foreign keys for core entity relationships.".toList,
        rationale := "Declared constraints improve integrity and query plan quality.".toList }

def noMajorIssuesCode : Str := "DATA_MODEL_NO_MAJOR_ISSUES".toList

def FkEdge.row (edge : FkEdge) : Row :=
  [("from".toList, .str edge.source), ("to".toList, .str edge.target), ("fk_name".toList, .str edge.fkName)]

def summaryPart (part : Str) (results : List (SubtoolCheck × CheckResult)) : Value :=
  .dict ((results.filter (fun result ↦ result.1.part = part)).map (fun result ↦
    (result.1.countKey, .int result.2.count)))

def dataModelSummary (graph : FkGraph) (results : List (SubtoolCheck × CheckResult)) : Dict Value :=
  [("model_overview".toList, .dict
      [("node_count".toList, .int graph.nodeCount), ("edge_count".toList, .int graph.edgeCount),
        ("circular_dependency_count".toList, .int graph.circularDependencyTables.length),
        ("edge_preview".toList, ofRows ((graph.edges.take 20).map FkEdge.row))]),
    (integrityFindings, summaryPart integrityFindings results),
    (normalizationFindings, summaryPart normalizationFindings results)]

def Report.count (report : Report) (part key : Str) : Option Value :=
  match report.summary.lookup part with
  | some (.dict counts) => counts.lookup key
  | _ => none

def recursionError : Exc := .ofMessage .other "RecursionError".toList "maximum recursion depth exceeded".toList

end Report

section UnicodeData

variable [UnicodeData] (containerText : Value → Str) (order : SetOrder Str)

def SubtoolCheck.matching (check : SubtoolCheck) (schemaFilter : Option Str) (rows : List Row) : List Row :=
  rows.filter (namedBy containerText schemaFilter check.schemaKeys)

/-- A check in its `try` block: one that raises an `Exception` leaves its initial values. -/
def SubtoolCheck.run (catalog : Catalog) (schemaFilter : Option Str) (check : SubtoolCheck) : Except Exc CheckResult :=
  match catalog.rows check.query check.maxRows with
  | .ok rows => .ok (check.judge (check.matching containerText schemaFilter rows))
  | .error e => if e.caught then .ok {} else .error e

def requireGraph : Option FkGraph → Except Exc FkGraph
  | some graph => .ok graph
  | none => .error recursionError

def dataModelReport (b : Binding) (input : DataModelInput) (generatedAtUtc : Str) (graph : FkGraph)
    (results : List (SubtoolCheck × CheckResult)) : Except Exc Report :=
  adviceReport b input.dbName generatedAtUtc (dataModelSummary graph results)
    (graphAdvices graph ++ results.flatMap (fun result ↦ result.2.advices)) noMajorIssuesCode
    "No major data model issues detected".toList
    "All data model checks passed without identifying high-risk structural anomalies.".toList

/-- `_analyze_db_data_model` behind its gates, on a database with the given catalog; `depth` bounds the recursion
of the search for cycles. -/
def dataModel (depth : ℕ) (catalog : Catalog) (b : Binding) (input : DataModelInput) (generatedAtUtc : Str) :
    Except Exc Report := do
  let graphRows ← catalog.rows .fkGraph input.edgeLimit
  let graph ← requireGraph (dataModelGraph containerText order depth input.schemaFilter graphRows)
  let results ← (subtoolChecks containerText).mapM (fun check ↦
    (check.run containerText catalog input.schemaFilter).map (fun result ↦ (check, result)))
  dataModelReport b input generatedAtUtc graph results

/-- A report that all checks passed comes from checks that all ran and found nothing, and a check that failed does
not count zero. -/
structure NoFalseCleanBill (catalog : Catalog) (schemaFilter : Option Str) (report : Report) : Prop where
  clean : (∃ finding ∈ report.findings, finding.code = noMajorIssuesCode) → ∀ check ∈ subtoolChecks containerText,
    ∃ rows, catalog.rows check.query check.maxRows = .ok rows ∧ check.matching containerText schemaFilter rows = []
  distinguishable : ∀ check ∈ subtoolChecks containerText, ∀ e, catalog check.query = .error e →
    report.count check.part check.countKey ≠ some (.int 0)

/-- The query about data types selects rows that the check puts in no class, and nothing else is found. -/
structure SilentMismatch (catalog : Catalog) (schemaFilter : Option Str) (graphRows : List Row) : Prop where
  connected : filterBySchema containerText schemaFilter graphRows ≠ []
  acyclic : ∀ label, ¬ OnCycle (References containerText (filterBySchema containerText schemaFilter graphRows)) label
  quiet : ∀ check ∈ earlierChecks containerText, ∀ rows,
    catalog.rows check.query check.maxRows = .ok rows → check.matching containerText schemaFilter rows = []
  silent : ∃ rows, catalog.rows (.datatypeInconsistency 200) 200 = .ok rows ∧
    rows.filter (fkInSchema containerText schemaFilter) ≠ [] ∧
    ∀ row ∈ rows.filter (fkInSchema containerText schemaFilter), typeMismatch row = false ∧ sizeMismatch row = false

section Judging

omit [UnicodeData]

variable {containerText} {rows : List Row} {check : SubtoolCheck} {a : Advice}

theorem tableCheck_advices (texts : TableCheck) : (texts.judge containerText rows).advices = [] ↔ rows = [] :=
  adviceIf_eq_nil_iff.trans not_isEmpty_eq_false_iff

theorem foldl_addOverlap_eq_nil_iff (tables : Dict (List Str)) :
    rows.foldl (addOverlap containerText) tables = [] ↔ tables = [] ∧ rows = [] := by
  induction rows generalizing tables with
  | nil => exact (and_iff_left rfl).symm
  | cons row rows ih =>
    have hne : addOverlap containerText tables row ≠ [] := by
      intro h
      have hkey := lookup_setItem (tableText containerText "child_schema" "child_table" row)
        (tableText containerText "child_schema" "child_table" row)
        ((tables.lookup (tableText containerText "child_schema" "child_table" row)).getD [] ++
          [cellText containerText "overlapping_column".toList row]) tables
      rw [if_pos rfl, show setItem _ _ tables = [] from h] at hkey
      cases hkey
    rw [List.foldl_cons, ih]
    exact iff_of_false (fun h ↦ hne h.1) (fun h ↦ List.cons_ne_nil _ _ h.2)

theorem judgeOverlaps_advices : (judgeOverlaps containerText rows).advices = [] ↔ rows = [] := by
  rw [judgeOverlaps, adviceIf_eq_nil_iff, not_isEmpty_eq_false_iff, foldl_addOverlap_eq_nil_iff]
  exact and_iff_right rfl

theorem datatypes_advices : ((datatypeInconsistencies containerText).judge rows).advices = [] ↔
    ∀ row ∈ rows, typeMismatch row = false ∧ sizeMismatch row = false := by
  refine classifyDatatypes_advices.trans ?_
  simp only [classifyDatatypes, List.filter_eq_nil_iff]
  constructor
  · intro h row hrow
    have htype : typeMismatch row = false := Bool.eq_false_iff.mpr (h.1 row hrow)
    refine ⟨htype, ?_⟩
    simpa [htype] using h.2 row hrow
  · intro h
    exact ⟨fun row hrow ↦ by simp [h row hrow], fun row hrow ↦ by simp [h row hrow]⟩

theorem earlierChecks_advices (h : check ∈ earlierChecks containerText) : (check.judge rows).advices = [] ↔ rows = [] := by
  simp only [earlierChecks, List.mem_cons, List.not_mem_nil, or_false] at h
  rcases h with rfl | rfl | rfl | rfl | rfl | rfl | rfl | rfl
  all_goals first | exact tableCheck_advices _ | exact judgeOverlaps_advices

theorem code_of_mem_tableCheck {texts : TableCheck} (ha : a ∈ (texts.judge containerText rows).advices) :
    a.code = texts.code.toList := code_of_mem_adviceIf ha

theorem code_ne_of_mem_check (h : check ∈ subtoolChecks containerText) (ha : a ∈ (check.judge rows).advices) :
    a.code ≠ noMajorIssuesCode := by
  simp only [subtoolChecks, earlierChecks, List.mem_append, List.mem_cons, List.not_mem_nil, or_false] at h
  rcases h with (rfl | rfl | rfl | rfl | rfl | rfl | rfl | rfl) | rfl
  case inr =>
    rcases List.mem_append.mp ha with ha | ha
    · have hcode : a.code = "DATATYPE_INCONSISTENCY_EXPLICIT".toList := code_of_mem_adviceIf ha
      exact ne_of_eq_of_ne hcode (by decide)
    · have hcode : a.code = "DATATYPE_INCONSISTENCY_IMPLICIT".toList := code_of_mem_adviceIf ha
      exact ne_of_eq_of_ne hcode (by decide)
  case inl.inr.inr.inr.inr.inl =>
    have hcode : a.code = "NORM_VIOLATION_TRANSITIVE".toList := code_of_mem_adviceIf ha
    exact ne_of_eq_of_ne hcode (by decide)
  all_goals exact ne_of_eq_of_ne (code_of_mem_tableCheck ha) (by decide)

theorem code_ne_of_mem_graph {graph : FkGraph} (ha : a ∈ graphAdvices graph) : a.code ≠ noMajorIssuesCode := by
  rcases List.mem_append.mp ha with ha | ha
  · have hcode : a.code = "DATA_MODEL_CIRCULAR_DEPENDENCY".toList := code_of_mem_adviceIf ha
    exact ne_of_eq_of_ne hcode (by decide)
  · have hcode : a.code = "DATA_MODEL_NO_FK_RELATIONSHIPS".toList := code_of_mem_adviceIf ha
    exact ne_of_eq_of_ne hcode (by decide)

end Judging

section Runs

variable {containerText order} {catalog : Catalog} {schemaFilter : Option Str} {check : SubtoolCheck} {rows : List Row}
  {graph : FkGraph}

def SubtoolCheck.outcome (containerText : Value → Str) (catalog : Catalog) (schemaFilter : Option Str)
    (check : SubtoolCheck) : CheckResult :=
  match catalog.rows check.query check.maxRows with
  | .ok rows => check.judge (check.matching containerText schemaFilter rows)
  | .error _ => {}

theorem SubtoolCheck.run_eq (hcaught : ∀ query e, catalog query = .error e → e.caught = true) (check : SubtoolCheck) :
    check.run containerText catalog schemaFilter = .ok (check.outcome containerText catalog schemaFilter) := by
  unfold SubtoolCheck.run SubtoolCheck.outcome
  cases h : catalog check.query with
  | ok rows => simp only [Catalog.rows, h, Except.map]
  | error e => simp only [Catalog.rows, h, Except.map, hcaught check.query e h, if_true]

theorem outcome_of_error {e : Exc} (h : catalog check.query = .error e) :
    check.outcome containerText catalog schemaFilter = {} := by
  simp only [SubtoolCheck.outcome, Catalog.rows, h, Except.map]

theorem outcome_of_ok (h : catalog.rows check.query check.maxRows = .ok rows) :
    check.outcome containerText catalog schemaFilter = check.judge (check.matching containerText schemaFilter rows) := by
  simp only [SubtoolCheck.outcome, h]

def dataModelAdvices (containerText : Value → Str) (catalog : Catalog) (schemaFilter : Option Str) (graph : FkGraph) :
    List Advice :=
  graphAdvices graph ++
    (subtoolChecks containerText).flatMap (fun check ↦ (check.outcome containerText catalog schemaFilter).advices)

theorem code_ne_of_mem_dataModel {a : Advice} (ha : a ∈ dataModelAdvices containerText catalog schemaFilter graph) :
    a.code ≠ noMajorIssuesCode := by
  rcases List.mem_append.mp ha with ha | ha
  · exact code_ne_of_mem_graph ha
  · obtain ⟨check, hcheck, ha⟩ := List.mem_flatMap.mp ha
    unfold SubtoolCheck.outcome at ha
    split at ha
    · exact code_ne_of_mem_check hcheck ha
    · cases ha

theorem dataModelAdvices_eq_nil_iff : dataModelAdvices containerText catalog schemaFilter graph = [] ↔
    (graph.circularDependencyTables = [] ∧ graph.edgeCount ≠ 0) ∧
      ∀ check ∈ subtoolChecks containerText, (check.outcome containerText catalog schemaFilter).advices = [] := by
  rw [dataModelAdvices, List.append_eq_nil_iff, graphAdvices, List.append_eq_nil_iff, adviceIf_eq_nil_iff,
    adviceIf_eq_nil_iff, not_isEmpty_eq_false_iff, decide_eq_false_iff_not, List.flatMap_eq_nil_iff]

/-- What a run reports: its summary holds the counts of the checks, and it says that all checks passed exactly
if none of them advises anything. -/
theorem dataModelReport_ok (containerText : Value → Str) (b : Binding) (input : DataModelInput) (generatedAtUtc : Str)
    (graph : FkGraph)
    (catalog : Catalog) :
    ∃ report, dataModelReport b input generatedAtUtc graph ((subtoolChecks containerText).map (fun check ↦
        (check, check.outcome containerText catalog input.schemaFilter))) = .ok report ∧
      (∀ check ∈ subtoolChecks containerText, report.count check.part check.countKey =
        some (.int (check.outcome containerText catalog input.schemaFilter).count)) ∧
      ((∃ finding ∈ report.findings, finding.code = noMajorIssuesCode) ↔
        dataModelAdvices containerText catalog input.schemaFilter graph = []) := by
  obtain ⟨report, hreport, hsummary, -, hfindings⟩ := adviceReport_ok b input.dbName generatedAtUtc
    (dataModelSummary graph ((subtoolChecks containerText).map (fun check ↦
      (check, check.outcome containerText catalog input.schemaFilter))))
    (dataModelAdvices containerText catalog input.schemaFilter graph) noMajorIssuesCode
    "No major data model issues detected".toList
    "All data model checks passed without identifying high-risk structural anomalies.".toList
  refine ⟨report, ?_, fun check hcheck ↦ ?_, ?_⟩
  · rw [dataModelReport, List.flatMap_map]
    exact hreport
  · rw [Report.count, hsummary]
    simp only [subtoolChecks, earlierChecks, List.mem_append, List.mem_cons, List.not_mem_nil, or_false] at hcheck
    rcases hcheck with (rfl | rfl | rfl | rfl | rfl | rfl | rfl | rfl) | rfl
    all_goals rfl
  · rw [hfindings]
    split
    · rename_i hnil
      exact iff_of_true ⟨_, List.mem_singleton_self _, rfl⟩ (List.isEmpty_iff.mp hnil)
    · rename_i hne
      refine iff_of_false (fun h ↦ ?_) (fun h ↦ hne (List.isEmpty_iff.mpr h))
      obtain ⟨finding, hfinding, hcode⟩ := h
      obtain ⟨advice, hadvice, rfl⟩ := List.mem_map.mp hfinding
      exact code_ne_of_mem_dataModel hadvice hcode

theorem dataModel_ok {graphRows : List Row} (b : Binding) (input : DataModelInput) (generatedAtUtc : Str)
    (hgraph : catalog.rows .fkGraph input.edgeLimit = .ok graphRows)
    (hcaught : ∀ query e, catalog query = .error e → e.caught = true) :
    ∃ report graph, (∀ depth, graph.nodeCount ≤ depth →
        dataModel containerText order depth catalog b input generatedAtUtc = .ok report) ∧
      (∀ check ∈ subtoolChecks containerText, report.count check.part check.countKey =
        some (.int (check.outcome containerText catalog input.schemaFilter).count)) ∧
      ((∃ finding ∈ report.findings, finding.code = noMajorIssuesCode) ↔
        dataModelAdvices containerText catalog input.schemaFilter graph = []) ∧
      ((graph.circularDependencyTables = [] ∧ graph.edgeCount ≠ 0) ↔
        filterBySchema containerText input.schemaFilter graphRows ≠ [] ∧
        ∀ label, ¬ OnCycle (References containerText (filterBySchema containerText input.schemaFilter graphRows)) label) := by
  obtain ⟨graph, hrun, -, hcycle, -, -, hedges⟩ :=
    buildFkGraph_reports containerText order (filterBySchema containerText input.schemaFilter graphRows)
  obtain ⟨report, hreport, hcount, hclean⟩ := dataModelReport_ok containerText b input generatedAtUtc graph catalog
  refine ⟨report, graph, fun depth hd ↦ ?_, hcount, hclean, ?_⟩
  · have hrun_eq := @SubtoolCheck.run_eq _ containerText catalog input.schemaFilter hcaught
    have hchecks := mapM_eq_ok (fun check ↦ congrArg (Except.map (fun result ↦ (check, result))) (hrun_eq check))
      (subtoolChecks containerText)
    rw [dataModel, hgraph, ok_bind, dataModelGraph, hrun depth hd, requireGraph, ok_bind, hchecks, ok_bind]
    exact hreport
  · rw [hedges, List.eq_nil_iff_forall_not_mem, and_comm, ne_eq, List.length_eq_zero_iff]
    exact and_congr Iff.rfl (forall_congr' (fun label ↦ not_congr (hcycle label)))

theorem SilentMismatch.advices_eq_nil {graphRows : List Row} (hs : SilentMismatch containerText catalog schemaFilter graphRows)
    (hall : ∀ check ∈ subtoolChecks containerText, ∃ rows, catalog.rows check.query check.maxRows = .ok rows)
    (check : SubtoolCheck) (hcheck : check ∈ subtoolChecks containerText) :
    (check.outcome containerText catalog schemaFilter).advices = [] := by
  rcases List.mem_append.mp hcheck with hearlier | hlast
  · obtain ⟨rows, hrows⟩ := hall check hcheck
    rw [outcome_of_ok hrows]
    exact (earlierChecks_advices hearlier).mpr (hs.quiet check hearlier rows hrows)
  · obtain rfl := List.mem_singleton.mp hlast
    obtain ⟨rows, hrows, -, hunclassified⟩ := hs.silent
    rw [outcome_of_ok hrows]
    exact datatypes_advices.mpr hunclassified

/-- The report of a run gives no false clean bill exactly if all nine checks ran, and they are not all silent over
inconsistent data types. -/
theorem dataModel_cleanBill_iff {graphRows : List Row} (b : Binding) (input : DataModelInput) (generatedAtUtc : Str)
    (hgraph : catalog.rows .fkGraph input.edgeLimit = .ok graphRows)
    (hcaught : ∀ query e, catalog query = .error e → e.caught = true) :
    ∃ report nodes, (∀ depth, nodes ≤ depth →
        dataModel containerText order depth catalog b input generatedAtUtc = .ok report) ∧
      (NoFalseCleanBill containerText catalog input.schemaFilter report ↔
        (∀ check ∈ subtoolChecks containerText, ∃ rows, catalog.rows check.query check.maxRows = .ok rows) ∧
        ¬ SilentMismatch containerText catalog input.schemaFilter graphRows) := by
  obtain ⟨report, graph, hrun, hcount, hclean, hshape⟩ := @dataModel_ok _ containerText order
    catalog graphRows b input generatedAtUtc hgraph hcaught
  refine ⟨report, graph.nodeCount, hrun, fun h ↦ ?_, fun h ↦ ?_⟩
  · have hall : ∀ check ∈ subtoolChecks containerText, ∃ rows, catalog.rows check.query check.maxRows = .ok rows := by
      intro check hcheck
      cases hq : catalog check.query with
      | ok rows => exact ⟨rows.take check.maxRows.toNat, by rw [Catalog.rows, hq]; rfl⟩
      | error e =>
        have hzero := hcount check hcheck
        rw [outcome_of_error hq] at hzero
        exact absurd hzero (h.distinguishable check hcheck e hq)
    refine ⟨hall, fun hs ↦ ?_⟩
    have hnil : dataModelAdvices containerText catalog input.schemaFilter graph = [] :=
      dataModelAdvices_eq_nil_iff.mpr ⟨hshape.mpr ⟨hs.connected, hs.acyclic⟩, hs.advices_eq_nil hall⟩
    obtain ⟨rows, hrows, hne, -⟩ := hs.silent
    obtain ⟨rows', hrows', hmatching⟩ := h.clean (hclean.mpr hnil) (datatypeInconsistencies containerText)
      (List.mem_append_right _ (List.mem_singleton_self _))
    obtain rfl : rows = rows' := Except.ok.inj (hrows.symm.trans hrows')
    exact hne hmatching
  · obtain ⟨hall, hsilent⟩ := h
    refine ⟨fun hfound check hcheck ↦ ?_, fun check hcheck e he ↦ ?_⟩
    · obtain ⟨hg, hadvices⟩ := dataModelAdvices_eq_nil_iff.mp (hclean.mp hfound)
      have hquiet : ∀ check ∈ earlierChecks containerText, ∀ rows, catalog.rows check.query check.maxRows = .ok rows →
          check.matching containerText input.schemaFilter rows = [] := by
        intro check hcheck rows hrows
        have hnil := hadvices check (List.mem_append_left _ hcheck)
        rw [outcome_of_ok hrows] at hnil
        exact (earlierChecks_advices hcheck).mp hnil
      obtain ⟨rows, hrows⟩ := hall check hcheck
      refine ⟨rows, hrows, ?_⟩
      rcases List.mem_append.mp hcheck with hearlier | hlast
      · exact hquiet check hearlier rows hrows
      · obtain rfl := List.mem_singleton.mp hlast
        by_contra hne
        have hnil := hadvices _ hcheck
        rw [outcome_of_ok hrows] at hnil
        obtain ⟨hconnected, hacyclic⟩ := hshape.mp hg
        exact hsilent ⟨hconnected, hacyclic, hquiet, rows, hrows, hne, datatypes_advices.mp hnil⟩
    · obtain ⟨rows, hrows⟩ := hall check hcheck
      rw [Catalog.rows, he] at hrows
      cases hrows

end Runs

end UnicodeData

def deniedCatalog : Catalog
  | .fkGraph => .ok [fkRow "dbo" "A" "dbo" "B"]
  | _ => .error (.ofMessage .other "ProgrammingError".toList "VIEW DATABASE STATE permission was denied".toList)

theorem deniedCatalog_caught : ∀ query e, deniedCatalog query = .error e → e.caught = true := by
  intro query e h
  cases query <;> cases h <;> rfl

def dboInput : DataModelInput := ⟨"db".toList, none, 500⟩

theorem not_onCycle_denied (label : Str) :
    ¬ OnCycle (References (fun _ ↦ []) [fkRow "dbo" "A" "dbo" "B"]) label := by
  intro h
  have hedge : ∀ a b, References (fun _ ↦ []) [fkRow "dbo" "A" "dbo" "B"] a b →
      a = "dbo.A".toList ∧ b = "dbo.B".toList := by
    intro a b hab
    obtain ⟨row, hrow, ha, hb⟩ := hab
    obtain rfl := List.mem_singleton.mp hrow
    exact ⟨ha.symm, hb.symm⟩
  obtain ⟨b, hb, hback⟩ := Relation.TransGen.head'_iff.mp (onCycle_iff_transGen.mp h)
  obtain ⟨rfl, rfl⟩ := hedge _ _ hb
  rcases Relation.ReflTransGen.cases_head hback with he | ⟨c, hc, -⟩
  · exact absurd he (by decide)
  · exact absurd (hedge _ _ hc).1 (by decide)

theorem dataModel_passes_denied :
    let _ := asciiData
    ∃ report nodes, (∀ depth, nodes ≤ depth →
        dataModel (fun _ ↦ []) insertionOrder depth deniedCatalog ⟨[], [], 1⟩ dboInput [] = .ok report) ∧
      (∃ finding ∈ report.findings, finding.code = noMajorIssuesCode) ∧
      ¬ NoFalseCleanBill (fun _ ↦ []) deniedCatalog none report := by
  intro U
  obtain ⟨report, graph, hrun, -, hclean, hshape⟩ := @dataModel_ok _ (fun _ ↦ []) insertionOrder
    deniedCatalog _ ⟨[], [], 1⟩ dboInput [] (show deniedCatalog.rows .fkGraph 500 = .ok [fkRow "dbo" "A" "dbo" "B"] from rfl)
    deniedCatalog_caught
  have hnil : dataModelAdvices (fun _ ↦ []) deniedCatalog none graph = [] := by
    refine dataModelAdvices_eq_nil_iff.mpr ⟨hshape.mpr ⟨List.cons_ne_nil _ _, not_onCycle_denied⟩, fun check hcheck ↦ ?_⟩
    simp only [subtoolChecks, earlierChecks, List.mem_append, List.mem_cons, List.not_mem_nil, or_false] at hcheck
    rcases hcheck with (rfl | rfl | rfl | rfl | rfl | rfl | rfl | rfl) | rfl
    all_goals rfl
  refine ⟨report, graph.nodeCount, hrun, hclean.mpr hnil, fun h ↦ ?_⟩
  obtain ⟨rows, hrows, -⟩ := h.clean (hclean.mpr hnil) (datatypeInconsistencies fun _ ↦ [])
    (List.mem_append_right _ (List.mem_singleton_self _))
  cases hrows

theorem dataModel_cleanBill_iff_denied :
    let _ := asciiData
    ∃ report nodes, (∀ depth, nodes ≤ depth →
        dataModel (fun _ ↦ []) insertionOrder depth deniedCatalog ⟨[], [], 1⟩ dboInput [] = .ok report) ∧
      (NoFalseCleanBill (fun _ ↦ []) deniedCatalog none report ↔
        (∀ check ∈ subtoolChecks (fun _ ↦ []), ∃ rows, deniedCatalog.rows check.query check.maxRows = .ok rows) ∧
        ¬ SilentMismatch (fun _ ↦ []) deniedCatalog none [fkRow "dbo" "A" "dbo" "B"]) := by
  intro U
  exact dataModel_cleanBill_iff ⟨[], [], 1⟩ dboInput [] rfl deniedCatalog_caught

end McpSqlServer

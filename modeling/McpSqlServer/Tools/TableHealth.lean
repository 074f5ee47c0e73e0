import McpSqlServer.Library.Cut
import McpSqlServer.Tools.Catalog

namespace McpSqlServer

open Library Library.Text Library.Python

/-- The parts of `_analyze_tab_health` that compute with floating-point numbers and dates. -/
structure StatisticsRules where
  classifyStaleStatisticsRow : Row → Option Row
  classifyLowSampleStatisticsRow : Row → Option Row
  /-- `_safe_float(v) >= STATS_MIN_ROWS_HIGH_SEVERITY`. -/
  isLarge : Value → Bool
  /-- What is said of the steps of a histogram if they are skewed. -/
  histogramSkew : Str × Str × Str → List Row → Option Row

structure TabHealthRows where
  tableSizes : List Row
  fragmented : List Row
  missingPk : List Row
  staleStats : List Row
  neverUpdatedStats : List Row
  lowSampledStats : List Row
  dbStatsSettings : List Row
  missingStatsCoverage : List Row

def readTabHealth (catalog : Catalog) (args : AnalyzeTabHealthArgs) (input : TabHealthInput) :
    Except Exc TabHealthRows := do
  let size := input.size
  let tableSizes ← catalog.rows (.tableSize size) size
  let fragmented ← catalog.rowsIf args.includeIndexes (.fragmentedIndexes size) size
  let missingPk ← catalog.rows .missingPk size
  let staleStats ← catalog.rowsIf args.includeStatistics (.staleStatistics size) size
  let neverUpdatedStats ← catalog.rowsIf args.includeStatistics (.statisticsNeverUpdated size) size
  let lowSampledStats ← catalog.rowsIf args.includeStatistics (.lowSampledStatistics size) size
  let dbStatsSettings ← catalog.rowsIf args.includeStatistics .databaseStatisticsSettings 1
  let missingStatsCoverage ← catalog.rowsIf args.includeStatistics (.missingStatisticsCoverageCandidate size) size
  pure ⟨tableSizes, fragmented, missingPk, staleStats, neverUpdatedStats, lowSampledStats, dbStatsSettings,
    missingStatsCoverage⟩

section Findings

def severityIf (high : Bool) : Severity := if high then .high else .medium

def isHigh (row : Row) : Bool :=
  match row.get "severity".toList with
  | .str severity => severity = "high".toList
  | _ => false

def fragmentedIndexes (containerText : Value → Str) (rows : List Row) : List Advice :=
  adviceIf (!rows.isEmpty)
    { code := "TAB_HEALTH_FRAGMENTED_INDEXES".toList, severity := .high,
      title := "High index fragmentation detected".toList,
      detail := "One or more indexes exceed healthy fragmentation levels.".toList,
      evidence := rows.take 10,
      action := "Rebuild/reorganize top fragmented indexes during maintenance windows.".toList,
      rationale := "Highest observed fragmentation: ".toList ++
        pyStr containerText ((rows.headD []).get "avg_fragmentation_in_percent".toList) ++ "%".toList }

def missingPkCode : Str := "TAB_HEALTH_MISSING_PRIMARY_KEY".toList

def missingPrimaryKeys (rows : List Row) : List Advice :=
  adviceIf (!rows.isEmpty)
    { code := missingPkCode, severity := .medium,
      title := "Tables without primary keys".toList,
      detail := "Detected tables lacking primary key constraints.".toList,
      evidence := rows.take 10,
      action := "Define primary keys for unconstrained tables.".toList,
      rationale := "Primary keys improve integrity, optimizer quality, and replication behavior.".toList }

def staleStatistics (classified : List Row) : List Advice :=
  adviceIf (!classified.isEmpty)
    { code := "TAB_HEALTH_STALE_STATISTICS".toList, severity := severityIf (classified.any isHigh),
      title := "Potentially stale statistics detected".toList,
      detail := ("Statistics show high change volume or extended age since last update, " ++
        "which can degrade cardinality estimates and plan quality.").toList,
      evidence := classified.take 10,
      action := "Refresh stale statistics for the listed objects during a planned maintenance window.".toList,
      rationale := ("Reducing statistics staleness improves cardinality estimates and lowers " ++
        "plan-regression risk.").toList }

def statsNeverUpdated (rules : StatisticsRules) (rows : List Row) : List Advice :=
  adviceIf (!rows.isEmpty)
    { code := "TAB_HEALTH_STATS_NEVER_UPDATED".toList,
      severity := severityIf (rows.any (fun row ↦ rules.isLarge (row.get "rows".toList))),
      title := "Statistics with no update history detected".toList,
      detail := ("Some user-table statistics report no last-updated timestamp, indicating they may be " ++
        "uninitialized or stale.").toList,
      evidence := rows.take 10,
      action := ("Review auto stats behavior and refresh the listed statistics for active large " ++
        "tables.").toList,
      rationale := "Uninitialized statistics can produce poor row estimates and unstable query plans.".toList }

def lowSampleRatio (classified : List Row) : List Advice :=
  adviceIf (!classified.isEmpty)
    { code := "TAB_HEALTH_STATS_LOW_SAMPLE_RATIO".toList, severity := severityIf (classified.any isHigh),
      title := "Low statistics sample ratio detected".toList,
      detail := "Some statistics were built from weak samples, which can reduce histogram quality.".toList,
      evidence := classified.take 10,
      action := ("Consider higher-quality statistics updates (for example, larger sampling or fullscan) on " ++
        "critical tables.").toList,
      rationale := ("Higher sample quality improves histogram fidelity and plan stability for skewed " ++
        "distributions.").toList }

def setting (settings : Row) (key : Str) (default : ℤ) : Bool := ((settings.lookup key).getD (.int default)).truthy

def autoCreateOn (settings : Row) : Bool := setting settings "auto_create_statistics_on".toList 1

def autoUpdateOn (settings : Row) : Bool := setting settings "auto_update_statistics_on".toList 1

def autoSettings (settings : Row) : Row :=
  [("auto_create_statistics_on".toList, .bool (autoCreateOn settings)),
    ("auto_update_statistics_on".toList, .bool (autoUpdateOn settings)),
    ("auto_update_statistics_async_on".toList, .bool (setting settings "auto_update_statistics_async_on".toList 0))]

def autoSettingsDisabled (dbName : Str) (includeStatistics : Bool) (settings : Row) : List Advice :=
  adviceIf (includeStatistics && (!autoCreateOn settings || !autoUpdateOn settings))
    { code := "TAB_HEALTH_STATS_AUTO_SETTINGS_DISABLED".toList, severity := severityIf (!autoUpdateOn settings),
      title := "Database automatic statistics settings may increase risk".toList,
      detail := "AUTO_CREATE_STATISTICS or AUTO_UPDATE_STATISTICS is disabled for this database.".toList,
      evidence := [("database_name".toList, (settings.lookup "database_name".toList).getD (.str dbName)) ::
        autoSettings settings],
      action := "Review database auto statistics settings and align with workload requirements.".toList,
      rationale := ("Disabled automatic statistics maintenance can increase plan-quality drift over " ++
        "time.").toList }

def coverageHeuristic (rules : StatisticsRules) (rows : List Row) : List Advice :=
  adviceIf (!rows.isEmpty)
    { code := "TAB_HEALTH_STATS_COVERAGE_HEURISTIC".toList,
      severity := severityIf (rows.any (fun row ↦ rules.isLarge (row.get "row_count".toList))),
      title := "Tables with limited statistics coverage (heuristic)".toList,
      detail := ("Metadata suggests some tables have no usable user-table statistics. " ++
        "This is heuristic analysis and not execution-plan verified.").toList,
      evidence := rows.take 10,
      action := ("Review statistics coverage for listed tables and refresh/create relevant statistics during " ++
        "maintenance windows.").toList,
      rationale := ("Insufficient statistics coverage can reduce optimizer accuracy for join and predicate " ++
        "cardinality.").toList }

def histogramSkews (evidence : List Row) : List Advice :=
  adviceIf (!evidence.isEmpty)
    { code := "TAB_HEALTH_STATS_HISTOGRAM_SKEW".toList, severity := .medium,
      title := "Histogram skew indicators detected".toList,
      detail := ("Opt-in histogram inspection found strongly skewed distributions in selected " ++
        "statistics.").toList,
      evidence := evidence.take 10,
      action := ("Refresh skewed statistics and review parameter-sensitive query paths for the listed " ++
        "objects.").toList,
      rationale := ("Large histogram skew can increase cardinality-estimation errors for selective " ++
        "predicates.").toList }

end Findings

section UnicodeData

variable [UnicodeData] (containerText : Value → Str) (rules : StatisticsRules)

/-- `_filter_rows_by_schema_table`, as a predicate of a row. -/
def inTable (schemaName tableName : Option Str) (row : Row) : Bool :=
  namedBy containerText schemaName ["schema_name".toList] row && namedBy containerText tableName ["table_name".toList] row

def TabHealthRows.filter (schemaName tableName : Option Str) (rows : TabHealthRows) : TabHealthRows where
  tableSizes := rows.tableSizes.filter (inTable containerText schemaName tableName)
  fragmented := rows.fragmented.filter (inTable containerText schemaName tableName)
  missingPk := rows.missingPk.filter (inTable containerText schemaName tableName)
  staleStats := rows.staleStats.filter (inTable containerText schemaName tableName)
  neverUpdatedStats := rows.neverUpdatedStats.filter (inTable containerText schemaName tableName)
  lowSampledStats := rows.lowSampledStats.filter (inTable containerText schemaName tableName)
  dbStatsSettings := rows.dbStatsSettings
  missingStatsCoverage := rows.missingStatsCoverage.filter (inTable containerText schemaName tableName)

def histogramStep (catalog : Catalog) (candidate : Row) : Except Exc (Option Row) :=
  let schemaName := cellText containerText "schema_name".toList candidate
  let tableName := cellText containerText "table_name".toList candidate
  let statName := cellText containerText "stat_name".toList candidate
  if schemaName = [] ∨ tableName = [] ∨ statName = [] then .ok none
  else (catalog.rows (.statisticsHistogram schemaName tableName statName) 200).map (fun steps ↦
    if steps.isEmpty then none else rules.histogramSkew (schemaName, tableName, statName) steps)

def histogramCandidates (args : AnalyzeTabHealthArgs) (input : TabHealthInput) (stale lowSample : List Row) : List Row :=
  if args.includeStatistics && args.includeHistogramAnalysis then
    (stale ++ lowSample).take input.histogramLimit.toNat
  else []

def tabHealthAdvices (args : AnalyzeTabHealthArgs) (input : TabHealthInput) (rows : TabHealthRows)
    (stale lowSample histogramEvidence : List Row) : List Advice :=
  (if args.includeIndexes then fragmentedIndexes containerText rows.fragmented else []) ++
    missingPrimaryKeys rows.missingPk ++ staleStatistics stale ++ statsNeverUpdated rules rows.neverUpdatedStats ++
    lowSampleRatio lowSample ++
    autoSettingsDisabled input.dbName args.includeStatistics (rows.dbStatsSettings.headD []) ++
    coverageHeuristic rules rows.missingStatsCoverage ++ histogramSkews histogramEvidence

def tabHealthSummary (rows : TabHealthRows) (stale lowSample histogramEvidence : List Row) : Dict Value :=
  [("table_count_scanned".toList, .int rows.tableSizes.length),
    ("fragmented_index_rows".toList, .int rows.fragmented.length),
    ("missing_primary_key_tables".toList, .int rows.missingPk.length),
    ("stale_statistics_count".toList, .int stale.length),
    ("never_updated_statistics_count".toList, .int rows.neverUpdatedStats.length),
    ("low_sampled_statistics_count".toList, .int lowSample.length),
    ("missing_statistics_coverage_candidates".toList, .int rows.missingStatsCoverage.length),
    ("database_statistics_settings".toList, .dict (autoSettings (rows.dbStatsSettings.headD []))),
    ("statistics_preview".toList, .dict
      [("stale_statistics".toList, ofRows (stale.take 5)),
        ("never_updated_statistics".toList, ofRows (rows.neverUpdatedStats.take 5)),
        ("low_sampled_statistics".toList, ofRows (lowSample.take 5)),
        ("histogram_skew".toList, ofRows (histogramEvidence.take 5))]),
    ("table_size_preview".toList, ofRows (rows.tableSizes.take 10))]

def tabHealthReport (b : Binding) (args : AnalyzeTabHealthArgs) (input : TabHealthInput) (generatedAtUtc : Str)
    (rows : TabHealthRows) (stale lowSample histogramEvidence : List Row) : Except Exc Report :=
  adviceReport b input.dbName generatedAtUtc (tabHealthSummary rows stale lowSample histogramEvidence)
    (tabHealthAdvices containerText rules args input rows stale lowSample histogramEvidence)
    "TAB_HEALTH_NO_MAJOR_ISSUES".toList "No major table health issues detected".toList
    "Current checks did not identify critical, high, or medium table health findings.".toList

/-- `_analyze_tab_health` behind its gates, on a database with the given catalog. -/
def tabHealth (catalog : Catalog) (b : Binding) (args : AnalyzeTabHealthArgs) (input : TabHealthInput)
    (generatedAtUtc : Str) : Except Exc Report := do
  let read ← readTabHealth catalog args input
  let rows := read.filter containerText input.schemaName input.tableName
  let stale := rows.staleStats.filterMap rules.classifyStaleStatisticsRow
  let lowSample := rows.lowSampledStats.filterMap rules.classifyLowSampleStatisticsRow
  let histograms ← (histogramCandidates args input stale lowSample).mapM (histogramStep containerText rules catalog)
  tabHealthReport containerText rules b args input generatedAtUtc rows stale lowSample histograms.reduceOption

/-- The report names the tables without primary key that pass the filter and counts them up to
`top_n`; `full` are all the rows of the query. -/
structure ReportsMissingPk (input : TabHealthInput) (full : List Row) (report : Report) : Prop where
  reported : (∃ row ∈ full, inTable containerText input.schemaName input.tableName row = true) →
    ∃ finding ∈ report.findings, finding.code = missingPkCode
  counted : report.summary.lookup "missing_primary_key_tables".toList =
    some (.int (min (full.countP (inTable containerText input.schemaName input.tableName)) input.size.toNat : ℕ))

section Proofs

variable {containerText rules} {content : CatalogQuery → List Row} {args : AnalyzeTabHealthArgs} {input : TabHealthInput}
  {b : Binding} {generatedAtUtc : Str}

omit [UnicodeData] in
theorem rows_of_content (content : CatalogQuery → List Row) (query : CatalogQuery) (maxRows : ℤ) :
    Catalog.rows (fun q ↦ .ok (content q)) query maxRows = .ok ((content query).take maxRows.toNat) := rfl

omit [UnicodeData] in
theorem rowsIf_of_content (content : CatalogQuery → List Row) (cond : Bool) (query : CatalogQuery) (maxRows : ℤ) :
    ∃ rows, Catalog.rowsIf (fun q ↦ .ok (content q)) cond query maxRows = .ok rows := by
  cases cond with
  | true => exact ⟨_, rfl⟩
  | false => exact ⟨_, rfl⟩

omit [UnicodeData] in
theorem readTabHealth_of_content (content : CatalogQuery → List Row) (args : AnalyzeTabHealthArgs)
    (input : TabHealthInput) : ∃ read, readTabHealth (fun q ↦ .ok (content q)) args input = .ok read ∧
    read.missingPk = (content .missingPk).take input.size.toNat := by
  have hIf := rowsIf_of_content content
  obtain ⟨fragmented, hfragmented⟩ := hIf args.includeIndexes (.fragmentedIndexes input.size) input.size
  obtain ⟨stale, hstale⟩ := hIf args.includeStatistics (.staleStatistics input.size) input.size
  obtain ⟨never, hnever⟩ := hIf args.includeStatistics (.statisticsNeverUpdated input.size) input.size
  obtain ⟨low, hlow⟩ := hIf args.includeStatistics (.lowSampledStatistics input.size) input.size
  obtain ⟨settings, hsettings⟩ := hIf args.includeStatistics .databaseStatisticsSettings 1
  obtain ⟨missing, hmissing⟩ := hIf args.includeStatistics (.missingStatisticsCoverageCandidate input.size) input.size
  simp only [readTabHealth, rows_of_content, hfragmented, hstale, hnever, hlow, hsettings, hmissing]
  exact ⟨_, rfl, rfl⟩

omit [UnicodeData] in
theorem histogramStep_of_content (containerText : Value → Str) (rules : StatisticsRules)
    (content : CatalogQuery → List Row) (candidate : Row) :
    ∃ step, histogramStep containerText rules (fun q ↦ .ok (content q)) candidate = .ok step := by
  unfold histogramStep
  dsimp only
  split
  · exact ⟨_, rfl⟩
  · exact ⟨_, rfl⟩

omit [UnicodeData] in
theorem mem_missingPrimaryKeys {rows : List Row} (h : rows ≠ []) :
    ∃ advice ∈ missingPrimaryKeys rows, advice.code = missingPkCode := by
  have hne : (!rows.isEmpty) = true := by
    rw [List.isEmpty_eq_false_iff.mpr h]
    rfl
  rw [missingPrimaryKeys, hne]
  exact ⟨_, List.mem_singleton_self _, rfl⟩

theorem tabHealthReport_ok (containerText : Value → Str) (rules : StatisticsRules) (b : Binding)
    (args : AnalyzeTabHealthArgs) (input : TabHealthInput) (generatedAtUtc : Str)
    (rows : TabHealthRows) (stale lowSample histogramEvidence : List Row) :
    ∃ report, tabHealthReport containerText rules b args input generatedAtUtc rows stale lowSample histogramEvidence =
        .ok report ∧
      report.summary.lookup "missing_primary_key_tables".toList = some (.int rows.missingPk.length) ∧
      ∀ advice ∈ missingPrimaryKeys rows.missingPk, advice.finding ∈ report.findings := by
  obtain ⟨report, hreport, hsummary, -, hfindings⟩ := adviceReport_ok b input.dbName generatedAtUtc
    (tabHealthSummary rows stale lowSample histogramEvidence)
    (tabHealthAdvices containerText rules args input rows stale lowSample histogramEvidence)
    "TAB_HEALTH_NO_MAJOR_ISSUES".toList "No major table health issues detected".toList
    "Current checks did not identify critical, high, or medium table health findings.".toList
  refine ⟨report, hreport, ?_, fun advice hadvice ↦ ?_⟩
  · rw [hsummary]
    rfl
  · have hmem : advice ∈ tabHealthAdvices containerText rules args input rows stale lowSample histogramEvidence := by
      simp only [tabHealthAdvices, List.mem_append, hadvice, or_true, true_or]
    have hne : (tabHealthAdvices containerText rules args input rows stale lowSample histogramEvidence).isEmpty = false :=
      List.isEmpty_eq_false_iff.mpr (List.ne_nil_of_mem hmem)
    rw [hfindings, hne]
    exact List.mem_map_of_mem hmem

/-- The report exists, counts the rows without primary key that the cut and then the filter leave, and names them. -/
theorem tabHealth_of_content (content : CatalogQuery → List Row) (b : Binding) (args : AnalyzeTabHealthArgs)
    (input : TabHealthInput) (generatedAtUtc : Str) :
    ∃ report missingPk, tabHealth containerText rules (fun q ↦ .ok (content q)) b args input generatedAtUtc = .ok report ∧
      missingPk = ((content .missingPk).take input.size.toNat).filter
        (inTable containerText input.schemaName input.tableName) ∧
      report.summary.lookup "missing_primary_key_tables".toList = some (.int missingPk.length) ∧
      (missingPk ≠ [] → ∃ finding ∈ report.findings, finding.code = missingPkCode) := by
  obtain ⟨read, hread, hpk⟩ := readTabHealth_of_content content args input
  obtain ⟨rows, hrows⟩ : ∃ rows, rows = read.filter containerText input.schemaName input.tableName := ⟨_, rfl⟩
  obtain ⟨histograms, hhistograms⟩ : ∃ histograms, (histogramCandidates args input
      (rows.staleStats.filterMap rules.classifyStaleStatisticsRow)
      (rows.lowSampledStats.filterMap rules.classifyLowSampleStatisticsRow)).mapM
        (histogramStep containerText rules (fun q ↦ .ok (content q))) = .ok histograms :=
    exists_mapM_ok (fun candidate _ ↦ histogramStep_of_content containerText rules content candidate)
  have hrun : tabHealth containerText rules (fun q ↦ .ok (content q)) b args input generatedAtUtc =
      tabHealthReport containerText rules b args input generatedAtUtc rows
        (rows.staleStats.filterMap rules.classifyStaleStatisticsRow)
        (rows.lowSampledStats.filterMap rules.classifyLowSampleStatisticsRow) histograms.reduceOption := by
    simp only [tabHealth, hread, ok_bind, ← hrows, hhistograms]
  obtain ⟨report, hreport, hcount, hfindings⟩ := tabHealthReport_ok containerText rules b args input generatedAtUtc rows
    (rows.staleStats.filterMap rules.classifyStaleStatisticsRow)
    (rows.lowSampledStats.filterMap rules.classifyLowSampleStatisticsRow) histograms.reduceOption
  refine ⟨report, rows.missingPk, hrun.trans hreport, ?_, hcount, fun h ↦ ?_⟩
  · rw [hrows, TabHealthRows.filter, hpk]
  · obtain ⟨advice, hadvice, hcode⟩ := mem_missingPrimaryKeys h
    exact ⟨advice.finding, hfindings advice hadvice, hcode⟩

theorem size_pos_of_check (h : args.check = .ok input) : 0 < input.size.toNat := by
  unfold AnalyzeTabHealthArgs.check at h
  obtain ⟨dbName, -, h⟩ := exists_of_bind_ok h
  obtain ⟨schemaName, -, h⟩ := exists_of_bind_ok h
  obtain ⟨tableName, -, h⟩ := exists_of_bind_ok h
  obtain ⟨size, hsize, h⟩ := exists_of_bind_ok h
  obtain ⟨histogramLimit, -, h⟩ := exists_of_bind_ok h
  have hle := (validatePositiveInt_ok hsize).1
  cases h
  show 0 < size.toNat
  omega

/-- The report names and counts the tables without primary key that pass the filter exactly if none of them stands
behind the first `top_n` rows of the query, or all of these rows pass it. -/
theorem tabHealth_missingPk_iff (content : CatalogQuery → List Row) (b : Binding) (args : AnalyzeTabHealthArgs)
    (input : TabHealthInput) (generatedAtUtc : Str) (hcheck : args.check = .ok input) :
    ∃ report, tabHealth containerText rules (fun q ↦ .ok (content q)) b args input generatedAtUtc = .ok report ∧
      (ReportsMissingPk containerText input (content .missingPk) report ↔
        (∀ row ∈ (content .missingPk).drop input.size.toNat,
          inTable containerText input.schemaName input.tableName row = false) ∨
        ∀ row ∈ (content .missingPk).take input.size.toNat,
          inTable containerText input.schemaName input.tableName row = true) := by
  obtain ⟨report, missingPk, hreport, hpk, hcount, hfinding⟩ := @tabHealth_of_content _ containerText
    rules content b args input generatedAtUtc
  have hcut := length_filter_take_iff (inTable containerText input.schemaName input.tableName) (content .missingPk)
    input.size.toNat
  rw [← hpk, ← List.countP_eq_length_filter] at hcut
  rw [← hcut]
  refine ⟨report, hreport, fun h ↦ ?_, fun h ↦ ⟨fun hmatch ↦ ?_, ?_⟩⟩
  · have hcounted := h.counted
    rw [hcount, Option.some.injEq, Value.int.injEq] at hcounted
    exact Int.ofNat.inj hcounted
  · obtain ⟨row, hrow, hin⟩ := hmatch
    have hpos : 0 < (content .missingPk).countP (inTable containerText input.schemaName input.tableName) :=
      List.countP_pos_iff.mpr ⟨row, hrow, hin⟩
    have hsize := size_pos_of_check hcheck
    apply hfinding
    apply List.ne_nil_of_length_pos
    omega
  · rw [hcount, h]

end Proofs

end UnicodeData

def someRules : StatisticsRules := ⟨fun _ ↦ none, fun _ ↦ none, fun _ ↦ false, fun _ _ ↦ none⟩

def twoHeaps : CatalogQuery → List Row
  | .missingPk => ["A", "B"].map (fun table ↦
      [("schema_name".toList, .str "dbo".toList), ("table_name".toList, .str table.toList)])
  | _ => []

def healthOfB : AnalyzeTabHealthArgs where
  databaseName := "db".toList
  tableName := some "B".toList
  topN := 1

def healthOfBInput : TabHealthInput := ⟨"db".toList, none, some "B".toList, 1, 10⟩

theorem tabHealth_misses_cut_table :
    let _ := asciiData
    healthOfB.check = .ok healthOfBInput ∧
      ∃ report, tabHealth (fun _ ↦ []) someRules (fun q ↦ .ok (twoHeaps q)) ⟨[], [], 1⟩ healthOfB healthOfBInput [] =
          .ok report ∧
        ¬ ReportsMissingPk (fun _ ↦ []) healthOfBInput (twoHeaps .missingPk) report := by
  intro U
  obtain ⟨report, missingPk, hreport, hpk, hcount, -⟩ := @tabHealth_of_content _ (fun _ ↦ [])
    someRules twoHeaps ⟨[], [], 1⟩ healthOfB healthOfBInput []
  refine ⟨rfl, report, hreport, fun h ↦ ?_⟩
  have hcounted := h.counted
  rw [hcount, hpk, Option.some.injEq, Value.int.injEq] at hcounted
  exact absurd hcounted (by decide)

theorem tabHealth_missingPk_iff_healthOfB :
    let _ := asciiData
    ∃ report, tabHealth (fun _ ↦ []) someRules (fun q ↦ .ok (twoHeaps q)) ⟨[], [], 1⟩ healthOfB healthOfBInput [] =
        .ok report ∧
      (ReportsMissingPk (fun _ ↦ []) healthOfBInput (twoHeaps .missingPk) report ↔
        (∀ row ∈ (twoHeaps .missingPk).drop 1, inTable (fun _ ↦ []) none (some "B".toList) row = false) ∨
        ∀ row ∈ (twoHeaps .missingPk).take 1, inTable (fun _ ↦ []) none (some "B".toList) row = true) := by
  intro U
  exact tabHealth_missingPk_iff twoHeaps ⟨[], [], 1⟩ healthOfB healthOfBInput [] rfl

end McpSqlServer

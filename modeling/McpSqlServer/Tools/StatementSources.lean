import McpSqlServer.Tools.TopStatements

namespace McpSqlServer

open Library Library.Text Library.Python

/-- With the Query Store unavailable the tool returns a report that names the source of its rows. -/
def Degrades (catalog : Catalog) (input : TopStatementsInput) (result : Except Exc TopStatementsReport) : Prop :=
  ∃ report, result = .ok report ∧ report.dataSource =
    match catalog (.topStatementsDmvFallback input.size) with
    | .ok _ => "dmv_fallback".toList
    | .error _ => "unavailable".toList

section UnicodeData

variable [UnicodeData] {containerText : Value → Str} {numerals : Numerals} {catalog : Catalog}
  {topN lookbackMinutes : ℤ} {e : Exc}

theorem statementMetrics_fallback (hquery : catalog (.topStatementsQueryStore topN lookbackMinutes) = .error e)
    (he : e.caught = true) (hunavailable : isQueryStoreUnavailable e = true) {rows : List Row}
    (hrows : catalog (.topStatementsDmvFallback topN) = .ok rows) :
    statementMetrics catalog topN lookbackMinutes = .ok (rows.take topN.toNat, "dmv_fallback".toList) := by
  rw [statementMetrics, Catalog.rows, hquery, Catalog.rows, hrows]
  simp [Except.map, he, hunavailable]

theorem statementMetrics_unavailable (hquery : catalog (.topStatementsQueryStore topN lookbackMinutes) = .error e)
    (he : e.caught = true) (hunavailable : isQueryStoreUnavailable e = true) {e' : Exc}
    (hfallback : catalog (.topStatementsDmvFallback topN) = .error e') (he' : e'.caught = true) :
    statementMetrics catalog topN lookbackMinutes = .ok ([], "unavailable".toList) := by
  rw [statementMetrics, Catalog.rows, hquery, Catalog.rows, hfallback]
  simp [Except.map, he, hunavailable, he']

omit [UnicodeData] in
theorem pressureMetrics_ok (h : OnlyExceptions (catalog (.topStatementsObjectPressure topN))) :
    ∃ objects, pressureMetrics catalog topN = .ok objects ∧
      ∀ row, row ∈ objects ↔ ∃ rows, catalog.rows (.topStatementsObjectPressure topN) topN = .ok rows ∧ row ∈ rows := by
  rw [pressureMetrics, Catalog.rows]
  cases hrows : catalog (.topStatementsObjectPressure topN) with
  | ok rows => exact ⟨rows.take topN.toNat, rfl, fun row ↦ by simp [Except.map]⟩
  | error e => exact ⟨[], by simp [Except.map, h e hrows], fun row ↦ by simp [Except.map]⟩

omit [UnicodeData] in
theorem pressureMetrics_typed (htyped : WellTyped numerals catalog topN)
    (h : OnlyExceptions (catalog (.topStatementsObjectPressure topN))) :
    ∃ objects, pressureMetrics catalog topN = .ok objects ∧
      (∀ row ∈ objects, numerals.NumericOrNull "scan_ratio" row ∧ numerals.NumericOrNull "row_count" row) ∧
      ((∃ rows, catalog.rows (.topStatementsObjectPressure topN) topN = .ok rows ∧ ∃ row ∈ rows, Pressing numerals row) ↔
        ∃ row ∈ objects, Pressing numerals row) := by
  obtain ⟨objects, hobjects, mem_objects⟩ := pressureMetrics_ok h
  refine ⟨objects, hobjects, ?_, ?_⟩
  · intro row hrow
    obtain ⟨rows, hrows, hrow⟩ := (mem_objects row).mp hrow
    obtain ⟨all, hall, rfl⟩ := exists_of_map_ok hrows
    exact htyped.objects all hall row (List.mem_of_mem_take hrow)
  · constructor
    · rintro ⟨rows, hrows, row, hrow, hpressing⟩
      exact ⟨row, (mem_objects row).mpr ⟨rows, hrows, hrow⟩, hpressing⟩
    · rintro ⟨row, hrow, hpressing⟩
      obtain ⟨rows, hrows, hrow⟩ := (mem_objects row).mp hrow
      exact ⟨rows, hrows, row, hrow, hpressing⟩

section Site

variable {β : Type} {S : Site β} {instanceId dbName : Str}

theorem catalogQuery_endsIn {γ : Type} (h : Answers S instanceId dbName catalog) (query : CatalogQuery) (maxRows : ℤ)
    (f : List Row → γ) :
    EndsIn (catalogQuery S instanceId dbName query maxRows >>= fun result ↦ pure (f result.rows))
      ((catalog.rows query maxRows).map f) := by
  intro w
  rw [Act.bind_pure_apply, ← h query maxRows w]
  cases (catalogQuery S instanceId dbName query maxRows w).1 with
  | ok result => rfl
  | error e => rfl

theorem dmvFallback_endsIn (h : Answers S instanceId dbName catalog) (topN : ℤ) (exc : Exc) :
    EndsIn (dmvFallback S instanceId dbName topN exc)
      (if exc.caught && isQueryStoreUnavailable exc then
        tryCatch ((catalog.rows (.topStatementsDmvFallback topN) topN).map (fun rows ↦ (rows, "dmv_fallback".toList)))
          (fun e ↦ if e.caught then .ok ([], "unavailable".toList) else .error e)
      else .error exc) := by
  unfold dmvFallback
  split
  · apply EndsIn.catching (catalogQuery_endsIn h _ _ (fun rows ↦ (rows, "dmv_fallback".toList)))
    intro e
    split
    · exact .pure _
    · exact .raise e
  · exact .raise exc

theorem objectPressure_endsIn (h : Answers S instanceId dbName catalog) (topN : ℤ) :
    EndsIn (objectPressure S instanceId dbName topN) (pressureMetrics catalog topN) := by
  have hcatch : pressureMetrics catalog topN =
      tryCatch ((catalog.rows (.topStatementsObjectPressure topN) topN).map id)
        (fun e ↦ if e.caught then .ok [] else .error e) := by
    unfold pressureMetrics
    cases catalog.rows (.topStatementsObjectPressure topN) topN with
    | ok rows => rfl
    | error e => rfl
  rw [hcatch]
  apply EndsIn.catching (catalogQuery_endsIn h _ _ id)
  intro e
  split
  · exact .pure _
  · exact .raise e

theorem statementMetrics_eq (catalog : Catalog) (topN lookbackMinutes : ℤ) :
    statementMetrics catalog topN lookbackMinutes =
      tryCatch ((catalog.rows (.topStatementsQueryStore topN lookbackMinutes) topN).map
        (fun rows ↦ (rows, "query_store".toList)))
      (fun exc ↦ if exc.caught && isQueryStoreUnavailable exc then
        tryCatch ((catalog.rows (.topStatementsDmvFallback topN) topN).map (fun rows ↦ (rows, "dmv_fallback".toList)))
          (fun e ↦ if e.caught then .ok ([], "unavailable".toList) else .error e)
      else .error exc) := by
  unfold statementMetrics
  cases catalog.rows (.topStatementsQueryStore topN lookbackMinutes) topN with
  | ok rows => rfl
  | error exc =>
    cases catalog.rows (.topStatementsDmvFallback topN) topN with
    | ok rows => rfl
    | error e => rfl

theorem collectTopStatementMetrics_endsIn (h : Answers S instanceId dbName catalog) (topN lookbackMinutes : ℤ) :
    EndsIn (collectTopStatementMetrics S instanceId dbName topN lookbackMinutes) (do
      let statements ← statementMetrics catalog topN lookbackMinutes
      let objects ← pressureMetrics catalog topN
      pure (statements.1, objects, statements.2)) := by
  rw [statementMetrics_eq]
  apply EndsIn.bind
  · exact EndsIn.catching (catalogQuery_endsIn h _ _ (fun rows ↦ (rows, "query_store".toList)))
      (dmvFallback_endsIn h topN)
  · exact fun statements ↦ .bind (objectPressure_endsIn h topN) (fun objects ↦ .pure _)

/-- On a database with the given catalog `_collect_top_statement_metrics` ends in its metrics, from every state. -/
theorem topStatementMetrics_endsIn (h : Answers S instanceId dbName catalog) (topN lookbackMinutes : ℤ) :
    EndsIn (collectTopStatementMetrics S instanceId dbName topN lookbackMinutes >>= fun rows ↦
        Act.ofExcept (normalizedMetrics numerals rows.1 rows.2.1 rows.2.2))
      (topStatementMetrics numerals catalog topN lookbackMinutes) := by
  have hsame : topStatementMetrics numerals catalog topN lookbackMinutes = (do
      let statements ← statementMetrics catalog topN lookbackMinutes
      let objects ← pressureMetrics catalog topN
      pure (statements.1, objects, statements.2)) >>= fun rows ↦
        normalizedMetrics numerals rows.1 rows.2.1 rows.2.2 := by
    unfold topStatementMetrics
    cases statementMetrics catalog topN lookbackMinutes with
    | ok statements =>
      cases pressureMetrics catalog topN with
      | ok objects => rfl
      | error e => rfl
    | error e => rfl
  rw [hsame]
  exact (collectTopStatementMetrics_endsIn h topN lookbackMinutes).bind (fun rows ↦ .ofExcept _)

end Site

section Ending

variable {b : Binding} {input : TopStatementsInput} {generatedAtUtc : Str} {metrics : TopStatementMetrics}
  {advices : List Advice}

theorem topStatementsReport_ok
    (hmetrics : topStatementMetrics numerals catalog input.size input.lookbackMinutes = .ok metrics)
    (hadvices : recommendTopStatementActions containerText numerals metrics.statementRows metrics.objectRows =
      .ok advices) (h : advices ≠ [] ∨ metrics.dataSource ≠ "unavailable".toList) :
    ∃ report, topStatementsReport containerText numerals catalog b input generatedAtUtc = .ok report ∧
      report.dataSource = metrics.dataSource := by
  rw [topStatementsReport, hmetrics, ok_bind, hadvices, ok_bind, mapM_build, ok_bind, List.isEmpty_map]
  cases advices with
  | cons advice advices => exact ⟨_, rfl, rfl⟩
  | nil =>
    have hsource : metrics.dataSource ≠ "unavailable".toList := h.resolve_left (fun hne ↦ hne rfl)
    rw [noStatementFinding, if_neg hsource, buildFinding, normalizeSeverity_text]
    exact ⟨_, rfl, rfl⟩

theorem topStatementsReport_error
    (hmetrics : topStatementMetrics numerals catalog input.size input.lookbackMinutes = .ok metrics)
    (hadvices : recommendTopStatementActions containerText numerals metrics.statementRows metrics.objectRows = .ok [])
    (hsource : metrics.dataSource = "unavailable".toList) :
    topStatementsReport containerText numerals catalog b input generatedAtUtc =
      .error (valueError "INVALID_INPUT: unsupported severity 'error'".toList) := by
  rw [topStatementsReport, hmetrics, ok_bind, hadvices, ok_bind, mapM_build, ok_bind, List.isEmpty_map,
    noStatementFinding, if_pos hsource, buildFinding_error]
  rfl

omit [UnicodeData] in
theorem fallback_ne_unavailable : "dmv_fallback".toList ≠ "unavailable".toList := by decide

theorem topStatementMetrics_of {statements objects statementRows : List Row} {dataSource : Str}
    (hstatements : statementMetrics catalog topN lookbackMinutes = .ok (statements, dataSource))
    (hobjects : pressureMetrics catalog topN = .ok objects)
    (hrows : normalizeTopStatementRows numerals statements = .ok statementRows) :
    topStatementMetrics numerals catalog topN lookbackMinutes =
      .ok ⟨statementRows, normalizeObjectPressureRows objects, dataSource⟩ := by
  rw [topStatementMetrics, hstatements, ok_bind, hobjects, ok_bind, normalizedMetrics, hrows]
  rfl

theorem topStatementsReport_fallback {statements objects : List Row}
    (hstatements : statementMetrics catalog input.size input.lookbackMinutes = .ok (statements, "dmv_fallback".toList))
    (hobjects : pressureMetrics catalog input.size = .ok objects)
    (hs : ∀ row ∈ statements, HasText row ∧ numerals.Fits row)
    (ho : ∀ row ∈ objects, numerals.NumericOrNull "scan_ratio" row ∧ numerals.NumericOrNull "row_count" row) :
    ∃ report, topStatementsReport containerText numerals catalog b input generatedAtUtc = .ok report ∧
      report.dataSource = "dmv_fallback".toList := by
  obtain ⟨rows, advices, hrows, hadvices, -⟩ :=
    @recommendTopStatementActions_normalized numerals containerText _ _ hs ho
  apply topStatementsReport_ok (topStatementMetrics_of hstatements hobjects hrows) hadvices
  exact .inr fallback_ne_unavailable

theorem topStatementsReport_unavailable {objects : List Row}
    (hstatements : statementMetrics catalog input.size input.lookbackMinutes = .ok ([], "unavailable".toList))
    (hobjects : pressureMetrics catalog input.size = .ok objects)
    (ho : ∀ row ∈ objects, numerals.NumericOrNull "scan_ratio" row ∧ numerals.NumericOrNull "row_count" row) :
    (∃ report, topStatementsReport containerText numerals catalog b input generatedAtUtc = .ok report ∧
      report.dataSource = "unavailable".toList) ↔ ∃ row ∈ objects, Pressing numerals row := by
  obtain ⟨rows, advices, hrows, hadvices, hnil⟩ := @recommendTopStatementActions_normalized numerals containerText []
    objects (fun row hrow ↦ absurd hrow List.not_mem_nil) ho
  have hmetrics := topStatementMetrics_of hstatements hobjects hrows
  by_cases hne : advices = []
  · have hnone : ∀ row ∈ objects, ¬ Pressing numerals row := (hnil rfl).mp hne
    rw [hne] at hadvices
    apply iff_of_false
    · rintro ⟨report, hreport, -⟩
      rw [topStatementsReport_error hmetrics hadvices rfl] at hreport
      cases hreport
    · rintro ⟨row, hrow, hpressing⟩
      exact hnone row hrow hpressing
  · have hsome : ∃ row ∈ objects, Pressing numerals row := by
      by_contra hnone
      push Not at hnone
      exact hne ((hnil rfl).mpr hnone)
    exact iff_of_true (topStatementsReport_ok hmetrics hadvices (.inl hne)) hsome

end Ending

/-- With the Query Store unavailable the tool ends in a report exactly if the other source of statements answers, or
an object gives rise to a recommendation. -/
theorem topStatements_degrades_iff (b : Binding) (input : TopStatementsInput) (generatedAtUtc : Str)
    (htyped : WellTyped numerals catalog input.size)
    (hquery : catalog (.topStatementsQueryStore input.size input.lookbackMinutes) = .error e) (he : e.caught = true)
    (hunavailable : isQueryStoreUnavailable e = true)
    (hfallback : OnlyExceptions (catalog (.topStatementsDmvFallback input.size)))
    (hpressure : OnlyExceptions (catalog (.topStatementsObjectPressure input.size)))
    (hfloat : ∀ rows, catalog (.topStatementsDmvFallback input.size) = .ok rows → ∀ row ∈ rows, numerals.Fits row) :
    Degrades catalog input (topStatementsReport containerText numerals catalog b input generatedAtUtc) ↔
      (∃ rows, catalog (.topStatementsDmvFallback input.size) = .ok rows) ∨
        ∃ rows, catalog.rows (.topStatementsObjectPressure input.size) input.size = .ok rows ∧
          ∃ row ∈ rows, Pressing numerals row := by
  obtain ⟨objects, hobjects, ho, hpressing⟩ := pressureMetrics_typed htyped hpressure
  rw [hpressing, Degrades]
  cases hrows : catalog (.topStatementsDmvFallback input.size) with
  | ok rows =>
    apply iff_of_true
    · apply topStatementsReport_fallback (statementMetrics_fallback hquery he hunavailable hrows) hobjects _ ho
      intro row hrow
      have hrow := List.mem_of_mem_take hrow
      exact ⟨htyped.statements rows hrows row hrow, hfloat rows hrows row hrow⟩
    · exact .inl ⟨rows, rfl⟩
  | error e' =>
    have hstatements := statementMetrics_unavailable hquery he hunavailable hrows (hfallback e' hrows)
    exact (topStatementsReport_unavailable hstatements hobjects ho).trans (by simp)

end UnicodeData

def sampleNumerals : Numerals where
  ofObject text := if text = "0.0".toList then some 0 else if text = "1.0".toList then some 1 else none
  float
    | .int n => .ok (.finite n)
    | .bool b => .ok (.finite b.toNat)
    | .object text => .ok (.finite (if text = "0.0".toList then 0 else 1))
    | .str _ => .error (valueError [])
    | _ => .error (typeError [])
  percent x := intText (x * 100).floor ++ ['%']
  grouped x := intText x.floor
  ofObject_zero := rfl
  ofObject_falsy text x hfalsy htext := by
    split at htext
    · exact (Option.some.inj htext).symm
    · split at htext
      · rename_i hone
        rw [hone] at hfalsy
        cases hfalsy
      · cases htext

theorem sampleNumerals_neverOverflows (v : Value) : sampleNumerals.NeverOverflows v := by
  constructor
  · intro h
    cases v <;> cases h
  · intro e h
    cases v <;> cases h <;> rfl

def stateDenied : Exc := .ofMessage .other "ProgrammingError".toList "VIEW DATABASE STATE permission was denied".toList

def topInput : TopStatementsInput := ⟨"db".toList, 25, 1440, "COMPACT".toList⟩

theorem stateDenied_unavailable :
    let _ := asciiData
    isQueryStoreUnavailable stateDenied = true := by
  intro U
  decide

/-- A login that may read no view has the tool fail on its own finding. -/
theorem topStatements_fails_denied :
    let _ := asciiData
    TopStatementsArgs.check { databaseName := "db".toList } = .ok topInput ∧
      isQueryStoreUnavailable stateDenied = true ∧
      topStatementsReport (fun _ ↦ []) sampleNumerals (fun _ ↦ .error stateDenied) ⟨[], [], 1⟩ topInput [] =
        .error (valueError "INVALID_INPUT: unsupported severity 'error'".toList) ∧
      ¬ Degrades (fun _ ↦ .error stateDenied) topInput
        (topStatementsReport (fun _ ↦ []) sampleNumerals (fun _ ↦ .error stateDenied) ⟨[], [], 1⟩ topInput []) := by
  intro U
  have hmetrics := @topStatementMetrics_of _ sampleNumerals (fun _ ↦ .error stateDenied) 25 1440 [] [] [] _
    (statementMetrics_unavailable rfl rfl stateDenied_unavailable rfl rfl) rfl rfl
  have herror := @topStatementsReport_error _ (fun _ ↦ []) sampleNumerals (fun _ ↦ .error stateDenied) ⟨[], [], 1⟩
    topInput [] _ hmetrics rfl rfl
  refine ⟨rfl, stateDenied_unavailable, herror, ?_⟩
  rintro ⟨report, hreport, -⟩
  rw [herror] at hreport
  cases hreport

def scannedCatalog : Catalog
  | .topStatementsObjectPressure _ => .ok [[("schema_name".toList, .str "dbo".toList),
      ("table_name".toList, .str "Orders".toList), ("scan_ratio".toList, .object "1.0".toList),
      ("row_count".toList, .int 500)]]
  | _ => .error stateDenied

def fallbackCatalog : Catalog
  | .topStatementsDmvFallback _ => .ok [[("query_id".toList, .int 7), ("query_sql_text".toList, .str "SELECT 1".toList),
      ("execution_count".toList, .int 3), (durationKey, .object "1.0".toList)]]
  | .topStatementsObjectPressure _ => .ok []
  | _ => .error stateDenied

theorem topStatements_degrades_iff_scanned :
    let _ := asciiData
    (Degrades scannedCatalog topInput
        (topStatementsReport (fun _ ↦ []) sampleNumerals scannedCatalog ⟨[], [], 1⟩ topInput []) ↔
      (∃ rows, scannedCatalog (.topStatementsDmvFallback 25) = .ok rows) ∨
        ∃ rows, scannedCatalog.rows (.topStatementsObjectPressure 25) 25 = .ok rows ∧
          ∃ row ∈ rows, Pressing sampleNumerals row) ∧
    (Degrades fallbackCatalog topInput
        (topStatementsReport (fun _ ↦ []) sampleNumerals fallbackCatalog ⟨[], [], 1⟩ topInput []) ↔
      (∃ rows, fallbackCatalog (.topStatementsDmvFallback 25) = .ok rows) ∨
        ∃ rows, fallbackCatalog.rows (.topStatementsObjectPressure 25) 25 = .ok rows ∧
          ∃ row ∈ rows, Pressing sampleNumerals row) := by
  intro U
  have htyped : WellTyped sampleNumerals scannedCatalog 25 := by
    constructor
    · intro rows hrows
      cases hrows
    · intro rows hrows row hrow
      cases hrows
      obtain rfl := List.mem_singleton.mp hrow
      exact ⟨.inr ⟨1, rfl⟩, .inr ⟨500, rfl⟩⟩
  have htyped' : WellTyped sampleNumerals fallbackCatalog 25 := by
    constructor
    · intro rows hrows row hrow
      cases hrows
      obtain rfl := List.mem_singleton.mp hrow
      exact .inr ⟨_, rfl⟩
    · intro rows hrows row hrow
      cases hrows
      cases hrow
  constructor
  · exact topStatements_degrades_iff ⟨[], [], 1⟩ topInput [] htyped
      (show scannedCatalog (.topStatementsQueryStore 25 1440) = .error stateDenied from rfl) rfl stateDenied_unavailable
      (.error rfl) (.ok _) (fun rows hrows ↦ by cases hrows)
  · exact topStatements_degrades_iff ⟨[], [], 1⟩ topInput [] htyped'
      (show fallbackCatalog (.topStatementsQueryStore 25 1440) = .error stateDenied from rfl) rfl stateDenied_unavailable
      (.ok _) (.ok _) (fun _ _ _ _ item _ _ ↦ sampleNumerals_neverOverflows item.2)

end McpSqlServer

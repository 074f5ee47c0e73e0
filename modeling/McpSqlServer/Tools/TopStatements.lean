import McpSqlServer.Tools.Catalog
import Mathlib.Algebra.Order.Ring.Rat

namespace McpSqlServer

open Library Library.Text Library.Python

inductive Double
  | finite (x : ℚ)
  | infinite
  | nan

/-- `int(x)`. -/
def Double.toInt : Double → Except Exc ℤ
  | .finite x => .ok (x.num.tdiv x.den)
  | .infinite => .error (overflowError "cannot convert float infinity to integer".toList)
  | .nan => .error (valueError "cannot convert float NaN to integer".toList)

/-- The numbers among the objects, and how numbers are written. -/
structure Numerals where
  ofObject : Str → Option ℚ
  /-- `float(v)`. -/
  float : Value → Except Exc Double
  /-- `f"{x:.0%}"`. -/
  percent : ℚ → Str
  /-- `f"{x:,}"`. -/
  grouped : ℚ → Str
  ofObject_zero : ofObject "0.0".toList = some 0
  ofObject_falsy : ∀ text x, falsyText text = true → ofObject text = some x → x = 0

def Numerals.number (numerals : Numerals) : Value → Option ℚ
  | .int n => some n
  | .bool b => some b.toNat
  | .object text => numerals.ofObject text
  | _ => none

/-- `v or 0`. -/
def orZero (v : Value) : Value := if v.truthy then v else .int 0

def topStmtDurationHighUs : ℚ := 5000000

def topStmtDurationMediumUs : ℚ := 1000000

def topStmtExecCountHigh : ℚ := 10000

/-- The double `0.80`. -/
def topStmtScanRatioHigh : ℚ := 3602879701896397 / 4503599627370496

def scanRatioSevere : ℚ := 8106479329266893 / 9007199254740992

def topStmtRowCountLarge : ℚ := 10000000

section Normalizing

def statementNumberKeys : List Str :=
  ["weighted_avg_duration_us".toList, "max_duration_us".toList, "execution_count".toList,
    "weighted_avg_cpu_time_us".toList, "weighted_avg_logical_reads".toList, "weighted_avg_physical_reads".toList,
    "weighted_avg_log_bytes".toList]

def pressureCountKeys : List Str :=
  ["user_seeks".toList, "user_scans".toList, "user_lookups".toList, "user_updates".toList, "row_count".toList]

/-- `int(float(v))`, or 0 where that is no number. -/
def truncated (numerals : Numerals) (v : Value) : Except Exc ℤ :=
  match numerals.float v >>= Double.toInt with
  | .ok n => .ok n
  | .error e => if e.ofConversion then .ok 0 else .error e

def truncateText : Value → Value
  | .str s => .str (s.take 4000)
  | v => v

def normalizeStatementCell (numerals : Numerals) (key : Str) : Value → Except Exc Value
  | .none => .ok .none
  | v =>
    if key ∈ statementNumberKeys then (truncated numerals v).map .int
    else if key = "query_sql_text".toList then .ok (truncateText v)
    else .ok v

def normalizePressureCell (key : Str) : Value → Value
  | .none =>
    if key ∈ pressureCountKeys then .int 0
    else if key = "scan_ratio".toList then .object "0.0".toList
    else .none
  | v => v

def normalizeCells (cell : Str → Value → Value) (row : Row) : Row := row.map (fun item ↦ (item.1, cell item.1 item.2))

def normalizeTopStatementRow (numerals : Numerals) (row : Row) : Except Exc Row :=
  row.mapM (fun item ↦ (normalizeStatementCell numerals item.1 item.2).map (fun v ↦ (item.1, v)))

def normalizeTopStatementRows (numerals : Numerals) (rows : List Row) : Except Exc (List Row) :=
  rows.mapM (normalizeTopStatementRow numerals)

def normalizeObjectPressureRows (rows : List Row) : List Row := rows.map (normalizeCells normalizePressureCell)

end Normalizing

section Recommending

variable (containerText : Value → Str) (numerals : Numerals)

def compareWith (p : ℚ → Bool) (v : Value) : Except Exc Bool :=
  match numerals.number v with
  | some x => .ok (p x)
  | none => .error (typeError "'>=' not supported between these types".toList)

def selectRows (p : Row → Except Exc Bool) : List Row → Except Exc (List Row)
  | [] => .ok []
  | row :: rows => do
    let keep ← p row
    let rest ← selectRows p rows
    pure (if keep then row :: rest else rest)

def cellWhere (key : String) (p : ℚ → Bool) (row : Row) : Except Exc Bool :=
  compareWith numerals p (orZero (row.get key.toList))

def dominantScans (row : Row) : Except Exc Bool := do
  let scans ← cellWhere numerals "scan_ratio" (fun x ↦ topStmtScanRatioHigh ≤ x) row
  if scans then cellWhere numerals "row_count" (fun x ↦ 0 < x) row else pure false

def sqlFragment (row : Row) : Except Exc Value :=
  let text := (row.lookup "query_sql_text".toList).getD (.str [])
  match if text.truthy then text else .str [] with
  | .str s => .ok (.str (s.take 500))
  | .list l => .ok (.list (l.take 500))
  | _ => .error (typeError "object is not subscriptable".toList)

def statementEvidence (cells : Row → Row) (row : Row) : Except Exc Row :=
  (sqlFragment row).map (fun fragment ↦ cells row ++ [("sql_fragment".toList, fragment)])

/-- The text of `v // 1000`; behind the normaliser a duration is an integer. -/
def milliseconds : Value → Except Exc Str
  | .int n => .ok (intText (n / 1000))
  | .bool _ => .ok "0".toList
  | _ => .error (typeError "unsupported operand type(s) for //".toList)

def formatNumber (format : ℚ → Str) (v : Value) : Except Exc Str :=
  match numerals.number v with
  | some x => .ok (format x)
  | none => .error (typeError "unsupported format string".toList)

def durationKey : Str := "weighted_avg_duration_us".toList

def executionText (row : Row) : Str := pyStr containerText (orZero (row.get "execution_count".toList))

def highDuration : List Row → Except Exc (List Advice)
  | [] => .ok []
  | top :: rows => do
    let evidence ← ((top :: rows).take 10).mapM (statementEvidence (fun row ↦
      [("query_id".toList, row.get "query_id".toList), ("duration_us".toList, row.get durationKey),
        ("execution_count".toList, row.get "execution_count".toList)]))
    let averaged ← milliseconds (orZero (top.get durationKey))
    pure [{ code := "TOP_STMT_HIGH_DURATION".toList, severity := .high,
            title := "Long-running statements detected".toList,
            detail := "Top statement averaged ".toList ++ averaged ++ " ms and executed ".toList ++
              executionText containerText top ++ " times.".toList,
            evidence := evidence,
            action := ("Review execution plans for the listed high-duration statements. " ++
              "Consider index additions, query rewrites, or partitioning to reduce scan cost.").toList,
            rationale := ("Statements exceeding 5 seconds average duration indicate potential I/O or plan " ++
              "inefficiencies.").toList }]

def highExecution : List Row → Except Exc (List Advice)
  | [] => .ok []
  | top :: rows => do
    let evidence ← ((top :: rows).take 10).mapM (statementEvidence (fun row ↦
      [("query_id".toList, row.get "query_id".toList), ("execution_count".toList, row.get "execution_count".toList)]))
    pure [{ code := "TOP_STMT_HIGH_EXECUTION_COUNT".toList, severity := .medium,
            title := "High-frequency statements identified".toList,
            detail := "Top statement executed ".toList ++ executionText containerText top ++ " times.".toList,
            evidence := evidence,
            action := ("Consider parameterized queries for high-frequency statements. " ++
              "Evaluate plan guide or OPTIMIZE FOR hints where parameter sniffing causes variance.").toList,
            rationale := ("Thousands of executions can amplify small inefficiencies into measurable resource " ++
              "pressure.").toList }]

def scanSeverity (severe : Bool) : Severity := if severe then .high else .medium

def tableHas (row : Row) : Str :=
  "Table ".toList ++ pyStr containerText (row.get "schema_name".toList) ++ ['.'] ++
    pyStr containerText (row.get "table_name".toList) ++ " has ".toList

def highScan : List Row → Except Exc (List Advice)
  | [] => .ok []
  | top :: rows => do
    let severe ← cellWhere numerals "scan_ratio" (fun x ↦ scanRatioSevere ≤ x) top
    let ratio ← formatNumber numerals numerals.percent (orZero (top.get "scan_ratio".toList))
    -- the priority is compared without `or 0`
    let urgent ← compareWith numerals (fun x ↦ scanRatioSevere ≤ x)
      ((top.lookup "scan_ratio".toList).getD (.int 0))
    pure [{ code := "TOP_STMT_HIGH_SCAN_PRESSURE".toList, severity := scanSeverity severe,
            title := "Objects with dominant scan access patterns".toList,
            detail := tableHas containerText top ++ ratio ++ " scan ratio.".toList,
            evidence := (top :: rows).take 10,
            action := ("Add targeted nonclustered indexes on scan-heavy tables. " ++
              "Evaluate covering indexes for the correlated high-duration statements above.").toList,
            rationale := ("Scan-dominated workloads can benefit from indexes that satisfy predicates and " ++
              "reduce I/O.").toList,
            priority := scanSeverity urgent }]

def largeTables : List Row → Except Exc (List Advice)
  | [] => .ok []
  | top :: rows => do
    let count ← formatNumber numerals numerals.grouped (orZero (top.get "row_count".toList))
    pure [{ code := "TOP_STMT_LARGE_TABLE_CANDIDATE".toList, severity := .medium,
            title := "Large tables identified as partition candidates".toList,
            detail := tableHas containerText top ++ count ++ " rows.".toList,
            evidence := (top :: rows).take 10,
            action := ("Evaluate table partitioning strategy for tables exceeding 10M rows. " ++
              "Consider partition-aligned indexes and sliding-window maintenance.").toList,
            rationale := ("Partitioning reduces scan range and facilitates faster data archival/retention for " ++
              "large tables.").toList }]

def rewriteCandidates : List Row → Except Exc (List Advice)
  | [] => .ok []
  | top :: rows => do
    let evidence ← ((top :: rows).take 10).mapM (statementEvidence (fun row ↦
      [("query_id".toList, row.get "query_id".toList), ("duration_us".toList, orZero (row.get durationKey))]))
    pure [{ code := "TOP_STMT_REWRITE_CANDIDATE".toList, severity := .medium,
            title := "Medium-duration statements may benefit from rewrites or hints".toList,
            detail := intText (top :: rows).length ++
              " statements fall in the 1s\u20135s average-duration range.".toList,
            evidence := evidence,
            action := ("Review query structure for medium-duration statements. " ++
              "Consider CTE or temp-table rewrites, query hints (HASH/LOOP/MERGE JOIN, " ++
              "MAXDOP, RECOMPILE) where plan instability is observed.").toList,
            rationale := ("Statements in the 1\u20135 second range often respond well to targeted tuning without " ++
              "schema changes.").toList }]

def recommendTopStatementActions (statementRows objectRows : List Row) : Except Exc (List Advice) :=
  if statementRows.isEmpty && objectRows.isEmpty then .ok []
  else do
    let high ← selectRows (cellWhere numerals "weighted_avg_duration_us" (fun x ↦ topStmtDurationHighUs ≤ x)) statementRows
    let medium ← selectRows (cellWhere numerals "weighted_avg_duration_us" (fun x ↦
      topStmtDurationMediumUs ≤ x && x < topStmtDurationHighUs)) statementRows
    let frequent ← selectRows (cellWhere numerals "execution_count" (fun x ↦ topStmtExecCountHigh ≤ x)) statementRows
    let long ← highDuration containerText high
    let frequent ← highExecution containerText frequent
    let scans ← selectRows (dominantScans numerals) objectRows
    let large ← selectRows (cellWhere numerals "row_count" (fun x ↦ topStmtRowCountLarge ≤ x)) objectRows
    let scans ← highScan containerText numerals scans
    let large ← largeTables containerText numerals large
    let rewrites ← rewriteCandidates medium
    pure (long ++ frequent ++ scans ++ large ++ rewrites)

end Recommending

section UnicodeData

variable [UnicodeData] (containerText : Value → Str) (numerals : Numerals)

def statementMetrics (catalog : Catalog) (topN lookbackMinutes : ℤ) : Except Exc (List Row × Str) :=
  match catalog.rows (.topStatementsQueryStore topN lookbackMinutes) topN with
  | .ok rows => .ok (rows, "query_store".toList)
  | .error exc =>
    if exc.caught && isQueryStoreUnavailable exc then
      match catalog.rows (.topStatementsDmvFallback topN) topN with
      | .ok rows => .ok (rows, "dmv_fallback".toList)
      | .error e => if e.caught then .ok ([], "unavailable".toList) else .error e
    else .error exc

omit [UnicodeData] in
def pressureMetrics (catalog : Catalog) (topN : ℤ) : Except Exc (List Row) :=
  match catalog.rows (.topStatementsObjectPressure topN) topN with
  | .ok rows => .ok rows
  | .error e => if e.caught then .ok [] else .error e

structure TopStatementMetrics where
  statementRows : List Row
  objectRows : List Row
  dataSource : Str

omit [UnicodeData] in
def normalizedMetrics (stmtRows objRows : List Row) (dataSource : Str) : Except Exc TopStatementMetrics := do
  let statementRows ← normalizeTopStatementRows numerals stmtRows
  pure ⟨statementRows, normalizeObjectPressureRows objRows, dataSource⟩

def topStatementMetrics (catalog : Catalog) (topN lookbackMinutes : ℤ) : Except Exc TopStatementMetrics := do
  let statements ← statementMetrics catalog topN lookbackMinutes
  let objects ← pressureMetrics catalog topN
  normalizedMetrics numerals statements.1 objects statements.2

def noStatementFinding (dataSource : Str) : Except Exc Finding :=
  if dataSource = "unavailable".toList then
    buildFinding "TOP_STMT_TELEMETRY_UNAVAILABLE".toList "error".toList
      "Statement telemetry source unavailable".toList
      ("Both Query Store and DMV data sources are unavailable for this database. " ++
        "No statement performance analysis can be performed.").toList []
  else
    buildFinding "TOP_STMT_NO_CRITICAL_ISSUES".toList Severity.info.text
      "No critical statement performance issues detected".toList
      "Current analysis did not identify high-severity statement patterns.".toList []

structure TopStatementsReport extends Report where
  topStatements : List Row
  dataSource : Str

/-- `_top_statements` behind its gates, on a database with the given catalog. -/
def topStatementsReport (catalog : Catalog) (b : Binding) (input : TopStatementsInput) (generatedAtUtc : Str) :
    Except Exc TopStatementsReport := do
  let metrics ← topStatementMetrics numerals catalog input.size input.lookbackMinutes
  let advices ← recommendTopStatementActions containerText numerals metrics.statementRows metrics.objectRows
  let advised ← advices.mapM Advice.build
  let findings ← if advised.isEmpty then (noStatementFinding metrics.dataSource).map (fun finding ↦ [finding])
    else .ok (advised.map Prod.fst)
  let report := buildReportEnvelope b.instanceNumber input.dbName b.tool generatedAtUtc
    [("statements_analyzed".toList, .int metrics.statementRows.length),
      ("objects_checked".toList, .int metrics.objectRows.length),
      ("lookback_minutes".toList, .int input.lookbackMinutes), ("data_source".toList, .str metrics.dataSource)]
    findings (advised.map Prod.snd)
  pure { toReport := report, topStatements := metrics.statementRows.take input.size.toNat,
         dataSource := metrics.dataSource }

end UnicodeData

section Cells

/-- The number in a cell; a null counts 0. -/
def Numerals.cell (numerals : Numerals) (key : String) (row : Row) : ℚ := (numerals.number (row.get key.toList)).getD 0

def Numerals.NumericOrNull (numerals : Numerals) (key : String) (row : Row) : Prop :=
  row.get key.toList = .none ∨ ∃ x, numerals.number (row.get key.toList) = some x

/-- `float` does not overflow on the value, nor does it read the value as infinite. -/
def Numerals.NeverOverflows (numerals : Numerals) (v : Value) : Prop :=
  numerals.float v ≠ .ok .infinite ∧ ∀ e, numerals.float v = .error e → e.ofConversion = true

def Numerals.Fits (numerals : Numerals) (row : Row) : Prop :=
  ∀ item ∈ row, item.1 ∈ statementNumberKeys → numerals.NeverOverflows item.2

def HasText (row : Row) : Prop :=
  row.get "query_sql_text".toList = .none ∨ ∃ s, row.get "query_sql_text".toList = .str s

/-- The row of an object from which a finding is made: mostly scans, or a large table. -/
def Pressing (numerals : Numerals) (row : Row) : Prop :=
  (topStmtScanRatioHigh ≤ numerals.cell "scan_ratio" row ∧ 0 < numerals.cell "row_count" row) ∨
    topStmtRowCountLarge ≤ numerals.cell "row_count" row

/-- The cells that the tool computes with are of the types of their columns. -/
structure WellTyped (numerals : Numerals) (catalog : Catalog) (topN : ℤ) : Prop where
  statements : ∀ rows, catalog (.topStatementsDmvFallback topN) = .ok rows → ∀ row ∈ rows, HasText row
  objects : ∀ rows, catalog (.topStatementsObjectPressure topN) = .ok rows → ∀ row ∈ rows,
    numerals.NumericOrNull "scan_ratio" row ∧ numerals.NumericOrNull "row_count" row

end Cells

section Proofs

variable {numerals : Numerals} {row : Row} {rows : List Row} {key : String}

theorem lookup_normalizeCells (cell : Str → Value → Value) (row : Row) (key : Str) :
    (normalizeCells cell row).lookup key = (row.lookup key).map (cell key) := by
  induction row with
  | nil => rfl
  | cons item row ih =>
    rw [normalizeCells, List.map_cons, lookup_cons_eq, lookup_cons_eq]
    split
    · rename_i h
      rw [h]
      rfl
    · exact ih

theorem selectRows_ok {p : Row → Except Exc Bool} {q : Row → Bool} (h : ∀ row ∈ rows, p row = .ok (q row)) :
    selectRows p rows = .ok (rows.filter q) := by
  induction rows with
  | nil => rfl
  | cons row rows ih =>
    have hrest := ih (fun r hr ↦ h r (List.mem_cons_of_mem _ hr))
    rw [selectRows, h row List.mem_cons_self, ok_bind, hrest, ok_bind]
    cases hq : q row with
    | true => simp [hq, pure, Except.pure]
    | false => simp [hq, pure, Except.pure]

/-- What the normaliser makes of a statement: its numbers are integers, and its text can be cut. -/
structure NormalStatement (row : Row) : Prop where
  duration : ∃ n, orZero (row.get durationKey) = .int n
  executions : ∃ n, orZero (row.get "execution_count".toList) = .int n
  fragment : ∃ fragment, sqlFragment row = .ok fragment

theorem exists_truncated {v : Value} (h : numerals.NeverOverflows v) : ∃ n, truncated numerals v = .ok n := by
  obtain ⟨hfinite, herror⟩ := h
  rw [truncated]
  cases hv : numerals.float v with
  | error e => exact ⟨0, if_pos (herror e hv)⟩
  | ok x =>
    cases x with
    | finite x => exact ⟨_, rfl⟩
    | nan => exact ⟨0, rfl⟩
    | infinite => exact absurd hv hfinite

def CellsMade (cell : Str → Value → Except Exc Value) (row row' : Row) : Prop :=
  List.Forall₂ (fun item item' ↦ item'.1 = item.1 ∧ cell item.1 item.2 = .ok item'.2) row row'

theorem CellsMade.lookup {cell : Str → Value → Except Exc Value} {row' : Row} (h : CellsMade cell row row')
    (key : Str) :
    (row.lookup key = none ∧ row'.lookup key = none) ∨
      ∃ v v', row.lookup key = some v ∧ row'.lookup key = some v' ∧ cell key v = .ok v' := by
  induction h with
  | nil => exact .inl ⟨rfl, rfl⟩
  | @cons item item' row row' hitem _ ih =>
    rw [lookup_cons_eq, lookup_cons_eq, hitem.1]
    by_cases hkey : key = item.1
    · rw [if_pos hkey, if_pos hkey]
      exact .inr ⟨item.2, item'.2, rfl, rfl, hkey ▸ hitem.2⟩
    · rwa [if_neg hkey, if_neg hkey]

theorem exists_normalizeTopStatementRow (h : numerals.Fits row) :
    ∃ row', normalizeTopStatementRow numerals row = .ok row' ∧ CellsMade (normalizeStatementCell numerals) row row' := by
  apply exists_mapM_forall₂
  intro item hitem
  obtain ⟨v, hv⟩ : ∃ v, normalizeStatementCell numerals item.1 item.2 = .ok v := by
    unfold normalizeStatementCell
    split
    · exact ⟨_, rfl⟩
    · split
      · rename_i hkey
        obtain ⟨n, hn⟩ := exists_truncated (h item hitem hkey)
        exact ⟨.int n, by rw [hn]; rfl⟩
      · split <;> exact ⟨_, rfl⟩
  exact ⟨(item.1, v), by rw [hv]; rfl, rfl, hv⟩

theorem CellsMade.orZero {row' : Row} (h : CellsMade (normalizeStatementCell numerals) row row') {key : Str}
    (hkey : key ∈ statementNumberKeys) : ∃ n, orZero (row'.get key) = .int n := by
  rw [Row.get]
  rcases h.lookup key with ⟨-, hnone⟩ | ⟨v, v', -, hv', hcell⟩
  · exact ⟨0, by rw [hnone]; rfl⟩
  · rw [hv', Option.getD_some]
    have hint : v' = .none ∨ ∃ n, v' = .int n := by
      unfold normalizeStatementCell at hcell
      split at hcell
      · exact .inl (Except.ok.inj hcell).symm
      · rw [if_pos hkey] at hcell
        obtain ⟨n, -, rfl⟩ := exists_of_map_ok hcell
        exact .inr ⟨n, rfl⟩
    rcases hint with rfl | ⟨n, rfl⟩
    · exact ⟨0, rfl⟩
    · unfold McpSqlServer.orZero
      split
      · exact ⟨n, rfl⟩
      · exact ⟨0, rfl⟩

theorem CellsMade.sqlFragment {row' : Row} (h : CellsMade (normalizeStatementCell numerals) row row')
    (htext : HasText row) : ∃ fragment, sqlFragment row' = .ok fragment := by
  unfold McpSqlServer.sqlFragment
  unfold HasText Row.get at htext
  rcases h.lookup "query_sql_text".toList with ⟨-, hnone⟩ | ⟨v, v', hv, hv', hcell⟩
  · rw [hnone]
    exact ⟨_, rfl⟩
  · rw [hv', Option.getD_some]
    rw [hv, Option.getD_some] at htext
    rcases htext with rfl | ⟨s, rfl⟩
    · obtain rfl := Except.ok.inj hcell
      exact ⟨_, rfl⟩
    · obtain rfl : .str (s.take 4000) = v' := Except.ok.inj hcell
      dsimp only
      by_cases hempty : (Value.str (s.take 4000)).truthy = true
      · exact ⟨_, by rw [if_pos hempty]⟩
      · exact ⟨_, by rw [if_neg hempty]⟩

theorem CellsMade.normalStatement {row' : Row} (h : CellsMade (normalizeStatementCell numerals) row row')
    (htext : HasText row) : NormalStatement row' where
  duration := h.orZero (by decide)
  executions := h.orZero (by decide)
  fragment := h.sqlFragment htext

theorem number_orZero {v : Value} {x : ℚ} (h : numerals.number v = some x) : numerals.number (orZero v) = some x := by
  unfold orZero
  split
  · exact h
  · rename_i hfalse
    cases v with
    | int n =>
      obtain rfl : n = 0 := by simpa [Value.truthy] using hfalse
      exact h
    | bool b =>
      obtain rfl : b = false := by simpa [Value.truthy] using hfalse
      simpa [Numerals.number] using h
    | object text =>
      have hfalsy : falsyText text = true := by simpa [Value.truthy] using hfalse
      rw [numerals.ofObject_falsy text x hfalsy h]
      rfl
    | none => cases h
    | str s => cases h
    | list l => cases h
    | dict d => cases h

structure NormalObject (numerals : Numerals) (x y : ℚ) (row : Row) : Prop where
  scanRatio : numerals.number (orZero (row.get "scan_ratio".toList)) = some x
  rowCount : numerals.number (orZero (row.get "row_count".toList)) = some y
  priority : numerals.number ((row.lookup "scan_ratio".toList).getD (.int 0)) = some x

theorem number_normalizePressureCell {row : Row}
    (hzero : numerals.number (normalizePressureCell key.toList .none) = some 0)
    (h : numerals.NumericOrNull key row) :
    numerals.number (((normalizeCells normalizePressureCell row).lookup key.toList).getD (.int 0)) =
      some (numerals.cell key row) := by
  rw [lookup_normalizeCells]
  simp only [Numerals.NumericOrNull, Numerals.cell, Row.get] at h ⊢
  cases hl : row.lookup key.toList with
  | none => rfl
  | some v =>
    simp only [hl, Option.getD_some, Option.map_some] at h ⊢
    rcases h with rfl | ⟨x, hx⟩
    · exact hzero
    · rw [hx, Option.getD_some]
      cases v <;> first | exact hx | cases hx

theorem number_get_normalized {row : Row} (hzero : numerals.number (normalizePressureCell key.toList .none) = some 0)
    (h : numerals.NumericOrNull key row) :
    numerals.number (orZero (Row.get (normalizeCells normalizePressureCell row) key.toList)) =
      some (numerals.cell key row) := by
  have hnumber := number_normalizePressureCell hzero h
  unfold Row.get
  cases hl : (normalizeCells normalizePressureCell row).lookup key.toList with
  | none =>
    rw [hl] at hnumber
    exact hnumber
  | some v =>
    rw [hl] at hnumber
    exact number_orZero hnumber

theorem normalObject_of_numeric {row : Row} (hscan : numerals.NumericOrNull "scan_ratio" row)
    (hcount : numerals.NumericOrNull "row_count" row) :
    NormalObject numerals (numerals.cell "scan_ratio" row) (numerals.cell "row_count" row)
      (normalizeCells normalizePressureCell row) where
  scanRatio := number_get_normalized numerals.ofObject_zero hscan
  rowCount := number_get_normalized rfl hcount
  priority := number_normalizePressureCell numerals.ofObject_zero hscan

theorem NormalStatement.number (h : NormalStatement row) :
    (∃ x, numerals.number (orZero (row.get durationKey)) = some x) ∧
      ∃ x, numerals.number (orZero (row.get "execution_count".toList)) = some x := by
  obtain ⟨m, hm⟩ := h.duration
  obtain ⟨n, hn⟩ := h.executions
  exact ⟨⟨m, by rw [hm]; rfl⟩, ⟨n, by rw [hn]; rfl⟩⟩

def Numerals.read (numerals : Numerals) (key : String) (row : Row) : ℚ :=
  (numerals.number (orZero (row.get key.toList))).getD 0

theorem cellWhere_ok (p : ℚ → Bool) (h : ∃ x, numerals.number (orZero (row.get key.toList)) = some x) :
    cellWhere numerals key p row = .ok (p (numerals.read key row)) := by
  obtain ⟨x, hx⟩ := h
  rw [cellWhere, compareWith, hx, Numerals.read, hx]
  rfl

theorem dominantScans_ok {x y : ℚ} (h : NormalObject numerals x y row) :
    dominantScans numerals row = .ok (decide (topStmtScanRatioHigh ≤ numerals.read "scan_ratio" row) &&
      decide (0 < numerals.read "row_count" row)) := by
  rw [dominantScans, cellWhere_ok _ ⟨x, h.scanRatio⟩, ok_bind]
  cases decide (topStmtScanRatioHigh ≤ numerals.read "scan_ratio" row) with
  | true => rw [if_pos rfl, cellWhere_ok _ ⟨y, h.rowCount⟩, Bool.true_and]
  | false => rfl

/-- A part of the recommendations does not fail, and is empty exactly if it is made of no row. -/
def Yields (part : Except Exc (List Advice)) (rows : List Row) : Prop :=
  ∃ advices, part = .ok advices ∧ (advices = [] ↔ rows = [])

theorem Yields.nil : Yields (.ok []) [] := ⟨[], rfl, iff_of_true rfl rfl⟩

theorem Yields.singleton (advice : Advice) (rows : List Row) : Yields (.ok [advice]) (row :: rows) :=
  ⟨[advice], rfl, iff_of_false (List.cons_ne_nil _ _) (List.cons_ne_nil _ _)⟩

theorem exists_evidence (cells : Row → Row) (n : ℕ) (h : ∀ row ∈ rows, NormalStatement row) :
    ∃ evidence, (rows.take n).mapM (statementEvidence cells) = .ok evidence := by
  apply exists_mapM_ok
  intro row hrow
  obtain ⟨fragment, hfragment⟩ := (h row (List.mem_of_mem_take hrow)).fragment
  rw [statementEvidence, hfragment]
  exact ⟨_, rfl⟩

variable {containerText : Value → Str}

theorem highDuration_yields (h : ∀ row ∈ rows, NormalStatement row) : Yields (highDuration containerText rows) rows := by
  cases rows with
  | nil => exact .nil
  | cons top rows =>
    obtain ⟨n, hn⟩ := (h top List.mem_cons_self).duration
    obtain ⟨evidence, hevidence⟩ := exists_evidence (fun row ↦ [("query_id".toList, row.get "query_id".toList),
      ("duration_us".toList, row.get durationKey), ("execution_count".toList, row.get "execution_count".toList)]) 10 h
    rw [highDuration, hevidence, ok_bind, hn, milliseconds, ok_bind]
    exact .singleton _ _

theorem highExecution_yields (h : ∀ row ∈ rows, NormalStatement row) : Yields (highExecution containerText rows) rows := by
  cases rows with
  | nil => exact .nil
  | cons top rows =>
    obtain ⟨evidence, hevidence⟩ := exists_evidence (fun row ↦ [("query_id".toList, row.get "query_id".toList),
      ("execution_count".toList, row.get "execution_count".toList)]) 10 h
    rw [highExecution, hevidence, ok_bind]
    exact .singleton _ _

theorem rewriteCandidates_yields (h : ∀ row ∈ rows, NormalStatement row) : Yields (rewriteCandidates rows) rows := by
  cases rows with
  | nil => exact .nil
  | cons top rows =>
    obtain ⟨evidence, hevidence⟩ := exists_evidence (fun row ↦ [("query_id".toList, row.get "query_id".toList),
      ("duration_us".toList, orZero (row.get durationKey))]) 10 h
    rw [rewriteCandidates, hevidence, ok_bind]
    exact .singleton _ _

theorem highScan_yields (h : ∀ row ∈ rows, ∃ x y, NormalObject numerals x y row) :
    Yields (highScan containerText numerals rows) rows := by
  cases rows with
  | nil => exact .nil
  | cons top rows =>
    obtain ⟨x, y, htop⟩ := h top List.mem_cons_self
    rw [highScan, cellWhere_ok _ ⟨x, htop.scanRatio⟩, ok_bind, formatNumber, htop.scanRatio, ok_bind, compareWith,
      htop.priority, ok_bind]
    exact .singleton _ _

theorem largeTables_yields (h : ∀ row ∈ rows, ∃ x y, NormalObject numerals x y row) :
    Yields (largeTables containerText numerals rows) rows := by
  cases rows with
  | nil => exact .nil
  | cons top rows =>
    obtain ⟨x, y, htop⟩ := h top List.mem_cons_self
    rw [largeTables, formatNumber, htop.rowCount, ok_bind]
    exact .singleton _ _

def Numerals.pressing (numerals : Numerals) (row : Row) : Bool :=
  (decide (topStmtScanRatioHigh ≤ numerals.read "scan_ratio" row) && decide (0 < numerals.read "row_count" row)) ||
    decide (topStmtRowCountLarge ≤ numerals.read "row_count" row)

theorem pressing_normalized (hscan : numerals.NumericOrNull "scan_ratio" row)
    (hcount : numerals.NumericOrNull "row_count" row) :
    numerals.pressing (normalizeCells normalizePressureCell row) = true ↔ Pressing numerals row := by
  have h := normalObject_of_numeric hscan hcount
  rw [Numerals.pressing, Numerals.read, Numerals.read, h.scanRatio, h.rowCount]
  simp [Pressing]

theorem exists_selected {p : Row → Except Exc Bool} {q : Row → Bool} (h : ∀ row ∈ rows, p row = .ok (q row)) :
    ∃ selected, selectRows p rows = .ok selected ∧ ∀ row, row ∈ selected ↔ row ∈ rows ∧ q row = true :=
  ⟨_, selectRows_ok h, fun _ ↦ List.mem_filter⟩

theorem recommendTopStatementActions_ok {statementRows objectRows : List Row}
    (hs : ∀ row ∈ statementRows, NormalStatement row) (ho : ∀ row ∈ objectRows, ∃ x y, NormalObject numerals x y row) :
    ∃ advices, recommendTopStatementActions containerText numerals statementRows objectRows = .ok advices ∧
      (statementRows = [] → (advices = [] ↔ ∀ row ∈ objectRows, numerals.pressing row = false)) := by
  have hduration : ∀ p, ∀ row ∈ statementRows, cellWhere numerals "weighted_avg_duration_us" p row =
      .ok (p (numerals.read "weighted_avg_duration_us" row)) := fun p row hrow ↦ cellWhere_ok p (hs row hrow).number.1
  have hexecutions : ∀ p, ∀ row ∈ statementRows, cellWhere numerals "execution_count" p row =
      .ok (p (numerals.read "execution_count" row)) := fun p row hrow ↦ cellWhere_ok p (hs row hrow).number.2
  have hscans : ∀ row ∈ objectRows, dominantScans numerals row = .ok (decide (topStmtScanRatioHigh ≤
      numerals.read "scan_ratio" row) && decide (0 < numerals.read "row_count" row)) := by
    intro row hrow
    obtain ⟨x, y, hrow⟩ := ho row hrow
    exact dominantScans_ok hrow
  have hcount : ∀ p, ∀ row ∈ objectRows, cellWhere numerals "row_count" p row =
      .ok (p (numerals.read "row_count" row)) := by
    intro p row hrow
    obtain ⟨x, y, hrow⟩ := ho row hrow
    exact cellWhere_ok p ⟨y, hrow.rowCount⟩
  obtain ⟨high, hhigh, mem_high⟩ := exists_selected (hduration (fun x ↦ topStmtDurationHighUs ≤ x))
  obtain ⟨medium, hmedium, mem_medium⟩ := exists_selected (hduration (fun x ↦
    topStmtDurationMediumUs ≤ x && x < topStmtDurationHighUs))
  obtain ⟨frequent, hfrequent, mem_frequent⟩ := exists_selected (hexecutions (fun x ↦ topStmtExecCountHigh ≤ x))
  obtain ⟨scans, hscans, mem_scans⟩ := exists_selected hscans
  obtain ⟨large, hlarge, mem_large⟩ := exists_selected (hcount (fun x ↦ topStmtRowCountLarge ≤ x))
  obtain ⟨long, hlong, long_nil⟩ := @highDuration_yields high containerText
    (fun row hrow ↦ hs row ((mem_high row).mp hrow).1)
  obtain ⟨often, hoften, often_nil⟩ := @highExecution_yields frequent containerText
    (fun row hrow ↦ hs row ((mem_frequent row).mp hrow).1)
  obtain ⟨scanned, hscanned, scanned_nil⟩ := @highScan_yields numerals scans containerText
    (fun row hrow ↦ ho row ((mem_scans row).mp hrow).1)
  obtain ⟨partitions, hpartitions, partitions_nil⟩ := @largeTables_yields numerals large containerText
    (fun row hrow ↦ ho row ((mem_large row).mp hrow).1)
  obtain ⟨rewrites, hrewrites, rewrites_nil⟩ := @rewriteCandidates_yields medium
    (fun row hrow ↦ hs row ((mem_medium row).mp hrow).1)
  unfold recommendTopStatementActions
  split
  · rename_i hempty
    obtain ⟨rfl, rfl⟩ : statementRows = [] ∧ objectRows = [] := by simpa using hempty
    exact ⟨[], rfl, fun _ ↦ iff_of_true rfl (by simp)⟩
  · rw [hhigh, ok_bind, hmedium, ok_bind, hfrequent, ok_bind, hlong, ok_bind, hoften, ok_bind, hscans, ok_bind, hlarge,
      ok_bind, hscanned, ok_bind, hpartitions, ok_bind, hrewrites, ok_bind]
    refine ⟨_, rfl, ?_⟩
    intro hnil
    have hnone : ∀ row, row ∉ statementRows := List.eq_nil_iff_forall_not_mem.mp hnil
    simp only [List.append_eq_nil_iff, long_nil, often_nil, scanned_nil, partitions_nil, rewrites_nil]
    simp only [List.eq_nil_iff_forall_not_mem, mem_high, mem_medium, mem_frequent, mem_scans, mem_large, hnone,
      false_and, not_false_eq_true, implies_true, true_and, and_true, not_and, Numerals.pressing, Bool.or_eq_false_iff,
      Bool.not_eq_true, imp_and, forall_and]

theorem exists_normalizeTopStatementRows {statements : List Row}
    (hs : ∀ row ∈ statements, HasText row ∧ numerals.Fits row) :
    ∃ rows, normalizeTopStatementRows numerals statements = .ok rows ∧ (∀ row ∈ rows, NormalStatement row) ∧
      (statements = [] → rows = []) := by
  have hrow : ∀ row ∈ statements, ∃ row', normalizeTopStatementRow numerals row = .ok row' ∧
      NormalStatement row' ∧ CellsMade (normalizeStatementCell numerals) row row' := by
    intro row hrow
    obtain ⟨row', hrow', hmade⟩ := exists_normalizeTopStatementRow (hs row hrow).2
    exact ⟨row', hrow', hmade.normalStatement (hs row hrow).1, hmade⟩
  obtain ⟨rows, hrows, hmade⟩ := exists_mapM_forall₂ hrow
  refine ⟨rows, hrows, ((List.forall₂_and_left _ _).mp hmade.flip).1, ?_⟩
  rintro rfl
  exact List.forall₂_nil_left_iff.mp hmade

theorem recommendTopStatementActions_normalized {statements objects : List Row}
    (hs : ∀ row ∈ statements, HasText row ∧ numerals.Fits row)
    (ho : ∀ row ∈ objects, numerals.NumericOrNull "scan_ratio" row ∧ numerals.NumericOrNull "row_count" row) :
    ∃ rows advices, normalizeTopStatementRows numerals statements = .ok rows ∧
      recommendTopStatementActions containerText numerals rows (normalizeObjectPressureRows objects) = .ok advices ∧
      (statements = [] → (advices = [] ↔ ∀ row ∈ objects, ¬ Pressing numerals row)) := by
  obtain ⟨rows, hrows, hnormal, hempty⟩ := exists_normalizeTopStatementRows hs
  have ho' : ∀ row ∈ normalizeObjectPressureRows objects, ∃ x y, NormalObject numerals x y row := by
    intro row hrow
    obtain ⟨row, hmem, rfl⟩ := List.mem_map.mp hrow
    exact ⟨_, _, normalObject_of_numeric (ho row hmem).1 (ho row hmem).2⟩
  obtain ⟨advices, hadvices, hnil⟩ := @recommendTopStatementActions_ok numerals containerText _ _ hnormal ho'
  refine ⟨rows, advices, hrows, hadvices, fun hstatements ↦ ?_⟩
  rw [hnil (hempty hstatements), normalizeObjectPressureRows, List.forall_mem_map]
  apply forall₂_congr
  intro row hrow
  rw [← pressing_normalized (ho row hrow).1 (ho row hrow).2, Bool.not_eq_true]

end Proofs

end McpSqlServer

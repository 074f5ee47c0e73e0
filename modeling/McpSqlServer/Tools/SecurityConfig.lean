import McpSqlServer.Tools.Catalog

namespace McpSqlServer

open Library Library.Text Library.Python

section Redaction

variable [UnicodeData]

def sensitiveTokens : List Str :=
  ["password".toList, "secret".toList, "token".toList, "connection_string".toList, "pwd".toList]

def isSensitive (key : Str) : Bool := sensitiveTokens.any (fun token ↦ occursIn token (lower key))

def redactedText : Value := .str "***REDACTED***".toList

def redactRow (row : Row) : Row :=
  row.map (fun item ↦ (item.1, if isSensitive item.1 then redactedText else item.2))

def redactSensitiveFields (rows : List Row) : List Row := rows.map redactRow

/-- Cells of one column, with the same content unless the column is sensitive. -/
def CellInSight (item item' : Str × Value) : Prop :=
  item.1 = item'.1 ∧ (isSensitive item.1 = false → item.2 = item'.2)

abbrev RowsInSight (rows rows' : List Row) : Prop := List.Forall₂ (List.Forall₂ CellInSight) rows rows'

theorem redactRow_congr {row row' : Row} (h : List.Forall₂ CellInSight row row') : redactRow row = redactRow row' := by
  induction h with
  | nil => rfl
  | @cons item item' row row' hitem _ ih =>
    obtain ⟨key, v⟩ := item
    obtain ⟨key', v'⟩ := item'
    obtain ⟨rfl, hv⟩ : key = key' ∧ (isSensitive key = false → v = v') := hitem
    show (key, if isSensitive key then redactedText else v) :: redactRow row =
      (key, if isSensitive key then redactedText else v') :: redactRow row'
    cases hs : isSensitive key with
    | true => rw [ih, if_pos rfl, if_pos rfl]
    | false => rw [ih, hv hs]

theorem redactSensitiveFields_congr {rows rows' : List Row} (h : RowsInSight rows rows') :
    redactSensitiveFields rows = redactSensitiveFields rows' := by
  induction h with
  | nil => rfl
  | cons hrow _ ih => exact congrArg₂ List.cons (redactRow_congr hrow) ih

theorem RowsInSight.take {rows rows' : List Row} (h : RowsInSight rows rows') (n : ℕ) :
    RowsInSight (rows.take n) (rows'.take n) := List.forall₂_take n h

end Redaction

section Findings

variable [UnicodeData]

def orphanUsers (rows : List Row) : List Advice :=
  adviceIf (!rows.isEmpty)
    { code := "SEC_ORPHAN_USERS".toList, severity := .medium,
      title := "Orphan database users detected".toList,
      detail := "Users exist without matching server principals.".toList,
      evidence := redactSensitiveFields (rows.take 20),
      action := "Remap or remove orphan users.".toList,
      rationale := "Orphan users create access ambiguity and incident response overhead.".toList }

def elevatedRoleMembers (rows : List Row) : List Advice :=
  adviceIf (!rows.isEmpty)
    { code := "SEC_ELEVATED_ROLE_MEMBERS".toList, severity := .high,
      title := "Elevated database role memberships found".toList,
      detail := "High-privilege role assignments should be periodically reviewed.".toList,
      evidence := redactSensitiveFields (rows.take 30),
      action := "Review and minimize elevated role memberships.".toList,
      rationale := "Least-privilege alignment reduces blast radius.".toList }

omit [UnicodeData] in
def xpCmdshellAdvice (enabled : Bool) : List Advice :=
  adviceIf enabled
    { code := "SEC_XP_CMDSHELL_ENABLED".toList, severity := .critical,
      title := "xp_cmdshell is enabled".toList,
      detail := "xp_cmdshell increases remote-command execution risk on SQL hosts.".toList,
      evidence := [[("name".toList, .str "xp_cmdshell".toList), ("value_in_use".toList, .int 1)]],
      action := "Disable xp_cmdshell unless explicitly required and approved.".toList,
      rationale := "Disabling reduces command-injection blast radius.".toList }

omit [UnicodeData] in
structure XpCheck where
  enabled : Bool := false
  error : Option Str := none

omit [UnicodeData] in
def xpCmdshellEnabled (int : Value → Except Exc ℤ) : List Row → Except Exc Bool
  | [] => .ok false
  | row :: _ => (int ((row.lookup "value_in_use".toList).getD (.int 0))).map (fun n ↦ n = 1)

omit [UnicodeData] in
/-- The check of the server scope in its `try` block. -/
def checkXpCmdshell (int : Value → Except Exc ℤ) (xpRows : Except Exc (List Row)) (includeServerScope : Bool) :
    Except Exc XpCheck :=
  if includeServerScope then
    match xpRows >>= fun rows ↦ xpCmdshellEnabled int (rows.take 1) with
    | .ok enabled => .ok { enabled := enabled }
    | .error e => if e.caught then .ok { error := some e.text } else .error e
  else .ok {}

def secConfigAdvices (orphanRows elevatedRows : List Row) (enabled : Bool) : List Advice :=
  orphanUsers orphanRows ++ elevatedRoleMembers elevatedRows ++ xpCmdshellAdvice enabled

omit [UnicodeData] in
def secConfigSummary (orphanRows elevatedRows backupRows : List Row) (xp : XpCheck) (actions : ℕ) : Dict Value :=
  [("server_security".toList, .dict
      [("xp_cmdshell_enabled".toList, .bool xp.enabled),
        ("xp_cmdshell_check_error".toList, xp.error.elim .none .str)]),
    ("database_security".toList, .dict
      [("orphan_user_count".toList, .int orphanRows.length),
        ("elevated_role_memberships".toList, .int elevatedRows.length)]),
    ("audit_backup".toList, .dict [("backup_recency_rows".toList, .int backupRows.length)]),
    ("hardening_actions".toList, .int actions)]

omit [UnicodeData] in
def secureCode : Str := "SEC_CONFIG_NO_MAJOR_ISSUES".toList

def secConfigReport (b : Binding) (dbName generatedAtUtc : Str) (includeServerScope : Bool)
    (orphanRows elevatedRows backupRows : List Row) (xp : XpCheck) : Except Exc Report :=
  let advices := secConfigAdvices orphanRows elevatedRows (includeServerScope && xp.enabled)
  adviceReport b dbName generatedAtUtc (secConfigSummary orphanRows elevatedRows backupRows xp advices.length) advices
    secureCode "No major security/configuration issues detected".toList
    "Current security checks did not identify critical/high findings.".toList

omit [UnicodeData] in
/-- What the queries on an instance give: the catalog of each database, and the rows about `xp_cmdshell`. -/
structure InstanceSource where
  catalogs : Str → Catalog
  xpRows : Except Exc (List Row)

/-- `_analyze_sec_config` behind its gates; `int` is the conversion of the setting. -/
def secConfig (int : Value → Except Exc ℤ) (source : InstanceSource) (b : Binding) (dbName generatedAtUtc : Str)
    (includeServerScope : Bool) : Except Exc Report := do
  let orphanRows ← (source.catalogs dbName).rows .orphanUser 200
  let elevatedRows ← (source.catalogs dbName).rows .elevatedRoles 500
  let backupRows ← (source.catalogs masterDatabase).rows .backupRecency 200
  let xp ← checkXpCmdshell int source.xpRows includeServerScope
  secConfigReport b dbName generatedAtUtc includeServerScope orphanRows elevatedRows backupRows xp

end Findings

/-- The number of findings of each severity: one for every check that found something, or one that says that none
did. -/
def securityCount (orphans elevated enabled : Bool) : Severity → ℕ
  | .critical => enabled.toNat
  | .high => elevated.toNat
  | .medium => orphans.toNat
  | .low => 0
  | .info => (!orphans && !elevated && !enabled).toNat

/-- What a report says of the rows it is made of. -/
structure SecurityVerdict [UnicodeData] (orphanRows elevatedRows backupRows : List Row) (xp : XpCheck)
    (report : Report) : Prop where
  counts : ∀ severity, report.severityCounts.lookup severity.text =
    some (securityCount (!orphanRows.isEmpty) (!elevatedRows.isEmpty) xp.enabled severity)
  clean : (∃ finding ∈ report.findings, finding.code = secureCode) ↔
    orphanRows = [] ∧ elevatedRows = [] ∧ xp.enabled = false
  advised : report.recommendations.length =
    securityCount (!orphanRows.isEmpty) (!elevatedRows.isEmpty) xp.enabled .critical +
      securityCount (!orphanRows.isEmpty) (!elevatedRows.isEmpty) xp.enabled .high +
      securityCount (!orphanRows.isEmpty) (!elevatedRows.isEmpty) xp.enabled .medium
  summary : report.summary = secConfigSummary orphanRows elevatedRows backupRows xp report.recommendations.length

section Proofs

variable [UnicodeData] {orphanRows elevatedRows backupRows : List Row} {xp : XpCheck} {b : Binding}
  {dbName generatedAtUtc : Str}

theorem adviceReport_eq (b : Binding) (dbName generatedAtUtc : Str) (summary : Dict Value) (advices : List Advice)
    (noneCode noneTitle noneDetail : Str) :
    adviceReport b dbName generatedAtUtc summary advices noneCode noneTitle noneDetail =
      .ok (buildReportEnvelope b.instanceNumber dbName b.tool generatedAtUtc summary
        (if advices.isEmpty then [⟨noneCode, .info, noneTitle, noneDetail, []⟩] else advices.map Advice.finding)
        (advices.map Advice.recommendation)) := by
  simp only [adviceReport, mapM_build, ok_bind, orFinding_text, List.map_map, List.isEmpty_map]
  rfl

omit [UnicodeData] in
theorem countP_adviceIf (cond : Bool) (advice : Advice) (severity : Severity) :
    (adviceIf cond advice).countP (fun advice ↦ advice.finding.severity = severity) =
      if advice.severity = severity then cond.toNat else 0 := by
  cases cond with
  | true =>
    show List.countP _ [advice] = if advice.severity = severity then 1 else 0
    rw [List.countP_singleton]
    simp only [decide_eq_true_eq]
    rfl
  | false => exact (ite_self 0).symm

theorem countP_secConfigAdvices (severity : Severity) (enabled : Bool) :
    (secConfigAdvices orphanRows elevatedRows enabled).countP (fun advice ↦ advice.finding.severity = severity) =
      (if Severity.medium = severity then (!orphanRows.isEmpty).toNat else 0) +
        (if Severity.high = severity then (!elevatedRows.isEmpty).toNat else 0) +
        (if Severity.critical = severity then enabled.toNat else 0) := by
  rw [secConfigAdvices, List.countP_append, List.countP_append, orphanUsers, elevatedRoleMembers, xpCmdshellAdvice,
    countP_adviceIf, countP_adviceIf, countP_adviceIf]

omit [UnicodeData] in
theorem length_adviceIf (cond : Bool) (advice : Advice) : (adviceIf cond advice).length = cond.toNat := by
  cases cond <;> rfl

theorem secConfigAdvices_eq_nil_iff {enabled : Bool} : secConfigAdvices orphanRows elevatedRows enabled = [] ↔
    orphanRows = [] ∧ elevatedRows = [] ∧ enabled = false := by
  rw [secConfigAdvices, List.append_eq_nil_iff, List.append_eq_nil_iff, orphanUsers, elevatedRoleMembers,
    xpCmdshellAdvice, adviceIf_eq_nil_iff, adviceIf_eq_nil_iff, adviceIf_eq_nil_iff, not_isEmpty_eq_false_iff,
    not_isEmpty_eq_false_iff, and_assoc]

theorem code_ne_of_mem_secConfig {enabled : Bool} {a : Advice}
    (ha : a ∈ secConfigAdvices orphanRows elevatedRows enabled) : a.code ≠ secureCode := by
  rcases List.mem_append.mp ha with ha | ha
  · rcases List.mem_append.mp ha with ha | ha
    · rw [code_of_mem_adviceIf ha]
      show "SEC_ORPHAN_USERS".toList ≠ secureCode
      decide
    · rw [code_of_mem_adviceIf ha]
      show "SEC_ELEVATED_ROLE_MEMBERS".toList ≠ secureCode
      decide
  · rw [code_of_mem_adviceIf ha]
    decide

theorem isEmpty_secConfigAdvices (orphanRows elevatedRows : List Row) (enabled : Bool) :
    (secConfigAdvices orphanRows elevatedRows enabled).isEmpty =
      (!(!orphanRows.isEmpty) && !(!elevatedRows.isEmpty) && !enabled) := by
  rw [Bool.eq_iff_iff, List.isEmpty_iff, secConfigAdvices_eq_nil_iff]
  simp only [Bool.not_not, Bool.and_eq_true, List.isEmpty_iff, Bool.not_eq_true', and_assoc]

theorem countP_secConfig (severity : Severity) (enabled : Bool) (none : Finding) (hnone : none.severity = .info) :
    (if (secConfigAdvices orphanRows elevatedRows enabled).isEmpty then [none]
      else (secConfigAdvices orphanRows elevatedRows enabled).map Advice.finding).countP
        (fun finding ↦ finding.severity = severity) =
      securityCount (!orphanRows.isEmpty) (!elevatedRows.isEmpty) enabled severity := by
  have hcount := @countP_secConfigAdvices _ orphanRows elevatedRows severity enabled
  rw [isEmpty_secConfigAdvices]
  generalize (!orphanRows.isEmpty) = orphans at *
  generalize (!elevatedRows.isEmpty) = elevated at *
  cases hclean : !orphans && !elevated && !enabled with
  | true =>
    rw [if_pos rfl, List.countP_singleton, hnone]
    clear hcount
    revert orphans elevated enabled
    cases severity <;> decide
  | false =>
    rw [if_neg Bool.false_ne_true, List.countP_map]
    refine hcount.trans ?_
    revert orphans elevated enabled
    cases severity <;> simp +decide [securityCount]

theorem secConfigReport_ok (b : Binding) (dbName generatedAtUtc : Str) (includeServerScope : Bool)
    (orphanRows elevatedRows backupRows : List Row) {xp : XpCheck}
    (hxp : includeServerScope = false → xp.enabled = false) :
    ∃ report, secConfigReport b dbName generatedAtUtc includeServerScope orphanRows elevatedRows backupRows xp =
        .ok report ∧ SecurityVerdict orphanRows elevatedRows backupRows xp report := by
  have henabled : (includeServerScope && xp.enabled) = xp.enabled := by
    cases includeServerScope with
    | true => rfl
    | false => exact (hxp rfl).symm
  have hlength : (secConfigAdvices orphanRows elevatedRows xp.enabled).length =
      (!orphanRows.isEmpty).toNat + (!elevatedRows.isEmpty).toNat + xp.enabled.toNat := by
    rw [secConfigAdvices, List.length_append, List.length_append, orphanUsers, elevatedRoleMembers, xpCmdshellAdvice,
      length_adviceIf, length_adviceIf, length_adviceIf]
  rw [secConfigReport, henabled, adviceReport_eq]
  refine ⟨_, rfl, fun severity ↦ ?_, ⟨fun ⟨finding, hmem, hcode⟩ ↦ ?_, fun h ↦ ?_⟩, ?_, ?_⟩
  · show (severityCounts _).lookup severity.text = _
    rw [severityCounts_lookup, countP_secConfig severity xp.enabled _ rfl]
  · have hmem : finding ∈ if (secConfigAdvices orphanRows elevatedRows xp.enabled).isEmpty then _
        else (secConfigAdvices orphanRows elevatedRows xp.enabled).map Advice.finding := hmem
    by_contra hnot
    rw [← secConfigAdvices_eq_nil_iff, ← List.isEmpty_iff] at hnot
    rw [if_neg hnot] at hmem
    obtain ⟨advice, hadvice, rfl⟩ := List.mem_map.mp hmem
    exact code_ne_of_mem_secConfig hadvice hcode
  · have hempty := List.isEmpty_iff.mpr (secConfigAdvices_eq_nil_iff.mpr h)
    show ∃ finding ∈ if (secConfigAdvices orphanRows elevatedRows xp.enabled).isEmpty then _
      else (secConfigAdvices orphanRows elevatedRows xp.enabled).map Advice.finding, finding.code = secureCode
    rw [if_pos hempty]
    exact ⟨_, List.mem_singleton_self _, rfl⟩
  · show (List.map _ _).length = _
    rw [List.length_map, hlength]
    show _ = xp.enabled.toNat + (!elevatedRows.isEmpty).toNat + (!orphanRows.isEmpty).toNat
    omega
  · show secConfigSummary _ _ _ _ _ = secConfigSummary _ _ _ _ (List.map _ _).length
    rw [List.length_map]

end Proofs

section Runs

variable [UnicodeData] {int : Value → Except Exc ℤ} {source source' : InstanceSource} {includeServerScope : Bool}
  {xp : XpCheck} {b : Binding} {dbName generatedAtUtc : Str} {report : Report}

omit [UnicodeData] in
def InstanceSource.xpSetting (int : Value → Except Exc ℤ) (source : InstanceSource) : Except Exc Bool :=
  source.xpRows >>= fun rows ↦ xpCmdshellEnabled int (rows.take 1)

omit [UnicodeData] in
/-- The check found the setting on, or it says why it could not tell. -/
structure XpCheck.Exact (int : Value → Except Exc ℤ) (source : InstanceSource) (includeServerScope : Bool)
    (xp : XpCheck) : Prop where
  enabled : xp.enabled = true ↔ includeServerScope = true ∧ source.xpSetting int = .ok true
  error : ∀ text, xp.error = some text ↔
    includeServerScope = true ∧ ∃ e, source.xpSetting int = .error e ∧ e.text = text

omit [UnicodeData] in
theorem checkXpCmdshell_exact (h : checkXpCmdshell int source.xpRows includeServerScope = .ok xp) :
    xp.Exact int source includeServerScope := by
  cases includeServerScope with
  | false =>
    obtain rfl : ({} : XpCheck) = xp := Except.ok.inj h
    exact ⟨⟨Bool.noConfusion, fun h ↦ Bool.noConfusion h.1⟩,
      fun text ↦ ⟨fun h ↦ (Option.some_ne_none text h.symm).elim, fun h ↦ Bool.noConfusion h.1⟩⟩
  | true =>
    unfold checkXpCmdshell at h
    rw [if_pos rfl] at h
    have hsetting : (source.xpRows >>= fun rows ↦ xpCmdshellEnabled int (rows.take 1)) = source.xpSetting int := rfl
    rw [hsetting] at h
    cases hs : source.xpSetting int with
    | ok enabled =>
      rw [hs] at h
      obtain rfl : ({ enabled := enabled } : XpCheck) = xp := Except.ok.inj h
      refine ⟨?_, fun text ↦ ⟨fun h ↦ (Option.some_ne_none text h.symm).elim, ?_⟩⟩
      · rw [hs, Except.ok.injEq, and_iff_right rfl]
      · rintro ⟨-, e, he, -⟩
        cases hs.symm.trans he
    | error e =>
      rw [hs] at h
      dsimp only at h
      split at h
      · obtain rfl : ({ error := some e.text } : XpCheck) = xp := Except.ok.inj h
        refine ⟨⟨Bool.noConfusion, ?_⟩, fun text ↦ ?_⟩
        · rintro ⟨-, h⟩
          cases hs.symm.trans h
        · rw [Option.some.injEq, hs, and_iff_right rfl]
          exact ⟨fun h ↦ ⟨e, rfl, h⟩, fun ⟨_, he, h⟩ ↦ Except.error.inj he ▸ h⟩
      · cases h

/-- Every report is exact about the rows that the queries gave, and about the setting. -/
theorem secConfig_verdict (h : secConfig int source b dbName generatedAtUtc includeServerScope = .ok report) :
    ∃ orphanRows elevatedRows backupRows xp, (source.catalogs dbName).rows .orphanUser 200 = .ok orphanRows ∧
      (source.catalogs dbName).rows .elevatedRoles 500 = .ok elevatedRows ∧
      (source.catalogs masterDatabase).rows .backupRecency 200 = .ok backupRows ∧
      xp.Exact int source includeServerScope ∧ SecurityVerdict orphanRows elevatedRows backupRows xp report := by
  obtain ⟨orphanRows, horphans, h⟩ := exists_of_bind_ok h
  obtain ⟨elevatedRows, helevated, h⟩ := exists_of_bind_ok h
  obtain ⟨backupRows, hbackups, h⟩ := exists_of_bind_ok h
  obtain ⟨xp, hxp, h⟩ := exists_of_bind_ok h
  have hexact := checkXpCmdshell_exact hxp
  have hoff : includeServerScope = false → xp.enabled = false := by
    rintro rfl
    exact Bool.eq_false_iff.mpr (fun h ↦ Bool.noConfusion (hexact.enabled.mp h).1)
  obtain ⟨report', hreport, hverdict⟩ := secConfigReport_ok b dbName generatedAtUtc includeServerScope orphanRows
    elevatedRows backupRows hoff
  obtain rfl : report' = report := Except.ok.inj (hreport.symm.trans h)
  exact ⟨orphanRows, elevatedRows, backupRows, xp, horphans, helevated, hbackups, hexact, hverdict⟩

def AnswersInSight : Except Exc (List Row) → Except Exc (List Row) → Prop
  | .ok rows, .ok rows' => RowsInSight rows rows'
  | .error e, .error e' => e = e'
  | _, _ => False

/-- Databases that differ in the sensitive columns of the users and of their roles only. -/
structure InstanceSource.Alike (source source' : InstanceSource) : Prop where
  orphans : ∀ dbName, AnswersInSight (source.catalogs dbName .orphanUser) (source'.catalogs dbName .orphanUser)
  elevated : ∀ dbName, AnswersInSight (source.catalogs dbName .elevatedRoles) (source'.catalogs dbName .elevatedRoles)
  backups : AnswersInSight (source.catalogs masterDatabase .backupRecency)
    (source'.catalogs masterDatabase .backupRecency)
  xpRows : source'.xpRows = source.xpRows

theorem AnswersInSight.rows {catalog catalog' : Catalog} {query : CatalogQuery}
    (h : AnswersInSight (catalog query) (catalog' query)) (maxRows : ℤ) :
    AnswersInSight (catalog.rows query maxRows) (catalog'.rows query maxRows) := by
  unfold Catalog.rows
  cases hq : catalog query with
  | ok rows =>
    cases hq' : catalog' query with
    | ok rows' =>
      rw [hq, hq'] at h
      exact RowsInSight.take h maxRows.toNat
    | error e => rw [hq, hq'] at h; exact h.elim
  | error e =>
    cases hq' : catalog' query with
    | ok rows' => rw [hq, hq'] at h; exact h.elim
    | error e' => rw [hq, hq'] at h; exact h

theorem AnswersInSight.bind_eq {γ : Type} {r r' : Except Exc (List Row)} {f f' : List Row → Except Exc γ}
    (h : AnswersInSight r r') (hf : ∀ rows rows', RowsInSight rows rows' → f rows = f' rows') :
    r >>= f = r' >>= f' := by
  cases r with
  | ok rows =>
    cases r' with
    | ok rows' => exact hf rows rows' h
    | error e => exact h.elim
  | error e =>
    cases r' with
    | ok rows' => exact h.elim
    | error e' => exact congrArg Except.error h

theorem secConfigAdvices_congr {orphanRows orphanRows' elevatedRows elevatedRows' : List Row} (enabled : Bool)
    (ho : RowsInSight orphanRows orphanRows') (he : RowsInSight elevatedRows elevatedRows') :
    secConfigAdvices orphanRows elevatedRows enabled = secConfigAdvices orphanRows' elevatedRows' enabled := by
  have hempty {rows rows' : List Row} (h : RowsInSight rows rows') : rows.isEmpty = rows'.isEmpty := by
    cases h <;> rfl
  rw [secConfigAdvices, secConfigAdvices, orphanUsers, orphanUsers, elevatedRoleMembers, elevatedRoleMembers,
    hempty ho, hempty he, redactSensitiveFields_congr (ho.take 20), redactSensitiveFields_congr (he.take 30)]

theorem secConfig_congr (h : source.Alike source') :
    secConfig int source b dbName generatedAtUtc includeServerScope =
      secConfig int source' b dbName generatedAtUtc includeServerScope := by
  unfold secConfig
  refine ((h.orphans dbName).rows 200).bind_eq (fun o o' ho ↦ ?_)
  refine ((h.elevated dbName).rows 500).bind_eq (fun e e' he ↦ ?_)
  refine (h.backups.rows 200).bind_eq (fun k k' hk ↦ ?_)
  rw [h.xpRows]
  refine congrArg _ (funext fun xp ↦ ?_)
  unfold secConfigReport
  dsimp only
  rw [secConfigAdvices_congr _ ho he, secConfigSummary, secConfigSummary, ho.length_eq, he.length_eq, hk.length_eq]

end Runs

end McpSqlServer

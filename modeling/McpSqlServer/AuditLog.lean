import McpSqlServer.Library.Python.Json
import McpSqlServer.Library.Text.Split
import McpSqlServer.Library.Text.Strip

namespace McpSqlServer

open Library.Text Library.Python

structure LogEvent where
  requestId : Str
  actor : Str
  tool : Str
  instanceId : Str
  sql : Str
  decision : Str
  latencyMs : ℤ
  rows : ℤ
  errorCode : Option Str
  authMode : Option Str := none
  authSubject : Option Value := none
  privilegeLevel : Option Str := none
  groupMatchResult : Option (Dict Value) := none

/-- The clock and the SHA-256 digest behind one call of `log_event`. -/
structure Stamp where
  tsUtc : Str
  hashSql : Str → Str

def givenItem (key : Str) : Option Value → Dict Value
  | none => []
  | some v => [(key, v)]

def LogEvent.row (st : Stamp) (e : LogEvent) : Dict Value :=
  [("ts_utc".toList, .str st.tsUtc), ("request_id".toList, .str e.requestId), ("actor".toList, .str e.actor),
    ("tool".toList, .str e.tool), ("instance".toList, .str e.instanceId),
    ("sql_hash".toList, .str (st.hashSql e.sql)), ("decision".toList, .str e.decision),
    ("latency_ms".toList, .int e.latencyMs), ("rows".toList, .int e.rows),
    ("error_code".toList, (e.errorCode.map .str).getD .none)] ++
  givenItem "auth_mode".toList (e.authMode.map .str) ++
  givenItem "auth_subject".toList e.authSubject ++
  givenItem "privilege_level".toList (e.privilegeLevel.map .str) ++
  givenItem "group_match_result".toList (e.groupMatchResult.map .dict)

/-- The line that `log_event` appends; there is none where `json.dumps` raises. -/
def logLine (st : Stamp) (e : LogEvent) : Option Str :=
  (Json.dumps (.dict (e.row st))).map (fun line ↦ line ++ ['\n'])

def logText : List (Stamp × LogEvent) → Option Str
  | [] => some []
  | e :: es => (logLine e.1 e.2).bind (fun line ↦ (logText es).map (line ++ ·))

def categorizeTool (toolName : Str) : Str :=
  if "_exec_proc".toList.isSuffixOf toolName then "controlled_write".toList
  else if "_report".toList.isSuffixOf toolName then "diagnostic".toList
  else if occursIn "_analyze_".toList toolName then "analysis".toList
  else if "_dashboard".toList.isSuffixOf toolName then "interactive".toList
  else "read_only".toList

structure AuditSummary where
  events : ℕ := 0
  byCategory : Dict (Dict ℕ) := []
  byTool : Dict (Dict ℕ) := []
  denyTotal : ℕ := 0
  latest : Option (Dict Value) := none

def noCounts : Dict ℕ := [("allow".toList, 0), ("deny".toList, 0), ("unknown".toList, 0)]

/-- `table.setdefault(key, …)` and the increment behind it. -/
def tally (key decision : Str) (table : Dict (Dict ℕ)) : Dict (Dict ℕ) :=
  let table := setDefault key noCounts table
  let counts := (table.lookup key).getD []
  let column := if (counts.lookup decision).isSome then decision else "unknown".toList
  setItem key (setItem column ((counts.lookup column).getD 0 + 1) counts) table

/-- What reading depends on beside the text: numbers that are no integers, and `str()` of lists and dictionaries. -/
structure Reader extends Json.Hooks where
  repr : Value → Str

def Reader.text (R : Reader) : Value → Str
  | .none => "None".toList
  | .bool b => if b then "True".toList else "False".toList
  | .int n => intText n
  | .str s => s
  | .object text => text
  | v => R.repr v

def Reader.get (R : Reader) (row : Dict Value) (key : Str) : Str :=
  R.text ((row.lookup key).getD (.str "unknown".toList))

def AuditSummary.addRow (R : Reader) (row : Dict Value) (sum : AuditSummary) : AuditSummary :=
  let tool := R.get row "tool".toList
  let decision := R.get row "decision".toList
  { events := sum.events + 1
    byCategory := tally (categorizeTool tool) decision sum.byCategory
    byTool := tally tool decision sum.byTool
    denyTotal := if decision = "deny".toList then sum.denyTotal + 1 else sum.denyTotal
    latest := some row }

variable [UnicodeData]

/-- One round of the loop of `summarize_audit_events`. It raises on a line that is no JSON object. -/
def AuditSummary.addLine (R : Reader) (sum : AuditSummary) (line : Str) : Option AuditSummary :=
  if strip line = [] then some sum
  else match Json.loads R.toHooks (strip line) with
    | some (.dict row) => some (sum.addRow R row)
    | _ => none

/-- `summarize_audit_events`, for a file that does not exist or has the given text. -/
def summarizeAuditEvents (R : Reader) (file : Option Str) : Option AuditSummary :=
  match file with
  | none => some {}
  | some text => (lines (universalNewlines text)).foldlM (AuditSummary.addLine R) {}

variable {R : Reader} {st : Stamp} {e : LogEvent} {es : List (Stamp × LogEvent)} {line text : Str} {sum : AuditSummary}

section Reading

omit [UnicodeData] in
theorem givenItem_keys (key : Str) (v : Option Value) : List.Sublist (Dict.keys (givenItem key v)) [key] := by
  cases v with
  | none => exact List.nil_sublist _
  | some v => exact List.Sublist.refl _

omit [UnicodeData] in
theorem LogEvent.row_unique (st : Stamp) (e : LogEvent) : Dict.Unique (e.row st) := by
  let keys : List Str := ["ts_utc".toList, "request_id".toList, "actor".toList, "tool".toList, "instance".toList,
    "sql_hash".toList, "decision".toList, "latency_ms".toList, "rows".toList, "error_code".toList]
  have hall : (keys ++ ["auth_mode".toList] ++ ["auth_subject".toList] ++ ["privilege_level".toList] ++
      ["group_match_result".toList]).Nodup := by decide
  refine List.Nodup.sublist ?_ hall
  rw [Dict.keys, LogEvent.row, List.map_append, List.map_append, List.map_append, List.map_append]
  refine .append (.append (.append (.append ?_ (givenItem_keys _ _)) (givenItem_keys _ _)) (givenItem_keys _ _))
    (givenItem_keys _ _)
  exact List.Sublist.refl _

/-- The values that a caller hands to `log_event` are ones that Python can build. -/
structure LogEvent.Proper (e : LogEvent) : Prop where
  subject : ∀ v ∈ e.authSubject, Json.WellFormed v
  groups : ∀ d ∈ e.groupMatchResult, Json.WellFormed (.dict d)

omit [UnicodeData] in
theorem wellFormed_givenItem {key : Str} {v : Option Value} (h : ∀ v' ∈ v, Json.WellFormed v') :
    ∀ item ∈ givenItem key v, Json.WellFormed item.2 := by
  intro item hitem
  cases v with
  | none => exact absurd hitem List.not_mem_nil
  | some v =>
    rw [List.mem_singleton.mp hitem]
    exact h v rfl

omit [UnicodeData] in
theorem wellFormed_text (s : Option Str) : ∀ v ∈ s.map Value.str, Json.WellFormed v := by
  intro v hv
  obtain ⟨s, -, rfl⟩ := Option.map_eq_some_iff.mp hv
  exact .str s

omit [UnicodeData] in
theorem LogEvent.Proper.row_wellFormed (h : e.Proper) (st : Stamp) : Json.WellFormed (.dict (e.row st)) := by
  have hcode : Json.WellFormed ((e.errorCode.map Value.str).getD .none) := by
    cases e.errorCode with
    | none => exact .none
    | some code => exact .str code
  have hgroups : ∀ v ∈ e.groupMatchResult.map Value.dict, Json.WellFormed v := by
    intro v hv
    obtain ⟨d, hd, rfl⟩ := Option.map_eq_some_iff.mp hv
    exact h.groups d hd
  refine .dict (e.row_unique st) ?_
  simp only [LogEvent.row, List.forall_mem_append, List.forall_mem_cons]
  refine ⟨⟨⟨⟨?_, wellFormed_givenItem (wellFormed_text _)⟩, wellFormed_givenItem h.subject⟩,
    wellFormed_givenItem (wellFormed_text _)⟩, wellFormed_givenItem hgroups⟩
  exact ⟨.str _, .str _, .str _, .str _, .str _, .str _, .str _, .int _, .int _, hcode, fun _ h ↦ nomatch h⟩

theorem logLine_spec (h : e.Proper) (hline : logLine st e = some line) :
    ∃ t, line = t ++ ['\n'] ∧ Json.dumps (.dict (e.row st)) = some t ∧ strip (t ++ ['\n']) = t ∧ t ≠ [] ∧
      '\n' ∉ t ∧ '\r' ∉ t := by
  obtain ⟨t, ht, hl⟩ := Option.map_eq_some_iff.mp hline
  have hprintable := Json.printable_dumps (h.row_wellFormed st) ht
  have hnot {c : Char} (hc : c.toNat < 32) : c ∉ t := by
    intro hmem
    have := (hprintable c hmem).1
    omega
  refine ⟨t, hl.symm, ht, ?_, ?_, hnot (by decide), hnot (by decide)⟩
  · obtain ⟨items, -, hitems⟩ := Option.map_eq_some_iff.mp ht
    have hblank : Blank ['\n'] := List.forall_mem_singleton.mpr rfl
    have hopen : isSpace '{' = false := rfl
    have hclose : isSpace '}' = false := rfl
    rw [← hitems, strip, List.cons_append, lstrip_cons_of_not_isSpace hopen, ← List.cons_append,
      rstrip_append_of_blank hblank, ← List.cons_append]
    exact rstrip_concat hclose _
  · obtain ⟨items, -, hitems⟩ := Option.map_eq_some_iff.mp ht
    rw [← hitems]
    exact List.cons_ne_nil _ _

theorem addLine_logLine (h : e.Proper) (hline : logLine st e = some line) :
    sum.addLine R line = some (sum.addRow R (e.row st)) := by
  obtain ⟨t, rfl, ht, hstrip, hne, -⟩ := logLine_spec h hline
  rw [AuditSummary.addLine, hstrip, if_neg hne, Json.loads_dumps (h.row_wellFormed st) ht]

theorem logText_spec (h : ∀ e ∈ es, e.2.Proper) (htext : logText es = some text) :
    '\r' ∉ text ∧ ∀ sum, (lines text).foldlM (AuditSummary.addLine R) sum =
      some (es.foldl (fun sum e ↦ sum.addRow R (e.2.row e.1)) sum) := by
  induction es generalizing text with
  | nil =>
    rw [← Option.some.inj htext]
    exact ⟨List.not_mem_nil, fun sum ↦ rfl⟩
  | cons e es ih =>
    obtain ⟨line, hline, hmap⟩ := Option.bind_eq_some_iff.mp htext
    obtain ⟨rest, hrest, rfl⟩ := Option.map_eq_some_iff.mp hmap
    obtain ⟨hr, hfold⟩ := ih (fun e' he ↦ h e' (List.mem_cons_of_mem _ he)) hrest
    have he := h e List.mem_cons_self
    obtain ⟨t, rfl, -, -, -, hn, hcr⟩ := logLine_spec he hline
    constructor
    · simp [hcr, hr]
    · intro sum
      rw [List.append_assoc, List.singleton_append, lines_append hn, List.foldlM_cons, addLine_logLine he hline]
      exact hfold _

/-- Reading a log file adds up the rows that were written, whatever their texts hold. -/
theorem summarize_logText (h : ∀ e ∈ es, e.2.Proper) (htext : logText es = some text) :
    summarizeAuditEvents R (some text) = some (es.foldl (fun sum e ↦ sum.addRow R (e.2.row e.1)) {}) := by
  obtain ⟨hr, hfold⟩ := logText_spec h htext
  rw [summarizeAuditEvents, universalNewlines_of_notMem hr]
  exact hfold {}

omit [UnicodeData] in
theorem get_decision (st : Stamp) (e : LogEvent) : R.get (e.row st) "decision".toList = e.decision := rfl

omit [UnicodeData] in
theorem foldl_denyTotal (sum : AuditSummary) :
    (es.foldl (fun sum e ↦ sum.addRow R (e.2.row e.1)) sum).denyTotal =
      sum.denyTotal + es.countP (fun e ↦ e.2.decision = "deny".toList) := by
  induction es generalizing sum with
  | nil => rfl
  | cons e es ih =>
    rw [List.foldl_cons, ih, List.countP_cons, AuditSummary.addRow, get_decision]
    dsimp only
    by_cases hd : e.2.decision = "deny".toList
    · simp only [hd, if_true, decide_true]
      omega
    · simp only [hd, if_false, decide_false, Bool.false_eq_true]
      omega

/-- `deny_total` is the number of denials among the calls of `log_event`. -/
theorem denyTotal_logText (h : ∀ e ∈ es, e.2.Proper) (htext : logText es = some text) :
    (summarizeAuditEvents R (some text)).map AuditSummary.denyTotal =
      some (es.countP (fun e ↦ e.2.decision = "deny".toList)) := by
  rw [summarize_logText h htext, Option.map_some, foldl_denyTotal]
  exact congrArg some (Nat.zero_add _)

end Reading

end McpSqlServer

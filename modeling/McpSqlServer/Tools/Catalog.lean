import McpSqlServer.Tools.AnalysisTools
import McpSqlServer.Tools.Contracts
import McpSqlServer.Tools.SchemaFilter

namespace McpSqlServer

open Library Library.Text Library.Python

/-- What the catalog queries give on a database: all the rows of each, or the exception that
the query ends in. -/
abbrev Catalog := CatalogQuery → Except Exc (List Row)

def Catalog.rows (catalog : Catalog) (query : CatalogQuery) (maxRows : ℤ) : Except Exc (List Row) :=
  (catalog query).map (List.take maxRows.toNat)

def Catalog.rowsIf (catalog : Catalog) (cond : Bool) (query : CatalogQuery) (maxRows : ℤ) : Except Exc (List Row) :=
  if cond then catalog.rows query maxRows else .ok []

def cellText (containerText : Value → Str) (key : Str) (row : Row) : Str :=
  pyStr containerText ((row.lookup key).getD (.str []))

section UnicodeData

variable [UnicodeData]

/-- The filter on rows that name something in one of the columns `keys`; no name, or an empty one, lets all pass. -/
def namedBy (containerText : Value → Str) (name : Option Str) (keys : List Str) (row : Row) : Bool :=
  match name with
  | none => true
  | some name => name.isEmpty || keys.any (fun key ↦ inSchema containerText name key row)

/-- The site answers the catalog queries on a database as `catalog` says. -/
def Answers {β : Type} (S : Site β) (instanceId dbName : Str) (catalog : Catalog) : Prop :=
  ∀ query maxRows w,
    (catalogQuery S instanceId dbName query maxRows w).1.map ResultSet.rows = catalog.rows query maxRows

def adviceReport (b : Binding) (dbName generatedAtUtc : Str) (summary : Dict Value) (advices : List Advice)
    (noneCode noneTitle noneDetail : Str) : Except Exc Report := do
  let advised ← advices.mapM Advice.build
  let findings ← orFinding (advised.map Prod.fst) noneCode Severity.info.text noneTitle noneDetail
  pure (buildReportEnvelope b.instanceNumber dbName b.tool generatedAtUtc summary findings (advised.map Prod.snd))

theorem adviceReport_ok (b : Binding) (dbName generatedAtUtc : Str) (summary : Dict Value) (advices : List Advice)
    (noneCode noneTitle noneDetail : Str) :
    ∃ report, adviceReport b dbName generatedAtUtc summary advices noneCode noneTitle noneDetail = .ok report ∧
      report.summary = summary ∧ report.recommendations = advices.map Advice.recommendation ∧
      report.findings = if advices.isEmpty then [⟨noneCode, .info, noneTitle, noneDetail, []⟩]
        else advices.map Advice.finding := by
  simp only [adviceReport, mapM_build, ok_bind, orFinding_text, List.map_map, List.isEmpty_map]
  exact ⟨_, rfl, rfl, rfl, rfl⟩

end UnicodeData

def adviceIf (cond : Bool) (advice : Advice) : List Advice := if cond then [advice] else []

theorem adviceIf_eq_nil_iff {cond : Bool} {advice : Advice} : adviceIf cond advice = [] ↔ cond = false := by
  cases cond with
  | true => exact iff_of_false (List.cons_ne_nil _ _) Bool.noConfusion
  | false => exact iff_of_true rfl rfl

theorem code_of_mem_adviceIf {cond : Bool} {advice a : Advice} (h : a ∈ adviceIf cond advice) : a.code = advice.code := by
  cases cond with
  | true => rw [List.mem_singleton.mp h]
  | false => cases h

theorem not_isEmpty_eq_false_iff {α : Type} {l : List α} : (!l.isEmpty) = false ↔ l = [] := by
  cases l with
  | nil => exact iff_of_true rfl rfl
  | cons a l => exact iff_of_false Bool.noConfusion (List.cons_ne_nil a l)

end McpSqlServer

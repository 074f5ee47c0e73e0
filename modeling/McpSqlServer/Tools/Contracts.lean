import McpSqlServer.Library.Python.Exc
import McpSqlServer.Library.Python.Value

namespace McpSqlServer

open Library.Text Library.Python

inductive Severity
  | critical
  | high
  | medium
  | low
  | info
  deriving DecidableEq

def Severity.text : Severity → Str
  | .critical => "critical".toList
  | .high => "high".toList
  | .medium => "medium".toList
  | .low => "low".toList
  | .info => "info".toList

def validSeverities : List Severity := [.critical, .high, .medium, .low, .info]

def dbaReviewDisclaimer : Str :=
  ("All recommendations and proposed changes must be reviewed and approved by a database administrator (DBA) " ++
    "before execution to prevent unintended disruptions to production systems.").toList

def normalizeSeverity [UnicodeData] (value : Str) : Except Exc Severity :=
  match validSeverities.find? (fun severity ↦ severity.text = lower (strip value)) with
  | some severity => .ok severity
  | none => .error (valueError ("INVALID_INPUT: unsupported severity '".toList ++ value ++ ['\'']))

/-- What `build_finding` returns; its severity is a valid one. -/
structure Finding where
  code : Str
  severity : Severity
  title : Str
  detail : Str
  evidence : List Row

def buildFinding [UnicodeData] (code severity title detail : Str) (evidence : List Row) : Except Exc Finding :=
  (normalizeSeverity severity).map (fun severity ↦ ⟨code, severity, title, detail, evidence⟩)

structure Recommendation where
  priority : Severity
  action : Str
  rationale : Str

def buildRecommendation [UnicodeData] (priority action rationale : Str) : Except Exc Recommendation :=
  (normalizeSeverity priority).map (fun priority ↦ ⟨priority, action, rationale⟩)

structure Report where
  instanceNumber : ℤ
  databaseName : Str
  tool : Str
  generatedAtUtc : Str
  summary : Dict Value
  severityCounts : Dict ℕ
  findings : List Finding
  recommendations : List Recommendation
  disclaimer : Option Str

def countSeverity (counts : Dict ℕ) (finding : Finding) : Dict ℕ :=
  setItem finding.severity.text ((counts.lookup finding.severity.text).getD 0 + 1) counts

def severityCounts (findings : List Finding) : Dict ℕ :=
  findings.foldl countSeverity (validSeverities.map (fun severity ↦ (severity.text, 0)))

def buildReportEnvelope (instanceNumber : ℤ) (databaseName toolName generatedAtUtc : Str) (summary : Dict Value)
    (findings : List Finding) (recommendations : List Recommendation) : Report where
  instanceNumber := instanceNumber
  databaseName := databaseName
  tool := toolName
  generatedAtUtc := generatedAtUtc
  summary := summary
  severityCounts := severityCounts findings
  findings := findings
  recommendations := recommendations
  disclaimer := if recommendations.isEmpty then none else some dbaReviewDisclaimer

def orFinding [UnicodeData] (findings : List Finding) (code severity title detail : Str) : Except Exc (List Finding) :=
  if findings.isEmpty then (buildFinding code severity title detail []).map (fun finding ↦ [finding]) else .ok findings

/-- A finding and the recommendation that the tools append together with it. -/
structure Advice where
  code : Str
  severity : Severity
  title : Str
  detail : Str
  evidence : List Row
  action : Str
  rationale : Str
  priority : Severity := severity

namespace Advice

def finding (advice : Advice) : Finding where
  code := advice.code
  severity := advice.severity
  title := advice.title
  detail := advice.detail
  evidence := advice.evidence

def recommendation (advice : Advice) : Recommendation where
  priority := advice.priority
  action := advice.action
  rationale := advice.rationale

variable [UnicodeData]

def build (advice : Advice) : Except Exc (Finding × Recommendation) := do
  let finding ← buildFinding advice.code advice.severity.text advice.title advice.detail advice.evidence
  let recommendation ← buildRecommendation advice.priority.text advice.action advice.rationale
  pure (finding, recommendation)

end Advice

theorem Severity.text_injective : Function.Injective Severity.text := by
  intro s t h
  cases s <;> cases t <;> first | rfl | exact absurd h (by decide)

theorem severityCounts_lookup (findings : List Finding) (severity : Severity) :
    (severityCounts findings).lookup severity.text =
      some (findings.countP (fun finding ↦ finding.severity = severity)) := by
  have hstart : ((validSeverities.map (fun severity ↦ (severity.text, 0))).lookup severity.text) = some 0 := by
    cases severity <;> decide
  have hloop : ∀ (counts : Dict ℕ) n, counts.lookup severity.text = some n →
      (findings.foldl countSeverity counts).lookup severity.text =
        some (n + findings.countP (fun finding ↦ finding.severity = severity)) := by
    induction findings with
    | nil => exact fun counts n h ↦ h
    | cons finding findings ih =>
      intro counts n h
      rw [List.foldl_cons]
      by_cases hs : finding.severity = severity
      · have hn : (countSeverity counts finding).lookup severity.text = some (n + 1) := by
          rw [countSeverity, hs, lookup_setItem, if_pos rfl, h, Option.getD_some]
        rw [ih _ _ hn, List.countP_cons_of_pos (by simpa using hs), Nat.add_right_comm, Nat.add_assoc]
      · have hn : (countSeverity counts finding).lookup severity.text = some n := by
          rw [countSeverity, lookup_setItem, if_neg (fun he ↦ hs (Severity.text_injective he).symm), h]
        rw [ih _ _ hn, List.countP_cons_of_neg (by simpa using hs)]
  rw [severityCounts, hloop _ 0 hstart, Nat.zero_add]

section UnicodeData

variable [UnicodeData]

@[simp] theorem normalizeSeverity_text (severity : Severity) : normalizeSeverity severity.text = .ok severity := by
  cases severity <;> rfl

@[simp] theorem Advice.build_eq (advice : Advice) : advice.build = .ok (advice.finding, advice.recommendation) := by
  simp only [build, buildFinding, buildRecommendation, normalizeSeverity_text]
  rfl

theorem mapM_build (advices : List Advice) :
    advices.mapM Advice.build = .ok (advices.map (fun advice ↦ (advice.finding, advice.recommendation))) :=
  mapM_eq_ok Advice.build_eq advices

theorem orFinding_text (findings : List Finding) (code title detail : Str) (severity : Severity) :
    orFinding findings code severity.text title detail =
      .ok (if findings.isEmpty then [⟨code, severity, title, detail, []⟩] else findings) := by
  unfold orFinding
  split
  · rw [buildFinding, normalizeSeverity_text]
    rfl
  · rfl

theorem buildFinding_error (code title detail : Str) (evidence : List Row) :
    buildFinding code "error".toList title detail evidence =
      .error (valueError "INVALID_INPUT: unsupported severity 'error'".toList) := by
  have h : normalizeSeverity "error".toList = .error (valueError "INVALID_INPUT: unsupported severity 'error'".toList) := by
    rfl
  rw [buildFinding, h]
  rfl

end UnicodeData

end McpSqlServer

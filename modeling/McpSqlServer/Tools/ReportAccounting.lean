import McpSqlServer.Tools.ReportRefinement

namespace McpSqlServer

open Library Library.Text Library.Python

section Counts

def severityTable (findings : List Finding) : Dict ℕ :=
  validSeverities.map (fun severity ↦ (severity.text, findings.countP (fun finding ↦ finding.severity = severity)))

end Counts

section Balance

/-- A report accounts for its findings: each is counted once, under its severity; each has its own recommendation, or
there is one that reports nothing to do; and whoever recommends asks for a review. -/
structure Report.Balanced (report : Report) (b : Binding) : Prop where
  tool : report.tool = b.tool
  instanceNumber : report.instanceNumber = b.instanceNumber
  counts : report.severityCounts = severityTable report.findings
  total : (report.severityCounts.map Prod.snd).sum = report.findings.length
  advised : report.recommendations.length = report.findings.length ∧ report.recommendations ≠ [] ∨
    report.recommendations = [] ∧
      ∃ finding, report.findings = [finding] ∧ finding.severity = .info ∧ finding.evidence = []
  disclaimer : report.disclaimer = if report.recommendations = [] then none else some dbaReviewDisclaimer

variable {b : Binding} {dbName generatedAtUtc : Str} {summary : Dict Value} {advices : List Advice} {report : Report}

variable [UnicodeData]

end Balance

section Tools

variable {β : Type} [UnicodeData] {S : Site β} {b : Binding} {rules : AnalysisRules} {base : Reports}
  {source : InstanceSource}

end Tools

end McpSqlServer

import McpSqlServer.Library.Python.Exc
import McpSqlServer.Library.Text.Html
import McpSqlServer.Tools.HeadBlockers

namespace McpSqlServer.DashboardPayloads

open Library.Text Library.Python

/-- What the built-in functions make of the objects that are neither numbers nor strings; no
number of `int()` stands for its `TypeError` and its `ValueError`. -/
structure Builtins where
  containerText : Value → Str
  objectInt : Str → Except Exc (Option ℤ)
  objectExceeds : Str → ℤ → Except Exc Bool

variable (B : Builtins)

def Builtins.str (v : Value) : Str := pyStr B.containerText v

def Builtins.int [UnicodeData] : Value → Except Exc (Option ℤ)
  | .object text => B.objectInt text
  | v => .ok (pyInt v)

def orDefault (v default : Value) : Value := if v.truthy then v else default

def esc (value : Value) : Str :=
  match value with
  | .none => "&mdash;".toList
  | v => escapeHtml (B.str v)

section Sessions

variable [UnicodeData]

def coerceOptionalInt : Value → ℤ
  | .int n => n
  | .str s => (parseInt s).getD (-1)
  | _ => -1

inductive RowClass
  | headBlocker
  | blocked
  | active
  | idle
  deriving DecidableEq

def RowClass.text : RowClass → Str
  | .headBlocker => "row-head-blocker".toList
  | .blocked => "row-blocked".toList
  | .active => "row-active".toList
  | .idle => "row-idle".toList

def RowClass.statusBadge : RowClass → Str
  | .active => "<span class=\"badge badge-active\">ACTIVE</span>".toList
  | .idle => "<span class=\"badge badge-idle\">IDLE</span>".toList
  | .blocked => "<span class=\"badge badge-blocked\">BLOCKED</span>".toList
  | .headBlocker => "<span class=\"badge badge-blocker\">HEAD-BLOCKER</span>".toList

def sessionRowClass (session : Row) (headBlockers : List ℤ) : RowClass :=
  if coerceOptionalInt (session.get "session_id".toList) ∈ headBlockers then .headBlocker
  else if 0 < coerceOptionalInt (session.get "blocking_session_id".toList) then .blocked
  else if lower (B.str ((session.lookup "status".toList).getD (.str []))) ∈ ["running".toList, "suspended".toList] then
    .active
  else .idle

end Sessions

def htmlInlineStyles : Str :=
  ("\n" ++
    "<style>\n" ++
    "  :root \x7b\n" ++
    "    --c-active: #22c55e;\n" ++
    "    --c-idle: #94a3b8;\n" ++
    "    --c-blocked: #ef4444;\n" ++
    "    --c-blocker: #f97316;\n" ++
    "    --bg: #f8fafc;\n" ++
    "    --card: #ffffff;\n" ++
    "    --text: #0f172a;\n" ++
    "    --muted: #475569;\n" ++
    "    --border: #e2e8f0;\n" ++
    "  \x7d\n" ++
    "  body \x7b margin: 0; background: var(--bg); color: var(--text); font-family: Segoe UI, Arial, sans-serif; \x7d\n" ++
    "  .page \x7b max-width: 1400px; margin: 0 auto; padding: 16px; \x7d\n" ++
    "  .meta \x7b display: flex; gap: 8px; flex-wrap: wrap; margin: 8px 0 14px; \x7d\n" ++
    "    .toolbar \x7b display: flex; gap: 12px; flex-wrap: wrap; align-items: center; margin: 10px 0 0; \x7d\n" ++
    "  .badge \x7b border-radius: 999px; padding: 3px 10px; font-size: 12px; font-weight: 700; border: 1px solid var(--border); background: #fff; \x7d\n" ++
    "  .badge-active \x7b background: #dcfce7; color: #166534; \x7d\n" ++
    "  .badge-idle \x7b background: #e2e8f0; color: #334155; \x7d\n" ++
    "  .badge-blocked \x7b background: #fee2e2; color: #991b1b; \x7d\n" ++
    "  .badge-blocker \x7b background: #ffedd5; color: #9a3412; \x7d\n" ++
    "  .card \x7b background: var(--card); border: 1px solid var(--border); border-radius: 10px; padding: 14px; margin: 10px 0; \x7d\n" ++
    "    .button \x7b border: 1px solid #0f172a; background: #0f172a; color: #fff; border-radius: 8px; padding: 8px 14px; font: inherit; font-weight: 700; cursor: pointer; \x7d\n" ++
    "    .button[disabled] \x7b opacity: 0.6; cursor: progress; \x7d\n" ++
    "    .mono \x7b font-family: ui-monospace, Consolas, monospace; \x7d\n" ++
    "    .sql-text \x7b max-width: 420px; white-space: pre-wrap; word-break: break-word; \x7d\n" ++
    "  table \x7b width: 100%; border-collapse: collapse; font-family: ui-monospace, Consolas, monospace; font-size: 12px; \x7d\n" ++
    "  th, td \x7b border-bottom: 1px solid var(--border); text-align: left; padding: 8px; vertical-align: top; \x7d\n" ++
    "  th \x7b background: #f1f5f9; font-weight: 700; \x7d\n" ++
    "  .row-active \x7b background: #f0fdf4; \x7d\n" ++
    "  .row-idle \x7b background: #f8fafc; \x7d\n" ++
    "  .row-blocked \x7b background: #fef2f2; \x7d\n" ++
    "  .row-head-blocker \x7b background: #fff7ed; font-weight: 700; \x7d\n" ++
    "  .rec-card \x7b border-left: 4px solid #3b82f6; padding: 8px 10px; margin: 8px 0; background: #eff6ff; border-radius: 6px; \x7d\n" ++
    "  .rec-high \x7b border-left-color: #ef4444; background: #fef2f2; \x7d\n" ++
    "  .rec-medium \x7b border-left-color: #f97316; background: #fff7ed; \x7d\n" ++
    "  .rec-info \x7b border-left-color: #3b82f6; background: #eff6ff; \x7d\n" ++
    "  details \x7b margin: 8px 0; \x7d\n" ++
    "  summary \x7b cursor: pointer; font-weight: 700; \x7d\n" ++
    "  .muted \x7b color: var(--muted); \x7d\n" ++
    "</style>\n").toList

def htmlToolbar (refreshUrl : Option Str) : Str :=
  match refreshUrl with
  | none | some [] => []
  | some url =>
    "<div class=\"toolbar\">".toList ++
      "<button id=\"refresh-dashboard\" class=\"button\" type=\"button\" data-refresh-url=\"".toList ++
      esc B (.str url) ++ "\">Refresh</button>".toList ++
      "<span id=\"refresh-status\" class=\"muted\">Point-in-time snapshot</span>".toList ++ "</div>".toList

def htmlHeader (instanceNumber : ℤ) (databaseName generatedAtUtc : Str)
    (sessionCount lockCount waitCount chainCount : ℕ) (refreshUrl : Option Str) : Str :=
  "<header class=\"card\"><h1>SQL Server Sessions Dashboard</h1>".toList ++
    "<div class=\"muted\">Instance ".toList ++ intText instanceNumber ++ " / Database ".toList ++
    esc B (.str databaseName) ++ "</div>".toList ++
    "<div class=\"muted\">Generated ".toList ++ esc B (.str generatedAtUtc) ++ "</div>".toList ++
    "<div class=\"meta\">".toList ++
    "<span class=\"badge\">Sessions: ".toList ++ intText sessionCount ++ "</span>".toList ++
    "<span class=\"badge\">Lock Holders: ".toList ++ intText lockCount ++ "</span>".toList ++
    "<span class=\"badge\">Waiting Tasks: ".toList ++ intText waitCount ++ "</span>".toList ++
    "<span class=\"badge\">Chain Rows: ".toList ++ intText chainCount ++ "</span>".toList ++
    "</div></header>".toList ++ htmlToolbar B refreshUrl

def tableCell (openTag : Str) (value : Value) : Str := openTag ++ esc B value ++ "</td>".toList

def sessionCells : List (Str × Str) :=
  let td := "<td>".toList
  let mono := "<td class=\"mono\">".toList
  [(td, "session_id".toList), (td, "login_name".toList), (td, "host_name".toList), (td, "program_name".toList),
    (td, "session_database_name".toList), (td, "command".toList),
    ("<td class=\"sql-text\">".toList, "sql_command".toList), (mono, "login_time".toList), (mono, "start_time".toList),
    (td, "wait_type".toList), (td, "wait_time".toList), (td, "cpu_time".toList), (td, "open_transaction_count".toList),
    (td, "blocking_session_id".toList)]

def sessionRow (session : Row) (cssClass : RowClass) : Str :=
  "<tr class=\"".toList ++ cssClass.text ++ "\"><td>".toList ++ cssClass.statusBadge ++ "</td>".toList ++
    (sessionCells.map (fun c ↦ tableCell B c.1 (session.get c.2))).flatten ++ "</tr>".toList

def sessionsTableHead : Str :=
  ("<thead><tr><th>Status</th><th>SID</th><th>Login</th><th>Host</th><th>Program</th><th>" ++
    "Database</th><th>Command</th><th>SQL Command</th><th>Session Created</th><th>" ++
    "Statement Started</th><th>Wait Type</th><th>Wait (ms)</th><th>CPU (ms)</th><th>Txns</th><th>" ++
    "Blocking SID</th></tr></thead>").toList

def htmlSessionsTable [UnicodeData] (sessions : List Row) (headBlockers : List ℤ) : Str :=
  let classes := sessions.map (fun session ↦ sessionRowClass B session headBlockers)
  "<section class=\"card\" id=\"sessions\"><h2>Sessions</h2>".toList ++ "<table>".toList ++
    "<caption class=\"muted\">Sessions: ".toList ++ intText sessions.length ++
    " | Active: ".toList ++ intText (classes.count .active) ++ " | Idle: ".toList ++ intText (classes.count .idle) ++
    " | Blocked: ".toList ++ intText (classes.count .blocked) ++
    " | Head-Blockers: ".toList ++ intText (classes.count .headBlocker) ++ "</caption>".toList ++ sessionsTableHead ++
    "<tbody>".toList ++
    (sessions.map (fun session ↦ sessionRow B session (sessionRowClass B session headBlockers))).flatten ++
    "</tbody></table></section>".toList

def refreshScript : Str :=
  ("<script>" ++
    "document.addEventListener('DOMContentLoaded', () => \x7b" ++
    "  const button = document.getElementById('refresh-dashboard');" ++
    "  const status = document.getElementById('refresh-status');" ++
    "  if (!button) return;" ++
    "  button.addEventListener('click', async () => \x7b" ++
    "    const refreshUrl = button.getAttribute('data-refresh-url');" ++
    "    button.disabled = true;" ++
    "    if (status) status.textContent = 'Refreshing dashboard...';" ++
    "    try \x7b" ++
    "      const response = await fetch(refreshUrl, \x7b headers: \x7b 'X-Requested-With': 'fetch' \x7d \x7d);" ++
    "      if (!response.ok) throw new Error('Refresh failed');" ++
    "      if (status) status.textContent = 'Dashboard refreshed';" ++
    "      window.location.reload();" ++
    "    \x7d catch (error) \x7b" ++
    "      button.disabled = false;" ++
    "      if (status) status.textContent = 'Refresh failed. Try again.';" ++
    "    \x7d" ++
    "  \x7d);" ++
    "\x7d);" ++
    "</script>").toList

def htmlRefreshScript (refreshUrl : Option Str) : Str :=
  match refreshUrl with
  | none | some [] => []
  | some _ => refreshScript

section Chains

variable [UnicodeData]

def waitBySession (waitingTasks : List Row) : List (ℤ × Str) :=
  waitingTasks.foldl (fun m row ↦
    let sid := coerceOptionalInt (row.get "session_id".toList)
    if sid < 0 then m
    else if (m.lookup sid).isSome then m
    else m ++ [(sid, B.str (orDefault (row.get "resource_description".toList) (.str [])))]) []

def blockingBySession (blockingChains : List Row) : List (ℤ × ℤ) :=
  blockingChains.foldl (fun m row ↦
    let sid := coerceOptionalInt (row.get "session_id".toList)
    let bsid := coerceOptionalInt (row.get "blocking_session_id".toList)
    if sid < 0 ∨ bsid < 0 then m else if 0 < sid ∧ 0 < bsid then (sid, bsid) :: m else m) []

omit [UnicodeData] in
def addToGroup (grouped : Dict (List Row)) (row : Row) : Dict (List Row) :=
  let key := B.str (row.get "blocking_session_id".toList)
  setItem key ((grouped.lookup key).getD [] ++ [row]) grouped

omit [UnicodeData] in
/-- The loop of `_depth_for_session`, which stops behind its seventeenth round. -/
def depthForSession (blocking : List (ℤ × ℤ)) : ℕ → List ℤ → ℤ → ℕ
  | 0, _, _ => 0
  | n + 1, seen, current =>
    match blocking.lookup current with
    | some next => if current ∈ seen then 0 else depthForSession blocking n (current :: seen) next + 1
    | none => 0

def maxWait (rows : List Row) : Except Exc ℤ :=
  rows.foldlM (fun m row ↦ do
    match ← B.int (orDefault (row.get "wait_time".toList) (.int 0)) with
    | some n => pure (max m n)
    | none => pure m) 0

def chainRow (waits : List (ℤ × Str)) (blocking : List (ℤ × ℤ)) (row : Row) : Str :=
  let sid := max (coerceOptionalInt (row.get "session_id".toList)) (-1)
  let depth := if 0 < sid then depthForSession blocking 17 [] sid else 0
  "<tr>".toList ++
    tableCell B ("<td style=\"padding-left: ".toList ++ intText (depth * 16) ++ "px\">".toList) (row.get "session_id".toList) ++
    tableCell B "<td>".toList (row.get "login_name".toList) ++ tableCell B "<td>".toList (row.get "host_name".toList) ++
    tableCell B "<td>".toList (row.get "command".toList) ++ tableCell B "<td>".toList (row.get "wait_type".toList) ++
    tableCell B "<td>".toList (row.get "wait_time".toList) ++
    tableCell B "<td>".toList ((waits.lookup sid).elim .none .str) ++ "</tr>".toList

def chainTableHead : Str :=
  ("<table><thead><tr><th>Blocked SID</th><th>Login</th><th>Host</th><th>Command</th><th>" ++
    "Wait Type</th><th>Wait (ms)</th><th>Resource</th></tr></thead><tbody>").toList

def chainGroup (waits : List (ℤ × Str)) (blocking : List (ℤ × ℤ)) (group : Str × List Row) : Except Exc Str := do
  let wait ← maxWait B group.2
  pure ("<details open><summary>Head blocker SID ".toList ++ esc B (.str group.1) ++ " | Blocked sessions: ".toList ++
    intText group.2.length ++ " | Max wait: ".toList ++ esc B (.int wait) ++ " ms</summary>".toList ++ chainTableHead ++
    (group.2.map (chainRow B waits blocking)).flatten ++ "</tbody></table></details>".toList)

def htmlChainSection (blockingChains waitingTasks : List Row) : Except Exc Str :=
  if blockingChains = [] then .ok
    "<section class=\"card\" id=\"chains\"><h2>Session Chains</h2><p>No blocking chains detected.</p></section>".toList
  else do
    let groups ← (blockingChains.foldl (addToGroup B) []).mapM
      (chainGroup B (waitBySession B waitingTasks) (blockingBySession blockingChains))
    pure ("<section class=\"card\" id=\"chains\"><h2>Session Chains</h2>".toList ++ groups.flatten ++ "</section>".toList)

end Chains

structure Recommendation where
  priority : Str
  action : Str
  rationale : Str

def recommendationCard [UnicodeData] (card : Recommendation) : Str :=
  let priority := lower card.priority
  "<div class=\"rec-card rec-".toList ++ esc B (.str priority) ++ "\"><strong>[".toList ++
    esc B (.str (upper priority)) ++ "]</strong> ".toList ++ esc B (.str card.action) ++ "<div class=\"muted\">".toList ++
    esc B (.str card.rationale) ++ "</div></div>".toList

def htmlRecommendations [UnicodeData] (recommendations : List Recommendation) : Str :=
  "<section class=\"card\" id=\"recommendations\"><h2>Recommendations</h2>".toList ++
    (recommendations.map (recommendationCard B)).flatten ++ "</section>".toList

def htmlFooter (generatedAtUtc : Str) : Str :=
  "<footer class=\"card muted\">".toList ++ "<small>MCP SQL Server - Generated ".toList ++ esc B (.str generatedAtUtc) ++
    " - Point-in-time DMV snapshot.</small>".toList ++ "</footer>".toList

structure DashboardInput where
  instanceNumber : ℤ
  databaseName : Str
  sessions : List Row
  lockChains : List Row
  tranLocks : List Row
  waitingTasks : List Row
  headBlockers : List ℤ
  blockingChains : Option (List Row) := none
  refreshUrl : Option Str := none

structure FullPayload where
  contentType : Str
  html : Str
  data : Dict Value

def isLongWait (task : Row) : Except Exc Bool :=
  match orDefault (task.get "wait_duration_ms".toList) (.int 0) with
  | .int n => .ok (decide (5000 < n))
  | .object text => B.objectExceeds text 5000
  | .str _ => .error (typeError "'>' not supported between instances of 'str' and 'int'".toList)
  | .list _ => .error (typeError "'>' not supported between instances of 'list' and 'int'".toList)
  | .dict _ => .error (typeError "'>' not supported between instances of 'dict' and 'int'".toList)
  | .bool _ | .none => .ok false

def intListText (l : List ℤ) : Str := "[".toList ++ ", ".toList.intercalate (l.map intText) ++ "]".toList

def recommendations (headBlockers : List ℤ) (longWaits : ℕ) : List Recommendation :=
  let blockers : List Recommendation := if headBlockers = [] then [] else
    [⟨"high".toList, "Kill or investigate head blocker session(s): ".toList ++ intListText (headBlockers.take 5),
      "Detected ".toList ++ intText headBlockers.length ++ " unique head blocking session(s) causing wait chains.".toList⟩]
  let waits : List Recommendation := if longWaits = 0 then [] else
    [⟨"medium".toList, "Review ".toList ++ intText longWaits ++ " task(s) with wait duration > 5 s.".toList,
      "Long-running waits indicate lock contention, I/O pressure, or resource exhaustion.".toList⟩]
  if blockers ++ waits = [] then
    [⟨"info".toList, "No immediate blocking or long-wait issues detected.".toList,
      "All sessions within normal wait thresholds.".toList⟩]
  else blockers ++ waits

def Recommendation.value (card : Recommendation) : Value :=
  .dict [("priority".toList, .str card.priority), ("action".toList, .str card.action),
    ("rationale".toList, .str card.rationale)]

def htmlDocument (instanceNumber : ℤ) (header sessionsTable chainSection recommendations footer script : Str) : Str :=
  "<!DOCTYPE html><html lang=\"en\"><head><meta charset=\"utf-8\">".toList ++
    "<meta name=\"viewport\" content=\"width=device-width, initial-scale=1\">".toList ++
    "<title>Sessions Dashboard - Instance ".toList ++ intText instanceNumber ++ "</title>".toList ++ htmlInlineStyles ++
    "</head><body><main class=\"page\">".toList ++ header ++ sessionsTable ++ chainSection ++ recommendations ++ footer ++
    script ++ "</main></body></html>".toList

/-- What `build_sessions_dashboard_full` returns, with its recommendations and its section of chains at hand. -/
def fullPayload [UnicodeData] (x : DashboardInput) (generatedAtUtc : Str) (cards : List Recommendation) (chainSection : Str) :
    FullPayload :=
  let refreshUrl : Value := x.refreshUrl.elim .none .str
  {
    contentType := "text/html".toList
    html := htmlDocument x.instanceNumber
      (htmlHeader B x.instanceNumber x.databaseName generatedAtUtc x.sessions.length x.tranLocks.length
        x.waitingTasks.length (x.blockingChains.getD []).length x.refreshUrl)
      (htmlSessionsTable B x.sessions x.headBlockers) chainSection (htmlRecommendations B cards)
      (htmlFooter B generatedAtUtc) (htmlRefreshScript x.refreshUrl)
    data := [("generated_at_utc".toList, .str generatedAtUtc), ("instance_number".toList, .int x.instanceNumber),
      ("database_name".toList, .str x.databaseName),
      ("ui_meta".toList, .dict [("loading".toList, .bool false), ("error".toList, .none), ("refresh_url".toList, refreshUrl)]),
      ("sessions".toList, ofRows x.sessions), ("locks".toList, ofRows x.tranLocks),
      ("blockers".toList, ofRows x.waitingTasks), ("blocking_chains".toList, ofRows (x.blockingChains.getD [])),
      ("head_blockers".toList, .list (x.headBlockers.map .int)),
      ("recommendations".toList, .list (cards.map Recommendation.value)),
      ("widgets".toList, .dict [("active_sessions".toList, ofRows x.sessions), ("lock_chains".toList, ofRows x.lockChains),
        ("tran_locks".toList, ofRows x.tranLocks), ("waiting_tasks".toList, ofRows x.waitingTasks),
        ("blocking_chains".toList, ofRows (x.blockingChains.getD []))])] }

/-- `build_sessions_dashboard_full` at a time whose ISO text is given. -/
def buildSessionsDashboardFull [UnicodeData] (x : DashboardInput) (generatedAtUtc : Str) : Except Exc FullPayload := do
  let flags ← x.waitingTasks.mapM (isLongWait B)
  let chainSection ← htmlChainSection B (x.blockingChains.getD []) x.waitingTasks
  pure (fullPayload B x generatedAtUtc (recommendations x.headBlockers (flags.count true)) chainSection)

end McpSqlServer.DashboardPayloads

import McpSqlServer.Tools.CallerText
import McpSqlServer.Tools.DashboardAccess
import McpSqlServer.Tools.DenialCounter
import McpSqlServer.Tools.InstanceBinding
import McpSqlServer.Tools.ReportRefinement

namespace McpSqlServer

open Library Library.Text Library.Python

section Policies

variable [UnicodeData] {strict policy : RuntimePolicy} {g : Gate}

/-- The policy forbids what the other forbids, and reads the names of procedures as the other does. -/
structure RuntimePolicy.Tightens (strict policy : RuntimePolicy) : Prop where
  denies : ∀ sql, Denied policy sql → Denied strict sql
  writeMode : policy.writeModeDefault = "deny".toList → strict.writeModeDefault = "deny".toList
  writeTools : strict.allowedWriteTools ⊆ policy.allowedWriteTools
  normalize : strict.normalize = policy.normalize
  procedures : ∀ tool, strict.procedureEntries tool ⊆ policy.procedureEntries tool

theorem RuntimePolicy.Tightens.verdict (h : strict.Tightens policy) (hg : guardVerdict strict g = .ok ()) :
    guardVerdict policy g = .ok () := by
  cases g with
  | validateProcedure tool procName =>
    obtain ⟨entry, hentry, hname⟩ := validateProcedure_eq_ok.mp hg
    rw [h.normalize] at hname
    exact validateProcedure_eq_ok.mpr ⟨entry, h.procedures tool hentry, hname⟩
  | enforce tool sql =>
    obtain ⟨hpatterns, hverb⟩ := enforce_eq_ok.mp hg
    refine enforce_eq_ok.mpr ⟨fun hd ↦ hpatterns (h.denies sql hd), fun hmode htool ↦ ?_⟩
    exact hverb (h.writeMode hmode) (fun hallowed ↦ htool (h.writeTools hallowed))
  | _ => rfl

end Policies

section Runs

variable {β α : Type} [UnicodeData] (S : Site β) {policy : RuntimePolicy} {guards : List Gate}

/-- The site under another policy, which limits the rows as its own does. -/
def Site.withPolicy (policy : RuntimePolicy) : Site β :=
  { S with policy := { policy with maxResultRows := S.policy.maxResultRows } }

omit [UnicodeData] in
theorem Site.withPolicy_tightens [UnicodeData] (h : policy.Tightens S.policy) :
    (S.withPolicy policy).policy.Tightens S.policy :=
  ⟨h.denies, h.writeMode, h.writeTools, h.normalize, h.procedures⟩

def Refuses (m : ToolM β α) : Prop :=
  ∀ w, (∃ e, (m w).1 = .error e) ∧ Every (fun e ↦ e.isQuery = false) (m w).2

omit [UnicodeData] in
theorem refuses_of_raises {m : ToolM β α} (h : Triple (fun _ ↦ True) m (fun _ _ ↦ False) (fun _ _ ↦ True))
    (hq : ∀ w, Every (fun e ↦ e.isQuery = false) (m w).2) : Refuses m := by
  refine fun w ↦ ⟨?_, hq w⟩
  have hend := h w trivial
  rcases hr : m w with ⟨r, w'⟩
  rw [hr] at hend
  cases r with
  | ok a => exact hend.elim
  | error e => exact ⟨e, rfl⟩

theorem runTool_congr {call : ToolCall α} {ladder : Exc → ToolM β Value} {body : α → Option Str → ToolM β Value}
    (h : checkGuards (S.withPolicy policy) call.guards = checkGuards S call.guards) :
    runTool (S.withPolicy policy) call ladder body = runTool S call ladder body := by
  unfold runTool
  rw [h]
  rfl

/-- A tool asks its policy in the guards alone. -/
theorem runRequest_congr (b : Binding) {req : Request}
    (h : checkGuards (S.withPolicy policy) (req.guards b) = checkGuards S (req.guards b)) :
    runRequest (S.withPolicy policy) b req = runRequest S b req := by
  cases req with
  | latencyReport args => rfl
  | _ => exact runTool_congr S h

variable {S}

theorem checkGuard_congr {g : Gate} (h : guardVerdict (S.withPolicy policy).policy g = .ok ())
    (h' : guardVerdict S.policy g = .ok ()) : checkGuard (S.withPolicy policy) g = checkGuard S g := by
  unfold checkGuard
  rw [h, h']

theorem checkGuards_congr (h : ∀ g ∈ guards, guardVerdict (S.withPolicy policy).policy g = .ok ())
    (h' : ∀ g ∈ guards, guardVerdict S.policy g = .ok ()) :
    checkGuards (S.withPolicy policy) guards = checkGuards S guards := by
  induction guards with
  | nil => rfl
  | cons g guards ih =>
    obtain ⟨hg, h⟩ := List.forall_mem_cons.mp h
    obtain ⟨hg', h'⟩ := List.forall_mem_cons.mp h'
    rw [checkGuards, checkGuards, checkGuard_congr hg hg', ih h h']

theorem checkGuard_refused {g : Gate} (hr : guardVerdict S.policy g ≠ .ok ()) :
    Triple (fun _ ↦ True) (checkGuard S g) (fun _ _ ↦ False) (fun _ _ ↦ True) :=
  checkGuard_triple (fun _ _ hok ↦ hr hok) (fun _ _ _ _ ↦ trivial)

theorem checkGuards_refused {g : Gate} (hg : g ∈ guards) (hr : guardVerdict S.policy g ≠ .ok ()) :
    Triple (fun _ ↦ True) (checkGuards S guards) (fun _ _ ↦ False) (fun _ _ ↦ True) := by
  induction guards with
  | nil => cases hg
  | cons g' guards ih =>
    rcases List.mem_cons.mp hg with rfl | hg
    · exact .bind (checkGuard_refused hr) (fun _ _ hw ↦ hw.elim)
    · refine .bind (R := fun _ _ ↦ True) (.of_forall (fun _ _ ↦ trivial) (fun _ _ ↦ trivial)) (fun _ ↦ ?_)
      exact ih hg

theorem readLadder_raises (e : Exc) :
    Triple (fun _ ↦ True) (readLadder S e) (fun _ _ ↦ False) (fun _ _ ↦ True) := by
  have hraise (counted : Bool) (code : Str) : Triple (fun _ ↦ True) (do
      deny S counted code
      Act.raise e) (fun (_ : Value) _ ↦ False) (fun _ _ ↦ True) :=
    .bind (R := fun _ _ ↦ True) (.of_forall (fun _ _ ↦ trivial) (fun _ _ ↦ trivial))
      (fun _ ↦ .raise (fun _ _ ↦ trivial))
  unfold readLadder
  split
  · exact hraise true _
  · split
    · exact hraise false _
    · exact .raise (fun _ _ ↦ trivial)

theorem runTool_raises {call : ToolCall α} {ladder : Exc → ToolM β Value} {body : α → Option Str → ToolM β Value}
    (hladder : ∀ e, Triple (fun _ ↦ True) (ladder e) (fun _ _ ↦ False) (fun _ _ ↦ True)) {g : Gate}
    (hg : g ∈ call.guards) (hr : guardVerdict S.policy g ≠ .ok ()) :
    Triple (fun _ ↦ True) (runTool S call ladder body) (fun _ _ ↦ False) (fun _ _ ↦ True) := by
  have hany {γ : Type} (m : ToolM β γ) : Triple (fun _ ↦ True) m (fun _ _ ↦ True) (fun _ _ ↦ True) :=
    .of_forall (fun _ _ ↦ trivial) (fun _ _ ↦ trivial)
  have hstages : GateStages S call (fun _ ↦ True) (fun _ ↦ True) (fun _ ↦ True) (fun _ ↦ True) (fun _ ↦ False)
      (fun _ _ ↦ True) :=
    ⟨hany _, fun _ _ _ _ ↦ trivial, hany _, hany _, hany _, hany _, hany _, checkGuards_refused hg hr,
      fun _ hw ↦ hw.elim, fun _ _ _ _ ↦ trivial⟩
  have htry : Triple (fun _ ↦ True) (tryBlock S call body) (fun _ _ ↦ False) (fun _ _ ↦ True) :=
    tryBlock_triple hstages (fun _ _ _ _ _ hw ↦ hw.elim) (fun _ _ hw ↦ hw.elim)
  intro w _
  rw [runTool_eq]
  exact Triple.ensuring (.catching htry hladder) (fun _ _ hw ↦ hw.elim) (fun _ ↦ hany _) _ trivial

/-- A tool with a guard answers a refusal with an exception. -/
theorem ladder_raises {b : Binding} {req : Request} {g : Gate} (hg : g ∈ req.guards b) (e : Exc) :
    Triple (fun _ ↦ True) (req.ladder S b e) (fun _ _ ↦ False) (fun _ _ ↦ True) := by
  cases req with
  | ping args => cases hg
  | select args => exact readLadder_raises e
  | execProc args => exact readLadder_raises e
  | blockReport args => exact readLadder_raises e
  | topQueriesReport args => exact readLadder_raises e
  | activeSessionsReport args => exact readLadder_raises e
  | indexHealthReport args => exact readLadder_raises e
  | latencyReport args => cases hg
  | listTools args => cases hg
  | listObject args => cases hg
  | _ => exact wrapLadder_raises _ e

omit [UnicodeData] in
theorem sendsSql_of_guard {b : Binding} {req : Request} {g : Gate} (hg : g ∈ req.guards b) : req.sendsSql = true := by
  cases req with
  | latencyReport args => cases hg
  | _ => rfl

theorem runRequest_refuses {b : Binding} {req : Request} {g : Gate} (hg : g ∈ req.guards b)
    (hr : guardVerdict S.policy g ≠ .ok ()) : Refuses (runRequest S b req) := by
  have hs := sendsSql_of_guard hg
  obtain ⟨γ, call, body, parts⟩ := runRequest_isTool (S := S) (b := b) hs
  have hraises : Triple (fun _ ↦ True) (runTool S call (req.ladder S b) body) (fun _ _ ↦ False) (fun _ _ ↦ True) :=
    runTool_raises (fun e ↦ ladder_raises hg e) (parts.guards ▸ hg) hr
  rw [← parts.run] at hraises
  refine refuses_of_raises hraises (fun w e he ↦ ?_)
  by_contra hquery
  exact hr (guards_passed hs he (Bool.eq_true_of_not_eq_false hquery) hg).2

theorem fetch_refuses (args : FetchArgs) (hr : guardVerdict S.policy appFetchGuard ≠ .ok ()) :
    Refuses (fetchSessionsDashboardData S args) := by
  have hany {γ : Type} (m : ToolM β γ) : Triple (fun _ ↦ True) m (fun _ _ ↦ True) (fun _ _ ↦ True) :=
    .of_forall (fun _ _ ↦ trivial) (fun _ _ ↦ trivial)
  refine refuses_of_raises ?_ (fun w ↦ ?_)
  · refine .bind (hany _) (fun _ ↦ .bind (hany _) (fun p ↦ .bind (hany _) (fun _ ↦ .bind (hany _) (fun _ ↦ ?_))))
    exact .bind (checkGuard_refused hr) (fun _ _ hw ↦ hw.elim)
  · rcases (fetch_reaches w args w rfl).snd (fun _ _ h ↦ h) (fun _ _ h ↦ h) with ⟨-, hnone⟩ | ⟨hreached, -⟩
    · exact hnone
    · exact absurd hreached.guard hr

theorem refresh_refuses (requestId : Str) (hr : guardVerdict S.policy refreshGuard ≠ .ok ()) :
    Refuses (refreshDashboardHtml S requestId) := by
  have hany {γ : Type} (m : ToolM β γ) : Triple (fun _ ↦ True) m (fun _ _ ↦ True) (fun _ _ ↦ True) :=
    .of_forall (fun _ _ ↦ trivial) (fun _ _ ↦ trivial)
  refine refuses_of_raises ?_ (fun w ↦ ?_)
  · refine .bind (hany _) (fun _ ↦ .bind (hany _) (fun metadata ↦ .bind (hany _) (fun target ↦ ?_)))
    exact .bind (checkGuard_refused hr) (fun _ _ hw ↦ hw.elim)
  · rcases (refresh_reaches w requestId w rfl).snd (fun _ _ h ↦ h) (fun _ _ h ↦ h) with ⟨-, hnone⟩ | ⟨hreached, -⟩
    · exact hnone
    · exact absurd hreached.guard hr

def Tightened (m' m : ToolM β α) : Prop := m' = m ∨ Refuses m'

theorem tightened_runRequest (h : policy.Tightens S.policy) (b : Binding) (req : Request) :
    Tightened (runRequest (S.withPolicy policy) b req) (runRequest S b req) := by
  have htightens := S.withPolicy_tightens h
  by_cases hok : ∀ g ∈ req.guards b, guardVerdict (S.withPolicy policy).policy g = .ok ()
  · exact .inl (runRequest_congr S b (checkGuards_congr hok (fun g hg ↦ htightens.verdict (hok g hg))))
  · obtain ⟨g, hg, hr⟩ := not_forall₂.mp hok
    exact .inr (runRequest_refuses hg hr)

theorem tightened_fetch (h : policy.Tightens S.policy) (args : FetchArgs) :
    Tightened (fetchSessionsDashboardData (S.withPolicy policy) args) (fetchSessionsDashboardData S args) := by
  by_cases hok : guardVerdict (S.withPolicy policy).policy appFetchGuard = .ok ()
  · refine .inl ?_
    unfold fetchSessionsDashboardData
    rw [checkGuard_congr hok ((S.withPolicy_tightens h).verdict hok)]
    rfl
  · exact .inr (fetch_refuses args hok)

theorem tightened_refresh (h : policy.Tightens S.policy) (requestId : Str) :
    Tightened (refreshDashboardHtml (S.withPolicy policy) requestId) (refreshDashboardHtml S requestId) := by
  by_cases hok : guardVerdict (S.withPolicy policy).policy refreshGuard = .ok ()
  · refine .inl ?_
    unfold refreshDashboardHtml
    rw [checkGuard_congr hok ((S.withPolicy_tightens h).verdict hok)]
    rfl
  · exact .inr (refresh_refuses requestId hok)

/-- A tighter policy takes calls away and changes none: every tool and the refresh route do
what they did or refuse before their first query. -/
theorem tightens_calls (h : policy.Tightens S.policy) :
    (∀ use : ToolUse, Tightened (use.run (S.withPolicy policy)) (use.run S)) ∧ ∀ requestId,
      Tightened (refreshDashboardHtml (S.withPolicy policy) requestId) (refreshDashboardHtml S requestId) := by
  refine ⟨fun use ↦ ?_, tightened_refresh h⟩
  cases use with
  | sql b o req => exact tightened_runRequest h (b.override o) req
  | app args => exact tightened_fetch h args

end Runs

theorem tightens_permissivePolicy (tool procName : Str) : let _ := asciiData
    ({} : RuntimePolicy).Tightens (permissivePolicy tool procName) := by
  intro U
  exact ⟨fun _ h ↦ absurd h Bool.false_ne_true, fun _ ↦ rfl, List.nil_subset _, rfl, fun _ ↦ List.nil_subset _⟩

theorem tightens_calls_delete : let _ := asciiData
    let S := openSite (permissivePolicy "query".toList []) [Pool.smallInstance]
    let deletion := ToolUse.sql ⟨"query".toList, "primary".toList, 1⟩ {} (.select { sql := "DELETE t".toList })
    Tightened (deletion.run (S.withPolicy {})) (deletion.run S) := by
  intro U S deletion
  exact (tightens_calls (tightens_permissivePolicy _ _)).1 deletion

end McpSqlServer

import McpSqlServer.Tools.CallTraces

namespace McpSqlServer

open Library Library.Text Library.Python

def Gate.tool : Gate → Option Str
  | .validateProcedure tool _ | .enforce tool _ => some tool
  | _ => none

/-- What the call does, it does to the instance and under the name that the tool was registered with. -/
def Event.Bound (b : Binding) : Event → Prop
  | .manager i | .connect i _ | .execute i _ | .commit i => i = b.instanceId
  | .passed g | .refused g => ∀ tool, g.tool = some tool → tool = b.tool
  | .logEvent tool => tool = b.tool
  | .notify => True

section Bound

variable {b b' : Binding} {req : Request} {e : Event}

theorem Request.guards_tool {g : Gate} {tool : Str} (h : g ∈ req.guards b) (ht : g.tool = some tool) : tool = b.tool := by
  cases req <;> simp [Request.guards] at h
  all_goals (rcases h with rfl | rfl <;> (cases ht; rfl))

theorem isGuard_of_tool {g : Gate} {tool : Str} (h : g.tool = some tool) : g.isGuard = true := by
  cases g with
  | validateProcedure t p => rfl
  | enforce t q => rfl
  | authorize r a => cases h
  | touch a => cases h
  | allow a => cases h

theorem bound_of_allows (h : req.Allows b' e) (ht : b'.tool = b.tool)
    (hi : e.isQuery = true → b'.instanceId = b.instanceId) : e.Bound b := by
  cases e with
  | notify => trivial
  | passed g => exact fun tool hg ↦ (Request.guards_tool (h (isGuard_of_tool hg)) hg).trans ht
  | refused g => exact fun tool hg ↦ (Request.guards_tool (h (isGuard_of_tool hg)) hg).trans ht
  | manager i => exact Eq.trans h (hi rfl)
  | connect i db => exact Eq.trans h (hi rfl)
  | execute i stmt => exact h.1.trans (hi rfl)
  | commit i => exact Eq.trans h (hi rfl)
  | logEvent t => exact Eq.trans h ht

end Bound

section Permissive

def permissivePolicy (tool procName : Str) : RuntimePolicy where
  writeModeDefault := "allow".toList
  allowedTools := [(tool, [("allowed_procedures".toList, [procName])])]

variable [UnicodeData]

theorem enforce_permissive (tool procName sql : Str) :
    enforce (permissivePolicy tool procName) tool sql = .ok () :=
  enforce_eq_ok.mpr ⟨Bool.false_ne_true, fun h ↦ absurd h (by simp only [permissivePolicy]; decide)⟩

theorem validateProcedure_permissive (tool procName : Str) :
    validateProcedure (permissivePolicy tool procName) tool procName = .ok () := by
  refine validateProcedure_eq_ok.mpr ⟨procName, ?_, rfl⟩
  simp [RuntimePolicy.procedureEntries, permissivePolicy]

def Request.procName : Request → Str
  | .execProc args => args.procName
  | _ => []

theorem guardVerdict_permissive (b : Binding) (req : Request) :
    ∀ g ∈ req.guards b, guardVerdict (permissivePolicy b.tool req.procName) g = .ok () := by
  intro g hg
  cases req <;> simp only [Request.guards, List.mem_cons, List.not_mem_nil, or_false] at hg
  all_goals first
    | (rcases hg with rfl | rfl
       · exact validateProcedure_permissive _ _
       · exact enforce_permissive _ _ _)
    | (subst hg; exact enforce_permissive _ _ _)

/-- A call does everything for the instance and under the name that its tool is bound to,
exactly when the caller names no other tool, and no other instance where it is asked for
something. -/
theorem invoke_bound_iff (b : Binding) (o : Overrides) (req : Request) :
    (∀ (β : Type) (S : Site β) (w : World β), ∀ e ∈ (invoke S b o req w).2.trace, e.Bound b) ↔
      req.sendsSql = false ∨
        (o.tool.getD b.tool = b.tool ∧ (o.instanceId.getD b.instanceId = b.instanceId ∨ ¬ req.Valid)) := by
  constructor
  · intro h
    by_cases hs : req.sendsSql = true
    · have hopen := open_openSite (permissivePolicy (b.override o).tool req.procName) []
      have hbound := h Unit (openSite (permissivePolicy (b.override o).tool req.procName) []) freshWorld
      refine .inr ⟨hbound _ (runRequest_mentions_log hs), or_iff_not_imp_right.mpr (fun hv ↦ ?_)⟩
      exact hbound _ (hopen.runRequest_mentions_manager hs (not_not.mp hv)
        (guardVerdict_permissive (b.override o) req) rfl)
    · exact .inl (Bool.not_eq_true _ ▸ hs)
  · rintro (hs | ⟨ht, hi⟩) β S w e he
    · cases req with
      | latencyReport args => exact absurd he List.not_mem_nil
      | _ => cases hs
    · by_cases hs : req.sendsSql = true
      · refine bound_of_allows (runRequest_allows hs e he) ht (fun hq ↦ hi.resolve_right (fun hv ↦ ?_))
        have hnone := runRequest_noQuery hs hv e he
        exact Bool.false_ne_true (hnone.symm.trans hq)
      · rw [Bool.not_eq_true] at hs
        cases req with
        | latencyReport args => exact absurd he List.not_mem_nil
        | _ => cases hs

end Permissive

/-- A caller of the tool of one instance reads from another one. -/
theorem invoke_switches_instance :
    ¬ ∀ (b : Binding) (o : Overrides) (req : Request) (β : Type) (S : Site β) (w : World β),
      ∀ e ∈ (@invoke β asciiData S b o req w).2.trace, e.Bound b := by
  intro h
  let _ := asciiData
  have hmem : Mentions (.manager "secondary".toList) (runRequest (openSite {} [])
      ⟨"db_1_sql2019_select".toList, "secondary".toList, 1⟩ (.select { sql := "SELECT 1".toList }) freshWorld).2 :=
    (open_openSite {} []).runRequest_mentions_manager rfl ⟨none, rfl⟩
      (fun g hg ↦ by rw [List.mem_singleton.mp hg]; rfl) rfl
  have hbound : "secondary".toList = "primary".toList :=
    h ⟨"db_1_sql2019_select".toList, "primary".toList, 1⟩ { instanceId := some "secondary".toList }
      (.select { sql := "SELECT 1".toList }) Unit (openSite {} []) freshWorld _ hmem
  exact absurd hbound (by decide)

end McpSqlServer

import McpSqlServer.ConnectionManager.Statements
import McpSqlServer.Tools.CallTraces

namespace McpSqlServer

open Library Library.Text Library.Python

section Text

variable [UnicodeData]

def Statement.sent : Statement → Option (Str × Str)
  | .caller sql => some (sql, sql)
  | .exec procName params => some (procName, execStatement procName params)
  | _ => none

/-- Every executed statement with text of the caller in it passes the denylist, and the write
guard was given a text that contains the caller's. -/
def CallerTextChecked (policy : RuntimePolicy) (trace : List Event) : Prop :=
  ∀ instanceId stmt callerText text, Event.execute instanceId stmt ∈ trace → stmt.sent = some (callerText, text) →
    ¬ Denied policy text ∧ ∃ tool sql, Event.passed (.enforce tool sql) ∈ trace ∧ callerText <:+: sql

/-- What `exec_proc` needs so that no unchecked text is sent; the other tools need nothing. -/
def ProbeCovers (policy : RuntimePolicy) (tool : Str) : Request → Prop
  | .execProc args =>
    validateProcedure policy tool args.procName ≠ .ok () ∨ enforce policy tool policyProbe ≠ .ok () ∨
      ¬ Succeeds (optionalDatabase args.databaseName) ∨
      (args.procName <:+: policyProbe ∧ ¬ Denied policy (execStatement args.procName args.params.length))
  | _ => True

section Checked

variable {β : Type} {S : Site β} {b : Binding} {req : Request} {w : World β} {e : Event}

theorem guards_passed (hs : req.sendsSql = true) (he : e ∈ (runRequest S b req w).2.trace) (hq : e.isQuery = true)
    {g : Gate} (hg : g ∈ req.guards b) :
    Event.passed g ∈ (runRequest S b req w).2.trace ∧ guardVerdict S.policy g = .ok () := by
  obtain ⟨pre, post, ht⟩ := List.append_of_mem he
  obtain ⟨actor, hgates, hgranted⟩ := (runRequest_gateTrace S b w hs).gateOrder.before_query pre e post ht hq
  have hcall : g ∈ callGates req.required (req.guards b) actor := by simp [callGates, hg]
  have hpre : Event.passed g ∈ pre.filter Event.isGate := hgates ▸ List.mem_map_of_mem hcall
  refine ⟨ht ▸ List.mem_append_left _ (List.mem_filter.mp hpre).1, ?_⟩
  exact (granted_guard (req.guards_isGuard b g hg)).mp (hgranted g hcall)

theorem not_denied_of_enforce {policy : RuntimePolicy} {tool sql : Str}
    (h : guardVerdict policy (.enforce tool sql) = .ok ()) : ¬ Denied policy sql := (enforce_eq_ok.mp h).1

theorem callerTextChecked_runRequest (h : ProbeCovers S.policy b.tool req) :
    CallerTextChecked S.policy (runRequest S b req w).2.trace := by
  intro instanceId stmt callerText text he hsent
  by_cases hs : req.sendsSql = true
  · have hsends : req.Sends stmt := (runRequest_allows (S := S) (w := w) hs _ he).2
    rcases hsends with hnone | hcaller
    · cases stmt with
      | program t => cases hsent
      | catalog q => cases hsent
      | caller sql => cases hnone
      | exec p n => cases hnone
    · cases req with
      | select args =>
        cases hcaller
        cases hsent
        obtain ⟨hp, hv⟩ := guards_passed hs he rfl (g := .enforce b.tool args.sql) List.mem_cons_self
        exact ⟨not_denied_of_enforce hv, b.tool, args.sql, hp, List.infix_refl _⟩
      | executeQuery args =>
        cases hcaller
        cases hsent
        obtain ⟨hp, hv⟩ := guards_passed hs he rfl (g := .enforce b.tool args.sqlStatement) List.mem_cons_self
        exact ⟨not_denied_of_enforce hv, b.tool, args.sqlStatement, hp, List.infix_refl _⟩
      | execProc args =>
        cases hcaller
        cases hsent
        obtain ⟨-, hproc⟩ := guards_passed hs he rfl (g := .validateProcedure b.tool args.procName) List.mem_cons_self
        obtain ⟨hp, hprobe⟩ := guards_passed hs he rfl (g := .enforce b.tool policyProbe)
          (List.mem_cons_of_mem _ List.mem_cons_self)
        have hvalid : Succeeds (optionalDatabase args.databaseName) := by
          by_contra hv
          have hnone := runRequest_noQuery (S := S) (b := b) (w := w) hs hv _ he
          exact Bool.false_ne_true (hnone.symm.trans rfl)
        rcases h with hn | hn | hn | ⟨hi, hd⟩
        · exact absurd hproc hn
        · exact absurd hprobe hn
        · exact absurd hvalid hn
        · exact ⟨hd, b.tool, policyProbe, hp, hi⟩
      | _ => cases hcaller
  · cases req with
    | latencyReport args => exact absurd he List.not_mem_nil
    | _ => exact absurd rfl hs

end Checked

section Reached

variable {β : Type} {S : Site β} {b : Binding} {args : ExecProcArgs} {w : World β}

omit [UnicodeData] in
theorem executeProc_mentions {procName : Str} {params : List Value} {db : Option Str} {instanceId : Str}
    (hi : S.instances.any (fun inst ↦ inst.id = instanceId) = true) (hd : ∀ trace, Succeeds (S.driver trace)) :
    Triple (fun _ ↦ True) (executeProc S instanceId procName params db)
      (fun _ ↦ Mentions (.execute instanceId (.exec procName params.length)))
      (fun _ ↦ Mentions (.execute instanceId (.exec procName params.length))) := by
  have hkeep := undisturbed_mentions (β := β) instanceId (fun _ ↦ True)
    (.execute instanceId (.exec procName params.length))
  have hconnect : Triple (fun _ : World β ↦ True) (driver S (.connect instanceId db)) (fun _ _ ↦ True)
      (fun _ ↦ Mentions (.execute instanceId (.exec procName params.length))) := by
    refine .modify_bind (I := fun _ ↦ True) (fun _ _ ↦ trivial) ?_
    refine .bind (R := fun _ _ ↦ True) (.read (fun _ _ ↦ trivial)) (fun trace ↦ ?_)
    obtain ⟨r, hr⟩ := hd trace
    rw [hr]
    exact fun _ _ ↦ trivial
  have hexecute : Triple (fun _ : World β ↦ True) (execute S instanceId (.exec procName params.length))
      (fun _ ↦ Mentions (.execute instanceId (.exec procName params.length)))
      (fun _ ↦ Mentions (.execute instanceId (.exec procName params.length))) := by
    refine .modify_bind (I := Mentions (.execute instanceId (.exec procName params.length)))
      (fun _ _ ↦ List.mem_append_right _ (List.mem_singleton_self _)) ?_
    exact Invariant.bind (.read _) (fun trace ↦ .ofExcept _)
  refine .modify_bind (I := fun _ ↦ True) (fun _ _ ↦ trivial) ?_
  rw [connect, if_pos hi]
  refine .bind hconnect (fun _ ↦ .bind hexecute (fun result ↦ ?_))
  exact Invariant.bind (commit_invariant hkeep) (fun _ ↦ Invariant.pure _)

theorem execProc_mentions (h : Open S) (hi : S.instances.any (fun inst ↦ inst.id = b.instanceId) = true)
    (hd : ∀ trace, Succeeds (S.driver trace)) (hproc : validateProcedure S.policy b.tool args.procName = .ok ())
    (hprobe : enforce S.policy b.tool policyProbe = .ok ()) (hv : Succeeds (optionalDatabase args.databaseName))
    (hw : w.sessions = []) : Mentions (.execute b.instanceId (.exec args.procName args.params.length))
      (runRequest S b (.execProc args) w).2 := by
  have hguards : ∀ g ∈ Request.guards b (.execProc args), guardVerdict S.policy g = .ok () := by
    intro g hg
    rcases List.mem_pair.mp hg with rfl | rfl
    · exact hproc
    · exact hprobe
  show Mentions _ (execProc S b args w).2
  unfold execProc
  refine (h.runTool_mentions hguards (succeeds_ok ()) hv (fun exc ↦ readLadder_invariant (quiet_mentions _) exc)
    (fun _ db ↦ .bind (executeProc_mentions hi hd) (fun result ↦ ?_)) w hw).snd (fun _ _ h ↦ h) (fun _ _ h ↦ h)
  exact Invariant.bind (setRows_invariant (undisturbed_mentions b.instanceId (fun _ ↦ True) _) _)
    (fun _ ↦ Invariant.pure _)

end Reached

def instanceNamed (id : Str) : SqlInstanceConfig where
  id := id
  host := "sql".toList
  database := "master".toList
  authSecretRef := "SQL_PRIMARY".toList

theorem execProc_mentions_openSite {policy : RuntimePolicy} {b : Binding} {args : ExecProcArgs}
    (hproc : validateProcedure policy b.tool args.procName = .ok ()) (hprobe : enforce policy b.tool policyProbe = .ok ())
    (hv : Succeeds (optionalDatabase args.databaseName)) :
    Mentions (.execute b.instanceId (.exec args.procName args.params.length))
      (runRequest (openSite policy [instanceNamed b.instanceId]) b (.execProc args) freshWorld).2 :=
  execProc_mentions (open_openSite policy _) (by simp [openSite, instanceNamed]) (fun _ ↦ ⟨_, rfl⟩) hproc hprobe hv rfl

/-- Under a given policy a request never sends unchecked text, in any surroundings, exactly
when it is not one of `exec_proc` that gets past its gates with a text the probe does not stand for. -/
theorem callerText_checked_iff (policy : RuntimePolicy) (b : Binding) (o : Overrides) (req : Request) :
    (∀ (β : Type) (S : Site β) (w : World β), S.policy = policy →
      CallerTextChecked policy (invoke S b o req w).2.trace) ↔ ProbeCovers policy (o.tool.getD b.tool) req := by
  constructor
  · intro h
    cases req with
    | execProc args =>
      refine or_iff_not_imp_left.mpr (fun hproc ↦ or_iff_not_imp_left.mpr (fun hprobe ↦
        or_iff_not_imp_left.mpr (fun hv ↦ ?_)))
      have hsent := execProc_mentions_openSite (b := b.override o) (not_not.mp hproc) (not_not.mp hprobe) (not_not.mp hv)
      obtain ⟨hd, tool, sql, hp, hi⟩ := h Unit (openSite policy [instanceNamed (b.override o).instanceId]) freshWorld rfl
        _ _ _ _ hsent rfl
      have hguard : Gate.enforce tool sql ∈ Request.guards (b.override o) (.execProc args) :=
        runRequest_allows rfl _ hp rfl
      rcases List.mem_pair.mp hguard with hg | hg
      · cases hg
      · cases hg
        exact ⟨hi, hd⟩
    | _ => trivial
  · rintro h β S w rfl
    exact callerTextChecked_runRequest h

end Text

def dropDenied : RuntimePolicy where
  allowedWriteTools := ["db_1_sql2019_exec_proc".toList]
  blockedSqlPatterns := [occursIn "DROP".toList]
  allowedTools := [("db_1_sql2019_exec_proc".toList, [("allowed_procedures".toList, ["dbo.p".toList])])]

def droppingCall : ExecProcArgs where
  procName := "dbo.x; DROP TABLE dbo.T; EXEC a.dbo.p".toList

/-- `exec_proc` shows its probe to the write guard and sends the caller's text. -/
theorem execProc_sends_denied_text :
    ¬ ∀ (policy : RuntimePolicy) (b : Binding) (o : Overrides) (req : Request) (β : Type) (S : Site β) (w : World β),
      S.policy = policy → @CallerTextChecked asciiData policy (@invoke β asciiData S b o req w).2.trace := by
  intro h
  let _ := asciiData
  have hsent : Mentions (.execute "primary".toList (.exec droppingCall.procName 0))
      (runRequest (openSite dropDenied [instanceNamed "primary".toList])
        ⟨"db_1_sql2019_exec_proc".toList, "primary".toList, 1⟩ (.execProc droppingCall) freshWorld).2 :=
    execProc_mentions_openSite rfl rfl ⟨none, rfl⟩
  have hchecked := h dropDenied ⟨"db_1_sql2019_exec_proc".toList, "primary".toList, 1⟩ {} (.execProc droppingCall) Unit
    (openSite dropDenied [instanceNamed "primary".toList]) freshWorld rfl _ _ _ _ hsent rfl
  have hdenied : Denied dropDenied (execStatement droppingCall.procName 0) := by
    unfold Denied
    decide
  exact hchecked.1 hdenied

end McpSqlServer

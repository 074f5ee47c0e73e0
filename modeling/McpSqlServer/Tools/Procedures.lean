import McpSqlServer.ConnectionManager.Attempts
import McpSqlServer.ConnectionManager.Commit
import McpSqlServer.Tools.CallerText
import McpSqlServer.Tools.ErrorCodes

namespace McpSqlServer

open Library Library.Text Library.Python
open ConnectionManager (Committed AtCommit)

section Definitions

variable {β : Type} [UnicodeData] (S : Site β) (M : ConnectionManager.Site) (b : Binding) (args : ExecProcArgs)

omit [UnicodeData] in
def execProcCall : ToolCall Unit where
  binding := b
  sql := "EXEC ".toList ++ args.procName
  actor := args.actor
  required := .write
  check := .ok ()
  guards := [.validateProcedure b.tool args.procName, .enforce b.tool policyProbe]
  target := optionalDatabase args.databaseName

omit [UnicodeData] in
def procReply (raw : Value) : ToolM β Value :=
  match raw with
  | .dict result => do
    match result.lookup "rows".toList with
    | some (.list rows) => setRows rows.length
    | _ => pure ()
    pure (.dict (("instance".toList, .str b.instanceId) :: result))
  | _ => Act.raise (runtimeError "EXEC_PROC_RESULT_INVALID: expected mapping result".toList)

def procBlock : Act (World β × ConnectionManager.World) Exc Value := do
  let (_, dbOverride) ← Act.onFst (passGates S (execProcCall b args))
  Act.onFst (record (.manager b.instanceId))
  let raw ← Act.onSnd (ConnectionManager.executeProc M b.instanceId args.procName args.params dbOverride)
  let reply ← Act.onFst (procReply b raw)
  Act.onFst (notify S)
  pure reply

/-- `_exec_proc` with `execute_proc` in every step. -/
def execProcManaged : Act (World β × ConnectionManager.World) Exc Value := do
  Act.onFst (Act.modify (fun w ↦ w.begin args.actor))
  Act.ensuring (Act.catching (procBlock S M b args) (fun e ↦ Act.onFst (readLadder S e)))
    (Act.onFst (logAuditEvent S b ("EXEC ".toList ++ args.procName)))

end Definitions

section Runs

variable {β : Type} [UnicodeData] {S : Site β} {M : ConnectionManager.Site} {b : Binding} {args : ExecProcArgs}
  {w w₁ : World β} {m m₁ : ConnectionManager.World} {t : Except Exc Value}

theorem execProcManaged_eq (h : procBlock S M b args (w.begin args.actor, m) = (t, w₁, m₁)) :
    execProcManaged S M b args (w, m) =
      ((conclude S b (.execProc args) t w₁).1, (conclude S b (.execProc args) t w₁).2, m₁) := by
  have hbegin : Act.onFst (Act.modify (fun w ↦ w.begin args.actor)) (w, m) =
      ((.ok (), w.begin args.actor, m) : Except Exc Unit × World β × ConnectionManager.World) := rfl
  have hcatch : Act.catching (procBlock S M b args) (fun e ↦ Act.onFst (readLadder S e)) (w.begin args.actor, m) =
      Act.onFst (settle S b (.execProc args) t) (w₁, m₁) := by
    cases t with
    | ok v => exact Act.catching_of_ok h
    | error e => exact Act.catching_of_error h
  rw [execProcManaged, Act.bind_of_ok hbegin]
  rcases hs : settle S b (.execProc args) t w₁ with ⟨r, w₂⟩
  rw [Act.onFst_of hs] at hcatch
  rcases hl : logAuditEvent S b ("EXEC ".toList ++ args.procName) w₂ with ⟨r', w₃⟩
  have hlog := Act.onFst_of hl m₁
  have hsql : logAuditEvent S b (Request.auditSql (.execProc args)) w₂ = (r', w₃) := hl
  rw [conclude]
  cases r' with
  | ok u => rw [Act.ensuring_of_ok hcatch hlog, Act.ensuring_of_ok hs hsql]
  | error e => rw [Act.ensuring_of_error hcatch hlog, Act.ensuring_of_error hs hsql]

theorem procBlock_of_denied {e : Exc} {w₀ : World β}
    (hg : passGates S (execProcCall b args) w = (.error e, w₀)) : procBlock S M b args (w, m) = (.error e, w₀, m) :=
  Act.bind_of_error (Act.onFst_of hg m) _

variable {w₀ : World β} {u : Unit} {dbOverride : Option Str}

theorem procBlock_of_failed {e : Exc} (hg : passGates S (execProcCall b args) w = (.ok (u, dbOverride), w₀))
    (hm : ConnectionManager.executeProc M b.instanceId args.procName args.params dbOverride m = (.error e, m₁)) :
    procBlock S M b args (w, m) = (.error e, w₀.record (.manager b.instanceId), m₁) := by
  have hrecord : Act.onFst (record (.manager b.instanceId)) (w₀, m) =
      ((.ok (), w₀.record (.manager b.instanceId), m) : Except Exc Unit × World β × ConnectionManager.World) := rfl
  rw [procBlock, Act.bind_of_ok (Act.onFst_of hg m)]
  dsimp only
  rw [Act.bind_of_ok hrecord]
  exact Act.bind_of_error (Act.onSnd_of hm _) _

def procTail (S : Site β) (b : Binding) (raw : Value) : ToolM β Value := do
  let reply ← procReply b raw
  notify S
  pure reply

theorem procBlock_of_executed {raw : Value} (hg : passGates S (execProcCall b args) w = (.ok (u, dbOverride), w₀))
    (hm : ConnectionManager.executeProc M b.instanceId args.procName args.params dbOverride m = (.ok raw, m₁)) :
    procBlock S M b args (w, m) = Act.onFst (procTail S b raw) (w₀.record (.manager b.instanceId), m₁) := by
  have hrecord : Act.onFst (record (.manager b.instanceId)) (w₀, m) =
      ((.ok (), w₀.record (.manager b.instanceId), m) : Except Exc Unit × World β × ConnectionManager.World) := rfl
  rw [procBlock, Act.bind_of_ok (Act.onFst_of hg m)]
  dsimp only
  rw [Act.bind_of_ok hrecord, Act.bind_of_ok (Act.onSnd_of hm _), procTail, Act.onFst_bind]
  simp only [Act.onFst_bind]
  rfl

def notices (S : Site β) : List Event := if S.ctx.isSome then [.notify] else []

omit [UnicodeData] in
theorem notify_eq (w : World β) : notify S w = (notification S w, { w with trace := w.trace ++ notices S }) := by
  unfold notification notices
  cases h : S.ctx with
  | none =>
    simp only [notify, h, Option.isSome_none, Bool.false_eq_true, if_false, List.append_nil]
    rfl
  | some ctx =>
    simp only [notify, h, Option.isSome_some, if_true]
    rfl

omit [UnicodeData] in
theorem procTail_result (d : Bool × List Str × List Row) (rowcount : ℤ) (w : World β) :
    ∃ reply, (procTail S b (ConnectionManager.procResult args.procName d rowcount) w).1 =
        (notification S w).map (fun _ ↦ reply) ∧
      (procTail S b (ConnectionManager.procResult args.procName d rowcount) w).2.trace = w.trace ++ notices S := by
  let reply : Value := .dict (("instance".toList, .str b.instanceId) ::
    [("status".toList, .str "ok".toList), ("procedure".toList, .str args.procName),
      ("rowcount".toList, .int rowcount), ("has_result_set".toList, .bool d.1),
      ("columns".toList, .list (d.2.1.map .str)), ("rows".toList, ofRows d.2.2)])
  have hreply : procReply b (ConnectionManager.procResult args.procName d rowcount) w =
      (.ok reply, w.setFrame (fun f ↦ { f with rows := (d.2.2.map Value.dict).length })) := rfl
  refine ⟨reply, ?_⟩
  rw [procTail, Act.bind_of_ok hreply, Act.bind_pure_apply, notify_eq]
  exact ⟨rfl, rfl⟩

theorem procBlock_fst (w : World β) (m : ConnectionManager.World) :
    tryBlock S (execProcCall b args) (fun _ dbOverride ↦ do
        record (.manager b.instanceId)
        let raw ← Act.ofExcept (ConnectionManager.executeProc M b.instanceId args.procName args.params dbOverride m).1
        procReply b raw) w =
      ((procBlock S M b args (w, m)).1, (procBlock S M b args (w, m)).2.1) := by
  rw [tryBlock_eq]
  rcases hg : passGates S (execProcCall b args) w with ⟨r, w₀⟩
  cases r with
  | error e => rw [Act.bind_of_error hg, procBlock_of_denied hg]
  | ok p =>
    obtain ⟨u, dbOverride⟩ := p
    rw [Act.bind_of_ok hg]
    dsimp only
    rcases hm : ConnectionManager.executeProc M b.instanceId args.procName args.params dbOverride m with ⟨raw, m₁⟩
    cases raw with
    | error e =>
      rw [procBlock_of_failed hg hm]
      rfl
    | ok raw =>
      rw [procBlock_of_executed hg hm, Act.bind_assoc]
      rfl

/-- The tool is the one of the other model, with the manager's answer for the driver's. -/
theorem execProcManaged_fst (w : World β) (m : ConnectionManager.World) :
    ((execProcManaged S M b args (w, m)).1, (execProcManaged S M b args (w, m)).2.1) =
      runTool S (execProcCall b args) (readLadder S) (fun _ dbOverride ↦ do
        record (.manager b.instanceId)
        let raw ← Act.ofExcept (ConnectionManager.executeProc M b.instanceId args.procName args.params dbOverride m).1
        procReply b raw) w := by
  rcases hb : procBlock S M b args (w.begin args.actor, m) with ⟨t, w₁, m₁⟩
  have htry : tryBlock S (execProcCall b args) _ (w.begin args.actor) = _ := procBlock_fst (M := M) _ m
  rw [hb] at htry
  rw [execProcManaged_eq hb]
  have hreq : (execProcCall b args).sql = Request.auditSql (.execProc args) := rfl
  exact (runTool_eq_conclude rfl hreq htry).symm

/-- The gates of the call pass, and the manager gets right behind the commit of its procedure. -/
def ProcCommitted (S : Site β) (M : ConnectionManager.Site) (b : Binding) (args : ExecProcArgs) (w : World β)
    (m : ConnectionManager.World) (w₀ : World β) (c : Pool.Conn) (m₀ : ConnectionManager.World) : Prop :=
  ∃ dbOverride, passGates S (execProcCall b args) (w.begin args.actor) = (.ok ((), dbOverride), w₀) ∧
    ∃ d, AtCommit M b.instanceId args.procName args.params dbOverride m c d m₀

/-- The call ends with an `Exception`, or its audit event has the decision `deny`. -/
def ReportsFailure (w : World β) (r : Except Exc Value) (w' : World β) : Prop :=
  (∃ e, r = .error e ∧ e.caught = true) ∨ ∃ ev : AuditEvent, w'.audit = w.audit ++ [ev] ∧ ev.decision = "deny".toList

theorem failure_of_conclude {e : Exc} (hlog : S.log (conclude S b (.execProc args) t w₁).2.trace = .ok ())
    (he : (conclude S b (.execProc args) t w₁).1 = .error e) (hcaught : e.caught = true) : (failure t).isSome = true := by
  rw [conclude_fst hlog] at he
  cases t with
  | ok v => cases he
  | error e' =>
    cases hc : e'.caught with
    | true => simp [failure, hc]
    | false =>
      rw [settle, ladder_uncaught hc] at he
      rw [Except.error.inj he, hcaught] at hc
      cases hc

theorem conclude_reportsFailure_iff {w : World β} (h : Verdict "allow".toList none w.deniedRequests w.audit w₁) :
    ReportsFailure w (conclude S b (.execProc args) t w₁).1 (conclude S b (.execProc args) t w₁).2 ↔
      (S.log (conclude S b (.execProc args) t w₁).2.trace = .ok () ∧ (failure t).isSome = true) ∨
        ∃ x, S.log (conclude S b (.execProc args) t w₁).2.trace = .error x ∧ x.caught = true := by
  have hend : Concluded S b (.execProc args) t w.deniedRequests w.audit (conclude S b (.execProc args) t w₁).1
      (conclude S b (.execProc args) t w₁).2 := conclude_concluded rfl h
  unfold ReportsFailure
  cases hlog : S.log (conclude S b (.execProc args) t w₁).2.trace with
  | error x =>
    obtain ⟨hr, haudit⟩ := hend.unlogged x hlog
    rw [hr, haudit]
    simp
  | ok u =>
    obtain ⟨hr, ev, haudit, hev⟩ := hend.logged hlog
    have hdecision : ev.decision = "deny".toList ↔ (failure t).isSome = true := by
      rw [hev.decision, decisionOf]
      cases failure t with
      | none => simp
      | some e => simp
    rw [haudit]
    constructor
    · rintro (⟨e, he, hcaught⟩ | ⟨ev', hev', hd⟩)
      · exact .inl ⟨rfl, failure_of_conclude hlog he hcaught⟩
      · obtain rfl : ev = ev' := by simpa using hev'
        exact .inl ⟨rfl, hdecision.mp hd⟩
    · rintro (⟨-, hf⟩ | ⟨x, hx, -⟩)
      · exact .inr ⟨ev, rfl, hdecision.mpr hf⟩
      · cases hx

omit [UnicodeData] in
theorem procTail_verdict {decision : Str} {errorCode : Option Str} {denied : ℕ} {audit : List AuditEvent} (raw : Value) :
    Invariant (Verdict decision errorCode denied audit) (procTail S b raw) := by
  have hrows (n : ℕ) : Invariant (Verdict decision errorCode denied audit) (setRows (β := β) n) :=
    Invariant.modify (fun w h ↦ ⟨h.1, h.2, h.3, h.4⟩)
  have hreply : Invariant (Verdict decision errorCode denied audit) (procReply (β := β) b raw) := by
    unfold procReply
    split
    · dsimp only
      split
      · exact .bind (hrows _) (fun _ ↦ Invariant.pure _)
      · exact Invariant.pure _
    · exact Invariant.raise _
  exact .bind hreply (fun _ ↦ .bind (notify_invariant (fun w h ↦ h.record _)) (fun _ ↦ Invariant.pure _))

theorem procBlock_verdict {decision : Str} {errorCode : Option Str} {denied : ℕ} {audit : List AuditEvent}
    (h : procBlock S M b args (w, m) = (t, w₁, m₁)) (hw : Verdict decision errorCode denied audit w) :
    Verdict decision errorCode denied audit w₁ := by
  have hpass : Triple (Verdict decision errorCode denied audit) (passGates S (execProcCall b args))
      (fun _ ↦ Verdict decision errorCode denied audit) (fun _ ↦ Verdict decision errorCode denied audit) :=
    (passGates_triple (gateStages_verdict _)).mono (fun _ h ↦ h) (fun _ _ h ↦ h.2) (fun _ _ h ↦ h)
  have hgates := (hpass w hw).snd (fun _ _ h ↦ h) (fun _ _ h ↦ h)
  rcases hg : passGates S (execProcCall b args) w with ⟨r, w₀⟩
  rw [hg] at hgates
  cases r with
  | error e =>
    rw [procBlock_of_denied hg] at h
    cases h
    exact hgates
  | ok p =>
    obtain ⟨u, dbOverride⟩ := p
    rcases hm : ConnectionManager.executeProc M b.instanceId args.procName args.params dbOverride m with ⟨raw, m'⟩
    cases raw with
    | error e =>
      rw [procBlock_of_failed hg hm] at h
      cases h
      exact hgates.record _
    | ok raw =>
      rw [procBlock_of_executed hg hm] at h
      have htail := (procTail_verdict (S := S) (b := b) raw _ (hgates.record (.manager b.instanceId))).snd
        (fun _ _ h ↦ h) (fun _ _ h ↦ h)
      cases h
      exact htail

/-- The exception that the call still runs into behind its commit. -/
def lateError (S : Site β) (M : ConnectionManager.Site) (b : Binding) (w₀ : World β) (c : Pool.Conn)
    (m₀ : ConnectionManager.World) : Except Exc Unit := do
  let _ ← M.answer (m₀.log ++ [.call (.rowcount c)])
  notification S (w₀.record (.manager b.instanceId))

def auditTrace (S : Site β) (M : ConnectionManager.Site) (b : Binding) (w₀ : World β) (c : Pool.Conn)
    (m₀ : ConnectionManager.World) : List Event :=
  w₀.trace ++ [.manager b.instanceId] ++
    (match M.answer (m₀.log ++ [.call (.rowcount c)]) with
    | .ok _ => notices S
    | .error _ => []) ++
    (match lateError S M b w₀ c m₀ with
    | .ok _ => []
    | .error e => if e.caught then notices S else []) ++ [.logEvent b.tool]

/-- No `Exception` meets the call behind its commit, or a `BaseException` breaks off its audit write. -/
def Acknowledged (S : Site β) (M : ConnectionManager.Site) (b : Binding) (w₀ : World β) (c : Pool.Conn)
    (m₀ : ConnectionManager.World) : Prop :=
  match S.log (auditTrace S M b w₀ c m₀) with
  | .ok _ => ∀ e, lateError S M b w₀ c m₀ = .error e → e.caught = false
  | .error x => x.caught = false

theorem settle_trace : (settle S b (.execProc args) t w₁).2.trace =
    w₁.trace ++ if (failure t).isSome then notices S else [] := by
  cases t with
  | ok v => exact (List.append_nil _).symm
  | error e =>
    cases he : e.caught with
    | false =>
      rw [settle, ladder_uncaught he]
      simp [failure, he, Act.raise]
    | true =>
      have hdeny : (deny S (Clauses.read.counts e) (Clauses.read.code e) w₁).2.trace = w₁.trace ++ notices S := by
        show (notify S _).2.trace = _
        rw [notify_eq]
        rfl
      have hsettle : settle S b (.execProc args) (.error e) w₁ =
          (deny S (Clauses.read.counts e) (Clauses.read.code e) >>= fun _ ↦ Act.raise e) w₁ :=
        congrFun (ladder_caught rfl he) w₁
      have hf : (failure (.error e)).isSome = true := by simp [failure, he]
      rw [hsettle, if_pos hf, ← hdeny]
      rcases hd : deny S (Clauses.read.counts e) (Clauses.read.code e) w₁ with ⟨r, w₂⟩
      cases r with
      | ok u => rw [Act.bind_of_ok hd, Act.raise]
      | error x => rw [Act.bind_of_error hd]

omit [UnicodeData] in
theorem logAuditEvent_trace (sql : Str) (w : World β) :
    (logAuditEvent S b sql w).2.trace = w.trace ++ [.logEvent b.tool] := by
  have htrace : Triple (fun w' ↦ w'.trace = w.trace) (logAuditEvent S b sql)
      (fun _ w' ↦ w'.trace = w.trace ++ [.logEvent b.tool]) (fun _ w' ↦ w'.trace = w.trace ++ [.logEvent b.tool]) := by
    refine .modify_bind (I := fun w' ↦ w'.trace = w.trace ++ [.logEvent b.tool]) (fun w' h ↦ ?_) ?_
    · exact congrArg (· ++ [Event.logEvent b.tool]) h
    · refine .read_bind (fun w' h ↦ ?_)
      dsimp only [id]
      cases S.log w'.trace with
      | error e =>
        rintro _ rfl
        exact h
      | ok u =>
        rintro _ rfl
        exact h
  exact (htrace w rfl).snd (fun _ _ h ↦ h) (fun _ _ h ↦ h)

theorem conclude_trace :
    (conclude S b (.execProc args) t w₁).2.trace =
      w₁.trace ++ (if (failure t).isSome then notices S else []) ++ [.logEvent b.tool] := by
  have hlog := logAuditEvent_trace (S := S) (b := b) (Request.auditSql (.execProc args))
    (settle S b (.execProc args) t w₁).2
  rw [settle_trace] at hlog
  rw [← hlog]
  rcases hs : settle S b (.execProc args) t w₁ with ⟨r₀, w₂⟩
  dsimp only
  rcases hw : logAuditEvent S b (Request.auditSql (.execProc args)) w₂ with ⟨r, w₃⟩
  cases r with
  | ok u => rw [conclude, Act.ensuring_of_ok hs hw]
  | error x => rw [conclude, Act.ensuring_of_error hs hw]

variable {c : Pool.Conn} {m₀ : ConnectionManager.World}

theorem ProcCommitted.procBlock (h : ProcCommitted S M b args w m w₀ c m₀)
    (hblock : procBlock S M b args (w.begin args.actor, m) = (t, w₁, m₁)) :
    Committed M m.log m₁.log ∧ t.map (fun _ ↦ ()) = lateError S M b w₀ c m₀ ∧
      (conclude S b (.execProc args) t w₁).2.trace = auditTrace S M b w₀ c m₀ := by
  obtain ⟨dbOverride, hg, d, hc⟩ := h
  obtain ⟨hcommitted, hresult⟩ := hc.executeProc_eq
  rcases hm : ConnectionManager.executeProc M b.instanceId args.procName args.params dbOverride m with ⟨raw, m₂⟩
  rw [hm] at hcommitted hresult
  rw [conclude_trace, auditTrace, lateError]
  cases hrow : M.answer (m₀.log ++ [.call (.rowcount c)]) with
  | error e =>
    obtain rfl : raw = .error e := hresult.trans (by rw [hrow]; rfl)
    rw [procBlock_of_failed hg hm] at hblock
    cases hblock
    refine ⟨hcommitted, rfl, ?_⟩
    cases he : e.caught with
    | false => simp [failure, he, World.record, Bind.bind, Except.bind]
    | true => simp [failure, he, World.record, Bind.bind, Except.bind]
  | ok reply =>
    obtain rfl : raw = .ok _ := hresult.trans (by rw [hrow]; rfl)
    rw [procBlock_of_executed hg hm] at hblock
    obtain ⟨v, hv, htrace⟩ := @procTail_result _ S b args d reply.rowcount (w₀.record (.manager b.instanceId))
    cases hblock
    rw [htrace, hv]
    dsimp only [Bind.bind, Except.bind]
    refine ⟨hcommitted, ?_, ?_⟩
    · cases notification S (w₀.record (.manager b.instanceId)) with
      | ok u => rfl
      | error e => rfl
    · cases notification S (w₀.record (.manager b.instanceId)) with
      | ok u => simp [failure, Except.map, World.record]
      | error e =>
        cases he : e.caught with
        | false => simp [failure, he, Except.map, World.record]
        | true => simp [failure, he, Except.map, World.record]

theorem procBlock_of_not_committed (h : ∀ w₀ c m₀, ¬ ProcCommitted S M b args w m w₀ c m₀)
    (hblock : McpSqlServer.procBlock S M b args (w.begin args.actor, m) = (t, w₁, m₁)) :
    ¬ Committed M m.log m₁.log := by
  rcases hg : passGates S (execProcCall b args) (w.begin args.actor) with ⟨r, w₀⟩
  cases r with
  | error e =>
    rw [procBlock_of_denied hg] at hblock
    cases hblock
    exact ConnectionManager.not_committed_self
  | ok p =>
    obtain ⟨u, dbOverride⟩ := p
    have hnot : ∀ c d m₀, ¬ AtCommit M b.instanceId args.procName args.params dbOverride m c d m₀ :=
      fun c d m₀ hc ↦ h w₀ c m₀ ⟨dbOverride, hg, d, hc⟩
    obtain ⟨hc, e, he⟩ := ConnectionManager.executeProc_of_not_atCommit hnot
    rw [procBlock_of_failed hg (Prod.ext he rfl)] at hblock
    cases hblock
    exact hc

omit [UnicodeData] in
theorem acknowledged_iff (hlate : t.map (fun _ ↦ ()) = lateError S M b w₀ c m₀) :
    Acknowledged S M b w₀ c m₀ ↔ ¬ ((S.log (auditTrace S M b w₀ c m₀) = .ok () ∧ (failure t).isSome = true) ∨
      ∃ x, S.log (auditTrace S M b w₀ c m₀) = .error x ∧ x.caught = true) := by
  unfold Acknowledged
  rw [← hlate]
  cases S.log (auditTrace S M b w₀ c m₀) with
  | error x => simp
  | ok u =>
    cases t with
    | ok v => simp [failure, Except.map]
    | error e => simp [failure, Except.map]

theorem ProcCommitted.committed (h : ProcCommitted S M b args w m w₀ c m₀) :
    Committed M m.log (execProcManaged S M b args (w, m)).2.2.log := by
  rcases hblock : McpSqlServer.procBlock S M b args (w.begin args.actor, m) with ⟨t, w₁, m₁⟩
  rw [execProcManaged_eq hblock]
  exact (h.procBlock hblock).1

theorem ProcCommitted.reportsFailure_iff (h : ProcCommitted S M b args w m w₀ c m₀) :
    ReportsFailure w (execProcManaged S M b args (w, m)).1 (execProcManaged S M b args (w, m)).2.1 ↔
      ¬ Acknowledged S M b w₀ c m₀ := by
  rcases hblock : McpSqlServer.procBlock S M b args (w.begin args.actor, m) with ⟨t, w₁, m₁⟩
  have hverdict : Verdict "allow".toList none w.deniedRequests w.audit w₁ :=
    procBlock_verdict hblock ⟨rfl, rfl, rfl, rfl⟩
  obtain ⟨-, hlate, htrace⟩ := h.procBlock hblock
  rw [execProcManaged_eq hblock, acknowledged_iff hlate, not_not, ← htrace]
  exact conclude_reportsFailure_iff hverdict

theorem exists_procCommitted (h : Committed M m.log (execProcManaged S M b args (w, m)).2.2.log) :
    ∃ w₀ c m₀, ProcCommitted S M b args w m w₀ c m₀ := by
  rcases hblock : procBlock S M b args (w.begin args.actor, m) with ⟨t, w₁, m₁⟩
  rw [execProcManaged_eq hblock] at h
  by_contra hn
  refine procBlock_of_not_committed (fun w₀ c m₀ hc ↦ ?_) hblock h
  exact hn ⟨w₀, c, m₀, hc⟩

/-- A call of `exec_proc` that reports a failure has committed nothing, exactly when no
`Exception` can meet a call behind the commit. -/
theorem execProc_failure_iff (S : Site β) (M : ConnectionManager.Site) (b : Binding) (args : ExecProcArgs) (w : World β)
    (m : ConnectionManager.World) :
    let out := execProcManaged S M b args (w, m)
    (ReportsFailure w out.1 out.2.1 → ¬ Committed M m.log out.2.2.log) ↔
      ∀ w₀ c m₀, ProcCommitted S M b args w m w₀ c m₀ → Acknowledged S M b w₀ c m₀ := by
  intro out
  constructor
  · intro h w₀ c m₀ hc
    by_contra hn
    exact h (hc.reportsFailure_iff.mpr hn) hc.committed
  · intro h hf hcommitted
    obtain ⟨w₀, c, m₀, hc⟩ := exists_procCommitted hcommitted
    exact hc.reportsFailure_iff.mp hf (h w₀ c m₀ hc)

end Runs

def willingSite : ConnectionManager.Site :=
  { ConnectionManager.lossySite with
    answer := fun _ ↦ .ok {}
    answer_onlyExceptions := fun _ ↦ .ok _ }

def closedResource : Exc := .ofMessage .other "ClosedResourceError".toList []

def Event.isManager : Event → Bool
  | .manager _ => true
  | _ => false

def goneSite : Site Unit :=
  { openSite dropDenied [] with
    ctx := some ⟨none, fun trace ↦ if trace.any Event.isManager then .error closedResource else .ok ()⟩ }

def execProcBinding : Binding := ⟨"db_1_sql2019_exec_proc".toList, "primary".toList, 1⟩

def procCall : ExecProcArgs where
  procName := "dbo.p".toList

theorem late_notification_denies_commit :
    ¬ ∀ [UnicodeData] (S : Site Unit) (M : ConnectionManager.Site) (b : Binding) (args : ExecProcArgs) (w : World Unit)
      (m : ConnectionManager.World), let out := execProcManaged S M b args (w, m)
      ReportsFailure w out.1 out.2.1 → ¬ Committed M m.log out.2.2.log := by
  intro h
  let _ := asciiData
  obtain ⟨w₀, m₀, hc, hlate⟩ : ∃ w₀ m₀, ProcCommitted goneSite willingSite execProcBinding procCall freshWorld {} w₀ 0 m₀ ∧
      lateError goneSite willingSite execProcBinding w₀ 0 m₀ = .error closedResource :=
    ⟨_, _, ⟨none, rfl, _, true, _, rfl, rfl⟩, rfl⟩
  have hfailure := hc.reportsFailure_iff.mpr (fun hack ↦ ?_)
  · exact h goneSite willingSite execProcBinding procCall freshWorld {} hfailure hc.committed
  · have hcaught : closedResource.caught = false := (show ∀ e, _ from hack) closedResource hlate
    cases hcaught

end McpSqlServer

import McpSqlServer.Tools.CallTraces

namespace McpSqlServer

open Library Library.Text Library.Python

section UnicodeData

variable {β α : Type} [UnicodeData] (S : Site β) (b : Binding)

def Attempted (req : Request) (w : World β) (t : Except Exc Value) (w₁ : World β) : Prop :=
  ∃ (α : Type) (call : ToolCall α) (body : α → Option Str → ToolM β Value),
    ToolParts S b req (runRequest S b req) call body ∧ tryBlock S call body (w.begin req.actor) = (t, w₁)

def settle (req : Request) : Except Exc Value → ToolM β Value
  | .ok v => pure v
  | .error e => req.ladder S b e

/-- The `except` and `finally` clauses behind a `try` block that has ended with `t`. -/
def conclude (req : Request) (t : Except Exc Value) : ToolM β Value :=
  Act.ensuring (settle S b req t) (logAuditEvent S b req.auditSql)

variable {S b} {req : Request} {w w₁ : World β} {t r : Except Exc Value}

theorem runTool_eq_conclude {call : ToolCall α} {body : α → Option Str → ToolM β Value} (hb : call.binding = b)
    (hs : call.sql = req.auditSql) (ht : tryBlock S call body (w.begin call.actor) = (t, w₁)) :
    runTool S call (req.ladder S b) body w = conclude S b req t w₁ := by
  rw [runTool_eq, hb, hs, conclude]
  unfold Act.ensuring Act.catching
  rw [ht]
  cases t with
  | ok v => rfl
  | error e => rfl

theorem Attempted.runRequest_eq (h : Attempted S b req w t w₁) : runRequest S b req w = conclude S b req t w₁ := by
  obtain ⟨α, call, body, hp, ht⟩ := h
  rw [hp.run]
  exact runTool_eq_conclude hp.binding hp.sql.symm (hp.actor ▸ ht)

theorem exists_attempted (hs : req.sendsSql = true) (w : World β) : ∃ t w₁, Attempted S b req w t w₁ := by
  obtain ⟨α, call, body, hp⟩ := runRequest_isTool b S hs
  exact ⟨_, _, α, call, body, hp, rfl⟩

/-- What a call has decided so far, and what the counter and the log hold. -/
structure Verdict (decision : Str) (errorCode : Option Str) (denied : ℕ) (audit : List AuditEvent) (w : World β) :
    Prop where
  decision : w.frame.decision = decision
  errorCode : w.frame.errorCode = errorCode
  denied : w.deniedRequests = denied
  audit : w.audit = audit

section Try

variable {decision : Str} {errorCode : Option Str} {denied : ℕ} {audit : List AuditEvent}

omit [UnicodeData] in
theorem Verdict.record (h : Verdict decision errorCode denied audit w) (e : Event) :
    Verdict decision errorCode denied audit (w.record e) := ⟨h.1, h.2, h.3, h.4⟩

omit [UnicodeData] in
theorem undisturbed_verdict (instanceId : Str) (stmts : Statement → Prop) :
    Undisturbed (β := β) instanceId stmts (Verdict decision errorCode denied audit) where
  notify _ h := h.record _
  query _ e _ h := h.record e
  rows _ _ h := ⟨h.1, h.2, h.3, h.4⟩
  pages _ _ h := ⟨h.1, h.2, h.3, h.4⟩

theorem resolveActor_verdict (required : Privilege) :
    Invariant (Verdict decision errorCode denied audit) (resolveActorAndAuthorize S required) := by
  refine .bind (.read _) (fun actor ↦ ?_)
  split
  · exact refuse_triple (fun w h ↦ h.record _)
  · refine .bind (notifyIf_invariant _ (fun w h ↦ h.record _)) (fun _ ↦ .bind (.modify (fun w h ↦ ?_)) (fun _ ↦ ?_))
    · exact ⟨h.1, h.2, h.3, h.4⟩
    · exact pass_triple (fun w h ↦ h.record _)

omit [UnicodeData] in
theorem touchSession_verdict (sessionId : Option Str) :
    Invariant (Verdict decision errorCode denied audit) (touchSession S sessionId) := by
  apply touchSession_triple
  · intro w sessions h _
    exact ⟨h.1, h.2, h.3, h.4⟩
  · intro w e sessions h _
    exact ⟨h.1, h.2, h.3, h.4⟩

omit [UnicodeData] in
theorem allowRequest_verdict : Invariant (Verdict decision errorCode denied audit) (allowRequest S) := by
  apply allowRequest_triple
  · intro w buckets h _
    exact ⟨h.1, h.2, h.3, h.4⟩
  · intro w e buckets h _
    exact ⟨h.1, h.2, h.3, h.4⟩

theorem checkGuards_verdict (guards : List Gate) :
    Invariant (Verdict decision errorCode denied audit) (checkGuards S guards) := by
  induction guards with
  | nil => exact Invariant.pure ()
  | cons g gates ih =>
    refine .bind ?_ (fun _ ↦ ih)
    apply checkGuard_triple
    · intro w h _
      exact h.record _
    · intro w e h _
      exact h.record _

theorem gateStages_verdict (call : ToolCall α) :
    GateStages S call (Verdict decision errorCode denied audit) (Verdict decision errorCode denied audit)
      (Verdict decision errorCode denied audit) (Verdict decision errorCode denied audit)
      (Verdict decision errorCode denied audit) (fun _ ↦ Verdict decision errorCode denied audit) where
  notified := notify_invariant (fun _ h ↦ h.record _)
  checked _ _ _ h := h
  resolved := resolveActor_verdict _
  touched := touchSession_verdict _
  touched_notified := notifyIf_invariant _ (fun _ h ↦ h.record _)
  allowed := allowRequest_verdict
  allowed_notified := notifyIf_invariant _ (fun _ h ↦ h.record _)
  guarded := checkGuards_verdict _
  guarded_notified := notifyIf_invariant _ (fun _ h ↦ h.record _)
  targeted _ _ _ h := h

/-- Before its `except` clauses a call decides nothing. -/
theorem tryBlock_verdict {call : ToolCall α} {body : α → Option Str → ToolM β Value}
    (hb : ∀ input db, Invariant (Verdict decision errorCode denied audit) (body input db)) :
    Invariant (Verdict decision errorCode denied audit) (tryBlock S call body) :=
  tryBlock_triple (gateStages_verdict call) (fun input db _ _ ↦ hb input db)
    (fun _ ↦ notify_invariant (fun _ h ↦ h.record _))

theorem Attempted.verdict (h : Attempted S b req w t w₁) :
    Verdict "allow".toList none w.deniedRequests w.audit w₁ := by
  obtain ⟨α, call, body, hp, ht⟩ := h
  have hundisturbed : Undisturbed b.instanceId req.Sends
      (Verdict (β := β) "allow".toList none w.deniedRequests w.audit) := undisturbed_verdict _ _
  have hbody := hp.toolBody.body_invariant _ hundisturbed
  have hends : Ends _ _ (tryBlock S call body (w.begin req.actor)) := tryBlock_verdict hbody _ ⟨rfl, rfl, rfl, rfl⟩
  rw [ht] at hends
  exact hends.snd (fun _ _ h ↦ h) (fun _ _ h ↦ h)

theorem Attempted.reply {v : Value} (h : Attempted S b req w (.ok v) w₁) : ¬ req.FailurePayload v := by
  obtain ⟨α, call, body, hp, ht⟩ := h
  have hgates : Triple (fun _ ↦ True) (passGates S call) (fun _ _ ↦ True) (fun _ _ ↦ True) :=
    .of_forall (fun _ _ ↦ trivial) (fun _ _ ↦ trivial)
  have hreply : Triple (fun _ ↦ True) (tryBlock S call body) (fun v _ ↦ ¬ req.FailurePayload v) (fun _ _ ↦ True) := by
    rw [tryBlock_eq]
    refine .bind hgates (fun p ↦ .bind (hp.reply p.1 p.2) (fun v ↦ ?_))
    exact .bind (notify_invariant (I := fun _ ↦ ¬ req.FailurePayload v) (fun _ h ↦ h) |>.mono (fun _ h ↦ h)
      (fun _ _ h ↦ h) (fun _ _ _ ↦ trivial)) (fun _ ↦ .pure (fun _ h ↦ h))
  have hends := hreply (w.begin req.actor) trivial
  rw [ht] at hends
  exact hends

end Try

section Clauses

def readCode (e : Exc) : Str :=
  if e.kind = .permissionError then e.text
  else match extractSqlError e with
    | some err => err.code
    | none => "NON_SQL_ERROR:".toList ++ e.className

omit [UnicodeData] in
def pingCode (e : Exc) : Str := "INSTANCE_UNREACHABLE: ".toList ++ e.text

omit [UnicodeData] in
def pingFailure (S : Site β) (b : Binding) (e : Exc) : ToolM β Value := do
  let now ← utcNow S
  pure (.dict (pingReply b false [] ++
    [("current_system_date".toList, .str now), ("error_code".toList, .str (pingCode e))]))

omit [UnicodeData] in
def Clauses.counts : Clauses → Exc → Bool
  | .none, _ => false
  | .read, e => e.kind = .permissionError
  | .wrap _, _ => true
  | .ping, _ => true

def Clauses.code : Clauses → Exc → Str
  | .none, _ => []
  | .read, e => readCode e
  | .wrap plain, e => if e.kind ∈ plain then e.text else sqlErrorCode e
  | .ping, e => pingCode e

def Clauses.answer (S : Site β) (b : Binding) : Clauses → Exc → ToolM β Value
  | .none, e => Act.raise e
  | .read, e => Act.raise e
  | .wrap plain, e => Act.raise (if e.kind ∈ plain then e else runtimeError (sqlErrorCode e))
  | .ping, e => pingFailure S b e

variable {e : Exc}

theorem readLadder_caught (he : e.caught = true) :
    readLadder S e = (do
      deny S (Clauses.read.counts e) (readCode e)
      Act.raise e) := by
  by_cases hp : e.kind = .permissionError
  · simp only [readLadder, readCode, Clauses.counts, hp, if_true, decide_true]
  · have hcounts : Clauses.read.counts e = false := decide_eq_false hp
    rw [hcounts, readCode, if_neg hp]
    exact (if_neg hp).trans (if_pos he)

theorem wrapLadder_caught (plain : List ExcKind) (he : e.caught = true) :
    wrapLadder S plain e = (do
      deny S true ((Clauses.wrap plain).code e)
      (Clauses.wrap plain).answer S b e) := by
  by_cases hp : e.kind ∈ plain
  · simp only [wrapLadder, Clauses.code, Clauses.answer, hp, if_true]
  · simp only [wrapLadder, Clauses.code, Clauses.answer, hp, he, if_true, if_false]

omit [UnicodeData] in
theorem pingLadder_caught (he : e.caught = true) :
    pingLadder S b e = (do
      deny S true (pingCode e)
      pingFailure S b e) := by
  rw [pingLadder, if_pos he]
  rfl

theorem ladder_caught (hs : req.sendsSql = true) (he : e.caught = true) :
    req.ladder S b e = (do
      deny S (req.clauses.counts e) (req.clauses.code e)
      req.clauses.answer S b e) := by
  cases hc : req.clauses with
  | none =>
    cases req with
    | latencyReport args => cases hs
    | _ => cases hc
  | read => rw [Request.ladder, hc]; exact readLadder_caught he
  | wrap plain => rw [Request.ladder, hc]; exact wrapLadder_caught plain he
  | ping => rw [Request.ladder, hc]; exact pingLadder_caught he

theorem ladder_uncaught (he : e.caught = false) : req.ladder S b e = Act.raise e := by
  have hk : e.kind = .cancelled := by simpa [Exc.caught] using he
  cases req with
  | _ => simp [Request.ladder, Request.clauses, Clauses.ladder, readLadder, wrapLadder, pingLadder, hk, he]

end Clauses

section Conclude

def failure : Except Exc Value → Option Exc
  | .ok _ => none
  | .error e => if e.caught then some e else none

def decisionOf (t : Except Exc Value) : Str := if (failure t).isSome then "deny".toList else "allow".toList

def Request.codeOf (req : Request) (t : Except Exc Value) : Option Str := (failure t).map req.clauses.code

def Request.countOf (req : Request) (t : Except Exc Value) : ℕ := ((failure t).any req.clauses.counts).toNat

/-- What the audit event of a call says of its tool and of its end. -/
structure AuditEvent.Reports (b : Binding) (decision : Str) (errorCode : Option Str) (ev : AuditEvent) : Prop where
  tool : ev.tool = b.tool
  instanceId : ev.instanceId = b.instanceId
  decision : ev.decision = decision
  errorCode : ev.errorCode = errorCode

variable {decision : Str} {errorCode : Option Str} {denied : ℕ} {audit : List AuditEvent}

omit [UnicodeData] in
theorem deny_verdict (counted : Bool) (code : Str) :
    Triple (Verdict decision errorCode denied audit) (deny S counted code)
      (fun _ ↦ Verdict "deny".toList (some code) (denied + counted.toNat) audit)
      (fun _ ↦ Verdict "deny".toList (some code) (denied + counted.toNat) audit) := by
  refine .modify_bind (I := Verdict "deny".toList (some code) denied audit) (fun w h ↦ ⟨rfl, rfl, h.3, h.4⟩) ?_
  refine .modify_bind (I := Verdict "deny".toList (some code) (denied + counted.toNat) audit) (fun w h ↦ ?_)
    (notify_invariant (fun w h ↦ h.record _))
  exact ⟨h.1, h.2, by rw [← h.3], h.4⟩

theorem answer_verdict (c : Clauses) (e : Exc) :
    Invariant (Verdict decision errorCode denied audit) (c.answer S b e) := by
  cases c with
  | none => exact Invariant.raise _
  | read => exact Invariant.raise _
  | wrap plain => exact Invariant.raise _
  | ping => exact .bind utcNow_invariant (fun _ ↦ Invariant.pure _)

theorem settle_verdict (hs : req.sendsSql = true) :
    Triple (Verdict "allow".toList none denied audit) (settle S b req t)
      (fun _ ↦ Verdict (decisionOf t) (req.codeOf t) (denied + req.countOf t) audit)
      (fun _ ↦ Verdict (decisionOf t) (req.codeOf t) (denied + req.countOf t) audit) := by
  cases t with
  | ok v => exact .pure (fun _ h ↦ h)
  | error e =>
    cases he : e.caught with
    | false =>
      have hf : failure (.error e) = none := by simp [failure, he]
      rw [settle, ladder_uncaught he, decisionOf, Request.codeOf, Request.countOf, hf]
      exact .raise (fun _ h ↦ h)
    | true =>
      have hf : failure (.error e) = some e := by simp [failure, he]
      rw [settle, ladder_caught hs he, decisionOf, Request.codeOf, Request.countOf, hf]
      exact .bind (deny_verdict _ _) (fun _ ↦ answer_verdict _ e)

def Settles (req : Request) (t r : Except Exc Value) : Prop :=
  match t, r with
  | .ok v, .ok v' => v' = v
  | .ok _, .error _ => False
  | .error _, .ok v => req.FailurePayload v
  | .error _, .error _ => True

theorem settle_settles (hs : req.sendsSql = true) :
    Triple (fun _ ↦ True) (settle S b req t) (fun v _ ↦ Settles req t (.ok v)) (fun e _ ↦ Settles req t (.error e)) := by
  cases t with
  | ok v => exact .pure (fun _ _ ↦ rfl)
  | error e =>
    cases he : e.caught with
    | false =>
      rw [settle, ladder_uncaught he]
      exact .raise (fun _ _ ↦ trivial)
    | true =>
      rw [settle, ladder_caught hs he]
      refine .bind (R := fun _ _ ↦ True) (.of_forall (fun _ _ ↦ trivial) (fun _ _ ↦ trivial)) (fun _ ↦ ?_)
      cases req with
      | ping args =>
        refine .bind (R := fun _ _ ↦ True) (.of_forall (fun _ _ ↦ trivial) (fun _ _ ↦ trivial)) (fun now ↦ ?_)
        exact .pure (fun _ _ ↦ rfl)
      | _ => exact .raise (fun _ _ ↦ trivial)

omit [UnicodeData] in
theorem logAuditEvent_reports (sql : Str) :
    Triple (Verdict decision errorCode denied audit) (logAuditEvent S b sql)
      (fun _ w ↦ S.log w.trace = .ok () ∧ w.deniedRequests = denied ∧
        ∃ ev : AuditEvent, w.audit = audit ++ [ev] ∧ ev.Reports b decision errorCode)
      (fun e w ↦ S.log w.trace = .error e ∧ w.deniedRequests = denied ∧ w.audit = audit) := by
  refine .modify_bind (I := Verdict decision errorCode denied audit) (fun w h ↦ h.record _) ?_
  refine .read_bind (fun w h ↦ ?_)
  dsimp only [id]
  cases hlog : S.log w.trace with
  | error e =>
    rintro _ rfl
    exact ⟨hlog, h.denied, h.audit⟩
  | ok u =>
    rintro _ rfl
    exact ⟨hlog, h.denied, _, congrArg (· ++ _) h.audit, rfl, rfl, h.decision, h.errorCode⟩

structure Concluded (S : Site β) (b : Binding) (req : Request) (t : Except Exc Value) (denied : ℕ)
    (audit : List AuditEvent) (r : Except Exc Value) (w : World β) : Prop where
  denied : w.deniedRequests = denied + req.countOf t
  logged : S.log w.trace = .ok () → Settles req t r ∧
    ∃ ev : AuditEvent, w.audit = audit ++ [ev] ∧ ev.Reports b (decisionOf t) (req.codeOf t)
  unlogged : ∀ e, S.log w.trace = .error e → r = .error e ∧ w.audit = audit

theorem log_concluded {r : Except Exc Value} (hr : Settles req t r) :
    Triple (Verdict (decisionOf t) (req.codeOf t) (denied + req.countOf t) audit)
      (logAuditEvent S b req.auditSql) (fun _ ↦ Concluded S b req t denied audit r)
      (fun e ↦ Concluded S b req t denied audit (.error e)) := by
  refine (logAuditEvent_reports req.auditSql).mono (fun _ h ↦ h) (fun _ w h ↦ ?_) (fun e w h ↦ ?_)
  · obtain ⟨hlog, hdenied, haudit⟩ := h
    refine ⟨hdenied, fun _ ↦ ⟨hr, haudit⟩, fun e he ↦ ?_⟩
    rw [hlog] at he
    cases he
  · obtain ⟨hlog, hdenied, haudit⟩ := h
    refine ⟨hdenied, fun hok ↦ ?_, fun e' he ↦ ⟨?_, haudit⟩⟩
    · rw [hlog] at hok
      cases hok
    · exact congrArg Except.error (Except.error.inj (hlog.symm.trans he))

theorem conclude_concluded (hs : req.sendsSql = true) (h : Verdict "allow".toList none denied audit w₁) :
    Concluded S b req t denied audit (conclude S b req t w₁).1 (conclude S b req t w₁).2 := by
  have hsettle : Triple (Verdict "allow".toList none denied audit) (settle S b req t)
      (fun v w ↦ Settles req t (.ok v) ∧ Verdict (decisionOf t) (req.codeOf t) (denied + req.countOf t) audit w)
      (fun e w ↦ Settles req t (.error e) ∧ Verdict (decisionOf t) (req.codeOf t) (denied + req.countOf t) audit w) :=
    ((settle_settles hs).mono (fun _ _ ↦ trivial) (fun _ _ h ↦ h) (fun _ _ h ↦ h)).and (settle_verdict hs)
  have hends : Triple (Verdict "allow".toList none denied audit) (conclude S b req t)
      (fun v ↦ Concluded S b req t denied audit (.ok v)) (fun e ↦ Concluded S b req t denied audit (.error e)) := by
    exact .ensuring hsettle (fun v ↦ .extract (fun hv ↦ log_concluded hv)) (fun e ↦ .extract (fun he ↦ log_concluded he))
  exact (hends w₁ h).result

/-- What one call does to the counter and to the log, and how it answers. -/
theorem Attempted.concluded (hs : req.sendsSql = true) (h : Attempted S b req w t w₁) :
    Concluded S b req t w.deniedRequests w.audit (runRequest S b req w).1 (runRequest S b req w).2 := by
  rw [h.runRequest_eq]
  exact conclude_concluded hs h.verdict

end Conclude

section Truthful

/-- The tool body has returned a result. The failure payload of `_ping` is none. -/
def Answered (req : Request) (r : Except Exc Value) : Prop := ∃ v, r = .ok v ∧ ¬ req.FailurePayload v

/-- The call has written one audit event, which names its registered tool and instance and
allows the call if and only if that has returned a result. -/
def TruthfullyAudited (b : Binding) (req : Request) (w : World β) (r : Except Exc Value) (w' : World β) : Prop :=
  ∃ ev : AuditEvent, w'.audit = w.audit ++ [ev] ∧ ev.tool = b.tool ∧ ev.instanceId = b.instanceId ∧
    (ev.decision = "allow".toList ↔ Answered req r)

def BrokenOff (S : Site β) (b : Binding) (req : Request) (w : World β) : Prop :=
  ∃ e w₁, Attempted S b req w (.error e) w₁ ∧ e.caught = false

omit [UnicodeData] in
theorem decisionOf_eq_allow : decisionOf t = "allow".toList ↔ failure t = none := by
  cases h : failure t with
  | none => simp [decisionOf, h]
  | some e => simp [decisionOf, h]

theorem Attempted.answered_iff (h : Attempted S b req w t w₁) (hr : Settles req t r) :
    Answered req r ↔ ∃ v, t = .ok v := by
  constructor
  · intro ⟨v, hv, hn⟩
    subst hv
    cases t with
    | ok v' => exact ⟨v', rfl⟩
    | error e => exact absurd hr hn
  · intro ⟨v, hv⟩
    subst hv
    cases r with
    | ok v' =>
      obtain rfl : v' = v := hr
      exact ⟨v', rfl, h.reply⟩
    | error e => exact hr.elim

/-- The event of a call is truthful unless a `BaseException` leaves the `try` block: the
decision starts as `allow`, and only the clauses for an `Exception` correct it. -/
theorem Attempted.truthful_iff (hs : req.sendsSql = true) (h : Attempted S b req w t w₁) {b' : Binding}
    (hlog : S.log (runRequest S b req w).2.trace = .ok ()) :
    TruthfullyAudited b' req w (runRequest S b req w).1 (runRequest S b req w).2 ↔
      b.tool = b'.tool ∧ b.instanceId = b'.instanceId ∧ ∀ e, t = .error e → e.caught = true := by
  obtain ⟨hr, ev, haudit, hev⟩ := (h.concluded hs).logged hlog
  have hdecision : (ev.decision = "allow".toList ↔ Answered req (runRequest S b req w).1) ↔
      ∀ e, t = .error e → e.caught = true := by
    rw [hev.decision, decisionOf_eq_allow, h.answered_iff hr]
    cases t with
    | ok v => simp [failure]
    | error e => simp [failure]
  constructor
  · intro ⟨ev', haudit', htool, hinst, hd⟩
    obtain rfl : ev = ev' := by simpa using haudit.symm.trans haudit'
    exact ⟨hev.tool.symm.trans htool, hev.instanceId.symm.trans hinst, hdecision.mp hd⟩
  · intro ⟨htool, hinst, hcaught⟩
    exact ⟨ev, haudit, hev.tool.trans htool, hev.instanceId.trans hinst, hdecision.mpr hcaught⟩

variable {o : Overrides}

/-- A call writes one truthful event exactly when its tool writes any, its caller overrides
neither tool nor instance, and it is not broken off inside its `try` block. -/
theorem invoke_truthfullyAudited_iff (hlog : S.log (invoke S b o req w).2.trace = .ok ()) :
    TruthfullyAudited b req w (invoke S b o req w).1 (invoke S b o req w).2 ↔
      req.sendsSql = true ∧ (b.override o).tool = b.tool ∧ (b.override o).instanceId = b.instanceId ∧
        ¬ BrokenOff S (b.override o) req w := by
  cases hs : req.sendsSql with
  | false =>
    have hsame : (invoke S b o req w).2.audit = w.audit := by
      cases req with
      | latencyReport args => rfl
      | _ => cases hs
    simp [TruthfullyAudited, hsame]
  | true =>
    obtain ⟨t, w₁, h⟩ := exists_attempted (S := S) (b := b.override o) hs w
    have hiff : TruthfullyAudited b req w _ _ ↔ _ := h.truthful_iff hs hlog
    constructor
    · intro htruth
      obtain ⟨htool, hinst, -⟩ := hiff.mp htruth
      refine ⟨rfl, htool, hinst, ?_⟩
      intro ⟨e, w₂, he, hn⟩
      have hcaught := ((he.truthful_iff hs hlog).mp htruth).2.2 e rfl
      rw [hn] at hcaught
      cases hcaught
    · intro ⟨_, htool, hinst, hbroken⟩
      refine hiff.mpr ⟨htool, hinst, fun e he ↦ ?_⟩
      subst he
      by_contra hn
      exact hbroken ⟨e, w₁, h, Bool.eq_false_iff.mpr hn⟩

end Truthful

end UnicodeData

def selectOne : Request := .select { sql := "SELECT 1".toList }

def primarySelect : Binding := ⟨"db_primary_sql2019_select".toList, "primary".toList, 1⟩

theorem invoke_truthfullyAudited_iff_select : let _ := asciiData
    let out := invoke (openSite {} []) primarySelect {} selectOne freshWorld
    TruthfullyAudited primarySelect selectOne freshWorld out.1 out.2 ↔
      selectOne.sendsSql = true ∧ (primarySelect.override {}).tool = primarySelect.tool ∧
        (primarySelect.override {}).instanceId = primarySelect.instanceId ∧
        ¬ BrokenOff (openSite {} []) (primarySelect.override {}) selectOne freshWorld := by
  intro U
  exact invoke_truthfullyAudited_iff (S := openSite {} []) rfl

def cancellation : Exc := .ofMessage .cancelled "CancelledError".toList []

def cancelledSite : Site Unit := { openSite {} [] with ctx := some ⟨none, fun _ ↦ .error cancellation⟩ }

theorem cancelled_call_allowed :
    ¬ ∀ [UnicodeData] (S : Site Unit) (b : Binding) (o : Overrides) (req : Request) (w : World Unit),
      S.log (invoke S b o req w).2.trace = .ok () →
      TruthfullyAudited b req w (invoke S b o req w).1 (invoke S b o req w).2 := by
  intro h
  let _ := asciiData
  obtain ⟨ev, haudit, -, -, hd⟩ := h cancelledSite primarySelect {} selectOne freshWorld rfl
  have hr : (invoke cancelledSite primarySelect {} selectOne freshWorld).1 = .error cancellation := rfl
  have hev : (invoke cancelledSite primarySelect {} selectOne freshWorld).2.audit.map AuditEvent.decision =
      ["allow".toList] := rfl
  rw [haudit] at hev
  have hallow : ev.decision = "allow".toList := by simpa [freshWorld] using hev
  obtain ⟨v, hv, -⟩ := hd.mp hallow
  rw [hr] at hv
  cases hv

end McpSqlServer

import McpSqlServer.Tools.GateOrder

namespace McpSqlServer

open Library Library.Text Library.Python

variable {β α : Type} {S : Site β} {p : Event → Prop}

def Every (p : Event → Prop) (w : World β) : Prop := ∀ e ∈ w.trace, p e

theorem Every.record {w : World β} {e : Event} (h : Every p w) (he : p e) : Every p (w.record e) := by
  intro d hd
  rcases List.mem_append.mp hd with hd | hd
  · exact h d hd
  · rwa [List.mem_singleton.mp hd]

theorem undisturbed_every {instanceId : Str} {stmts : Statement → Prop} (hn : p .notify)
    (hq : ∀ e : Event, e.QueryOf instanceId stmts → p e) : Undisturbed (β := β) instanceId stmts (Every p) where
  notify _ h := h.record hn
  rows _ _ h := h
  query _ e he h := h.record (hq e he)
  pages _ _ h := h

theorem quiet_every (hn : p .notify) : Quiet (β := β) (Every p) where
  notify _ h := h.record hn
  frame _ _ h := h
  denied _ _ h := h

theorem quiet_mentions (e : Event) : Quiet (β := β) (Mentions e) where
  notify _ h := h.record
  frame _ _ h := h
  denied _ _ h := h

section Gates

theorem touchSession_every (h : ∀ g : Gate, g.isGuard = false → p (.passed g) ∧ p (.refused g))
    (sessionId : Option Str) : Invariant (Every p) (touchSession S sessionId) := by
  apply touchSession_triple
  · intro w sessions hw _
    exact Every.record (w := { w with sessions := sessions }) hw (h _ rfl).1
  · intro w e sessions hw _
    exact Every.record (w := { w with sessions := sessions }) hw (h _ rfl).2

theorem allowRequest_every (h : ∀ g : Gate, g.isGuard = false → p (.passed g) ∧ p (.refused g)) :
    Invariant (Every p) (allowRequest S) := by
  apply allowRequest_triple
  · intro w buckets hw _
    exact Every.record (w := { w with buckets := buckets }) hw (h _ rfl).1
  · intro w e buckets hw _
    exact Every.record (w := { w with buckets := buckets }) hw (h _ rfl).2

variable [UnicodeData]

theorem checkGuards_every {guards : List Gate} (h : ∀ g ∈ guards, p (.passed g) ∧ p (.refused g)) :
    Invariant (Every p) (checkGuards S guards) := by
  induction guards with
  | nil => exact Invariant.pure ()
  | cons g gates ih =>
    refine .bind ?_ (fun _ ↦ ih (fun k hk ↦ h k (List.mem_cons_of_mem _ hk)))
    apply checkGuard_triple
    · intro w hw _
      exact hw.record (h g List.mem_cons_self).1
    · intro w e hw _
      exact hw.record (h g List.mem_cons_self).2

theorem resolveActor_every (hn : p .notify) (h : ∀ g : Gate, g.isGuard = false → p (.passed g) ∧ p (.refused g))
    (required : Privilege) : Invariant (Every p) (resolveActorAndAuthorize S required) := by
  refine .bind (.read _) (fun actor ↦ ?_)
  split
  · exact refuse_triple (fun w hw ↦ hw.record (h _ rfl).2)
  · refine .bind (notifyIf_invariant _ (fun w hw ↦ hw.record hn)) (fun _ ↦ .bind (.modify (fun w hw ↦ hw)) (fun _ ↦ ?_))
    exact pass_triple (fun w hw ↦ hw.record (h _ rfl).1)

theorem runTool_every {call : ToolCall α} {ladder : Exc → ToolM β Value} {body : α → Option Str → ToolM β Value}
    (hn : p .notify) (hl : p (.logEvent call.binding.tool))
    (hg : ∀ g : Gate, (g.isGuard = true → g ∈ call.guards) → p (.passed g) ∧ p (.refused g))
    (hladder : ∀ e, Invariant (Every p) (ladder e))
    (hbody : ∀ input db, call.check = .ok input → call.target = .ok db → Invariant (Every p) (body input db)) :
    Triple (fun _ ↦ True) (runTool S call ladder body) (fun _ ↦ Every p) (fun _ ↦ Every p) := by
  have hfree : ∀ g : Gate, g.isGuard = false → p (.passed g) ∧ p (.refused g) :=
    fun g h ↦ hg g (fun ht ↦ by rw [h] at ht; cases ht)
  have hlog : Invariant (Every p) (logAuditEvent S call.binding call.sql) :=
    logAuditEvent_invariant (fun w h ↦ h.record hl) (fun _ _ h ↦ h) _
  have hnotify : Invariant (Every p) (notify S) := notify_invariant (fun _ h ↦ h.record hn)
  have hstages : GateStages S call (Every p) (Every p) (Every p) (Every p) (Every p) (fun _ ↦ Every p) :=
    { notified := hnotify
      checked := fun _ _ _ h ↦ h
      resolved := resolveActor_every hn hfree _
      touched := touchSession_every hfree _
      touched_notified := notifyIf_invariant _ (fun _ h ↦ h.record hn)
      allowed := allowRequest_every hfree
      allowed_notified := notifyIf_invariant _ (fun _ h ↦ h.record hn)
      guarded := checkGuards_every (fun g h ↦ hg g (fun _ ↦ h))
      guarded_notified := notifyIf_invariant _ (fun _ h ↦ h.record hn)
      targeted := fun _ _ _ h ↦ h }
  have hbegin : ∀ w : World β, True → Every p (w.begin call.actor) := fun _ _ _ he ↦ absurd he List.not_mem_nil
  exact runTool_triple hbegin (tryBlock_triple hstages hbody (fun _ ↦ hnotify)) hladder hlog

end Gates

/-- A site whose gates, the write guard apart, let every first call of a session pass. -/
structure Open (S : Site β) : Prop where
  silent : S.ctx = none
  auth : S.auth = none
  limit : 0 < S.sessionLimits.concurrentSessionsLimit
  limiter : ∀ now actor buckets, (S.rateLimiter.allow now actor buckets).1 = .ok ()

section Reaches

variable {P : World β → Prop}

def Clear (P : World β → Prop) (m : ToolM β α) : Prop := Triple P m (fun _ ↦ P) (fun _ _ ↦ False)

theorem Open.notify_clear (h : Open S) : Clear P (notify S) := by
  rw [notify, h.silent]
  exact .pure (fun _ hw ↦ hw)

theorem Open.notifyIf_clear (h : Open S) (condition : Bool) : Clear P (notifyIf S condition) := by
  unfold notifyIf
  split
  · exact h.notify_clear
  · exact .pure (fun _ hw ↦ hw)

theorem touch_nil {limits : SessionLimits} (h : 0 < limits.concurrentSessionsLimit) (now : ℚ) (actor key : Str) :
    (touch limits now actor key []).1 = .ok () := by
  have hl : ¬ limits.concurrentSessionsLimit ≤ 0 := by omega
  simp [touch, cleanup, setDefault, setItem, hl]

theorem Open.touchSession_clear (h : Open S) (sessionId : Option Str) :
    Triple (fun w ↦ w.sessions = []) (touchSession S sessionId) (fun _ _ ↦ True) (fun _ _ ↦ False) := by
  apply touchSession_triple
  · intro w sessions hw _
    trivial
  · intro w e sessions hw hr
    have hok := touch_nil h.limit (S.clock w.trace) w.frame.actor (sessionKey sessionId S.requestId)
    rw [← hw, hr] at hok
    cases hok

theorem Open.allowRequest_clear (h : Open S) : Clear (fun _ ↦ True) (allowRequest S) := by
  apply allowRequest_triple
  · intro w buckets hw _
    trivial
  · intro w e buckets hw hr
    have hok := h.limiter (S.clock w.trace) w.frame.actor w.buckets
    rw [hr] at hok
    cases hok

variable [UnicodeData]

theorem Open.resolveActor_clear (h : Open S) (required : Privilege) :
    Clear (fun w ↦ w.sessions = []) (resolveActorAndAuthorize S required) := by
  refine .bind (R := fun _ w ↦ w.sessions = []) (.read (fun w hw ↦ hw)) (fun actor ↦ ?_)
  rw [h.auth]
  refine .bind (h.notifyIf_clear _) (fun _ ↦ .modify_bind (I := fun w ↦ w.sessions = []) (fun w hw ↦ hw) ?_)
  exact pass_triple (fun w hw ↦ hw)

theorem checkGuards_clear {guards : List Gate} (h : ∀ g ∈ guards, guardVerdict S.policy g = .ok ()) :
    Clear (fun _ ↦ True) (checkGuards S guards) := by
  induction guards with
  | nil => exact .pure (fun _ hw ↦ hw)
  | cons g gates ih =>
    refine .bind (R := fun _ _ ↦ True) ?_ (fun _ ↦ ih (fun k hk ↦ h k (List.mem_cons_of_mem _ hk)))
    apply checkGuard_triple
    · intro w hw _
      trivial
    · intro w e hw hr
      rw [h g List.mem_cons_self] at hr
      cases hr

theorem Open.runTool_mentions (h : Open S) {call : ToolCall α} {ladder : Exc → ToolM β Value}
    {body : α → Option Str → ToolM β Value} {e : Event} (hg : ∀ g ∈ call.guards, guardVerdict S.policy g = .ok ())
    (hcheck : Succeeds call.check) (htarget : Succeeds call.target)
    (hladder : ∀ exc, Invariant (Mentions e) (ladder exc))
    (hbody : ∀ input db, Triple (fun _ ↦ True) (body input db) (fun _ ↦ Mentions e) (fun _ ↦ Mentions e)) :
    Triple (fun w ↦ w.sessions = []) (runTool S call ladder body) (fun _ ↦ Mentions e) (fun _ ↦ Mentions e) := by
  have hstep {Q : World β → Prop} {γ : Type} {m : ToolM β γ} {P : World β → Prop}
      (hm : Triple P m (fun _ ↦ Q) (fun _ _ ↦ False)) : Triple P m (fun _ ↦ Q) (fun _ ↦ Mentions e) :=
    hm.mono (fun _ hw ↦ hw) (fun _ _ hw ↦ hw) (fun _ _ hw ↦ hw.elim)
  have hlog : Invariant (Mentions e) (logAuditEvent S call.binding call.sql) :=
    logAuditEvent_invariant (fun w hw ↦ hw.record) (fun _ _ hw ↦ hw) _
  obtain ⟨input, hinput⟩ := hcheck
  obtain ⟨db, hdb⟩ := htarget
  have hstages : GateStages S call (fun w ↦ w.sessions = []) (fun w ↦ w.sessions = []) (fun _ ↦ True) (fun _ ↦ True)
      (fun _ ↦ True) (fun _ ↦ Mentions e) :=
    { notified := hstep h.notify_clear
      checked := fun _ _ herr ↦ by rw [hinput] at herr; cases herr
      resolved := hstep (h.resolveActor_clear _)
      touched := hstep (h.touchSession_clear _)
      touched_notified := hstep (h.notifyIf_clear _)
      allowed := hstep h.allowRequest_clear
      allowed_notified := hstep (h.notifyIf_clear _)
      guarded := hstep (checkGuards_clear hg)
      guarded_notified := hstep (h.notifyIf_clear _)
      targeted := fun _ _ herr ↦ by rw [hdb] at herr; cases herr }
  have htry : Triple (fun w ↦ w.sessions = []) (tryBlock S call body) (fun _ ↦ Mentions e) (fun _ ↦ Mentions e) :=
    tryBlock_triple hstages (fun input db _ _ ↦ hbody input db) (fun _ ↦ notify_invariant (fun w hw ↦ hw.record))
  exact runTool_triple (fun w hw ↦ hw) htry hladder hlog

end Reaches

def Request.Allows (b : Binding) (req : Request) : Event → Prop
  | .notify => True
  | .passed g | .refused g => g.isGuard = true → g ∈ req.guards b
  | .logEvent tool => tool = b.tool
  | e => e.QueryOf b.instanceId req.Sends

section Requests

variable {b : Binding} {req : Request} {w : World β}

theorem allows_of_queryOf {e : Event} (h : e.QueryOf b.instanceId req.Sends) : req.Allows b e := by
  cases e with
  | manager i => exact h
  | connect i db => exact h
  | execute i stmt => exact h
  | commit i => exact h
  | notify => cases h
  | passed g => cases h
  | refused g => cases h
  | logEvent t => cases h

variable [UnicodeData]

theorem runRequest_ends {P : World β → Prop} {Q : World β → Prop} (hs : req.sendsSql = true) (hw : P w)
    (h : ∀ {α : Type} (call : ToolCall α) (ladder : Exc → ToolM β Value) (body : α → Option Str → ToolM β Value),
      call.binding = b → call.guards = req.guards b → (Succeeds call.check ∧ Succeeds call.target ↔ req.Valid) →
      ToolBody b req.Sends ladder body → Triple P (runTool S call ladder body) (fun _ ↦ Q) (fun _ ↦ Q)) :
    Q (runRequest S b req w).2 := by
  obtain ⟨α, call, body, hp⟩ := runRequest_isTool b S hs
  rw [hp.run]
  exact (h call _ body hp.binding hp.guards hp.valid hp.toolBody w hw).snd (fun _ _ h ↦ h) (fun _ _ h ↦ h)

theorem runRequest_allows (hs : req.sendsSql = true) : Every (req.Allows b) (runRequest S b req w).2 := by
  refine runRequest_ends (P := fun _ ↦ True) hs trivial (fun call ladder body hbind hguards _ hb ↦ ?_)
  have hn : req.Allows b .notify := trivial
  refine runTool_every hn (congrArg Binding.tool hbind) (fun g hg ↦ ?_) (fun e ↦ ?_) (fun input db _ _ ↦ ?_)
  · rw [hguards] at hg
    exact ⟨hg, hg⟩
  · exact hb.ladder_invariant _ (quiet_every hn) e
  · exact hb.body_invariant _ (undisturbed_every hn (fun e he ↦ allows_of_queryOf he)) input db

theorem runRequest_noQuery (hs : req.sendsSql = true) (hv : ¬ req.Valid) :
    Every (fun e ↦ e.isQuery = false) (runRequest S b req w).2 := by
  refine runRequest_ends (P := fun _ ↦ True) hs trivial (fun call ladder body _ _ hvalid hb ↦ ?_)
  refine runTool_every rfl rfl (fun g _ ↦ ⟨rfl, rfl⟩) (fun e ↦ ?_) (fun input db hc ht ↦ ?_)
  · exact hb.ladder_invariant _ (quiet_every (p := fun e ↦ e.isQuery = false) rfl) e
  · exact absurd (hvalid.mp ⟨⟨input, hc⟩, ⟨db, ht⟩⟩) hv

theorem runRequest_mentions_log (hs : req.sendsSql = true) :
    Mentions (.logEvent b.tool) (runRequest S b req w).2 := by
  refine runRequest_ends (P := fun _ ↦ True) hs trivial (fun call ladder body hbind _ _ _ ↦ ?_)
  have hlog : Triple (fun _ : World β ↦ True) (logAuditEvent S call.binding call.sql)
      (fun _ ↦ Mentions (.logEvent b.tool)) (fun _ ↦ Mentions (.logEvent b.tool)) := by
    rw [hbind]
    refine .modify_bind (I := Mentions (.logEvent b.tool))
      (fun w _ ↦ List.mem_append_right _ (List.mem_singleton_self _)) (Invariant.bind (.read id) (fun w ↦ ?_))
    split
    · exact Invariant.raise _
    · exact Invariant.modify (fun w h ↦ h)
  have htry {γ : Type} (m : ToolM β γ) : Triple (fun _ ↦ True) m (fun _ _ ↦ True) (fun _ _ ↦ True) :=
    .of_forall (fun _ _ ↦ trivial) (fun _ _ ↦ trivial)
  exact .modify_bind (fun _ _ ↦ trivial) (.ensuring (htry _) (fun _ ↦ hlog) (fun _ ↦ hlog))

theorem Open.runRequest_mentions_manager (h : Open S) (hs : req.sendsSql = true) (hv : req.Valid)
    (hg : ∀ g ∈ req.guards b, guardVerdict S.policy g = .ok ()) (hw : w.sessions = []) :
    Mentions (.manager b.instanceId) (runRequest S b req w).2 := by
  refine runRequest_ends (P := fun w ↦ w.sessions = []) hs hw (fun call ladder body _ hguards hvalid hb ↦ ?_)
  obtain ⟨hcheck, htarget⟩ := hvalid.mpr hv
  rw [← hguards] at hg
  exact h.runTool_mentions hg hcheck htarget (fun e ↦ hb.ladder_invariant _ (quiet_mentions _) e) hb.contacts

end Requests

def blankReports : Reports where
  isoformat _ := []
  planSummary _ := .none
  toolMetadata _ := .none
  histogramCandidates _ _ _ := .ok []
  tabHealth _ _ _ _ _ := .ok (.none, 0)
  dataModelGraph _ _ := .ok ()
  dataModelCheck _ _ _ := .ok .none
  dataModel _ _ _ _ := .ok (.none, 0)
  xpCmdshellEnabled _ := .ok false
  secConfig _ _ _ _ := .ok (.none, 0)
  dashboardPage _ _ _ _ := .ok ([], [])
  topStatements _ _ _ _ _ := .ok (.none, 0)
  appDashboard _ _ _ _ := .ok .none

def openSite (policy : RuntimePolicy) (instances : List SqlInstanceConfig) : Site Unit where
  policy := policy
  auth := none
  sessionLimits := {}
  rateLimiter := ⟨fun _ _ b ↦ (.ok (), b)⟩
  instances := instances
  registeredTools := []
  reports := blankReports
  publicBaseUrl := []
  requestId := []
  token := none
  ctx := none
  clock _ := 0
  driver _ := .ok {}
  log _ := .ok ()

def freshWorld : World Unit := ⟨[], (), 0, [], [], [], { actor := [] }⟩

theorem open_openSite (policy : RuntimePolicy) (instances : List SqlInstanceConfig) : Open (openSite policy instances) where
  silent := rfl
  auth := rfl
  limit := by
    show (0 : ℤ) < 10
    decide
  limiter _ _ _ := rfl

end McpSqlServer

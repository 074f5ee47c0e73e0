import McpSqlServer.Tools.ActorQuotas
import McpSqlServer.SessionManager.Store

namespace McpSqlServer

open Library Library.Text Library.Python SessionManager RateLimiter

/-- A store of sessions that holds no more of them than the limit allows. Only one actor at a time has an entry without
sessions. -/
structure SessionsKept (limits : SessionLimits) (sessions : Sessions) : Prop where
  actors : Dict.Unique sessions
  keys : ∀ actor, Dict.Unique (actorSessions sessions actor)
  bounded : ∀ actor, ((actorSessions sessions actor).length : ℤ) ≤ max 0 limits.concurrentSessionsLimit
  idle : ∃ actor, ∀ a, sessions.lookup a = some [] → a = actor

structure WindowsKept (limits : WindowLimits) (windows : Windows) : Prop where
  actors : Dict.Unique windows.actorEvents
  bounded : ∀ actor, (((windows.actorEvents.lookup actor).getD []).length : ℤ) ≤ max 0 limits.actorLimit
  total : (windows.globalEvents.length : ℤ) ≤ max 0 limits.globalLimit

section Stores

variable {limits : SessionLimits} {sessions : Sessions} {windowLimits : WindowLimits} {windows : Windows} {now : ℚ}
  {actor key : Str}

theorem SessionsKept.nil (limits : SessionLimits) : SessionsKept limits [] where
  actors := List.nodup_nil
  keys _ := List.nodup_nil
  bounded _ := le_max_left 0 _
  idle := ⟨[], fun _ h ↦ (Option.some_ne_none _ h.symm).elim⟩

theorem WindowsKept.nil (limits : WindowLimits) : WindowsKept limits {} where
  actors := List.nodup_nil
  bounded _ := le_max_left 0 _
  total := le_max_left 0 _

theorem lookup_cleanup_ne_nil (hu : Dict.Unique sessions) (now : ℚ) (a : Str) :
    (cleanup limits now sessions).lookup a ≠ some [] := by
  intro h
  have hkey : a ∈ Dict.keys (cleanup limits now sessions) := mem_keys_iff.mpr ⟨[], h⟩
  obtain ⟨entry, hentry, rfl⟩ := List.mem_map.mp hkey
  have hsome := (unique_cleanup hu now).lookup_of_mem hentry
  have hempty : entry.2 = [] := Option.some.inj (hsome.symm.trans h)
  have hne := (List.mem_filter.mp hentry).2
  rw [hempty] at hne
  cases hne

theorem SessionsKept.cleanup (h : SessionsKept limits sessions) (now : ℚ) :
    SessionsKept limits (cleanup limits now sessions) where
  actors := unique_cleanup h.actors now
  keys a := by
    rw [actorSessions_cleanup h.actors]
    exact (h.keys a).filter _
  bounded a := by
    rw [actorSessions_cleanup h.actors]
    have hle := List.length_filter_le (fun e ↦ decide (Fresh limits now e.2)) (actorSessions sessions a)
    have hbounded := h.bounded a
    omega
  idle := ⟨[], fun a ha ↦ (lookup_cleanup_ne_nil h.actors now a ha).elim⟩

theorem SessionsKept.setDefault (h : SessionsKept limits sessions) (hidle : ∀ a, sessions.lookup a ≠ some [])
    (actor : Str) : SessionsKept limits (setDefault actor [] sessions) where
  actors := h.actors.setDefault actor []
  keys a := by
    rw [actorSessions_setDefault]
    exact h.keys a
  bounded a := by
    rw [actorSessions_setDefault]
    exact h.bounded a
  idle := by
    refine ⟨actor, fun a ha ↦ ?_⟩
    by_contra hne
    rw [lookup_setDefault, if_neg hne] at ha
    exact hidle a ha

theorem SessionsKept.setItem (h : SessionsKept limits sessions) (hidle : ∀ a, a ≠ actor → sessions.lookup a ≠ some [])
    {kept : Dict ℚ} (hkept : kept = actorSessions sessions actor)
    (hroom : key ∈ Dict.keys kept ∨ (kept.length : ℤ) < limits.concurrentSessionsLimit) :
    SessionsKept limits (setItem actor (setItem key now kept) sessions) where
  actors := h.actors.setItem actor _
  keys a := by
    rw [actorSessions_setItem]
    split
    · rw [hkept]
      exact (h.keys actor).setItem key now
    · exact h.keys a
  bounded a := by
    rw [actorSessions_setItem]
    split
    · have hbounded := h.bounded actor
      rw [← hkept] at hbounded
      rw [length_setItem]
      split
      · exact hbounded
      · rename_i hnew
        have hlt := hroom.resolve_left hnew
        push_cast
        omega
    · exact h.bounded a
  idle := by
    refine ⟨actor, fun a ha ↦ ?_⟩
    by_contra hne
    rw [lookup_setItem, if_neg hne] at ha
    exact hidle a hne ha

theorem SessionsKept.touch (h : SessionsKept limits sessions) (now : ℚ) (actor requestId : Str)
    (mcpSessionId : Option Str) :
    SessionsKept limits (McpSqlServer.touch limits now actor (sessionKey mcpSessionId requestId) sessions).2 := by
  have hidle := @lookup_cleanup_ne_nil limits sessions h.actors now
  have hdefault := (h.cleanup now).setDefault hidle actor
  have hkept : actorSessions (McpSqlServer.cleanup limits now sessions) actor =
      actorSessions (Python.setDefault actor [] (McpSqlServer.cleanup limits now sessions)) actor :=
    (actorSessions_setDefault actor actor _).symm
  have hothers : ∀ a, a ≠ actor → (Python.setDefault actor [] (McpSqlServer.cleanup limits now sessions)).lookup a ≠
      some [] := by
    intro a ha
    rw [lookup_setDefault, if_neg ha]
    exact hidle a
  rw [touch_eq]
  rcases touch_cases limits now now actor requestId mcpSessionId sessions with ⟨-, -, hafter⟩ | ⟨hroom, hafter⟩
  · rw [hafter]
    exact hdefault
  · rw [hafter]
    exact hdefault.setItem hothers hkept hroom

theorem length_prune_le (now : ℚ) (bucket : List ℚ) : (prune now bucket).length ≤ bucket.length :=
  (List.dropWhile_suffix _).length_le

theorem WindowsKept.setItem (h : WindowsKept windowLimits windows) {bucket events : List ℚ}
    (hbucket : (bucket.length : ℤ) ≤ max 0 windowLimits.actorLimit)
    (hevents : (events.length : ℤ) ≤ max 0 windowLimits.globalLimit) :
    WindowsKept windowLimits ⟨setItem actor bucket windows.actorEvents, events⟩ where
  actors := h.actors.setItem actor bucket
  bounded a := by
    rw [lookup_setItem]
    split
    · exact hbucket
    · exact h.bounded a
  total := hevents

theorem WindowsKept.allow (h : WindowsKept windowLimits windows) (now : ℚ) (actor : Str) :
    WindowsKept windowLimits ((slidingWindowRateLimiter windowLimits).allow now actor windows).2 := by
  have hbucket := length_prune_le now ((windows.actorEvents.lookup actor).getD [])
  have hevents := length_prune_le now windows.globalEvents
  have hbounded := h.bounded actor
  have htotal := h.total
  show WindowsKept windowLimits (localGate windowLimits ⟨actor, now⟩ windows).2
  rcases localGate_cases windowLimits ⟨actor, now⟩ windows with ⟨-, hafter⟩ | ⟨-, hactor, hglobal, hafter⟩
  · rw [hafter]
    exact h.setItem (by dsimp only; omega) (by dsimp only; omega)
  · rw [hafter]
    refine h.setItem ?_ ?_
    · rw [List.length_append, List.length_singleton]
      push_cast
      dsimp only at hactor ⊢
      omega
    · rw [List.length_append, List.length_singleton]
      push_cast
      dsimp only at hglobal ⊢
      omega

end Stores

section Runs

variable [UnicodeData] {V : Server Windows} {E : Environment} {windowLimits : WindowLimits}

/-- What the server keeps in memory about its actors is bounded. -/
structure World.Kept (sessionLimits : SessionLimits) (windowLimits : WindowLimits) (w : World Windows) : Prop where
  sessions : SessionsKept sessionLimits w.sessions
  windows : WindowsKept windowLimits w.buckets

variable {α : Type} {call : ToolCall α} {sessionLimits : SessionLimits}

omit [UnicodeData] in
theorem quiet_kept : Quiet (World.Kept sessionLimits windowLimits) where
  notify _ h := ⟨h.1, h.2⟩
  frame _ _ h := ⟨h.1, h.2⟩
  denied _ _ h := ⟨h.1, h.2⟩

omit [UnicodeData] in
theorem undisturbed_kept (instanceId : Str) (stmts : Statement → Prop) :
    Undisturbed instanceId stmts (World.Kept sessionLimits windowLimits) where
  notify _ h := ⟨h.1, h.2⟩
  query _ _ _ h := ⟨h.1, h.2⟩
  rows _ _ h := ⟨h.1, h.2⟩
  pages _ _ h := ⟨h.1, h.2⟩

omit [UnicodeData] in
theorem touchSession_kept (sessionId : Option Str) :
    Invariant (World.Kept V.sessionLimits windowLimits) (touchSession (⟨V, E⟩ : Site Windows) sessionId) := by
  apply touchSession_triple
  · intro w sessions h heq
    have hkept := h.sessions.touch (E.clock w.trace) w.frame.actor E.requestId sessionId
    rw [heq] at hkept
    exact ⟨hkept, h.2⟩
  · intro w e sessions h heq
    have hkept := h.sessions.touch (E.clock w.trace) w.frame.actor E.requestId sessionId
    rw [heq] at hkept
    exact ⟨hkept, h.2⟩

omit [UnicodeData] in
theorem allowRequest_kept (hlimiter : V.rateLimiter = slidingWindowRateLimiter windowLimits) :
    Invariant (World.Kept sessionLimits windowLimits) (allowRequest (⟨V, E⟩ : Site Windows)) := by
  have hallow (w : World Windows) (h : w.Kept sessionLimits windowLimits) :
      WindowsKept windowLimits (V.rateLimiter.allow (E.clock w.trace) w.frame.actor w.buckets).2 := by
    rw [hlimiter]
    exact h.windows.allow _ _
  apply allowRequest_triple
  · intro w buckets h heq
    have hkept := hallow w h
    rw [heq] at hkept
    exact ⟨h.1, hkept⟩
  · intro w e buckets h heq
    have hkept := hallow w h
    rw [heq] at hkept
    exact ⟨h.1, hkept⟩

theorem checkGuard_kept (g : Gate) :
    Invariant (World.Kept sessionLimits windowLimits) (checkGuard (⟨V, E⟩ : Site Windows) g) :=
  checkGuard_triple (fun _ h _ ↦ ⟨h.1, h.2⟩) (fun _ _ h _ ↦ ⟨h.1, h.2⟩)

theorem checkGuards_kept (guards : List Gate) :
    Invariant (World.Kept sessionLimits windowLimits) (checkGuards (⟨V, E⟩ : Site Windows) guards) := by
  induction guards with
  | nil => exact Invariant.pure ()
  | cons g gates ih => exact .bind (checkGuard_kept g) (fun _ ↦ ih)

theorem resolveActor_kept (required : Privilege) :
    Invariant (World.Kept sessionLimits windowLimits) (resolveActorAndAuthorize (⟨V, E⟩ : Site Windows) required) := by
  refine .bind (.read _) (fun actor ↦ ?_)
  split
  · exact refuse_triple (fun _ h ↦ ⟨h.1, h.2⟩)
  · refine .bind (notifyIf_invariant _ quiet_kept.notify) (fun _ ↦ .bind (.modify (fun _ h ↦ ⟨h.1, h.2⟩)) (fun _ ↦ ?_))
    exact pass_triple (fun _ h ↦ ⟨h.1, h.2⟩)

theorem gateStages_kept (hlimiter : V.rateLimiter = slidingWindowRateLimiter windowLimits) (call : ToolCall α) :
    GateStages (⟨V, E⟩ : Site Windows) call (World.Kept V.sessionLimits windowLimits)
      (World.Kept V.sessionLimits windowLimits) (World.Kept V.sessionLimits windowLimits)
      (World.Kept V.sessionLimits windowLimits) (World.Kept V.sessionLimits windowLimits)
      (fun _ ↦ World.Kept V.sessionLimits windowLimits) where
  notified := notify_invariant quiet_kept.notify
  checked _ _ _ h := h
  resolved := resolveActor_kept _
  touched := touchSession_kept _
  touched_notified := notifyIf_invariant _ quiet_kept.notify
  allowed := allowRequest_kept hlimiter
  allowed_notified := notifyIf_invariant _ quiet_kept.notify
  guarded := checkGuards_kept _
  guarded_notified := notifyIf_invariant _ quiet_kept.notify
  targeted _ _ _ h := h

theorem runRequest_kept (hlimiter : V.rateLimiter = slidingWindowRateLimiter windowLimits) (b : Binding) (req : Request)
    {w : World Windows} (hw : w.Kept V.sessionLimits windowLimits) :
    (runRequest (⟨V, E⟩ : Site Windows) b req w).2.Kept V.sessionLimits windowLimits := by
  cases hs : req.sendsSql with
  | false =>
    cases req with
    | latencyReport args => exact ⟨hw.1, hw.2⟩
    | _ => cases hs
  | true =>
    refine runRequest_ends hs hw (fun call ladder body _ _ _ hb ↦ ?_)
    have htry := tryBlock_triple (gateStages_kept (E := E) hlimiter call)
      (fun input db _ _ ↦ hb.body_invariant _ (undisturbed_kept b.instanceId req.Sends) input db)
      (fun _ ↦ notify_invariant quiet_kept.notify)
    exact runTool_triple (fun _ h ↦ ⟨h.1, h.2⟩) htry (fun e ↦ hb.ladder_invariant _ quiet_kept e)
      (logAuditEvent_invariant (fun _ h ↦ ⟨h.1, h.2⟩) (fun _ _ h ↦ ⟨h.1, h.2⟩) _)

theorem ToolUse.run_kept (hlimiter : V.rateLimiter = slidingWindowRateLimiter windowLimits) (u : ToolUse)
    {w : World Windows} (hw : w.Kept V.sessionLimits windowLimits) :
    (u.run ⟨V, E⟩ w).2.Kept V.sessionLimits windowLimits := by
  cases u with
  | sql b o req => exact runRequest_kept hlimiter (b.override o) req hw
  | app args =>
    have hfetch : Invariant (World.Kept V.sessionLimits windowLimits)
        (fetchSessionsDashboardData (⟨V, E⟩ : Site Windows) args) :=
      fetch_triple (fun _ h ↦ ⟨h.1, h.2⟩) (fun _ h ↦ h) (touchSession_kept none) (allowRequest_kept hlimiter)
        (checkGuard_kept _) (fun i ↦ undisturbed_kept i _)
    exact (hfetch w hw).snd (fun _ _ h ↦ h) (fun _ _ h ↦ h)

/-- Whatever tools are called, by whom, in whatever surroundings and at whatever times, also with a clock that goes
back: the server never keeps more sessions of an actor than the limit, nor more events of an actor or in all than its
limiter admits in one window. -/
theorem kept_of_reachable (hlimiter : V.rateLimiter = slidingWindowRateLimiter windowLimits) {w₀ w : World Windows}
    (h₀ : w₀.Kept V.sessionLimits windowLimits)
    (h : Transition.Reachable (callStep V) (fun _ _ ↦ True) w₀ w) : w.Kept V.sessionLimits windowLimits := by
  refine h.invariant h₀ (fun w c w' _ hw _ hstep ↦ ?_)
  rw [← Option.some.inj hstep]
  exact c.2.run_kept hlimiter hw

end Runs

theorem kept_freshWindows (sessionLimits : SessionLimits) (windowLimits : WindowLimits) :
    freshWindows.Kept sessionLimits windowLimits := ⟨.nil _, .nil _⟩

theorem kept_of_reachable_alice :
    let _ := asciiData
    let once := ((selectAs "system".toList).2.run ⟨quotaServer, (selectAs "system".toList).1⟩ freshWindows).2
    ((selectAs "unknown".toList).2.run ⟨quotaServer, (selectAs "unknown".toList).1⟩ once).2.Kept {} oneEach := by
  intro U once
  have hrun : Transition.Reachable (callStep quotaServer) (fun _ _ ↦ True) freshWindows
      ((selectAs "unknown".toList).2.run ⟨quotaServer, (selectAs "unknown".toList).1⟩ once).2 :=
    .next (.next .init trivial rfl) trivial rfl
  exact kept_of_reachable rfl (kept_freshWindows _ _) hrun

end McpSqlServer

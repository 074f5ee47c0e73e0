import McpSqlServer.ConnectionManager.Upkeep
import McpSqlServer.Tools.Registration

namespace McpSqlServer.ConnectionManager

open Library Library.Text Library.Python
open Pool (Conn)

section Routes

variable (S : Site)

def healthcheckAll : ManagerM (Dict Value) := Act.each (fun instanceId ↦ do
  let health ← healthcheckInstance S instanceId
  pure (instanceId, health)) (listEnabledInstances S.config)

def healthOf (version : Str) (uptime : ℤ) (instances : Dict Value) : Value :=
  .dict [("status".toList, .str "ok".toList), ("version".toList, .str version),
    ("uptime_seconds".toList, .int uptime), ("instances".toList, .dict instances)]

def uptimeSeconds (startTime : ℚ) (log : List Event) : ℤ :=
  (S.time log - startTime).num.tdiv (S.time log - startTime).den

/-- The `health` route; `startTime` is that of its router. -/
def health (version : Str) (startTime : ℚ) : ManagerM Value := do
  let log ← Act.read World.log
  let instances ← healthcheckAll S
  pure (healthOf version (uptimeSeconds S startTime log) instances)

def isHealthy : Value → Bool
  | .dict d =>
    match d.lookup "state".toList with
    | some (.str state) => state = "healthy".toList
    | _ => false
  | _ => false

def requiredOk (health : Dict Value) : Bool := health.all (fun item ↦ isHealthy item.2)

def readinessOf (health : Dict Value) : Value :=
  .dict [("ready".toList, .bool (requiredOk health)),
    ("components".toList, .dict [("config_loaded".toList, .bool true), ("policy_active".toList, .bool true),
      ("rate_limiter_active".toList, .bool true), ("session_manager_active".toList, .bool true)]),
    ("instances".toList, .dict health)]

def readiness : ManagerM Value := do
  let health ← healthcheckAll S
  pure (readinessOf health)

end Routes

variable {S : Site} {instanceId : Str} {inst : SqlInstanceConfig} {c : Conn} {w : World} {log check : List Event}

section Upkeep

def Upkept (log log' : List Event) : Prop := ∃ steps, log' = log ++ steps ∧ ∀ e ∈ steps, e.isUpkeep = true

theorem Upkept.refl (log : List Event) : Upkept log log :=
  ⟨[], (List.append_nil log).symm, fun _ h ↦ absurd h List.not_mem_nil⟩

theorem upkept_maintained (log : List Event) : Maintained (Upkept log) := by
  rintro log' e he ⟨steps, rfl, hsteps⟩
  refine ⟨steps ++ [e], List.append_assoc log steps [e], fun d hd ↦ ?_⟩
  rcases List.mem_append.mp hd with hd | hd
  · exact hsteps d hd
  · rw [List.mem_singleton.mp hd, he]

theorem Upkept.trans {log' log'' : List Event} (h : Upkept log log') (h' : Upkept log' log'') : Upkept log log'' := by
  obtain ⟨steps, rfl, hsteps⟩ := h
  obtain ⟨steps', rfl, hsteps'⟩ := h'
  exact ⟨steps ++ steps', List.append_assoc _ _ _, fun e he ↦ (List.mem_append.mp he).elim (hsteps e) (hsteps' e)⟩

theorem Upkept.concat {e : Event} (he : e.isUpkeep = true) (log : List Event) : Upkept log (log ++ [e]) :=
  upkept_maintained log log e he (.refl log)

theorem connectNew_caught (databaseOverride : Option Str) : Triple (fun _ ↦ True) (connectNew S inst databaseOverride)
    (fun _ _ ↦ True) (fun e _ ↦ e.caught = true) := by
  refine .bind (R := fun _ _ ↦ True) ((ask_spec (Q := fun _ ↦ True) (fun _ _ ↦ trivial)).mono (fun _ h ↦ h)
    (fun _ _ h ↦ h) (fun _ _ h ↦ h.1)) (fun _ ↦ .bind (R := fun _ _ ↦ True) (.read (fun _ _ ↦ trivial)) (fun c ↦ ?_))
  exact .bind (R := fun _ _ ↦ True) (.modify (fun _ _ ↦ trivial)) (fun _ ↦ .pure (fun _ _ ↦ trivial))

theorem acquireLoop_caught (deadline : ℚ) (rounds : ℕ) : Triple (fun _ ↦ True) (acquireLoop S inst deadline rounds)
    (fun _ _ ↦ True) (fun e _ ↦ e.caught = true) := by
  have hclose (c : Conn) : Triple (fun _ ↦ True) (suppress (ask S (.close c))) (fun _ _ ↦ True)
      (fun e _ ↦ e.caught = true) := suppress_maintained (p := fun _ ↦ True) (fun _ _ _ _ h ↦ h) rfl rfl
  induction rounds with
  | zero => exact .raise (fun _ _ ↦ rfl)
  | succ rounds ih =>
    refine .bind (R := fun _ _ ↦ True) (.read (fun _ _ ↦ trivial)) (fun v ↦ ?_)
    split
    · refine .bind (R := fun _ _ ↦ True) (.modify (fun _ _ ↦ trivial)) (fun _ ↦ .bind (R := fun _ _ ↦ True)
        (isConnectionUsable_maintained (p := fun _ ↦ True) (fun _ _ _ _ h ↦ h)) (fun usable ↦ ?_))
      split
      · exact .pure (fun _ _ ↦ trivial)
      · exact .bind (R := fun _ _ ↦ True) (.modify (fun _ _ ↦ trivial)) (fun _ ↦
          .bind (R := fun _ _ ↦ True) (hclose _) (fun _ ↦ ih))
    · exact .bind (connectNew_caught none) (fun _ ↦ .bind (R := fun _ _ ↦ True) (.modify (fun _ _ ↦ trivial))
        (fun _ ↦ .pure (fun _ _ ↦ trivial)))
    · dsimp only
      split
      · exact .raise (fun _ _ ↦ rfl)
      · exact .bind (R := fun _ _ ↦ True) (.modify (fun _ _ ↦ trivial)) (fun _ ↦ ih)

theorem acquireConnection_caught (databaseOverride : Option Str) : Triple (fun _ ↦ True)
    (acquireConnection S instanceId databaseOverride) (fun _ _ ↦ True) (fun e _ ↦ e.caught = true) := by
  unfold acquireConnection
  split
  · exact .raise (fun _ _ ↦ rfl)
  · split
    · exact .bind (R := fun _ _ ↦ True) (.read (fun _ _ ↦ trivial)) (fun _ ↦ .bind (acquireLoop_caught _ _)
        (fun _ ↦ .pure (fun _ _ ↦ trivial)))
    · exact .bind (connectNew_caught _) (fun _ ↦ .pure (fun _ _ ↦ trivial))

end Upkeep

section Checks

def probeCalls (c : Conn) : List Event :=
  [.call (.cursor c), .call (.execute c "SELECT 1".toList []), .call (.fetchone c)]

/-- The driver answers the calls, made one after the other behind `log`. -/
def Replies (S : Site) : List Event → List Event → Prop
  | _, [] => True
  | log, e :: calls => (∃ reply, S.answer (log ++ [e]) = .ok reply) ∧ Replies S (log ++ [e]) calls

/-- A check in which a connection was had and answered each call, amid upkeep. -/
def Answered (S : Site) (log check : List Event) : Prop :=
  ∃ acquired released c pooled,
    check = acquired ++ .entered c pooled :: probeCalls c ++ .left c pooled none :: released ∧
    (∀ e ∈ acquired ++ released, e.isUpkeep = true) ∧
    Replies S (log ++ acquired ++ [.entered c pooled]) (probeCalls c)

theorem Answered.left_mem (h : Answered S log check) : ∃ c pooled, .left c pooled none ∈ check := by
  obtain ⟨_, _, c, pooled, rfl, -, -⟩ := h
  exact ⟨c, pooled, List.mem_append_right _ List.mem_cons_self⟩

theorem not_answered_of_upkeep (h : ∀ e ∈ check, e.isUpkeep = true) : ¬ Answered S log check := by
  intro ha
  obtain ⟨c, pooled, hmem⟩ := ha.left_mem
  cases h _ hmem

def Asks (S : Site) (m : ManagerM Unit) (calls : List Event) : Prop :=
  ∀ w, (∃ w₁, m w = (.ok (), w₁) ∧ w₁.log = w.log ++ calls ∧ Replies S w.log calls) ∨
    ∃ e w₁, m w = (.error e, w₁) ∧ e.caught = true ∧ Upkept w.log w₁.log

theorem Asks.nil (S : Site) : Asks S (pure ()) [] :=
  fun w ↦ .inl ⟨w, rfl, (List.append_nil w.log).symm, trivial⟩

theorem Asks.cons {m : ManagerM Unit} {d : DriverCall} {calls : List Event} (hd : (Event.call d).isUpkeep = true)
    (hm : Asks S m calls) : Asks S (do
      let _ ← ask S d
      m) (.call d :: calls) := by
  intro w
  have hask : ask S d w = (S.answer (w.log ++ [.call d]), w.record (.call d)) := rfl
  cases hr : S.answer (w.log ++ [.call d]) with
  | ok reply =>
    rw [hr] at hask
    rw [Act.bind_of_ok hask]
    rcases hm (w.record (.call d)) with ⟨w₁, hok, hlog, hreplies⟩ | ⟨e, w₁, herr, hcaught, hkept⟩
    · exact .inl ⟨w₁, hok, hlog.trans (List.append_cons _ _ _).symm, ⟨reply, hr⟩, hreplies⟩
    · exact .inr ⟨e, w₁, herr, hcaught, (Upkept.concat hd _).trans hkept⟩
  | error e =>
    rw [hr] at hask
    rw [Act.bind_of_error hask]
    exact .inr ⟨e, _, rfl, S.answer_onlyExceptions _ e hr, Upkept.concat hd _⟩

theorem healthcheckOp_asks (S : Site) (c : Conn) : Asks S (healthcheckOp S c) (probeCalls c) :=
  .cons rfl (.cons rfl (.cons rfl (.nil S)))

/-- A check had its connection and an answer to each call, or ends in an exception. -/
theorem connect_healthcheck (S : Site) (instanceId : Str) (w : World) :
    ∃ r w' check, connect S instanceId none (healthcheckOp S) w = (r, w') ∧ w'.log = w.log ++ check ∧
      (r = .ok () ∧ Answered S w.log check ∨
        ∃ e, r = .error e ∧ e.caught = true ∧ ¬ Answered S w.log check) := by
  have hkept : Ends _ _ (acquireConnection S instanceId none w) :=
    acquireConnection_maintained (upkept_maintained w.log) w (.refl w.log)
  have hcaught : Ends _ _ (acquireConnection S instanceId none w) := acquireConnection_caught none w trivial
  rcases ha : acquireConnection S instanceId none w with ⟨r₀, w₀⟩
  rw [ha] at hkept hcaught
  cases r₀ with
  | error e =>
    obtain ⟨steps, hsteps, hupkeep⟩ := hkept
    refine ⟨.error e, w₀, steps, ?_, hsteps, .inr ⟨e, rfl, hcaught, not_answered_of_upkeep hupkeep⟩⟩
    rw [connect, Act.bind_of_error ha]
  | ok r₀ =>
    obtain ⟨c, pooled⟩ := r₀
    obtain ⟨acquired, hacquired, hupkeep⟩ := hkept
    obtain ⟨inst, hl⟩ := acquireConnection_lookup ha
    have hreleased (failure : Option Exc) (w₁ : World) (hadError : Bool) :
        Upkept (w₁.log ++ [.left c pooled failure])
          (releaseConnection S instanceId c pooled hadError (w₁.record (.left c pooled failure))).2.log := by
      obtain ⟨w', hr, hw'⟩ := releaseConnection_ok ((upkept_maintained (w₁.log ++ [.left c pooled failure])).on c) hl
        pooled hadError (w := w₁.record (.left c pooled failure)) (.refl _)
      rw [hr]
      exact hw'
    rcases healthcheckOp_asks S c (w₀.record (.entered c pooled)) with ⟨w₁, hb, hlog, hreplies⟩ |
      ⟨e, w₁, hb, hcaught, asked, hlog, hasked⟩
    · obtain ⟨released, hrelease, hrel⟩ := hreleased none w₁ false
      refine ⟨_, _, acquired ++ .entered c pooled :: probeCalls c ++ .left c pooled none :: released,
        connect_eq_release ha hb, ?_, .inl ⟨rfl, acquired, released, c, pooled, rfl, ?_, ?_⟩⟩
      · show (releaseConnection S instanceId c pooled false (w₁.record (.left c pooled none))).2.log = _
        rw [hrelease, hlog, World.record, hacquired]
        simp only [List.append_assoc, List.cons_append, List.nil_append]
      · exact fun e he ↦ (List.mem_append.mp he).elim (hupkeep e) (hrel e)
      · rw [← hacquired]
        exact hreplies
    · obtain ⟨released, hrelease, hrel⟩ := hreleased (some e) w₁ e.caught
      refine ⟨_, _, acquired ++ .entered c pooled :: asked ++ .left c pooled (some e) :: released,
        connect_eq_release ha hb, ?_, .inr ⟨e, rfl, hcaught, fun ha ↦ ?_⟩⟩
      · show (releaseConnection S instanceId c pooled e.caught (w₁.record (.left c pooled (some e)))).2.log = _
        rw [hrelease, hlog, World.record, hacquired]
        simp only [List.append_assoc, List.cons_append, List.nil_append]
      · obtain ⟨c', pooled', hmem⟩ := ha.left_mem
        simp only [List.mem_append, List.mem_cons, reduceCtorEq, false_or] at hmem
        rcases hmem with (hmem | hmem) | hmem | hmem
        · cases hupkeep _ hmem
        · cases hasked _ hmem
        · cases hmem
        · cases hrel _ hmem

theorem healthcheckInstance_spec (S : Site) (instanceId : Str) (w : World) :
    ∃ entry w' check, healthcheckInstance S instanceId w = (.ok entry, w') ∧ w'.log = w.log ++ check ∧
      (isHealthy entry = true ↔ Answered S w.log check) := by
  have hread (w' : World) : Act.read (ε := Exc) id w' = (.ok w', w') := rfl
  obtain ⟨r, w₁, check, hconnect, hlog, hcases⟩ := connect_healthcheck S instanceId w
  have hset (state : Str) (error : Value) : ∃ checkedAt latency w₂,
      setHealth S instanceId state (S.time w.log) error w₁ = (.ok (), w₂) ∧ w₂.log = w₁.log ∧
        w₂.health instanceId = [("state".toList, .str state), ("checked_at".toList, checkedAt),
          ("latency_ms".toList, latency), ("error".toList, error)] :=
    ⟨_, _, _, rfl, rfl, Function.update_self ..⟩
  rcases hcases with ⟨rfl, hanswered⟩ | ⟨e, rfl, hcaught, hnot⟩
  · obtain ⟨checkedAt, latency, w₂, hs, hlog₂, hentry⟩ := hset "healthy".toList .none
    refine ⟨.dict (w₂.health instanceId), w₂, check, ?_, hlog₂.trans hlog, iff_of_true ?_ hanswered⟩
    · rw [healthcheckInstance, Act.bind_of_ok (hread w)]
      rw [Act.bind_of_ok (Act.catching_of_ok ((Act.bind_of_ok hconnect _).trans hs)), Act.bind_of_ok (hread w₂)]
      rfl
    · rw [hentry]
      rfl
  · obtain ⟨checkedAt, latency, w₂, hs, hlog₂, hentry⟩ := hset "unhealthy".toList (.str e.text)
    refine ⟨.dict (w₂.health instanceId), w₂, check, ?_, hlog₂.trans hlog, iff_of_false ?_ hnot⟩
    · rw [healthcheckInstance, Act.bind_of_ok (hread w)]
      have hhandled : Act.catching (do
          connect S instanceId none (healthcheckOp S)
          setHealth S instanceId "healthy".toList (S.time w.log) .none) (fun e ↦
            if e.caught then setHealth S instanceId "unhealthy".toList (S.time w.log) (.str e.text)
            else Act.raise e) w = (.ok (), w₂) := by
        rw [Act.catching_of_error (Act.bind_of_error hconnect _), if_pos hcaught]
        exact hs
      rw [Act.bind_of_ok hhandled, Act.bind_of_ok (hread w₂)]
      rfl
    · rw [hentry]
      exact Bool.false_ne_true

/-- The checks that follow one another behind `log`, with the entries that say whether each was answered. -/
inductive Checked (S : Site) : List Event → Dict Value → List (List Event) → Prop
  | nil (log : List Event) : Checked S log [] []
  | cons {log check : List Event} {entry : Str × Value} {health : Dict Value} {checks : List (List Event)} :
      (isHealthy entry.2 = true ↔ Answered S log check) → Checked S (log ++ check) health checks →
      Checked S log (entry :: health) (check :: checks)

theorem Checked.requiredOk_iff {health : Dict Value} {checks : List (List Event)} (h : Checked S log health checks) :
    requiredOk health = true ↔ ∀ earlier check later, checks = earlier ++ check :: later →
      Answered S (log ++ earlier.flatten) check := by
  induction h with
  | nil log => exact iff_of_true rfl (fun earlier check later h ↦ absurd h (by simp))
  | @cons log check entry health checks hentry hrest ih =>
    rw [requiredOk, List.all_cons, Bool.and_eq_true, hentry]
    refine (and_congr_right fun _ ↦ ih).trans ⟨?_, fun h ↦ ⟨?_, fun earlier check' later heq ↦ ?_⟩⟩
    · rintro ⟨hcheck, hall⟩ earlier check' later heq
      cases earlier with
      | nil =>
        obtain ⟨rfl, -⟩ := List.cons.inj heq
        rw [List.flatten_nil, List.append_nil]
        exact hcheck
      | cons first earlier =>
        obtain ⟨rfl, hrest⟩ := List.cons.inj heq
        rw [List.flatten_cons, ← List.append_assoc]
        exact hall earlier check' later hrest
    · have hfirst := h [] check checks rfl
      rwa [List.flatten_nil, List.append_nil] at hfirst
    · have hnext := h (check :: earlier) check' later (by rw [heq, List.cons_append])
      rwa [List.flatten_cons, ← List.append_assoc] at hnext

theorem eachCheck_spec (S : Site) (ids : List Str) (w : World) :
    ∃ health w' checks, Act.each (fun instanceId ↦ do
        let health ← healthcheckInstance S instanceId
        pure (instanceId, health)) ids w = (.ok health, w') ∧ w'.log = w.log ++ checks.flatten ∧
      Dict.keys health = ids ∧ Checked S w.log health checks := by
  induction ids generalizing w with
  | nil => exact ⟨[], w, [], rfl, (List.append_nil _).symm, rfl, .nil _⟩
  | cons instanceId ids ih =>
    obtain ⟨entry, w₁, check, hcheck, hlog, hentry⟩ := healthcheckInstance_spec S instanceId w
    obtain ⟨health, w', checks, hrest, hlog', hkeys, hchecked⟩ := ih w₁
    refine ⟨(instanceId, entry) :: health, w', check :: checks, ?_, ?_, ?_, .cons hentry (hlog ▸ hchecked)⟩
    · rw [Act.each, Act.bind_of_ok ((Act.bind_of_ok hcheck _).trans rfl), Act.bind_of_ok hrest]
      rfl
    · rw [hlog', hlog, List.flatten_cons, List.append_assoc]
    · rw [Dict.keys, List.map_cons, ← hkeys]
      rfl

/-- Whatever the manager was through, the diagnostics answer: they check every enabled instance once, in their order,
and say ready exactly when each of these checks had a connection that answered `SELECT 1`. -/
theorem diagnostics_check (S : Site) (w : World) : ∃ instances w' checks,
    readiness S w = (.ok (readinessOf instances), w') ∧
    (∀ version startTime, health S version startTime w =
      (.ok (healthOf version (uptimeSeconds S startTime w.log) instances), w')) ∧
    Dict.keys instances = listEnabledInstances S.config ∧ w'.log = w.log ++ checks.flatten ∧
    Checked S w.log instances checks ∧
    (requiredOk instances = true ↔ ∀ earlier check later, checks = earlier ++ check :: later →
      Answered S (w.log ++ earlier.flatten) check) := by
  obtain ⟨instances, w', checks, hrun, hlog, hkeys, hchecked⟩ := eachCheck_spec S (listEnabledInstances S.config) w
  refine ⟨instances, w', checks, ?_, fun version startTime ↦ ?_, hkeys, hlog, hchecked, hchecked.requiredOk_iff⟩
  · rw [readiness, healthcheckAll, Act.bind_of_ok hrun]
    rfl
  · have hread : Act.read (ε := Exc) World.log w = (.ok w.log, w) := rfl
    rw [health, Act.bind_of_ok hread, healthcheckAll, Act.bind_of_ok hrun]
    rfl

end Checks

end McpSqlServer.ConnectionManager

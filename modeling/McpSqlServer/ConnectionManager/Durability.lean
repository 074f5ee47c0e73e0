import McpSqlServer.ConnectionManager.Attempts
import McpSqlServer.ConnectionManager.Commit
import McpSqlServer.ConnectionManager.Retirement
import McpSqlServer.Library.Ledger
import Mathlib.Data.List.Induction

namespace McpSqlServer.ConnectionManager

open Library Library.Text Library.Python
open Pool (Conn)

/-- A site with a transactional database behind the driver. A commit that raises has had no
effect; whether another call that raises has had its effect the database decides. -/
structure Database extends Site where
  lingers : List Event → Bool

structure Execution where
  position : ℕ
  sql : Str
  params : List Value

namespace Database

variable (D : Database)

def succeeds (log : List Event) : Bool := (D.answer log).toBool

def effective (log : List Event) : Bool := D.succeeds log || D.lingers log

def apply (log : List Event) (l : Ledger Conn Execution) (e : Event) : Ledger Conn Execution := match e with
  | .call (.execute c sql params) => if D.effective (log ++ [e]) then l.execute c ⟨log.length, sql, params⟩ else l
  | .call (.commit c) => if D.succeeds (log ++ [e]) then l.commit c else l
  | .call (.rollback c) | .call (.close c) => if D.effective (log ++ [e]) then l.discard c else l
  | _ => l

def replay (before : List Event) (l : Ledger Conn Execution) : List Event → Ledger Conn Execution
  | [] => l
  | e :: events => replay (before ++ [e]) (D.apply before l e) events

/-- What is durable, and what each connection has not committed. -/
def ledger (log : List Event) : Ledger Conn Execution := D.replay [] {} log

variable {D} {log start : List Event} {l : Ledger Conn Execution} {c : Conn} {v : Execution}

theorem replay_concat (before events : List Event) (e : Event) :
    D.replay before l (events ++ [e]) = D.apply (before ++ events) (D.replay before l events) e := by
  induction events generalizing before l with
  | nil => rw [List.append_nil]; rfl
  | cons d events ih =>
    rw [List.cons_append, replay, ih, ← List.append_cons]
    rfl

theorem ledger_concat (e : Event) : D.ledger (log ++ [e]) = D.apply log (D.ledger log) e := replay_concat [] log e

section Apply

/-- All that an event can do. -/
theorem apply_cases (D : Database) (log : List Event) (l : Ledger Conn Execution) (e : Event) :
    D.apply log l e = l ∨
    (∃ c sql params, e = .call (.execute c sql params) ∧ D.apply log l e = l.execute c ⟨log.length, sql, params⟩) ∨
    (∃ c r, e = .call (.commit c) ∧ D.answer (log ++ [e]) = .ok r ∧ D.apply log l e = l.commit c) ∨
    ∃ c, e.conn = some c ∧ D.apply log l e = l.discard c := by
  cases e with
  | call d =>
    cases d with
    | execute c sql params =>
      by_cases he : D.effective (log ++ [.call (.execute c sql params)]) = true
      · exact .inr (.inl ⟨c, sql, params, rfl, if_pos he⟩)
      · exact .inl (if_neg he)
    | commit c =>
      cases hr : D.answer (log ++ [.call (.commit c)]) with
      | ok r =>
        refine .inr (.inr (.inl ⟨c, r, rfl, rfl, if_pos ?_⟩))
        rw [succeeds, hr]
        rfl
      | error e =>
        refine .inl (if_neg ?_)
        rw [succeeds, hr]
        exact Bool.false_ne_true
    | rollback c =>
      by_cases he : D.effective (log ++ [.call (.rollback c)]) = true
      · exact .inr (.inr (.inr ⟨c, rfl, if_pos he⟩))
      · exact .inl (if_neg he)
    | close c =>
      by_cases he : D.effective (log ++ [.call (.close c)]) = true
      · exact .inr (.inr (.inr ⟨c, rfl, if_pos he⟩))
      · exact .inl (if_neg he)
    | _ => exact .inl rfl
  | _ => exact .inl rfl

theorem mem_durable_apply {e : Event} (h : v ∈ l.durable) : v ∈ (D.apply log l e).durable := by
  rcases D.apply_cases log l e with he | ⟨c, sql, params, -, he⟩ | ⟨c, r, -, -, he⟩ | ⟨c, -, he⟩
  · rwa [he]
  · rwa [he]
  · rw [he]
    exact List.mem_append_left _ h
  · rwa [he]

theorem mem_durable_commit {r : Reply} (hr : D.answer (log ++ [.call (.commit c)]) = .ok r) (h : v ∈ l.pending c) :
    v ∈ (D.apply log l (.call (.commit c))).durable := by
  have hs : D.succeeds (log ++ [.call (.commit c)]) = true := by
    rw [succeeds, hr]
    rfl
  rw [apply, if_pos hs]
  exact List.mem_append_right _ h

theorem mem_pending_execute {sql : Str} {params : List Value} {r : Reply}
    (hr : D.answer (log ++ [.call (.execute c sql params)]) = .ok r) :
    ⟨log.length, sql, params⟩ ∈ (D.apply log l (.call (.execute c sql params))).pending c := by
  have hs : D.effective (log ++ [.call (.execute c sql params)]) = true := by
    rw [effective, succeeds, hr]
    rfl
  rw [apply, if_pos hs]
  exact Ledger.mem_pending_execute_self

theorem holds_apply {e : Event} (h : l.Holds (fun v ↦ v.position < log.length)) :
    (D.apply log l e).Holds (fun v ↦ v.position < (log ++ [e]).length) := by
  have hlt : log.length < (log ++ [e]).length := by simp
  have hmono : l.Holds (fun v ↦ v.position < (log ++ [e]).length) := h.mono (fun _ hv ↦ hv.trans hlt)
  rcases D.apply_cases log l e with he | ⟨c, sql, params, -, he⟩ | ⟨c, r, -, -, he⟩ | ⟨c, -, he⟩
  · rwa [he]
  · rw [he]
    exact hmono.execute hlt
  · rw [he]
    exact hmono.commit
  · rw [he]
    exact hmono.discard

theorem confined_apply_own {e : Event} (h : l.Confined c v) (hc : e.conn = some c)
    (hn : ¬ ((∃ d, e = .call (.commit d)) ∧ ∃ r, D.answer (log ++ [e]) = .ok r)) : (D.apply log l e).Confined c v := by
  rcases D.apply_cases log l e with he | ⟨d, sql, params, rfl, he⟩ | ⟨d, r, hd, hr, -⟩ | ⟨d, -, he⟩
  · rwa [he]
  · rw [he]
    cases hc
    exact h.execute_own
  · exact absurd ⟨⟨d, hd⟩, r, hr⟩ hn
  · rw [he]
    exact h.discard d

theorem confined_apply_other {e : Event} (h : l.Confined c v) (hc : e.conn ≠ some c) (hv : v.position < log.length) :
    (D.apply log l e).Confined c v := by
  rcases D.apply_cases log l e with he | ⟨d, sql, params, -, he⟩ | ⟨d, r, rfl, -, he⟩ | ⟨d, -, he⟩
  · rwa [he]
  · rw [he]
    refine h.execute (fun heq ↦ ?_) d
    rw [heq] at hv
    exact Nat.lt_irrefl _ hv
  · rw [he]
    exact h.commit (fun hd ↦ hc (congrArg some hd))
  · rw [he]
    exact h.discard d

end Apply

section Ledgers

theorem ledger_holds (log : List Event) : (D.ledger log).Holds (fun v ↦ v.position < log.length) := by
  induction log using List.reverseRecOn with
  | nil => exact ⟨fun v hv ↦ absurd hv List.not_mem_nil, fun c v hv ↦ absurd hv List.not_mem_nil⟩
  | append_singleton log e ih =>
    rw [ledger_concat]
    exact holds_apply ih

theorem mem_durable_append (e : Event) (h : v ∈ (D.ledger log).durable) : v ∈ (D.ledger (log ++ [e])).durable := by
  rw [ledger_concat]
  exact mem_durable_apply h

/-- While no commit is carried out, nothing becomes durable. -/
theorem durable_of_uncommitted (h : Uncommitted D.toSite start log) :
    (D.ledger log).durable = (D.ledger start).durable := by
  obtain ⟨⟨events, rfl⟩, hn⟩ := h
  induction events using List.reverseRecOn with
  | nil => rw [List.append_nil]
  | append_singleton events e ih =>
    rw [← List.append_assoc] at hn ⊢
    have hn' : ¬ Committed D.toSite start (start ++ events) := fun hc ↦ hn (hc.append e)
    rw [ledger_concat, ← ih hn']
    rcases D.apply_cases (start ++ events) (D.ledger (start ++ events)) e with
      he | ⟨c, sql, params, -, he⟩ | ⟨c, r, hc, hr, -⟩ | ⟨c, -, he⟩
    · rw [he]
    · rw [he]
      rfl
    · exact absurd ((committed_append_iff hn' (List.prefix_append _ _)).mpr ⟨⟨c, hc⟩, r, hr⟩) hn
    · rw [he]
      rfl

end Ledgers

end Database

/-- The statement of an `execute_proc` that has acquired its connection in `w₀`: its call is
behind the entry of the block and the call for the cursor. -/
def procExecution [UnicodeData] (w₀ : World) (procName : Str) (params : List Value) : Execution :=
  ⟨w₀.log.length + 2, execStatement procName params.length, params⟩

section Procedures

open Database

variable [UnicodeData] {D : Database} {c : Conn} {v : Execution} {log : List Event} {w w' w₀ : World} {pooled : Bool}
  {instanceId procName : Str} {params : List Value} {databaseOverride : Option Str}

omit [UnicodeData] in
theorem ask_pending {d : DriverCall} (hd : ∀ log l, D.apply log l (.call d) = l) :
    Triple (fun w ↦ v ∈ (D.ledger w.log).pending c) (ask D.toSite d)
      (fun _ w ↦ v ∈ (D.ledger w.log).pending c) (fun _ _ ↦ True) := by
  refine ask_answered (fun w r h _ ↦ ?_) (fun _ _ _ _ ↦ trivial)
  show v ∈ (D.ledger (w.log ++ [.call d])).pending c
  rw [ledger_concat, hd]
  exact h

theorem columnNames_pending : Triple (fun w ↦ v ∈ (D.ledger w.log).pending c) (columnNames D.toSite c)
    (fun _ w ↦ v ∈ (D.ledger w.log).pending c) (fun _ _ ↦ True) :=
  .bind (ask_pending (fun _ _ ↦ rfl)) (fun _ ↦ Triple.ofExcept (fun _ _ _ h ↦ h) (fun _ _ _ _ ↦ trivial))

theorem commitProc_durable : Triple (fun w ↦ w.log = log) (commitProc D.toSite procName params c)
    (fun _ w ↦ ⟨log.length + 1, execStatement procName params.length, params⟩ ∈ (D.ledger w.log).durable)
    (fun _ _ ↦ True) := by
  generalize hv : (⟨log.length + 1, execStatement procName params.length, params⟩ : Execution) = v
  have hcursor : Triple (fun w ↦ w.log = log) (ask D.toSite (.cursor c))
      (fun _ w ↦ w.log = log ++ [.call (.cursor c)]) (fun _ _ ↦ True) := by
    refine ask_answered (fun w r h _ ↦ ?_) (fun _ _ _ _ ↦ trivial)
    show w.log ++ [.call (.cursor c)] = _
    rw [h]
  have hexecute : Triple (fun w ↦ w.log = log ++ [.call (.cursor c)])
      (ask D.toSite (.execute c (execStatement procName params.length) params))
      (fun _ w ↦ v ∈ (D.ledger w.log).pending c) (fun _ _ ↦ True) := by
    refine ask_answered (fun w r h hr ↦ ?_) (fun _ _ _ _ ↦ trivial)
    have hlen : w.log.length = log.length + 1 := by rw [h, List.length_append, List.length_singleton]
    show v ∈ (D.ledger (w.log ++ [_])).pending c
    rw [ledger_concat, ← hv, ← hlen]
    exact mem_pending_execute hr
  refine .bind hcursor (fun _ ↦ .bind hexecute (fun _ ↦ .bind (ask_pending (fun _ _ ↦ rfl)) (fun described ↦ ?_)))
  refine .bind (R := fun _ w ↦ v ∈ (D.ledger w.log).pending c) ?_ (fun data ↦ .bind ?_ (fun _ ↦ .pure (fun _ h ↦ h)))
  · split
    · exact .bind columnNames_pending (fun columns ↦ .bind (ask_pending (fun _ _ ↦ rfl)) (fun _ ↦ .pure (fun _ h ↦ h)))
    · exact .pure (fun _ h ↦ h)
  · refine ask_answered (fun w r h hr ↦ ?_) (fun _ _ _ _ ↦ trivial)
    show _ ∈ (D.ledger (w.log ++ [_])).durable
    rw [ledger_concat]
    exact mem_durable_commit hr h

theorem executeProcOp_durable : Triple (fun w ↦ w.log = log) (executeProcOp D.toSite procName params c)
    (fun _ w ↦ ⟨log.length + 1, execStatement procName params.length, params⟩ ∈ (D.ledger w.log).durable)
    (fun _ _ ↦ True) := by
  rw [executeProcOp_eq]
  refine .bind commitProc_durable (fun d ↦ .bind ?_ (fun _ ↦ .pure (fun _ h ↦ h)))
  exact ask_answered (fun w _ h _ ↦ mem_durable_append _ h) (fun _ _ _ _ ↦ trivial)

/-- A procedure that returns a result is durable. -/
theorem executeProc_durable {result : Value}
    (h : executeProc D.toSite instanceId procName params databaseOverride w = (.ok result, w')) :
    ∃ c pooled w₀, acquireConnection D.toSite instanceId databaseOverride w = (.ok (c, pooled), w₀) ∧
      procExecution w₀ procName params ∈ (D.ledger w'.log).durable := by
  rcases ha : acquireConnection D.toSite instanceId databaseOverride w with ⟨r, w₀⟩
  cases r with
  | error e =>
    have herror : executeProc D.toSite instanceId procName params databaseOverride w = (.error e, w₀) :=
      Act.bind_of_error ha _
    rw [herror] at h
    cases h
  | ok r =>
    obtain ⟨c, pooled⟩ := r
    refine ⟨c, pooled, w₀, rfl, ?_⟩
    have hblock : Ends _ _ (executeProcOp D.toSite procName params c (w₀.record (.entered c pooled))) :=
      executeProcOp_durable _ rfl
    rcases hrun : executeProcOp D.toSite procName params c (w₀.record (.entered c pooled)) with ⟨r, w₁⟩
    rw [hrun] at hblock
    have hend := connect_eq_release ha hrun
    rw [← executeProc, h] at hend
    obtain ⟨rfl, -⟩ := Prod.mk.inj hend
    have hlen : (w₀.record (.entered c pooled)).log.length = w₀.log.length + 1 := List.length_append
    rw [hlen] at hblock
    have hcommitted : procExecution w₀ procName params ∈ (D.ledger w₁.log).durable := hblock
    obtain ⟨w'', hw, hdurable⟩ := connect_of_block
      (p := fun log ↦ procExecution w₀ procName params ∈ (D.ledger log).durable)
      (fun _ d _ _ hm ↦ mem_durable_append (.call d) hm) ha hrun (fun failure ↦ mem_durable_append _ hcommitted)
    rw [← executeProc, h] at hw
    obtain ⟨-, rfl⟩ := Prod.mk.inj hw
    exact hdurable

theorem executeProc_confined
    (ha : acquireConnection D.toSite instanceId databaseOverride w = (.ok (c, pooled), w₀))
    (hn : ¬ Committed D.toSite w.log (executeProc D.toSite instanceId procName params databaseOverride w).2.log)
    (hv : w₀.log.length ≤ v.position) :
    (D.ledger (executeProc D.toSite instanceId procName params databaseOverride w).2.log).Confined c v := by
  have hacquires : Invariant (fun w' ↦ Uncommitted D.toSite w.log w'.log)
      (acquireConnection D.toSite instanceId databaseOverride) := acquireConnection_maintained uncommitted_maintained
  have hacquired := hacquires w ⟨List.prefix_refl _, not_committed_self⟩
  rw [ha] at hacquired
  have hconfined : (D.ledger w₀.log).Confined c v := .of_holds (ledger_holds w₀.log) (Nat.not_lt.mpr hv)
  have hkeeps : ∀ log e, e.conn = some c →
      (w.log <+: log ∧ (¬ Committed D.toSite w.log log → (D.ledger log).Confined c v)) →
      w.log <+: log ++ [e] ∧ (¬ Committed D.toSite w.log (log ++ [e]) → (D.ledger (log ++ [e])).Confined c v) := by
    intro log e he ⟨hs, h⟩
    refine ⟨hs.trans (List.prefix_append log [e]), fun hn ↦ ?_⟩
    have hbefore : ¬ Committed D.toSite w.log log := fun hc ↦ hn (hc.append e)
    rw [ledger_concat]
    exact confined_apply_own (h hbefore) he (fun hc ↦ hn ((committed_append_iff hbefore hs).mpr hc))
  have hblock : DrivesOn c (executeProcOp D.toSite procName params c) := executeProcOp_drivesOn procName params c
  exact (connect_keeps hblock hkeeps ha ⟨hacquired.1, fun _ ↦ hconfined⟩).2 hn

omit [UnicodeData] in
theorem le_length_append {n : ℕ} (e : Event) (h : n ≤ log.length) : n ≤ (log ++ [e]).length :=
  h.trans (List.prefix_append log [e]).length_le

theorem executeProcOp_grows (n : ℕ) : Triple (fun w ↦ n ≤ w.log.length) (executeProcOp D.toSite procName params c)
    (fun _ w ↦ n + 1 ≤ w.log.length) (fun _ w ↦ n + 1 ≤ w.log.length) := by
  obtain ⟨rest, heq, hrest⟩ := executeProcOp_begins (S := D.toSite) procName params c
  have hcursor : Triple (fun w ↦ n ≤ w.log.length) (ask D.toSite (.cursor c))
      (fun _ w ↦ n + 1 ≤ w.log.length) (fun e w ↦ e.caught = true ∧ n + 1 ≤ w.log.length) := by
    refine ask_spec (Q := fun w ↦ n + 1 ≤ w.log.length) (fun w h ↦ ?_)
    show n + 1 ≤ (w.log ++ [_]).length
    rw [List.length_append]
    exact Nat.succ_le_succ h
  have hrests (r : Reply) := hrest r (fun w ↦ n + 1 ≤ w.log.length) (fun w d _ h ↦ le_length_append (.call d) h)
  rw [heq]
  exact (Triple.bind hcursor hrests).mono (fun _ h ↦ h) (fun _ _ h ↦ h) (fun _ _ h ↦ h.2)

theorem procExecution_position_lt
    (ha : acquireConnection D.toSite instanceId databaseOverride w = (.ok (c, pooled), w₀)) :
    (procExecution w₀ procName params).position <
      (executeProc D.toSite instanceId procName params databaseOverride w).2.log.length := by
  have hentered : w₀.log.length + 1 ≤ (w₀.record (.entered c pooled)).log.length := by
    show _ ≤ (w₀.log ++ [_]).length
    rw [List.length_append, List.length_singleton]
  have hblock : Ends _ _ (executeProcOp D.toSite procName params c (w₀.record (.entered c pooled))) :=
    executeProcOp_grows _ _ hentered
  rcases hr : executeProcOp D.toSite procName params c (w₀.record (.entered c pooled)) with ⟨r, w₁⟩
  rw [hr] at hblock
  have hran : w₀.log.length + 2 ≤ w₁.log.length := hblock.snd (fun _ _ h ↦ h) (fun _ _ h ↦ h)
  have hleft (failure : Option Exc) : w₀.log.length + 3 ≤ (w₁.log ++ [Event.left c pooled failure]).length := by
    rw [List.length_append]
    exact Nat.succ_le_succ hran
  obtain ⟨w', hw, hlen⟩ := connect_of_block (p := fun log ↦ w₀.log.length + 3 ≤ log.length)
    (fun log d _ _ h ↦ le_length_append (.call d) h) ha hr hleft
  rw [executeProc, hw]
  exact hlen

theorem runCalls_confined (calls : List ManagerCall) (ho : Apart w) (hc : Gone w c) (hv : v.position < w.log.length)
    (h : (D.ledger w.log).Confined c v) :
    v ∉ (D.ledger (runCalls D.toSite calls w).log).durable ∧
      ∃ events, (runCalls D.toSite calls w).log = w.log ++ events ∧ ∀ pooled, .entered c pooled ∉ events := by
  have hignores : Ignores (fun d ↦ d = c) (fun log ↦ (D.ledger log).Confined c v ∧
      ∃ events, log = w.log ++ events ∧ ∀ pooled, .entered c pooled ∉ events) := by
    intro log e he ⟨hconfined, events, hlog, hentered⟩
    have hne : e.conn ≠ some c := fun hec ↦ he c hec rfl
    have hlt : v.position < log.length := by
      rw [hlog, List.length_append]
      omega
    refine ⟨?_, events ++ [e], by rw [hlog, List.append_assoc], fun pooled hm ↦ ?_⟩
    · rw [ledger_concat]
      exact confined_apply_other hconfined hne hlt
    · rcases List.mem_append.mp hm with hm | hm
      · exact hentered pooled hm
      · exact hne (by rw [← List.mem_singleton.mp hm]; rfl)
  have hrun := runCalls_orderly (S := D.toSite) hignores calls
    ⟨ho, fun d hd ↦ hd ▸ hc, h, [], (List.append_nil _).symm, fun _ ↦ List.not_mem_nil⟩
  exact ⟨hrun.log.1.notDurable, hrun.log.2⟩

/-- From any state that a manager reaches: if `execute_proc` returns, its statement is durable.
If it raises before a commit was carried out, nothing has become durable, and no further calls
make its statement durable or run a block on its connection. -/
theorem executeProc_allOrNothing (D : Database) (earlier : List ManagerCall) (instanceId procName : Str)
    (params : List Value) (databaseOverride : Option Str) {w w' : World} {r : Except Exc Value}
    (hw : w = runCalls D.toSite earlier {})
    (hr : executeProc D.toSite instanceId procName params databaseOverride w = (r, w')) :
    (∀ result, r = .ok result → ∃ c pooled w₀,
      acquireConnection D.toSite instanceId databaseOverride w = (.ok (c, pooled), w₀) ∧
      procExecution w₀ procName params ∈ (D.ledger w'.log).durable) ∧
    (∀ e, r = .error e → ¬ Committed D.toSite w.log w'.log →
      (D.ledger w'.log).durable = (D.ledger w.log).durable ∧
      ∀ c pooled w₀, acquireConnection D.toSite instanceId databaseOverride w = (.ok (c, pooled), w₀) →
        procExecution w₀ procName params ∉ (D.ledger w'.log).durable ∧
        ∀ later, procExecution w₀ procName params ∉ (D.ledger (runCalls D.toSite later w').log).durable ∧
          ∃ events, (runCalls D.toSite later w').log = w'.log ++ events ∧ ∀ pooled, .entered c pooled ∉ events) := by
  have hignores : Ignores (fun _ ↦ False) (fun log ↦ w.log <+: log) :=
    fun log e _ h ↦ h.trans (List.prefix_append log [e])
  have horderly : Orderly (fun _ ↦ False) (fun _ ↦ True) w := by
    rw [hw]
    exact runCalls_orderly (fun _ _ _ _ ↦ trivial) earlier ⟨.initial, fun _ h ↦ h.elim, trivial⟩
  have hbefore : Orderly (fun _ ↦ False) (fun log ↦ w.log <+: log) w :=
    ⟨horderly.apart, fun _ h ↦ h.elim, List.prefix_refl _⟩
  have hbehind : Orderly (fun _ ↦ False) (fun log ↦ w.log <+: log) w' := by
    have h : Ends (fun _ ↦ Orderly _ _) (fun _ ↦ Orderly _ _) (executeProc D.toSite instanceId procName params databaseOverride w) :=
      connect_orderly hignores (executeProcOp_drivesOn procName params) w hbefore
    rw [hr] at h
    exact h.snd (fun _ _ h ↦ h) (fun _ _ h ↦ h)
  refine ⟨fun result hok ↦ executeProc_durable (hok ▸ hr), fun e herror hn ↦ ?_⟩
  refine ⟨durable_of_uncommitted ⟨hbehind.log, hn⟩, fun c pooled w₀ ha ↦ ?_⟩
  have hgone : Gone w' c := connect_gone hignores (executeProcOp_drivesOn procName params) hbefore ha (herror ▸ hr)
  have hlog : (executeProc D.toSite instanceId procName params databaseOverride w).2.log = w'.log := by rw [hr]
  have hconfined : (D.ledger w'.log).Confined c (procExecution w₀ procName params) := by
    rw [← hlog] at hn ⊢
    exact executeProc_confined ha hn (Nat.le_add_right _ 2)
  have hlt : (procExecution w₀ procName params).position < w'.log.length := by
    rw [← hlog]
    exact procExecution_position_lt ha
  exact ⟨hconfined.notDurable, fun later ↦ runCalls_confined later hbehind.apart hgone hlt hconfined⟩

end Procedures

def droppedAnswer (log : List Event) : Except Exc Reply :=
  match log.getLast? with
  | some (.call (.commit _)) | some (.call (.rollback _)) | some (.call (.close _)) => .error transportError
  | _ => .ok {}

def droppedDatabase : Database :=
  { lossySite with
    answer := droppedAnswer
    answer_onlyExceptions := by
      intro log
      unfold droppedAnswer
      split
      · exact .error rfl
      · exact .error rfl
      · exact .error rfl
      · exact .ok _
    lingers := fun _ ↦ false }

theorem executeProc_allOrNothing_dropped :
    let _ := asciiData
    ∃ e w₀ w', acquireConnection droppedDatabase.toSite "primary".toList none {} = (.ok (0, true), w₀) ∧
      executeProc droppedDatabase.toSite "primary".toList "dbo.refresh".toList [] none {} = (.error e, w') ∧
      ((droppedDatabase.ledger w'.log).pending 0).map Execution.position = [3] ∧
      ∀ later, procExecution w₀ "dbo.refresh".toList [] ∉
        (droppedDatabase.ledger (runCalls droppedDatabase.toSite later w').log).durable := by
  intro U
  refine ⟨transportError, _, _, rfl, rfl, rfl, fun later ↦ ?_⟩
  have hn : ¬ Committed droppedDatabase.toSite []
      (executeProc droppedDatabase.toSite "primary".toList "dbo.refresh".toList [] none {}).2.log := by
    intro ⟨pre, c, _, r, hr⟩
    have hanswer : droppedDatabase.answer ([] ++ pre ++ [.call (.commit c)]) = .error transportError := by
      show droppedAnswer _ = _
      rw [droppedAnswer, List.getLast?_concat]
    rw [hanswer] at hr
    cases hr
  obtain ⟨-, hfails⟩ := executeProc_allOrNothing droppedDatabase [] "primary".toList "dbo.refresh".toList [] none rfl rfl
  obtain ⟨-, hnever⟩ := hfails transportError rfl hn
  exact ((hnever 0 true _ rfl).2 later).1

end McpSqlServer.ConnectionManager

import McpSqlServer.Pool.HandOut

namespace McpSqlServer.Pool

open Library.Transition Library.Ownership

variable {inst : SqlInstanceConfig} {sh : Shared} {th : Thread} {m : Move} {o : Outcome}

structure PoolDiagnostics where
  enabled : Bool
  poolMax : ℤ
  poolSize : ℕ
  inUse : ℕ
  available : ℕ
  createdTotal : ℕ
  reusedTotal : ℕ
  discardedTotal : ℕ
  deriving DecidableEq

def getPoolDiagnostics (inst : SqlInstanceConfig) (s : PoolState) : PoolDiagnostics where
  enabled := inst.poolEnabled
  poolMax := inst.poolMax
  poolSize := s.available.length + s.inUse.length
  inUse := s.inUse.length
  available := s.available.length
  createdTotal := s.createdTotal
  reusedTotal := s.reusedTotal
  discardedTotal := s.discardedTotal

def Move.returnsNew : Move → Bool
  | .register => true
  | _ => false

def Move.returnsExisting : Move → Bool
  | .probe ok => ok
  | _ => false

def Move.failsProbe : Move → Bool
  | .probe ok => !ok
  | _ => false

def Thread.probing : Thread → ℕ
  | .active _ (.probing _) => 1
  | _ => 0

def Thread.acquires : Thread → Bool
  | .active _ (.acquiring) | .active _ (.waiting _) | .active _ (.connecting true) | .active _ (.registering _)
  | .active _ (.probing _) | .active _ (.discarding _) | .active _ (.closingStale _) => true
  | _ => false

/-- The two returns are the ways in which a call leaves `_acquire_connection` with a connection. -/
theorem Moves.returns_iff (h : Moves inst sh th m o) : (m.returnsNew || m.returnsExisting) = true ↔
    th.acquires = true ∧ ∃ call c, o.thread = .active call (.running c true 0 false) := by
  cases h with
  | begin call phase hp => simp [Move.returnsNew, Move.returnsExisting, Thread.acquires]
  | register => simp [Move.returnsNew, Thread.acquires]
  | probeOk => simp [Move.returnsExisting, Thread.acquires]
  | @finishOk _ p | @rollbackOk _ p | @rollbackFailed _ p =>
    cases p <;> simp [Move.returnsNew, Move.returnsExisting, Thread.acquires]
  | @connectFailed _ p => cases p <;> simp [Move.returnsNew, Move.returnsExisting, Thread.acquires]
  | _ => simp [Move.returnsNew, Move.returnsExisting, Thread.acquires]

@[simp] theorem Thread.probing_notify (th : Thread) : th.notify.probing = th.probing := by
  unfold notify
  split <;> rfl

/-- The counters of created and of reused connections grow at a registration and at a pop; the
probe behind the pop settles which of the two hand-outs it was. -/
theorem Moves.counted (h : Moves inst sh th m o) :
    o.shared.pool.createdTotal = sh.pool.createdTotal + (if m.returnsNew then 1 else 0) ∧
    o.shared.pool.reusedTotal + th.probing = sh.pool.reusedTotal + o.thread.probing +
      (if m.returnsExisting then 1 else 0) + (if m.failsProbe then 1 else 0) := by
  cases h with
  | begin call phase hp => subst hp; cases call.usePool inst <;> exact ⟨rfl, rfl⟩
  | @finishOk _ p => cases p <;> exact ⟨rfl, rfl⟩
  | @rollbackOk _ p => cases p <;> exact ⟨rfl, rfl⟩
  | @rollbackFailed _ p => cases p <;> exact ⟨rfl, rfl⟩
  | _ => exact ⟨rfl, rfl⟩

def movesThat {Tid : Type} (p : Move → Bool) (actions : List (Action Tid)) : ℕ :=
  actions.countP (fun a ↦ match a with
    | .move _ m => p m
    | .closeAllPools => false)

variable {Tid : Type} {actions : List (Action Tid)} {t : Tid}

theorem movesThat_concat (p : Move → Bool) (actions : List (Action Tid)) (t : Tid) (m : Move) :
    movesThat p (actions ++ [.move t m]) = movesThat p actions + (if p m then 1 else 0) := by
  rw [movesThat, List.countP_append, List.countP_singleton, movesThat]

theorem movesThat_closeAllPools (p : Move → Bool) (actions : List (Action Tid)) :
    movesThat p (actions ++ [.closeAllPools]) = movesThat p actions := by
  rw [movesThat, List.countP_append, List.countP_singleton, movesThat]
  rfl

theorem movesThat_eq_zero {p : Move → Bool} : movesThat p actions = 0 ↔ ∀ t m, .move t m ∈ actions → p m = false := by
  rw [movesThat, List.countP_eq_zero]
  refine ⟨fun h t m hm ↦ Bool.eq_false_iff.mpr (h _ hm), fun h a ha ↦ ?_⟩
  cases a with
  | move t m => simp [h t m ha]
  | closeAllPools => simp

def handOuts (actions : List (Action Tid)) : ℕ :=
  movesThat (fun m ↦ m.returnsNew || m.returnsExisting) actions

theorem Move.returns_eq (m : Move) : (if m.returnsNew || m.returnsExisting then 1 else 0) =
    (if m.returnsNew then 1 else 0) + (if m.returnsExisting then 1 else 0) := by
  cases m with
  | probe ok => cases ok <;> rfl
  | _ => rfl

theorem handOuts_eq (actions : List (Action Tid)) :
    handOuts actions = movesThat Move.returnsNew actions + movesThat Move.returnsExisting actions := by
  induction actions using List.reverseRecOn with
  | nil => rfl
  | append_singleton actions a ih =>
    rw [handOuts] at ih ⊢
    cases a with
    | move t m =>
      rw [movesThat_concat, movesThat_concat, movesThat_concat, ih, Move.returns_eq]
      omega
    | closeAllPools => rw [movesThat_closeAllPools, movesThat_closeAllPools, movesThat_closeAllPools, ih]

variable [Fintype Tid] [DecidableEq Tid] {s s' : State Tid}

/-- What the counters of a pool hold behind a run. -/
structure Counted (actions : List (Action Tid)) (s : State Tid) : Prop where
  created : s.shared.pool.createdTotal = movesThat Move.returnsNew actions
  reused : s.shared.pool.reusedTotal = movesThat Move.returnsExisting actions + movesThat Move.failsProbe actions +
    total Thread.probing s.thread

theorem Counted.step (h : Counted actions s) {a : Action Tid} (hs : step inst s a = some s') :
    Counted (actions ++ [a]) s' := by
  have hcreated := h.created
  have hreused := h.reused
  cases a with
  | move t m =>
    obtain ⟨o, hm, rfl⟩ := step_move hs
    obtain ⟨hc, hr⟩ := hm.counted
    have ht := total_after (s := s) (t := t) (o := o) Thread.probing Thread.probing_notify
    refine ⟨?_, ?_⟩
    · rw [movesThat_concat, ← hcreated]
      exact hc
    · rw [movesThat_concat, movesThat_concat]
      show o.shared.pool.reusedTotal = _
      omega
  | closeAllPools =>
    rw [step_closeAllPools hs]
    refine ⟨?_, ?_⟩
    · rw [movesThat_closeAllPools, ← hcreated]
      rfl
    · rw [movesThat_closeAllPools, movesThat_closeAllPools,
        total_congr Thread.probing s.thread (fun u ↦ Thread.probing_notify (s.thread u)), ← hreused]
      rfl

theorem counted_of_run (h : run (step inst) ({} : State Tid) actions = some s) : Counted actions s := by
  refine run_history ⟨rfl, ?_⟩ (fun as a s₁ s₂ hi hs ↦ hi.step hs) h
  have hnone : total Thread.probing ({} : State Tid).thread = 0 := total_initial Thread.probing rfl
  show 0 = 0 + 0 + total Thread.probing ({} : State Tid).thread
  omega

omit [DecidableEq Tid] in
theorem total_probing_eq_zero : total Thread.probing s.thread = 0 ↔
    ∀ t call c, s.thread t ≠ .active call (.probing c) := by
  constructor
  · intro h t call c ht
    have hsum := (Finset.sum_eq_zero_iff.mp h) t (Finset.mem_univ t)
    rw [ht] at hsum
    cases hsum
  · intro h
    apply total_eq_zero
    intro t
    have ht := h t
    cases hth : s.thread t with
    | idle => rfl
    | active call phase =>
      cases phase with
      | probing c => exact absurd hth (ht call c)
      | _ => rfl

/-- The metrics count the hand-outs exactly as long as no connection taken from the pool has
failed its probe and none is being probed. -/
theorem poolMetrics_exact_iff (inst : SqlInstanceConfig) (actions : List (Action Tid)) (s : State Tid)
    (h : run (step inst) {} actions = some s) :
    ((getPoolDiagnostics inst s.shared.pool).createdTotal + (getPoolDiagnostics inst s.shared.pool).reusedTotal =
        handOuts actions ∧
      (getPoolDiagnostics inst s.shared.pool).createdTotal = movesThat Move.returnsNew actions ∧
      (getPoolDiagnostics inst s.shared.pool).reusedTotal = movesThat Move.returnsExisting actions) ↔
    (∀ t, .move t (.probe false) ∉ actions) ∧ ∀ t call c, s.thread t ≠ .active call (.probing c) := by
  have hcreated : (getPoolDiagnostics inst s.shared.pool).createdTotal = movesThat Move.returnsNew actions :=
    (counted_of_run h).created
  have hreused : (getPoolDiagnostics inst s.shared.pool).reusedTotal = movesThat Move.returnsExisting actions +
    movesThat Move.failsProbe actions + total Thread.probing s.thread := (counted_of_run h).reused
  have hfailed : movesThat Move.failsProbe actions = 0 ↔ ∀ t, .move t (.probe false) ∉ actions := by
    rw [movesThat_eq_zero]
    refine ⟨fun h t ht ↦ Bool.noConfusion (h t _ ht), fun h t m hm ↦ ?_⟩
    cases m with
    | probe ok =>
      cases ok with
      | true => rfl
      | false => exact absurd hm (h t)
    | _ => rfl
  rw [← hfailed, ← total_probing_eq_zero, handOuts_eq]
  omega

def staleReuse : List (Action (Fin 1)) :=
  freshBlock 0 reader [.move 0 .execute] ++ [.move 0 (.begin reader), .move 0 (.acquire false),
    .move 0 (.probe false), .move 0 .discard, .move 0 .closeStale, .move 0 (.acquire false), .move 0 (.connect true),
    .move 0 .register]

theorem poolMetrics_exact_iff_reuse :
    ∃ (actions : List (Action (Fin 1))) (s : State (Fin 1)), run (step smallInstance) {} actions = some s ∧
      (getPoolDiagnostics smallInstance s.shared.pool).createdTotal +
        (getPoolDiagnostics smallInstance s.shared.pool).reusedTotal = 2 := by
  let actions := freshBlock (0 : Fin 1) reader [.move 0 .execute] ++
    [.move 0 (.begin reader), .move 0 (.acquire false), .move 0 (.probe true)]
  have hrun : ((run (step smallInstance) ({} : State (Fin 1)) actions).map (fun s ↦ s.thread 0)) =
      some (.active reader (.running 0 true 0 false)) := by decide
  obtain ⟨s, hs, ht⟩ := Option.map_eq_some_iff.mp hrun
  refine ⟨actions, s, hs, ?_⟩
  have hexact := (poolMetrics_exact_iff smallInstance actions s hs).mpr
    ⟨by decide, fun t call c hp ↦ by
      rw [Subsingleton.elim t 0, ht] at hp
      cases hp⟩
  rw [hexact.1]
  decide

theorem poolMetrics_count_stale :
    ¬ ∀ (inst : SqlInstanceConfig) (Tid : Type) [Fintype Tid] [DecidableEq Tid] (actions : List (Action Tid))
      (s : State Tid), run (step inst) {} actions = some s →
      (getPoolDiagnostics inst s.shared.pool).createdTotal + (getPoolDiagnostics inst s.shared.pool).reusedTotal =
        handOuts actions := by
  intro h
  have hrun : (run (step smallInstance) ({} : State (Fin 1)) staleReuse).map
      (fun s ↦ s.shared.pool.createdTotal + s.shared.pool.reusedTotal) = some 3 := by decide
  obtain ⟨s, hs, htotal⟩ := Option.map_eq_some_iff.mp hrun
  have hcount := h smallInstance (Fin 1) staleReuse s hs
  have htwo : handOuts staleReuse = 2 := by decide
  rw [htwo] at hcount
  exact absurd (htotal.symm.trans hcount) (by decide)

end McpSqlServer.Pool

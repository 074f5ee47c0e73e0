import McpSqlServer.Pool.Capacity

namespace McpSqlServer.Pool

open Library.Transition

variable {inst : SqlInstanceConfig} {sh : Shared} {th : Thread} {m : Move} {o : Outcome}

def PoolState.Exhausted (cap : ℕ) (s : PoolState) : Prop := s.available = [] ∧ cap ≤ s.inUse.length

/-- The call waits and has not been notified since it began to wait. -/
def Thread.Unnotified (th : Thread) : Prop := ∃ call, th = .active call (.waiting false)

theorem Thread.not_unnotified_notify (th : Thread) : ¬ th.notify.Unnotified := by
  rintro ⟨call, h⟩
  unfold notify at h
  split at h
  · cases h
  · rename_i hw
    exact hw call false h

/-- A move that frees a slot or returns a connection notifies all waiters. -/
theorem Moves.exhausted (h : Moves inst sh th m o) (hn : o.notifyAll = false)
    (hi : sh.pool.Exhausted inst.poolCap) : o.shared.pool.Exhausted inst.poolCap := by
  cases h with
  | reuse ha =>
    have hnil := hi.1
    rw [ha] at hnil
    exact absurd hnil (List.append_ne_nil_of_right_ne_nil _ (List.cons_ne_nil _ _))
  | register =>
    refine ⟨hi.1, Nat.le_trans hi.2 ?_⟩
    simp [PoolState.registerCreated]
  | discard => cases hn
  | releaseAvailable => cases hn
  | releaseDiscard => cases hn
  | _ => exact hi

theorem Moves.exhausted_of_unnotified (h : Moves inst sh th m o) (hw : o.thread.Unnotified) :
    o.shared.pool.Exhausted inst.poolCap := by
  obtain ⟨call, hw⟩ := hw
  cases h with
  | begin call phase hp =>
    subst hp
    cases hu : call.usePool inst <;> simp [hu] at hw
  | wait ha hs =>
    refine ⟨ha, ?_⟩
    rwa [PoolState.size, ha, List.length_nil, Nat.zero_add] at hs
  | @finishOk _ p => cases p <;> cases hw
  | @rollbackOk _ p => cases p <;> cases hw
  | @rollbackFailed _ p => cases p <;> cases hw
  | _ => cases hw

variable {Tid : Type} [Fintype Tid] [DecidableEq Tid] {s s' : State Tid} {t : Tid}

theorem exhausted_step {a : Action Tid} (hs : step inst s a = some s')
    (hi : ∀ t, (s.thread t).Unnotified → s.shared.pool.Exhausted inst.poolCap) (hw : (s'.thread t).Unnotified) :
    s'.shared.pool.Exhausted inst.poolCap := by
  cases a with
  | closeAllPools =>
    obtain rfl := step_closeAllPools hs
    exact absurd hw (Thread.not_unnotified_notify _)
  | move u m =>
    obtain ⟨o, hm, rfl⟩ := step_move hs
    by_cases ht : t = u
    · rw [ht, after_thread_self] at hw
      exact hm.exhausted_of_unnotified hw
    · have hthread : (s.after u o).thread t = (if o.notifyAll then fun v ↦ (s.thread v).notify else s.thread) t :=
        Function.update_of_ne ht _ _
      rw [hthread] at hw
      cases hn : o.notifyAll with
      | true =>
        rw [hn] at hw
        exact absurd hw (Thread.not_unnotified_notify _)
      | false =>
        rw [hn] at hw
        exact hm.exhausted hn (hi t hw)

/-- Whatever the threads and `close_all_pools` do, a call that waits without having been
notified waits for nothing that is there. -/
theorem no_lost_wakeup (inst : SqlInstanceConfig) (h : Reachable (step inst) (fun _ _ ↦ True) {} s) (t : Tid) (call : Call)
    (hw : s.thread t = .active call (.waiting false)) :
    s.shared.pool.available = [] ∧ max 1 inst.poolMax ≤ (s.shared.pool.inUse.length : ℤ) := by
  have hi : ∀ t, (s.thread t).Unnotified → s.shared.pool.Exhausted inst.poolCap := by
    refine h.invariant (I := fun s ↦ ∀ t, (s.thread t).Unnotified → s.shared.pool.Exhausted inst.poolCap) ?_ ?_
    · rintro t ⟨call, ht⟩
      cases ht
    · intro s a s' _ hi _ hs t hw
      exact exhausted_step hs hi hw
  obtain ⟨ha, hc⟩ := hi t ⟨call, hw⟩
  have hcap : ((inst.poolCap : ℕ) : ℤ) = max 1 inst.poolMax := Int.toNat_of_nonneg (by omega)
  refine ⟨ha, ?_⟩
  rw [← hcap]
  exact_mod_cast hc

/-- The second reader waits while the first one keeps the only connection. -/
theorem no_lost_wakeup_second_reader :
    ∃ s : State (Fin 2), s.thread 1 = .active reader (.waiting false) ∧ s.shared.pool.available = [] ∧
      max 1 smallInstance.poolMax ≤ (s.shared.pool.inUse.length : ℤ) := by
  have hrun : (run (guarded (step smallInstance) (fun _ _ ↦ True)) ({} : State (Fin 2))
      [.move 0 (.begin reader), .move 1 (.begin reader), .move 0 (.acquire false), .move 0 (.connect true),
        .move 0 .register, .move 1 (.acquire false)]).map (fun s ↦ s.thread 1) =
      some (.active reader (.waiting false)) := by decide
  obtain ⟨s, hs, ht⟩ := Option.map_eq_some_iff.mp hrun
  exact ⟨s, ht, no_lost_wakeup smallInstance (Reachable.init.of_run hs) 1 reader ht⟩

end McpSqlServer.Pool

import McpSqlServer.Pool.Holding

namespace McpSqlServer.Pool

open Library.Transition Library.Ownership

variable {inst : SqlInstanceConfig} {sh : Shared} {th : Thread} {m : Move} {o : Outcome}

theorem Moves.size_add_creating (h : Moves inst sh th m o) (hb : ∀ c ∈ th.borrowed, c ∈ sh.pool.inUse) :
    o.shared.pool.size + o.thread.creating ≤ sh.pool.size + th.creating ∨
    ((sh.pool.acquire inst.poolCap).1 = .createNew ∧ (∃ timedOut, m = .acquire timedOut) ∧
      o.shared.pool.size + o.thread.creating = sh.pool.size + th.creating + 1) := by
  cases h with
  | begin call phase hp => subst hp; cases call.usePool inst <;> exact .inl le_rfl
  | reuse ha =>
    refine .inl (le_of_eq ?_)
    simp only [PoolState.size, ha, List.length_append, List.length_singleton, Thread.creating]
    omega
  | createNew ha hs => exact .inr ⟨by simp [PoolState.acquire, ha, hs], ⟨_, rfl⟩, rfl⟩
  | @connectFailed _ p => cases p <;> exact .inl (Nat.add_le_add_left (Nat.zero_le _) _)
  | register =>
    refine .inl (le_of_eq ?_)
    simp only [PoolState.size, PoolState.registerCreated, List.length_append, List.length_singleton,
      Thread.creating]
    omega
  | discard | releaseDiscard =>
    have hs := PoolState.size_removeInUse _ _ (hb _ (Multiset.mem_singleton_self _))
    refine .inl (Nat.add_le_add_right ?_ _)
    exact Nat.le_of_succ_le (le_of_eq hs)
  | releaseAvailable =>
    have hs := PoolState.size_removeInUse _ _ (hb _ (Multiset.mem_singleton_self _))
    refine .inl (le_of_eq ?_)
    simp only [PoolState.size, PoolState.removeInUse, List.length_append, List.length_singleton,
      Thread.creating] at hs ⊢
    omega
  | @finishOk _ p => cases p <;> exact .inl le_rfl
  | @rollbackOk _ p => cases p <;> exact .inl le_rfl
  | @rollbackFailed _ p => cases p <;> exact .inl le_rfl
  | _ => exact .inl le_rfl

variable {Tid : Type} [Fintype Tid] {s s' : State Tid}

def State.creationsInFlight (s : State Tid) : ℕ := total Thread.creating s.thread

variable [DecidableEq Tid]

/-- The steps of calls that decide to create a connection only while the creations
already in flight leave a slot for it. -/
def CreatesReserved (inst : SqlInstanceConfig) (s : State Tid) (a : Action Tid) : Prop :=
  CallStep s a ∧ ∀ t timedOut, a = .move t (.acquire timedOut) →
    (s.shared.pool.acquire inst.poolCap).1 = .createNew →
    s.shared.pool.size + s.creationsInFlight < inst.poolCap

instance (inst : SqlInstanceConfig) (s : State Tid) (a : Action Tid) : Decidable (CreatesReserved inst s a) :=
  inferInstanceAs (Decidable (_ ∧ ∀ _ _, _ → _ → _))

theorem size_add_creations_step {t : Tid} (hacc : Accounted s)
    (hi : s.shared.pool.size + s.creationsInFlight ≤ inst.poolCap)
    (hok : CreatesReserved inst s (.move t m)) (hs : step inst s (.move t m) = some s') :
    s'.shared.pool.size + s'.creationsInFlight ≤ inst.poolCap := by
  obtain ⟨o, hm, rfl⟩ := step_move hs
  have ht := total_after (s := s) (t := t) (o := o) Thread.creating Thread.creating_notify
  have hsh : (s.after t o).shared = o.shared := rfl
  rw [State.creationsInFlight, hsh]
  rcases hm.size_add_creating (fun c hc ↦ hacc.mem_inUse hc) with hle | ⟨hc, ⟨timedOut, rfl⟩, he⟩
  · rw [State.creationsInFlight] at hi
    omega
  · have hlt := hok.2 t timedOut rfl hc
    rw [State.creationsInFlight] at hlt
    omega

theorem size_add_creations_le (h : Reachable (step inst) (CreatesReserved inst) {} s) :
    s.shared.pool.size + s.creationsInFlight ≤ inst.poolCap := by
  refine h.invariant (I := fun s ↦ s.shared.pool.size + s.creationsInFlight ≤ inst.poolCap) ?_
    (fun s a s' hr hi ha hs ↦ ?_)
  · have ht : ({} : State Tid).creationsInFlight = 0 := total_initial Thread.creating rfl
    rw [ht]
    exact Nat.zero_le _
  · cases a with
    | closeAllPools => exact absurd rfl ha.1
    | move t m => exact size_add_creations_step (accounted_of_reachable (fun _ _ hc ↦ hc.1) hr) hi ha hs

/-- In every run whose create decisions reserve a slot, the pool never exceeds its cap. -/
theorem pool_size_le_cap (inst : SqlInstanceConfig)
    (h : Reachable (step inst) (CreatesReserved inst) {} s) :
    ((s.shared.pool.available.length + s.shared.pool.inUse.length : ℕ) : ℤ) ≤ max 1 inst.poolMax := by
  have hs := size_add_creations_le h
  have hcap : ((inst.poolCap : ℕ) : ℤ) = max 1 inst.poolMax := Int.toNat_of_nonneg (by omega)
  rw [← hcap]
  exact_mod_cast Nat.le_of_add_right_le hs

def smallInstance : SqlInstanceConfig where
  id := "primary".toList
  host := "sql".toList
  database := "master".toList
  authSecretRef := "SQL_PRIMARY".toList
  poolMax := 1

def reader : Call := { op := .executeRead "SELECT name FROM sys.tables".toList }

theorem pool_size_le_cap_one_creation :
    ∃ s : State (Fin 2), s.thread 1 = .active reader (.waiting false) ∧
      ((s.shared.pool.available.length + s.shared.pool.inUse.length : ℕ) : ℤ) ≤ max 1 smallInstance.poolMax := by
  have hrun : (run (guarded (step smallInstance) (CreatesReserved smallInstance)) ({} : State (Fin 2))
      [.move 0 (.begin reader), .move 1 (.begin reader), .move 0 (.acquire false), .move 0 (.connect true),
        .move 0 .register, .move 1 (.acquire false)]).map (fun s ↦ s.thread 1) =
      some (.active reader (.waiting false)) := by decide
  obtain ⟨s, hs, ht⟩ := Option.map_eq_some_iff.mp hrun
  exact ⟨s, ht, pool_size_le_cap smallInstance (Reachable.init.of_run hs)⟩

/-- Both threads find the pool empty and below its cap before either has registered
the connection it opens. -/
def racingCreates : List (Action (Fin 2)) :=
  [.move 0 (.begin reader), .move 1 (.begin reader), .move 0 (.acquire false), .move 1 (.acquire false),
    .move 0 (.connect true), .move 1 (.connect true), .move 0 .register, .move 1 .register]

theorem pool_size_exceeds_cap :
    ¬ ∀ (inst : SqlInstanceConfig) (Tid : Type) [Fintype Tid] [DecidableEq Tid] (s : State Tid),
      Reachable (step inst) CallStep {} s →
      ((s.shared.pool.available.length + s.shared.pool.inUse.length : ℕ) : ℤ) ≤ max 1 inst.poolMax := by
  intro h
  have hrun : (run (guarded (step smallInstance) CallStep) ({} : State (Fin 2)) racingCreates).map
      (fun s ↦ s.shared.pool.available.length + s.shared.pool.inUse.length) = some 2 := by decide
  obtain ⟨s, hs, hsize⟩ := Option.map_eq_some_iff.mp hrun
  have hle := h smallInstance (Fin 2) s (Reachable.init.of_run hs)
  rw [hsize] at hle
  exact absurd hle (by decide)

end McpSqlServer.Pool

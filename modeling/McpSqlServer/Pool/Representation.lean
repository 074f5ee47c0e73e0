import McpSqlServer.Pool.Capacity

namespace McpSqlServer.Pool

open Library.Transition Library.Ownership

variable {inst : SqlInstanceConfig} {sh : Shared} {th : Thread} {m : Move} {o : Outcome} {c : Conn}

def PoolState.Balanced (s : PoolState) : Prop := s.createdTotal = s.size + s.discardedTotal

theorem PoolState.Balanced.discardStale {s : PoolState} (h : s.Balanced) (hc : c ∈ s.inUse) :
    (s.discardStale c).Balanced := by
  have hs := s.size_removeInUse c hc
  simp only [Balanced, PoolState.discardStale, countDiscarded, removeInUse, size] at h hs ⊢
  omega

theorem Moves.balanced (h : Moves inst sh th m o) (hb : ∀ c ∈ th.borrowed, c ∈ sh.pool.inUse)
    (hi : sh.pool.Balanced) : o.shared.pool.Balanced := by
  cases h with
  | reuse ha =>
    simp only [PoolState.Balanced, PoolState.size, ha, List.length_append, List.length_singleton] at hi ⊢
    omega
  | register =>
    simp only [PoolState.Balanced, PoolState.registerCreated, PoolState.size, List.length_append,
      List.length_singleton] at hi ⊢
    omega
  | discard | releaseDiscard => exact hi.discardStale (hb _ (Multiset.mem_singleton_self _))
  | releaseAvailable =>
    have hs := PoolState.size_removeInUse _ _ (hb _ (Multiset.mem_singleton_self _))
    simp only [PoolState.Balanced, PoolState.removeInUse, PoolState.size, List.length_append,
      List.length_singleton] at hi hs ⊢
    omega
  | _ => exact hi

theorem Moves.available_le (h : Moves inst sh th m o) (hi : sh.pool.available.length ≤ inst.poolCap) :
    o.shared.pool.available.length ≤ inst.poolCap := by
  cases h with
  | reuse ha =>
    rw [ha, List.length_append] at hi
    exact Nat.le_of_add_right_le hi
  | releaseAvailable hu hl =>
    rw [List.length_append, List.length_singleton]
    exact hl
  | _ => exact hi

def Thread.live : Thread → Multiset Conn
  | .active _ (.closingStale _) | .active _ (.closing _) => 0
  | th => th.owned

theorem Thread.live_le_owned (th : Thread) : th.live ≤ th.owned := by
  unfold live
  split
  · exact Multiset.zero_le _
  · exact Multiset.zero_le _
  · exact le_rfl

theorem Thread.borrowed_le_live (th : Thread) : th.borrowed ≤ th.live := by
  unfold borrowed
  split
  all_goals first | exact le_rfl | exact Multiset.zero_le _

theorem Thread.borrowed_le_owned (th : Thread) : th.borrowed ≤ th.owned :=
  th.borrowed_le_live.trans th.live_le_owned

@[simp] theorem Thread.live_notify (th : Thread) : th.notify.live = th.live := by
  unfold notify
  split <;> rfl

theorem Moves.live_of (h : Moves inst sh th m o) (hc : c ∈ o.shared.pool.available ∨ c ∈ o.thread.live) :
    c ∈ sh.pool.available ∨ c ∈ th.live ∨ c = sh.next := by
  have hempty : c ∉ (0 : Multiset Conn) := Multiset.notMem_zero c
  cases h with
  | begin call phase hp =>
    subst hp
    cases hu : call.usePool inst <;> simp only [hu] at hc
    · exact .inl (hc.resolve_right hempty)
    · exact .inl (hc.resolve_right hempty)
  | reuse ha =>
    rw [ha]
    rcases hc with hc | hc
    · exact .inl (List.mem_append_left _ hc)
    · rw [Multiset.mem_singleton.mp hc]
      exact .inl (List.mem_append_right _ (List.mem_singleton_self _))
  | connectPooled | connectUnpooled =>
    rcases hc with hc | hc
    · exact .inl hc
    · exact .inr (.inr (Multiset.mem_singleton.mp hc))
  | discard | closeStale | close | releaseDiscard => exact .inl (hc.resolve_right hempty)
  | releaseAvailable =>
    rcases List.mem_append.mp (hc.resolve_right hempty) with hc | hc
    · exact .inl hc
    · rw [List.mem_singleton.mp hc]
      exact .inr (.inl (Multiset.mem_singleton_self _))
  | @finishOk _ p =>
    cases p with
    | false => exact .inl (hc.resolve_right hempty)
    | true => exact hc.elim .inl (fun hc ↦ .inr (.inl hc))
  | @rollbackOk _ p =>
    cases p with
    | false => exact .inl (hc.resolve_right hempty)
    | true => exact hc.elim .inl (fun hc ↦ .inr (.inl hc))
  | @rollbackFailed _ p =>
    cases p with
    | false => exact .inl (hc.resolve_right hempty)
    | true => exact hc.elim .inl (fun hc ↦ .inr (.inl hc))
  | _ => exact hc.elim .inl (fun hc ↦ .inr (.inl hc))

theorem Moves.live_of_discarded (h : Moves inst sh th m o)
    (hd : o.shared.pool.discardedTotal = sh.pool.discardedTotal + 1) :
    o.thread.live = 0 ∧ o.shared.pool.available = sh.pool.available := by
  cases h with
  | discard | releaseDiscard => exact ⟨rfl, rfl⟩
  | _ => exact absurd hd (Nat.ne_of_lt (Nat.lt_succ_self _))

section System

variable {Tid : Type} [Fintype Tid] {s s' : State Tid} {t : Tid}

structure Gone (c : Conn) (s : State Tid) : Prop where
  lt_next : c < s.shared.next
  available : c ∉ s.shared.pool.available
  live : ∀ t, c ∉ (s.thread t).live

/-- What the two lists and the counters of the pool mean. -/
structure Represents (inst : SqlInstanceConfig) (s : State Tid) : Prop where
  available_nodup : s.shared.pool.available.Nodup
  inUse_nodup : s.shared.pool.inUse.Nodup
  disjoint : s.shared.pool.available.Disjoint s.shared.pool.inUse
  held_once : ∀ c ∈ s.shared.pool.inUse, ∃! t, c ∈ (s.thread t).owned
  available_free : ∀ c ∈ s.shared.pool.available, ∀ t, c ∉ (s.thread t).owned
  available_le : (s.shared.pool.available.length : ℤ) ≤ max 1 inst.poolMax
  created_eq : s.shared.pool.createdTotal =
    s.shared.pool.available.length + s.shared.pool.inUse.length + s.shared.pool.discardedTotal

variable [DecidableEq Tid]

omit [Fintype Tid] in
theorem after_live_of_ne {u : Tid} (hu : u ≠ t) : ((s.after t o).thread u).live = (s.thread u).live :=
  Thread.notify_congr Thread.live_notify (after_thread_of_ne hu)

theorem Gone.step (h : Gone c s) {a : Action Tid} (hs : step inst s a = some s') : Gone c s' := by
  cases a with
  | closeAllPools =>
    obtain rfl := step_closeAllPools hs
    refine ⟨(Shared.closeAll_next s.shared).symm ▸ h.lt_next, List.not_mem_nil, fun t ↦ ?_⟩
    rw [Thread.live_notify]
    exact h.live t
  | move t m =>
    obtain ⟨o, hm, rfl⟩ := step_move hs
    have hnew : ¬ (c ∈ o.shared.pool.available ∨ c ∈ o.thread.live) := by
      intro hc
      rcases hm.live_of hc with hc | hc | rfl
      · exact h.available hc
      · exact h.live t hc
      · exact Nat.lt_irrefl _ h.lt_next
    refine ⟨Nat.lt_of_lt_of_le h.lt_next hm.next_le, fun hc ↦ hnew (.inl hc), fun u ↦ ?_⟩
    by_cases hu : u = t
    · rw [hu, after_thread_self]
      exact fun hc ↦ hnew (.inr hc)
    · rw [after_live_of_ne hu]
      exact h.live u

theorem gone_of_reachable {ok : State Tid → Action Tid → Prop} (h : Gone c s) (hr : Reachable (step inst) ok s s') :
    Gone c s' :=
  hr.invariant h (fun _ _ _ _ hi _ hs ↦ hi.step hs)

omit [DecidableEq Tid] in
theorem Gone.notMem_inUse (h : Gone c s) (hacc : Accounted s) : c ∉ s.shared.pool.inUse := by
  intro hc
  have hmem : c ∈ total Thread.borrowed s.thread := hacc ▸ Multiset.mem_coe.mpr hc
  obtain ⟨t, -, ht⟩ := Multiset.mem_sum.mp hmem
  exact h.live t (Multiset.mem_of_le (s.thread t).borrowed_le_live ht)

theorem gone_of_discarded (hsep : Separate s) (hs : step inst s (.move t m) = some s')
    (hc : c ∈ (s.thread t).borrowed)
    (hd : s'.shared.pool.discardedTotal = s.shared.pool.discardedTotal + 1) : Gone c s' := by
  obtain ⟨o, hm, rfl⟩ := step_move hs
  obtain ⟨hlive, hav⟩ := hm.live_of_discarded hd
  have howned : c ∈ (s.thread t).owned :=
    Multiset.mem_of_le (s.thread t).borrowed_le_owned hc
  have htotal : c ∈ total Thread.owned s.thread := Multiset.mem_of_le (le_total Thread.owned s.thread t) howned
  have hnodup := Multiset.nodup_add.mp hsep.nodup
  refine ⟨Nat.lt_of_lt_of_le (hsep.lt_next c (Multiset.mem_add.mpr (.inr htotal))) hm.next_le, ?_, fun u hu ↦ ?_⟩
  · show c ∉ o.shared.pool.available
    rw [hav]
    exact fun h ↦ Multiset.disjoint_left.mp hnodup.2.2 (Multiset.mem_coe.mpr h) htotal
  · by_cases hut : u = t
    · rw [hut, after_thread_self, hlive] at hu
      exact Multiset.notMem_zero c hu
    · rw [after_live_of_ne hut] at hu
      exact disjoint_of_nodup Thread.owned s.thread hnodup.2.1 hut
        (Multiset.mem_of_le (s.thread u).live_le_owned hu) howned

theorem balanced_of_reachable (h : Reachable (step inst) CallStep {} s) : s.shared.pool.Balanced := by
  refine h.invariant (I := fun s ↦ s.shared.pool.Balanced) rfl (fun s a s' hr hi ha hs ↦ ?_)
  cases a with
  | closeAllPools => exact absurd rfl ha
  | move t m =>
    obtain ⟨o, hm, rfl⟩ := step_move hs
    exact hm.balanced (fun c hc ↦ (accounted_of_reachable (fun _ _ h ↦ h) hr).mem_inUse hc) hi

theorem available_le_of_reachable {ok : State Tid → Action Tid → Prop} (h : Reachable (step inst) ok {} s) :
    s.shared.pool.available.length ≤ inst.poolCap := by
  refine h.invariant (I := fun s ↦ s.shared.pool.available.length ≤ inst.poolCap) (Nat.zero_le _)
    (fun s a s' _ hi _ hs ↦ ?_)
  cases a with
  | closeAllPools =>
    obtain rfl := step_closeAllPools hs
    exact Nat.zero_le _
  | move t m =>
    obtain ⟨o, hm, rfl⟩ := step_move hs
    exact hm.available_le hi

theorem represents_of_reachable (h : Reachable (step inst) CallStep {} s) : Represents inst s := by
  have hsep := separate_of_reachable h
  have hacc := accounted_of_reachable (fun _ _ h ↦ h) h
  have hnodup := Multiset.nodup_add.mp hsep.nodup
  have hle : total Thread.borrowed s.thread ≤ total Thread.owned s.thread :=
    total_mono _ _ Thread.borrowed_le_owned
  have hinUse : (s.shared.pool.inUse : Multiset Conn) ≤ total Thread.owned s.thread := hacc ▸ hle
  have hfree : ∀ c ∈ s.shared.pool.available, ∀ t, c ∉ (s.thread t).owned := by
    intro c hc t ht
    exact Multiset.disjoint_left.mp hnodup.2.2 (Multiset.mem_coe.mpr hc)
      (Multiset.mem_of_le (le_total Thread.owned s.thread t) ht)
  refine ⟨Multiset.coe_nodup.mp hnodup.1, Multiset.coe_nodup.mp (Multiset.nodup_of_le hinUse hnodup.2.1), ?_, ?_,
    hfree, ?_, balanced_of_reachable h⟩
  · intro c hc hu
    exact Multiset.disjoint_left.mp hnodup.2.2 (Multiset.mem_coe.mpr hc)
      (Multiset.mem_of_le hinUse (Multiset.mem_coe.mpr hu))
  · intro c hc
    obtain ⟨t, -, ht⟩ := Multiset.mem_sum.mp (Multiset.mem_of_le hinUse (Multiset.mem_coe.mpr hc))
    refine ⟨t, ht, fun u hu ↦ by_contra (fun hut ↦ ?_)⟩
    exact disjoint_of_nodup Thread.owned s.thread hnodup.2.1 hut hu ht
  · have hcap : ((inst.poolCap : ℕ) : ℤ) = max 1 inst.poolMax := Int.toNat_of_nonneg (by omega)
    rw [← hcap]
    exact_mod_cast available_le_of_reachable h

/-- The pool's lists and counters say what they mean, and a connection that was counted as
discarded stays out of both lists. -/
theorem pool_represents (inst : SqlInstanceConfig) (h : Reachable (step inst) CallStep {} s) :
    Represents inst s ∧ ∀ t m s₁ s₂ c, Reachable (step inst) CallStep {} s₁ →
      step inst s₁ (.move t m) = some s₂ → c ∈ (s₁.thread t).borrowed →
      s₂.shared.pool.discardedTotal = s₁.shared.pool.discardedTotal + 1 →
      Reachable (step inst) CallStep s₂ s → c ∉ s.shared.pool.available ∧ c ∉ s.shared.pool.inUse := by
  refine ⟨represents_of_reachable h, fun t m s₁ s₂ c hr₁ hs hc hd hr ↦ ?_⟩
  have hgone := gone_of_reachable (gone_of_discarded (separate_of_reachable hr₁) hs hc hd) hr
  exact ⟨hgone.available, hgone.notMem_inUse (accounted_of_reachable (fun _ _ h ↦ h) h)⟩

end System

theorem pool_represents_two_readers :
    ∃ s : State (Fin 2), s.shared.pool.inUse = [0, 1] ∧ Represents smallInstance s := by
  have hrun : (run (guarded (step smallInstance) CallStep) ({} : State (Fin 2)) racingCreates).map
      (fun s ↦ s.shared.pool.inUse) = some [0, 1] := by decide
  obtain ⟨s, hs, hu⟩ := Option.map_eq_some_iff.mp hrun
  exact ⟨s, hu, (pool_represents smallInstance (Reachable.init.of_run hs)).1⟩

end McpSqlServer.Pool

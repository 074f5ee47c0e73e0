import McpSqlServer.Pool.Moves
import McpSqlServer.Library.Ownership

namespace McpSqlServer.Pool

open Library.Transition Library.Ownership

variable {inst : SqlInstanceConfig} {sh : Shared} {th : Thread} {m : Move} {o : Outcome}

namespace Thread

def borrowed : Thread → Multiset Conn
  | .active _ (.probing c) | .active _ (.discarding c) | .active _ (.running c true _ _)
  | .active _ (.rollingBack c true) | .active _ (.checking c) | .active _ (.releasing c _) => {c}
  | _ => 0

/-- The connection object that a call holds, whether or not the pool knows of it. -/
def owned : Thread → Multiset Conn
  | .active _ (.registering c) | .active _ (.probing c) | .active _ (.discarding c)
  | .active _ (.closingStale c) | .active _ (.running c _ _ _) | .active _ (.rollingBack c _)
  | .active _ (.checking c) | .active _ (.releasing c _) | .active _ (.closing c) => {c}
  | _ => 0

def creating : Thread → ℕ
  | .active _ (.connecting true) | .active _ (.registering _) => 1
  | _ => 0

@[simp] theorem borrowed_notify (th : Thread) : th.notify.borrowed = th.borrowed := by
  unfold notify
  split <;> rfl

@[simp] theorem owned_notify (th : Thread) : th.notify.owned = th.owned := by
  unfold notify
  split <;> rfl

@[simp] theorem creating_notify (th : Thread) : th.notify.creating = th.creating := by
  unfold notify
  split <;> rfl

end Thread

theorem Moves.borrowed_eq (h : Moves inst sh th m o) (hb : th.borrowed ≤ sh.pool.inUse) :
    (o.shared.pool.inUse : Multiset Conn) + th.borrowed = sh.pool.inUse + o.thread.borrowed := by
  cases h with
  | begin call phase hp => subst hp; cases call.usePool inst <;> rfl
  | reuse => rw [← Multiset.coe_add, Multiset.coe_singleton]; exact add_zero _
  | register => rw [PoolState.registerCreated, ← Multiset.coe_add, Multiset.coe_singleton]; exact add_zero _
  | discard | releaseAvailable | releaseDiscard =>
    rw [Thread.borrowed, Multiset.singleton_le] at hb
    exact (PoolState.coe_inUse_removeInUse _ _ hb).trans (add_zero _).symm
  | @execute _ p => cases p <;> rfl
  | @commitOk _ p => cases p <;> rfl
  | @commitFailed _ p => cases p <;> rfl
  | @finishOk _ p => cases p <;> rfl
  | @finishFailed _ p => cases p <;> rfl
  | @rollbackOk _ p => cases p <;> rfl
  | @rollbackFailed _ p => cases p <;> rfl
  | _ => rfl

theorem Moves.owned_le (h : Moves inst sh th m o) :
    (o.shared.next = sh.next ∧
      (o.shared.pool.available : Multiset Conn) + o.thread.owned ≤ sh.pool.available + th.owned) ∨
    (o.shared.next = sh.next + 1 ∧
      (o.shared.pool.available : Multiset Conn) + o.thread.owned =
        sh.pool.available + th.owned + {sh.next}) := by
  cases h with
  | begin call phase hp => subst hp; cases call.usePool inst <;> exact .inl ⟨rfl, le_rfl⟩
  | reuse ha =>
    refine .inl ⟨rfl, le_of_eq ?_⟩
    rw [ha, ← Multiset.coe_add, Multiset.coe_singleton]
    exact (add_zero _).symm
  | connectPooled | connectUnpooled => exact .inr ⟨rfl, by simp only [Thread.owned, add_zero]; rfl⟩
  | releaseAvailable =>
    refine .inl ⟨rfl, le_of_eq ?_⟩
    rw [← Multiset.coe_add, Multiset.coe_singleton]
    exact add_zero _
  | closeStale | close => exact .inl ⟨rfl, add_le_add le_rfl (Multiset.zero_le _)⟩
  | @finishOk _ p => cases p <;> exact .inl ⟨rfl, le_rfl⟩
  | @rollbackOk _ p => cases p <;> exact .inl ⟨rfl, le_rfl⟩
  | @rollbackFailed _ p => cases p <;> exact .inl ⟨rfl, le_rfl⟩
  | _ => exact .inl ⟨rfl, le_rfl⟩

theorem Moves.next_le (h : Moves inst sh th m o) : sh.next ≤ o.shared.next := by
  rcases h.owned_le with ⟨hn, -⟩ | ⟨hn, -⟩
  · exact le_of_eq hn.symm
  · exact hn ▸ Nat.le_succ _

theorem Moves.closed {c : Conn} (h : Moves inst sh th m o) (hn : c < sh.next) (hc : (sh.conn c).closed = true) :
    (o.shared.conn c).closed = true := by
  have hset (d : Conn) (k : ConnState) (hk : k.closed = true ∨ k.closed = (sh.conn d).closed) :
      ((sh.setConn d k).conn c).closed = true := by
    by_cases hd : c = d
    · subst hd
      rw [Shared.setConn_self]
      exact hk.elim id (fun hk ↦ hk.trans hc)
    · rw [Shared.setConn_of_ne hd]
      exact hc
  cases h with
  | connectPooled | connectUnpooled =>
    rw [Shared.openNew_of_ne (Nat.ne_of_lt hn)]
    exact hc
  | closeStale | close => exact hset _ _ (.inl rfl)
  | probeOk | execute | commitOk | rollbackOk | checkOk => exact hset _ _ (.inr rfl)
  | _ => exact hc

theorem Shared.closeAll_closed {sh : Shared} {c : Conn} (hc : (sh.conn c).closed = true) :
    (sh.closeAll.conn c).closed = true := by
  rw [closeAll_conn]
  split
  · rfl
  · exact hc

section System

variable {Tid : Type} [Fintype Tid] {s s' : State Tid} {t : Tid}

def State.held (s : State Tid) : Multiset Conn := s.shared.pool.available + total Thread.owned s.thread

/-- No connection object is in two hands, and none is in any hand before it is opened. -/
structure Separate (s : State Tid) : Prop where
  nodup : s.held.Nodup
  lt_next : ∀ c ∈ s.held, c < s.shared.next

/-- Every borrowed connection, and nothing else, is in `in_use`. -/
def Accounted (s : State Tid) : Prop :=
  (s.shared.pool.inUse : Multiset Conn) = total Thread.borrowed s.thread

theorem Separate.next_notMem (h : Separate s) : s.shared.next ∉ s.held :=
  fun hc ↦ Nat.lt_irrefl _ (h.lt_next _ hc)

theorem Separate.lt_next_of_owned (h : Separate s) {c : Conn} (hc : c ∈ (s.thread t).owned) : c < s.shared.next :=
  h.lt_next c (Multiset.mem_add.mpr (.inr (Multiset.mem_of_le (le_total Thread.owned s.thread t) hc)))

theorem Separate.of_le (h : Separate s) (hl : s'.held ≤ s.held) (hn : s'.shared.next = s.shared.next) :
    Separate s' where
  nodup := Multiset.nodup_of_le hl h.nodup
  lt_next c hc := hn ▸ h.lt_next c (Multiset.mem_of_le hl hc)

def CallStep (_ : State Tid) (a : Action Tid) : Prop := a ≠ .closeAllPools

instance [DecidableEq Tid] (s : State Tid) (a : Action Tid) : Decidable (CallStep s a) :=
  inferInstanceAs (Decidable (a ≠ .closeAllPools))

theorem total_initial {M : Type*} [AddCommMonoid M] (f : Thread → M) (hf : f .idle = 0) :
    total f ({} : State Tid).thread = 0 := total_eq_zero f _ (fun _ ↦ hf)

theorem Accounted.mem_inUse (h : Accounted s) {c : Conn} (hc : c ∈ (s.thread t).borrowed) :
    c ∈ s.shared.pool.inUse := by
  have hle : (s.thread t).borrowed ≤ s.shared.pool.inUse := h ▸ le_total Thread.borrowed s.thread t
  exact Multiset.mem_coe.mp (Multiset.mem_of_le hle hc)

variable [DecidableEq Tid]

omit [Fintype Tid] in
theorem after_owned_of_ne {u : Tid} (hu : u ≠ t) : ((s.after t o).thread u).owned = (s.thread u).owned :=
  Thread.notify_congr Thread.owned_notify (after_thread_of_ne hu)

omit [Fintype Tid] in
theorem after_borrowed_of_ne {u : Tid} (hu : u ≠ t) : ((s.after t o).thread u).borrowed = (s.thread u).borrowed :=
  Thread.notify_congr Thread.borrowed_notify (after_thread_of_ne hu)

theorem Separate.notMem_owned (h : Separate s) {u : Tid} (hu : u ≠ t) {c : Conn} (hc : c ∈ (s.thread u).owned) :
    c ∉ (s.thread t).owned :=
  disjoint_of_nodup Thread.owned s.thread (Multiset.nodup_add.mp h.nodup).2.1 hu hc

theorem total_after {M : Type*} [AddCommMonoid M] (f : Thread → M) (hf : ∀ th, f th.notify = f th) :
    total f (s.after t o).thread + f (s.thread t) = total f s.thread + f o.thread := by
  unfold State.after
  cases o.notifyAll with
  | false => exact total_update f s.thread t o.thread
  | true =>
    have h := total_update f (fun u ↦ (s.thread u).notify) t o.thread
    rw [hf, total_congr f s.thread (fun u ↦ hf (s.thread u))] at h
    exact h

theorem Separate.step (h : Separate s) {a : Action Tid} (hs : step inst s a = some s') : Separate s' := by
  cases a with
  | closeAllPools =>
    obtain rfl := step_closeAllPools hs
    refine h.of_le ?_ (Shared.closeAll_next _)
    have ht := total_congr Thread.owned s.thread (fun u ↦ Thread.owned_notify (s.thread u))
    simp only [State.held, ht, Shared.closeAll_available, Multiset.coe_nil]
    exact add_le_add (Multiset.zero_le _) le_rfl
  | move t m =>
    obtain ⟨o, hm, rfl⟩ := step_move hs
    have ht := total_after (s := s) (t := t) (o := o) Thread.owned Thread.owned_notify
    have hheld : (s.after t o).held + (s.thread t).owned =
        (o.shared.pool.available + o.thread.owned) + total Thread.owned s.thread := by
      simp only [State.held, add_assoc, ht]
      rw [add_comm (total Thread.owned s.thread)]
      rfl
    rcases hm.owned_le with ⟨hn, hl⟩ | ⟨hn, he⟩
    · refine h.of_le (le_of_add_le_add_right (a := (s.thread t).owned) ?_) hn
      rw [hheld, State.held, add_right_comm (s.shared.pool.available : Multiset Conn)]
      exact add_le_add hl le_rfl
    · have hnew : (s.after t o).held = s.held + {s.shared.next} := by
        refine add_right_cancel (b := (s.thread t).owned) ?_
        rw [hheld, he, State.held]
        ac_rfl
      refine ⟨hnew ▸ Multiset.nodup_add.mpr ⟨h.nodup, Multiset.nodup_singleton _, ?_⟩, fun c hc ↦ ?_⟩
      · exact Multiset.disjoint_singleton.mpr h.next_notMem
      · have hlt : (s.after t o).shared.next = s.shared.next + 1 := hn
        rw [hnew, Multiset.mem_add, Multiset.mem_singleton] at hc
        rcases hc with hc | rfl
        · exact hlt ▸ Nat.lt_succ_of_lt (h.lt_next c hc)
        · exact hlt ▸ Nat.lt_succ_self _

theorem Accounted.step (h : Accounted s) {t : Tid} (hs : step inst s (.move t m) = some s') :
    Accounted s' := by
  obtain ⟨o, hm, rfl⟩ := step_move hs
  have hle : (s.thread t).borrowed ≤ s.shared.pool.inUse := h ▸ le_total Thread.borrowed s.thread t
  have hb := hm.borrowed_eq hle
  have ht := total_after (s := s) (t := t) (o := o) Thread.borrowed Thread.borrowed_notify
  refine add_right_cancel (b := (s.thread t).borrowed) ?_
  rw [ht, ← h]
  exact hb

theorem separate_of_reachable {ok : State Tid → Action Tid → Prop}
    (h : Reachable (step inst) ok {} s) : Separate s := by
  refine h.invariant ?_ (fun s a s' _ hi _ hs ↦ hi.step hs)
  have ht : ({} : State Tid).held = 0 := (zero_add _).trans (total_initial Thread.owned rfl)
  exact ⟨ht ▸ Multiset.nodup_zero, fun c hc ↦ absurd (ht ▸ hc) (Multiset.notMem_zero c)⟩

theorem accounted_of_reachable {ok : State Tid → Action Tid → Prop} (hok : ∀ s a, ok s a → CallStep s a)
    (h : Reachable (step inst) ok {} s) : Accounted s := by
  refine h.invariant (total_initial Thread.borrowed rfl).symm (fun s a s' _ hi ha hs ↦ ?_)
  cases a with
  | closeAllPools => exact absurd rfl (hok _ _ ha)
  | move t m => exact hi.step hs

end System

end McpSqlServer.Pool

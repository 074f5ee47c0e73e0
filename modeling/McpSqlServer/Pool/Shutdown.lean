import McpSqlServer.Pool.HandOut
import McpSqlServer.Pool.Representation

namespace McpSqlServer.Pool

open Library.Transition Library.Ownership

variable {inst : SqlInstanceConfig} {sh : Shared} {th : Thread} {m : Move} {o : Outcome} {c : Conn}

namespace Thread

/-- The call is between its decision for the pool and the end of `_acquire_connection`. -/
def acquiring : Thread → Bool
  | .active _ .acquiring | .active _ (.waiting _) | .active _ (.connecting true) | .active _ (.registering _)
  | .active _ (.probing _) | .active _ (.discarding _) | .active _ (.closingStale _) => true
  | _ => false

@[simp] theorem acquiring_notify (th : Thread) : th.notify.acquiring = th.acquiring := by
  unfold notify
  split <;> rfl

@[simp] theorem holdsLock_notify (th : Thread) : th.notify.holdsLock = th.holdsLock := by
  unfold notify
  split <;> rfl

theorem notify_notify (th : Thread) : th.notify.notify = th.notify := by
  cases th with
  | idle => rfl
  | active call phase => cases phase <;> rfl

theorem idle_of_notified {th th' : Thread} (h : th' = th ∨ th' = th.notify) (hi : th = .idle) : th' = .idle :=
  Thread.keeps (p := (· = .idle)) (fun _ he ↦ congrArg notify he) h hi

theorem registering_of_notify {call : Call} (h : th.notify = .active call (.registering c)) :
    th = .active call (.registering c) := by
  unfold notify at h
  split at h
  · cases h
  · exact h

/-- A call that can put nothing back: its connection from the pool, if it has one, is closed. -/
def Spent (conn : Conn → ConnState) (th : Thread) : Prop :=
  th.acquiring = false ∧ ∀ c ∈ th.borrowed, (conn c).closed = true

end Thread

theorem Moves.inUse_le (h : Moves inst sh th m o) :
    (o.shared.pool.inUse : Multiset Conn) ≤ sh.pool.inUse - th.borrowed + o.thread.borrowed := by
  cases h with
  | begin call phase hp =>
    subst hp
    cases call.usePool inst <;> exact le_tsub_add
  | discard | releaseAvailable | releaseDiscard =>
    rw [Thread.borrowed, Multiset.sub_singleton, Multiset.coe_erase]
    exact le_add_of_nonneg_right (Multiset.zero_le _)
  | register | reuse =>
    refine le_of_eq ?_
    show ((sh.pool.inUse ++ [_] : List Conn) : Multiset Conn) = sh.pool.inUse - 0 + {_}
    rw [tsub_zero, ← Multiset.coe_add, Multiset.coe_singleton]
  | @execute _ p | @commitOk _ p | @commitFailed _ p | @finishOk _ p | @finishFailed _ p | @rollbackOk _ p
  | @rollbackFailed _ p => cases p <;> exact le_tsub_add
  | _ => exact le_tsub_add

/-- A connection leaves the pool and the hands of calls only by being closed. -/
theorem Moves.tracked (h : Moves inst sh th m o) (hc : c ∈ sh.pool.available ∨ c ∈ th.owned) :
    c ∈ o.shared.pool.available ∨ c ∈ o.thread.owned ∨ (o.shared.conn c).closed = true := by
  have hempty : c ∉ (0 : Multiset Conn) := Multiset.notMem_zero c
  cases h with
  | begin | timeout | connectFailed | connectPooled | connectUnpooled => exact .inl (hc.resolve_right hempty)
  | reuse ha =>
    rcases List.mem_append.mp (ha ▸ hc.resolve_right hempty) with hc | hc
    · exact .inl hc
    · exact .inr (.inl (Multiset.mem_singleton.mpr (List.mem_singleton.mp hc)))
  | closeStale | close =>
    rcases hc with hc | hc
    · exact .inl hc
    · refine .inr (.inr ?_)
      rw [Multiset.mem_singleton.mp hc, Shared.close, Shared.setConn_self]
  | @finishOk _ p | @rollbackOk _ p | @rollbackFailed _ p => cases p <;> exact hc.imp id .inl
  | releaseAvailable =>
    rcases hc with hc | hc
    · exact .inl (List.mem_append_left _ hc)
    · exact .inl (List.mem_append_right _ (List.mem_singleton.mpr (Multiset.mem_singleton.mp hc)))
  | _ => exact hc.imp id .inl

theorem Moves.borrowed_cases (h : Moves inst sh th m o)
    (hb : ∀ c ∈ th.borrowed, c ∈ sh.pool.inUse ∨ (o.shared.conn c).closed = true) (hc : c ∈ o.thread.borrowed) :
    c ∈ o.shared.pool.inUse ∨ (o.shared.conn c).closed = true := by
  cases h with
  | begin call phase hp =>
    subst hp
    cases hu : call.usePool inst <;> simp only [hu] at hc <;> exact absurd hc (Multiset.notMem_zero c)
  | reuse | register =>
    rw [Multiset.mem_singleton.mp hc]
    exact .inl (List.mem_append_right _ (List.mem_singleton_self _))
  | @execute _ p | @commitOk _ p | @commitFailed _ p | @finishOk _ p | @finishFailed _ p | @rollbackOk _ p
  | @rollbackFailed _ p =>
    cases p with
    | false => exact absurd hc (Multiset.notMem_zero c)
    | true => exact hb c hc
  | probeOk | probeFailed | checkOk | checkFailed => exact hb c hc
  | _ => exact absurd hc (Multiset.notMem_zero c)

theorem Moves.mem_inUse (h : Moves inst sh th m o) (hc : c ∈ sh.pool.inUse) (hn : c ∉ th.owned) :
    c ∈ o.shared.pool.inUse := by
  cases h with
  | reuse | register => exact List.mem_append_left _ hc
  | discard | releaseAvailable | releaseDiscard =>
    exact (List.mem_erase_of_ne (fun he ↦ hn (Multiset.mem_singleton.mpr he))).mpr hc
  | _ => exact hc

theorem Moves.registering (h : Moves inst sh th m o) {call : Call} (ho : o.thread = .active call (.registering c)) :
    (o.shared.conn c).closed = false := by
  cases h with
  | begin call phase hp =>
    subst hp
    cases hu : call.usePool inst <;> simp [hu] at ho
  | connectPooled =>
    cases ho
    exact congrArg ConnState.closed (Shared.openNew_conn sh)
  | @finishOk _ p | @rollbackOk _ p | @rollbackFailed _ p => cases p <;> cases ho
  | _ => cases ho

section System

variable {Tid : Type} [Fintype Tid] {s s' : State Tid} {t : Tid}

/-- Where the connections that are still open can be found, also after `close_all_pools`
has emptied the lists under the hands of their borrowers. -/
structure Ledger (s : State Tid) : Prop where
  inUse_le : (s.shared.pool.inUse : Multiset Conn) ≤ total Thread.borrowed s.thread
  tracked : ∀ c < s.shared.next, (s.shared.conn c).closed = true ∨ c ∈ s.shared.pool.available ∨
    ∃ t, c ∈ (s.thread t).owned
  borrowed : ∀ t, ∀ c ∈ (s.thread t).borrowed, c ∈ s.shared.pool.inUse ∨ (s.shared.conn c).closed = true
  registering : ∀ t call c, s.thread t = .active call (.registering c) → (s.shared.conn c).closed = false

theorem Ledger.exists_borrower (h : Ledger s) (hc : c ∈ s.shared.pool.inUse) : ∃ t, c ∈ (s.thread t).borrowed := by
  have hmem : c ∈ total Thread.borrowed s.thread := Multiset.mem_of_le h.inUse_le (Multiset.mem_coe.mpr hc)
  obtain ⟨t, -, ht⟩ := Multiset.mem_sum.mp hmem
  exact ⟨t, ht⟩

variable [DecidableEq Tid]

theorem Ledger.step_move (h : Ledger s) (hsep : Separate s) (hm : Moves inst s.shared (s.thread t) m o) :
    Ledger (s.after t o) where
  inUse_le := by
    have ht := total_after (s := s) (t := t) (o := o) Thread.borrowed Thread.borrowed_notify
    have hle := le_total Thread.borrowed s.thread t
    have hsum : total Thread.borrowed (s.after t o).thread =
        total Thread.borrowed s.thread - (s.thread t).borrowed + o.thread.borrowed := by
      refine add_right_cancel (b := (s.thread t).borrowed) ?_
      rw [ht, add_right_comm, tsub_add_cancel_of_le hle]
    rw [hsum]
    exact hm.inUse_le.trans (add_le_add (tsub_le_tsub_right h.inUse_le _) le_rfl)
  tracked c hc := by
    have hkept : (∃ u, c ∈ (s.thread u).owned ∧ u ≠ t) → ∃ u, c ∈ ((s.after t o).thread u).owned := by
      rintro ⟨u, hu, hut⟩
      exact ⟨u, (after_owned_of_ne hut).symm ▸ hu⟩
    have hmine : c ∈ s.shared.pool.available ∨ c ∈ (s.thread t).owned → (o.shared.conn c).closed = true ∨
        c ∈ o.shared.pool.available ∨ ∃ u, c ∈ ((s.after t o).thread u).owned := by
      intro hc
      rcases hm.tracked hc with hc | hc | hc
      · exact .inr (.inl hc)
      · exact .inr (.inr ⟨t, by rw [after_thread_self]; exact hc⟩)
      · exact .inl hc
    rcases Nat.lt_or_ge c s.shared.next with hlt | hge
    · rcases h.tracked c hlt with hcl | hav | ⟨u, hu⟩
      · exact .inl (hm.closed hlt hcl)
      · exact hmine (.inl hav)
      · by_cases hut : u = t
        · exact hmine (.inr (hut ▸ hu))
        · exact .inr (.inr (hkept ⟨u, hu, hut⟩))
    · rcases hm.owned_le with ⟨hn, -⟩ | ⟨hn, he⟩
      · exact absurd (Nat.lt_of_lt_of_eq hc hn) (Nat.not_lt.mpr hge)
      · have hcn : c = s.shared.next := Nat.le_antisymm (Nat.le_of_lt_succ (Nat.lt_of_lt_of_eq hc hn)) hge
        have hmem : c ∈ (o.shared.pool.available : Multiset Conn) + o.thread.owned := by
          rw [he, hcn]
          exact Multiset.mem_add.mpr (.inr (Multiset.mem_singleton_self _))
        rcases Multiset.mem_add.mp hmem with hc | hc
        · exact .inr (.inl (Multiset.mem_coe.mp hc))
        · exact .inr (.inr ⟨t, by rw [after_thread_self]; exact hc⟩)
  borrowed u c hc := by
    by_cases hu : u = t
    · subst hu
      rw [after_thread_self] at hc
      refine hm.borrowed_cases (fun d hd ↦ (h.borrowed u d hd).imp id (hm.closed ?_)) hc
      exact hsep.lt_next_of_owned (Multiset.mem_of_le (s.thread u).borrowed_le_owned hd)
    · rw [after_borrowed_of_ne hu] at hc
      have ho := Multiset.mem_of_le (s.thread u).borrowed_le_owned hc
      rcases h.borrowed u c hc with hin | hcl
      · exact .inl (hm.mem_inUse hin (hsep.notMem_owned hu ho))
      · exact .inr (hm.closed (hsep.lt_next_of_owned ho) hcl)
  registering u call c hc := by
    by_cases hu : u = t
    · subst hu
      exact hm.registering (after_thread_self.symm.trans hc)
    · have hth : s.thread u = .active call (.registering c) := by
        rcases after_thread_of_ne (s := s) (o := o) hu with he | he
        · exact he.symm.trans hc
        · exact Thread.registering_of_notify (he.symm.trans hc)
      have ho : c ∈ (s.thread u).owned := hth ▸ Multiset.mem_singleton_self c
      have hkeep : (s.after t o).shared.conn c = s.shared.conn c := hsep.conn_eq hm hu ho
      rw [hkeep]
      exact h.registering u call c hth

theorem Ledger.step (h : Ledger s) (hsep : Separate s) {a : Action Tid} (hs : step inst s a = some s') : Ledger s' := by
  cases a with
  | move t m =>
    obtain ⟨o, hm, rfl⟩ := Pool.step_move hs
    exact h.step_move hsep hm
  | closeAllPools =>
    obtain rfl := step_closeAllPools hs
    refine ⟨Multiset.zero_le _, fun c hc ↦ ?_, fun t c hc ↦ ?_, fun t call c hc ↦ ?_⟩
    · rw [Shared.closeAll_next] at hc
      rcases h.tracked c hc with hcl | hav | ⟨t, ht⟩
      · exact .inl (Shared.closeAll_closed hcl)
      · refine .inl ?_
        rw [Shared.closeAll_conn, if_pos (List.mem_append_left _ hav)]
      · exact .inr (.inr ⟨t, (Thread.owned_notify (s.thread t)).symm ▸ ht⟩)
    · have hc : c ∈ (s.thread t).borrowed := Thread.borrowed_notify (s.thread t) ▸ hc
      refine .inr ?_
      rcases h.borrowed t c hc with hin | hcl
      · rw [Shared.closeAll_conn, if_pos (List.mem_append_right _ hin)]
      · exact Shared.closeAll_closed hcl
    · have hth : s.thread t = .active call (.registering c) := Thread.registering_of_notify hc
      have ho : c ∈ (s.thread t).owned := hth ▸ Multiset.mem_singleton_self c
      have hout : c ∉ s.shared.pool.available ++ s.shared.pool.inUse := by
        intro hmem
        rcases List.mem_append.mp hmem with hav | hin
        · exact (hsep.available_notMem hav).1 ho
        · obtain ⟨u, hu⟩ := h.exists_borrower hin
          by_cases hut : u = t
          · rw [hut, hth] at hu
            exact Multiset.notMem_zero c hu
          · exact hsep.notMem_owned hut (Multiset.mem_of_le (s.thread u).borrowed_le_owned hu) ho
      show (s.shared.closeAll.conn c).closed = false
      rw [Shared.closeAll_conn, if_neg hout]
      exact h.registering t call c hth

theorem ledger_of_reachable {ok : State Tid → Action Tid → Prop} (h : Reachable (step inst) ok {} s) : Ledger s := by
  refine h.invariant ⟨Multiset.zero_le _, fun c hc ↦ absurd hc (Nat.not_lt_zero c), fun _ c hc ↦ ?_, fun _ _ _ ht ↦ ?_⟩
    (fun s a s' hr hi _ hs ↦ hi.step (separate_of_reachable hr) hs)
  · exact absurd hc (Multiset.notMem_zero c)
  · cases ht

def Drains (_ : State Tid) (a : Action Tid) : Prop := a ≠ .closeAllPools ∧ ∀ t call, a ≠ .move t (.begin call)

structure ShutDown (s : State Tid) : Prop where
  available : s.shared.pool.available = []
  inUse : s.shared.pool.inUse = []
  closed : ∀ c < s.shared.next, (s.shared.conn c).closed = true

omit [DecidableEq Tid] in
theorem Ledger.shutDown (h : Ledger s) (ha : s.shared.pool.available = []) (hidle : ∀ t, s.thread t = .idle) :
    ShutDown s := by
  have hb : total Thread.borrowed s.thread = 0 :=
    total_eq_zero Thread.borrowed s.thread (fun t ↦ by rw [hidle t]; rfl)
  refine ⟨ha, ?_, fun c hc ↦ ?_⟩
  · exact Multiset.coe_eq_zero _ |>.mp (Multiset.le_zero.mp (hb ▸ h.inUse_le))
  · rcases h.tracked c hc with hcl | hav | ⟨t, ht⟩
    · exact hcl
    · exact absurd (ha ▸ hav) List.not_mem_nil
    · rw [hidle t] at ht
      exact absurd ht (Multiset.notMem_zero c)

/-- A call whose connection from the pool is closed returns nothing to the pool. -/
theorem Moves.spent (h : Moves inst sh th m o) (hb : ∀ call, m ≠ .begin call) (hlt : ∀ c ∈ th.owned, c < sh.next)
    (hs : th.Spent sh.conn) : o.thread.Spent o.shared.conn ∧ o.shared.pool.available = sh.pool.available := by
  obtain ⟨hacq, hcl⟩ := hs
  have hempty : ∀ c ∈ (0 : Multiset Conn), (o.shared.conn c).closed = true := fun c hc ↦ absurd hc (Multiset.notMem_zero c)
  have hkeep : ∀ c ∈ th.borrowed, (o.shared.conn c).closed = true := fun c hc ↦
    h.closed (hlt c (Multiset.mem_of_le th.borrowed_le_owned hc)) (hcl c hc)
  cases h with
  | begin call => exact absurd rfl (hb call)
  | connectFailed => exact ⟨⟨rfl, hempty⟩, rfl⟩
  | connectUnpooled => exact ⟨⟨rfl, hempty⟩, rfl⟩
  | @execute _ p | @commitOk _ p | @commitFailed _ p | @finishOk _ p | @finishFailed _ p | @rollbackOk _ p
  | @rollbackFailed _ p =>
    cases p with
    | false => exact ⟨⟨rfl, hempty⟩, rfl⟩
    | true => exact ⟨⟨rfl, hkeep⟩, rfl⟩
  | checkOk | checkFailed => exact ⟨⟨rfl, hkeep⟩, rfl⟩
  | @releaseAvailable _ c hu =>
    have hopen : (sh.conn c).closed = false := Bool.not_eq_true' _ |>.mp hu
    exact absurd (hopen.symm.trans (hcl c (Multiset.mem_singleton_self c))) Bool.false_ne_true
  | releaseDiscard | close => exact ⟨⟨rfl, hempty⟩, rfl⟩
  | _ => cases hacq

theorem Thread.spent_notify {conn : Conn → ConnState} (h : th.Spent conn) : th.notify.Spent conn :=
  ⟨(acquiring_notify th).trans h.1, fun c hc ↦ h.2 c (borrowed_notify th ▸ hc)⟩

def AllSpent (s : State Tid) : Prop := s.shared.pool.available = [] ∧ ∀ t, (s.thread t).Spent s.shared.conn

theorem AllSpent.step (h : AllSpent s) (hsep : Separate s) {a : Action Tid} (ha : Drains s a)
    (hs : step inst s a = some s') : AllSpent s' := by
  cases a with
  | closeAllPools => exact absurd rfl ha.1
  | move t m =>
    obtain ⟨o, hm, rfl⟩ := step_move hs
    have hb : ∀ call, m ≠ .begin call := fun call he ↦ ha.2 t call (he ▸ rfl)
    obtain ⟨hspent, hav⟩ := hm.spent hb (fun c hc ↦ hsep.lt_next_of_owned hc) (h.2 t)
    refine ⟨hav.trans h.1, fun u ↦ ?_⟩
    by_cases hu : u = t
    · rw [hu, after_thread_self]
      exact hspent
    · have hkeep : (s.thread u).Spent o.shared.conn := by
        refine ⟨(h.2 u).1, fun c hc ↦ ?_⟩
        exact hm.closed (hsep.lt_next_of_owned (Multiset.mem_of_le (s.thread u).borrowed_le_owned hc)) ((h.2 u).2 c hc)
      exact Thread.keeps (p := Thread.Spent o.shared.conn) (fun _ ↦ Thread.spent_notify) (after_thread_of_ne hu) hkeep

theorem allSpent_closeAllPools (h : Ledger s) (hacq : ∀ t, (s.thread t).acquiring = false)
    (hs : step inst s .closeAllPools = some s') : AllSpent s' := by
  obtain rfl := step_closeAllPools hs
  refine ⟨Shared.closeAll_available s.shared, fun t ↦ Thread.spent_notify ⟨hacq t, fun c hc ↦ ?_⟩⟩
  rcases h.borrowed t c hc with hin | hcl
  · rw [Shared.closeAll_conn, if_pos (List.mem_append_right _ hin)]
  · exact Shared.closeAll_closed hcl

theorem solo_step (hm : Moves inst s.shared (s.thread t) m o) (hl : s.lockFree t) :
    step inst s (.move t m) = some (s.after t o) :=
  step_move_iff.mpr ⟨o, hm, fun _ ↦ hl, rfl⟩

/-- A call that can always go on by moves which lower a rank can be run alone to its end. -/
theorem solo_run {G : Shared → Thread → Prop} (rank : Thread → ℕ)
    (hgo : ∀ sh th, G sh th → th ≠ .idle → ∃ m o, Moves inst sh th m o ∧ (∀ call, m ≠ .begin call) ∧
      G o.shared o.thread ∧ rank o.thread < rank th)
    (hG : G s.shared (s.thread t)) (hl : s.lockFree t) :
    ∃ s', Reachable (step inst) Drains s s' ∧ s'.thread t = .idle ∧ G s'.shared .idle ∧
      ∀ u, u ≠ t → s'.thread u = s.thread u ∨ s'.thread u = (s.thread u).notify := by
  have hrun : ∃ s', Reachable (step inst) Drains s s' ∧ (G s'.shared (s'.thread t) ∧
      ∀ v, v ≠ t → s'.thread v = s.thread v ∨ s'.thread v = (s.thread v).notify) ∧ s'.thread t = .idle := by
    refine reachable_of_measure (fun u ↦ rank (u.thread t)) ?_ ⟨hG, fun _ _ ↦ .inl rfl⟩
    rintro u ⟨hGu, hothers⟩
    refine or_iff_not_imp_left.mpr (fun hidle ↦ ?_)
    obtain ⟨m, o, hm, hb, hG', hlt⟩ := hgo _ _ hGu hidle
    have hfree : u.lockFree t := fun v hv ↦ (Thread.notify_congr Thread.holdsLock_notify (hothers v hv)).trans (hl v hv)
    refine ⟨.move t m, u.after t o, ⟨by simp, fun v call he ↦ ?_⟩, solo_step hm hfree, ⟨?_, fun v hv ↦ ?_⟩, ?_⟩
    · exact hb call (by cases he; rfl)
    · rw [after_thread_self]
      exact hG'
    · rcases after_thread_of_ne (s := u) (o := o) hv with he | he
      · exact he ▸ hothers v hv
      · rw [he]
        rcases hothers v hv with hv | hv
        · exact .inr (congrArg Thread.notify hv)
        · rw [hv]
          exact .inr (Thread.notify_notify _)
    · rw [after_thread_self]
      exact hlt
  obtain ⟨s', hr, ⟨hG', hothers⟩, hidle⟩ := hrun
  exact ⟨s', hr, hidle, hidle ▸ hG', hothers⟩

end System

def Cleared (sh : Shared) (th : Thread) : Prop :=
  sh.pool.available = [] ∧ (sh.pool.inUse : Multiset Conn) ≤ th.borrowed

/-- How many moves a call is from its end when everything it tries fails. -/
def Thread.failingSteps : Thread → ℕ
  | .active _ (.closing _) | .active _ (.connecting _) => 1
  | .active _ (.releasing _ _) | .active _ .acquiring => 2
  | .active _ (.rollingBack _ _) | .active _ (.checking _) | .active _ (.waiting _) | .active _ (.closingStale _) => 3
  | .active _ (.running _ _ _ _) | .active _ (.discarding _) => 4
  | .active _ (.probing _) | .active _ (.registering _) => 5
  | .idle => 0

theorem PoolState.size_lt_of_nil {p : PoolState} (ha : p.available = []) (hu : p.inUse = []) : p.size < inst.poolCap := by
  rw [PoolState.size, ha, hu]
  exact inst.one_le_poolCap

theorem Cleared.inUse_nil (h : Cleared sh th) (hb : th.borrowed = 0) : sh.pool.inUse = [] :=
  Multiset.coe_eq_zero _ |>.mp (Multiset.le_zero.mp (hb ▸ h.2))

theorem Cleared.fails (h : Cleared sh th) (hi : th ≠ .idle) :
    ∃ m o, Moves inst sh th m o ∧ (∀ call, m ≠ .begin call) ∧ Cleared o.shared o.thread ∧
      o.thread.failingSteps < th.failingSteps := by
  have herase {call : Call} {phase : Phase} {c : Conn} (hth : th = .active call phase) (hb : th.borrowed = {c}) (th' : Thread) :
      Cleared { sh with pool := sh.pool.discardStale c } th' := by
    refine ⟨h.1, ?_⟩
    show ((sh.pool.inUse.erase c : List Conn) : Multiset Conn) ≤ _
    rw [← Multiset.coe_erase, ← Multiset.sub_singleton]
    exact (tsub_le_iff_right.mpr (by rw [← hb]; exact h.2.trans (le_add_of_nonneg_left (Multiset.zero_le _))))
  cases th with
  | idle => exact absurd rfl hi
  | active call phase =>
    cases phase with
    | acquiring =>
      have hs : sh.pool.size < inst.poolCap := PoolState.size_lt_of_nil h.1 (h.inUse_nil rfl)
      exact ⟨.acquire false, _, .createNew h.1 hs, by simp, h, Nat.lt_succ_self 1⟩
    | waiting n => exact ⟨.wake, _, .wake, by simp, h, Nat.lt_succ_self 2⟩
    | connecting p =>
      refine ⟨.connect false, _, .connectFailed, by simp, ⟨h.1, ?_⟩, Nat.lt_succ_self 0⟩
      cases p <;> exact h.2
    | registering c =>
      refine ⟨.register, _, .register, by simp, ⟨h.1, ?_⟩, Nat.lt_succ_self 4⟩
      show ((sh.pool.inUse ++ [c] : List Conn) : Multiset Conn) ≤ {c}
      rw [h.inUse_nil rfl]
      exact le_rfl
    | probing c => exact ⟨.probe false, _, .probeFailed, by simp, h, Nat.lt_succ_self 4⟩
    | discarding c => exact ⟨.discard, _, .discard, by simp, herase rfl rfl _, Nat.lt_succ_self 3⟩
    | closingStale c => exact ⟨.closeStale, _, .closeStale, by simp, h, Nat.lt_succ_self 2⟩
    | running c p done committed =>
      refine ⟨.finish false, _, .finishFailed, by simp, ⟨h.1, ?_⟩, Nat.lt_succ_self 3⟩
      cases p <;> exact h.2
    | rollingBack c p =>
      refine ⟨.rollback false, _, .rollbackFailed, by simp, ⟨h.1, ?_⟩, ?_⟩
      · cases p <;> exact h.2
      · cases p
        · exact Nat.lt_of_succ_lt (Nat.lt_succ_self 2)
        · exact Nat.lt_succ_self 2
    | checking c => exact ⟨.check false, _, .checkFailed, by simp, h, Nat.lt_succ_self 2⟩
    | releasing c shouldDiscard =>
      refine ⟨.release false, _, .releaseDiscard (fun ha ↦ absurd ha Bool.false_ne_true)
        (fun _ ha ↦ absurd ha Bool.false_ne_true), by simp, herase rfl rfl _, Nat.lt_succ_self 1⟩
    | closing c => exact ⟨.close, _, .close, by simp, h, Nat.lt_succ_self 0⟩

def Thread.Fruitful (sh : Shared) : Thread → Prop
  | .idle => sh.pool.available ≠ []
  | .active _ .acquiring | .active _ (.waiting _) | .active _ (.connecting true) | .active _ (.probing _)
  | .active _ (.discarding _) | .active _ (.closingStale _) => sh.pool.available = [] ∧ sh.pool.inUse = []
  | .active _ (.registering c) | .active _ (.checking c) | .active _ (.releasing c false) =>
    sh.pool.available = [] ∧ sh.usable c = true
  | .active call (.running c true done committed) => sh.pool.available = [] ∧ sh.usable c = true ∧
    done ≤ call.op.statements.length ∧ (committed = true → call.op.commits = true ∧ done = call.op.statements.length)
  | _ => False

def Thread.succeedingSteps : Thread → ℕ
  | .active _ (.releasing _ _) => 1
  | .active _ (.checking _) => 2
  | .active call (.running _ _ done committed) =>
    3 + (call.op.statements.length - done) + (if committed then 0 else 1)
  | .active call (.registering _) => 5 + call.op.statements.length
  | .active call (.connecting _) => 6 + call.op.statements.length
  | .active call .acquiring => 7 + call.op.statements.length
  | .active call (.waiting _) | .active call (.closingStale _) => 8 + call.op.statements.length
  | .active call (.discarding _) => 9 + call.op.statements.length
  | .active call (.probing _) => 10 + call.op.statements.length
  | _ => 0

theorem Shared.usable_execute (stmt : Issued) : (sh.execute c stmt).usable c = sh.usable c := by
  rw [usable, usable, execute, setConn_self]

theorem Shared.usable_commit : (sh.commit c).usable c = sh.usable c := by
  show (!((sh.setConn c { sh.conn c with uncommitted := [] }).conn c).closed) = sh.usable c
  rw [setConn_self]
  rfl

theorem Thread.Fruitful.running_succeeds {call : Call} {done : ℕ} {committed : Bool}
    (h : Thread.Fruitful sh (.active call (.running c true done committed))) :
    ∃ m o, Moves inst sh (.active call (.running c true done committed)) m o ∧ (∀ call, m ≠ .begin call) ∧
      o.thread.Fruitful o.shared ∧
      o.thread.succeedingSteps < (Thread.active call (.running c true done committed)).succeedingSteps := by
  obtain ⟨ha, hu, hd, hc⟩ := h
  rcases Nat.lt_or_ge done call.op.statements.length with hlt | hge
  · have hs : call.op.statements[done]? = some call.op.statements[done] := List.getElem?_eq_getElem hlt
    refine ⟨.execute, _, .execute hs hu, by simp, ⟨ha, (Shared.usable_execute _).trans hu, hlt, fun he ↦ ?_⟩, ?_⟩
    · exact absurd (hc he).2 (Nat.ne_of_lt hlt)
    · simp only [succeedingSteps]
      omega
  · have hd : done = call.op.statements.length := Nat.le_antisymm hd hge
    by_cases he : committed = call.op.commits
    · exact ⟨.finish true, _, .finishOk he hd, by simp, ⟨ha, hu⟩, by simp only [succeedingSteps, if_true]; omega⟩
    · cases committed with
      | true => exact absurd (hc rfl).1.symm he
      | false =>
        have hcommits : call.op.commits = true := Bool.not_eq_false _ |>.mp (fun hf ↦ he hf.symm)
        refine ⟨.commit true, _, .commitOk hcommits hd hu, by simp,
          ⟨ha, Shared.usable_commit.trans hu, hd.le, fun _ ↦ ⟨hcommits, hd⟩⟩, ?_⟩
        simp [succeedingSteps]

theorem Thread.Fruitful.succeeds (h : th.Fruitful sh) (hi : th ≠ .idle) :
    ∃ m o, Moves inst sh th m o ∧ (∀ call, m ≠ .begin call) ∧ o.thread.Fruitful o.shared ∧
      o.thread.succeedingSteps < th.succeedingSteps := by
  cases th with
  | idle => exact absurd rfl hi
  | active call phase =>
    cases phase with
    | acquiring => exact ⟨.acquire false, _, .createNew h.1 (PoolState.size_lt_of_nil h.1 h.2), by simp, h, by simp [succeedingSteps]⟩
    | waiting n => exact ⟨.wake, _, .wake, by simp, h, by simp [succeedingSteps]⟩
    | connecting p =>
      cases p with
      | false => exact h.elim
      | true =>
        refine ⟨.connect true, _, .connectPooled, by simp, ⟨h.1, ?_⟩, by simp [succeedingSteps]⟩
        show (!(sh.openNew.conn sh.next).closed) = true
        rw [Shared.openNew_conn]
        rfl
    | registering c =>
      exact ⟨.register, _, .register, by simp, ⟨h.1, h.2, Nat.zero_le _, by simp⟩, by simp [succeedingSteps]; omega⟩
    | probing c => exact ⟨.probe false, _, .probeFailed, by simp, h, by simp [succeedingSteps]⟩
    | discarding c =>
      refine ⟨.discard, _, .discard, by simp, ⟨h.1, ?_⟩, by simp [succeedingSteps]⟩
      show sh.pool.inUse.erase c = []
      rw [h.2]
      rfl
    | closingStale c => exact ⟨.closeStale, _, .closeStale, by simp, h, by simp [succeedingSteps]⟩
    | running c p done committed =>
      cases p with
      | false => exact h.elim
      | true => exact h.running_succeeds
    | rollingBack c p => exact h.elim
    | checking c =>
      refine ⟨.check true, _, .checkOk h.2, by simp, ⟨h.1, ?_⟩, by simp [succeedingSteps]⟩
      exact (Shared.usable_execute _).trans h.2
    | releasing c shouldDiscard =>
      cases shouldDiscard with
      | true => exact h.elim
      | false =>
        have hroom : sh.pool.available.length < inst.poolCap := by
          rw [h.1]
          exact inst.one_le_poolCap
        exact ⟨.release true, _, .releaseAvailable h.2 hroom, by simp, by simp [Fruitful], by simp [succeedingSteps]⟩
    | closing c => exact h.elim

section System

variable {Tid : Type} [Fintype Tid] [DecidableEq Tid] {s s₁ : State Tid} {t : Tid}

theorem drain_others (inst : SqlInstanceConfig) (F : Finset Tid) (ht : t ∉ F)
    (ha : s.shared.pool.available = []) (hu : s.shared.pool.inUse = []) (hl : ∀ u, (s.thread u).holdsLock = false) :
    ∃ s', Reachable (step inst) Drains s s' ∧ (∀ u ∈ F, s'.thread u = .idle) ∧ s'.shared.pool.available = [] ∧
      s'.shared.pool.inUse = [] ∧ (∀ u, (s'.thread u).holdsLock = false) ∧
      (s'.thread t).acquiring = (s.thread t).acquiring := by
  induction F using Finset.induction_on with
  | empty => exact ⟨s, .init, fun u hu ↦ absurd hu (Finset.notMem_empty u), ha, hu, hl, rfl⟩
  | insert v F hv ih =>
    have htv : t ≠ v := fun he ↦ ht (he ▸ Finset.mem_insert_self v F)
    obtain ⟨s', hr, hidle, ha', hu', hl', hacq⟩ := ih (fun hF ↦ ht (Finset.mem_insert_of_mem hF))
    have hcleared : Cleared s'.shared (s'.thread v) := by
      refine ⟨ha', ?_⟩
      rw [hu']
      exact Multiset.zero_le _
    obtain ⟨s'', hr', hv', hG, hothers⟩ := solo_run Thread.failingSteps (fun _ _ h hi ↦ h.fails hi) hcleared (fun u _ ↦ hl' u)
    refine ⟨s'', hr.trans hr', fun u hu ↦ ?_, hG.1, hG.inUse_nil rfl, fun u ↦ ?_, ?_⟩
    · by_cases huv : u = v
      · rw [huv, hv']
      · exact Thread.idle_of_notified (hothers u huv) (hidle u ((Finset.mem_insert.mp hu).resolve_left huv))
    · by_cases huv : u = v
      · rw [huv, hv']
        rfl
      · exact (Thread.notify_congr Thread.holdsLock_notify (hothers u huv)).trans (hl' u)
    · exact (Thread.notify_congr Thread.acquiring_notify (hothers t htv)).trans hacq

/-- A call still acquiring after `close_all_pools` can leave an open connection in the pool. -/
theorem refills_of_acquiring (h : Reachable (step inst) (fun _ _ ↦ True) {} s)
    (hs : step inst s .closeAllPools = some s₁) (hacq : (s.thread t).acquiring = true) :
    ∃ s₂, Reachable (step inst) Drains s₁ s₂ ∧ (∀ u, s₂.thread u = .idle) ∧ s₂.shared.pool.available ≠ [] := by
  have hfree : ∀ u, (s₁.thread u).holdsLock = false := by
    intro u
    have hl : ∀ u, (s.thread u).holdsLock = false := by
      unfold step at hs
      exact (Option.ite_none_right_eq_some.mp hs).1
    obtain rfl := step_closeAllPools hs
    exact (Thread.holdsLock_notify _).trans (hl u)
  have hempty : s₁.shared.pool.available = [] ∧ s₁.shared.pool.inUse = [] ∧ (s₁.thread t).acquiring = true := by
    obtain rfl := step_closeAllPools hs
    exact ⟨rfl, rfl, (Thread.acquiring_notify _).trans hacq⟩
  obtain ⟨s', hr, hidle, ha, hu, hl, hacq'⟩ := drain_others inst (Finset.univ.erase t) (Finset.notMem_erase t _)
    hempty.1 hempty.2.1 hfree
  have hledger : Ledger s' := ledger_of_reachable ((h.next trivial hs).trans (hr.mono (fun _ _ _ ↦ trivial)))
  have hfruitful : (s'.thread t).Fruitful s'.shared := by
    rw [hempty.2.2] at hacq'
    cases hth : s'.thread t with
    | idle => rw [hth] at hacq'; cases hacq'
    | active call phase =>
      rw [hth] at hacq'
      cases phase with
      | acquiring | waiting | probing | discarding | closingStale => exact ⟨ha, hu⟩
      | connecting p =>
        cases p with
        | false => cases hacq'
        | true => exact ⟨ha, hu⟩
      | registering c => exact ⟨ha, Bool.not_eq_true' _ |>.mpr (hledger.registering t call c hth)⟩
      | _ => cases hacq'
  obtain ⟨s₂, hr', ht, hG, hothers⟩ := solo_run Thread.succeedingSteps (fun _ _ h hi ↦ h.succeeds hi) hfruitful (fun u _ ↦ hl u)
  refine ⟨s₂, hr.trans hr', fun u ↦ ?_, hG⟩
  by_cases hut : u = t
  · rw [hut, ht]
  · exact Thread.idle_of_notified (hothers u hut) (hidle u (Finset.mem_erase.mpr ⟨hut, Finset.mem_univ u⟩))

/-- Shutting down leaves nothing open, however the calls in progress end, exactly when none
of them is still acquiring its connection. -/
theorem shutdown_complete_iff (inst : SqlInstanceConfig) (h : Reachable (step inst) (fun _ _ ↦ True) {} s)
    (hs : step inst s .closeAllPools = some s₁) :
    (∀ s₂, Reachable (step inst) Drains s₁ s₂ → (∀ t, s₂.thread t = .idle) → ShutDown s₂) ↔
      ∀ t, (s.thread t).acquiring = false := by
  constructor
  · intro hall t
    refine Bool.not_eq_true _ |>.mp (fun hacq ↦ ?_)
    obtain ⟨s₂, hr, hidle, hav⟩ := refills_of_acquiring h hs hacq
    exact hav (hall s₂ hr hidle).available
  · intro hacq s₂ hr hidle
    have hr₁ : Reachable (step inst) (fun _ _ ↦ True) {} s₁ := h.next trivial hs
    have hspent : AllSpent s₂ := by
      refine hr.invariant (allSpent_closeAllPools (ledger_of_reachable h) hacq hs) (fun u a u' hru hi ha hs ↦ ?_)
      exact hi.step (separate_of_reachable (hr₁.trans (hru.mono (fun _ _ _ ↦ trivial)))) ha hs
    have hledger := ledger_of_reachable (hr₁.trans (hr.mono (fun _ _ _ ↦ trivial)))
    exact hledger.shutDown hspent.1 hidle

end System

theorem shutdown_complete_iff_borrowed :
    ∃ s s₁ : State (Fin 2), s.thread 0 = .active reader (.running 0 true 0 false) ∧
      step smallInstance s .closeAllPools = some s₁ ∧
      ∀ s₂, Reachable (step smallInstance) Drains s₁ s₂ → (∀ t, s₂.thread t = .idle) → ShutDown s₂ := by
  have hrun : (run (guarded (step smallInstance) (fun _ _ ↦ True)) ({} : State (Fin 2))
      [.move 0 (.begin reader), .move 0 (.acquire false), .move 0 (.connect true), .move 0 .register]).map
      (fun s ↦ (s.thread 0, s.thread 1, (step smallInstance s .closeAllPools).isSome)) =
      some (.active reader (.running 0 true 0 false), .idle, true) := by decide
  obtain ⟨s, hr, hs⟩ := Option.map_eq_some_iff.mp hrun
  obtain ⟨h₀, hs⟩ := Prod.mk.inj hs
  obtain ⟨h₁, hs⟩ := Prod.mk.inj hs
  obtain ⟨s₁, hs⟩ := Option.isSome_iff_exists.mp hs
  refine ⟨s, s₁, h₀, hs, (shutdown_complete_iff smallInstance (Reachable.init.of_run hr) hs).mpr (fun t ↦ ?_)⟩
  rcases Fin.exists_fin_two.mp ⟨t, rfl⟩ with rfl | rfl
  · rw [h₀]
    rfl
  · rw [h₁]
    rfl

/-- A reader that is inside `pyodbc.connect` at shutdown brings its connection to the pool. -/
theorem shutdown_leaves_open :
    ¬ ∀ (inst : SqlInstanceConfig) (Tid : Type) [Fintype Tid] [DecidableEq Tid] (s s₁ s₂ : State Tid),
      Reachable (step inst) (fun _ _ ↦ True) {} s → step inst s .closeAllPools = some s₁ →
      Reachable (step inst) Drains s₁ s₂ → (∀ t, s₂.thread t = .idle) → ShutDown s₂ := by
  intro h
  have hrun : (run (guarded (step smallInstance) (fun _ _ ↦ True)) ({} : State (Fin 1))
      [.move 0 (.begin reader), .move 0 (.acquire false)]).map
      (fun s ↦ (s.thread 0, (step smallInstance s .closeAllPools).isSome)) =
      some (.active reader (.connecting true), true) := by decide
  obtain ⟨s, hr, hs⟩ := Option.map_eq_some_iff.mp hrun
  obtain ⟨h₀, hs⟩ := Prod.mk.inj hs
  obtain ⟨s₁, hs⟩ := Option.isSome_iff_exists.mp hs
  have hreach := Reachable.init.of_run hr
  obtain ⟨s₂, hr₂, hidle, hav⟩ := refills_of_acquiring (t := 0) hreach hs (by rw [h₀]; rfl)
  exact hav (h smallInstance (Fin 1) s s₁ s₂ hreach hs hr₂ hidle).available

end McpSqlServer.Pool

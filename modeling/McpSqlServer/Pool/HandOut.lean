import McpSqlServer.Pool.Capacity

namespace McpSqlServer.Pool

open Library.Transition Library.Ownership

variable {inst : SqlInstanceConfig} {sh : Shared} {th : Thread} {m : Move} {o : Outcome} {c : Conn}

def OnlyProbes (l : List Issued) : Prop := ∀ x ∈ l, x = .probe

def OwnStatements (op : Op) (l : List Issued) : Prop :=
  ∀ x ∈ l, x = .probe ∨ ∃ sql ∈ op.statements, x = .body sql

theorem OnlyProbes.own {l : List Issued} (h : OnlyProbes l) (op : Op) : OwnStatements op l :=
  fun x hx ↦ .inl (h x hx)

theorem OnlyProbes.append_probe {l : List Issued} (h : OnlyProbes l) : OnlyProbes (l ++ [.probe]) := by
  intro x hx
  rcases List.mem_append.mp hx with hx | hx
  · exact h x hx
  · exact List.mem_singleton.mp hx

theorem OwnStatements.append_body {op : Op} {l : List Issued} (h : OwnStatements op l) {sql : Library.Text.Str}
    (hs : sql ∈ op.statements) : OwnStatements op (l ++ [.body sql]) := by
  intro x hx
  rcases List.mem_append.mp hx with hx | hx
  · exact h x hx
  · exact .inr ⟨sql, hs, List.mem_singleton.mp hx⟩

/-- What the connection of a call may carry uncommitted while only connections of
committing operations return to the pool. -/
def Thread.Carries (conn : Conn → ConnState) : Thread → Prop
  | .active _ (.registering c) | .active _ (.probing c) => OnlyProbes (conn c).uncommitted
  | .active call (.running c _ _ false) => OwnStatements call.op (conn c).uncommitted
  | .active call (.running c _ done true) =>
    (conn c).uncommitted = [] ∧ done = call.op.statements.length
  | .active call (.checking c) => call.op.commits → (conn c).uncommitted = []
  | .active call (.releasing c false) => call.op.commits → OnlyProbes (conn c).uncommitted
  | _ => True

theorem Thread.Carries.congr {conn conn' : Conn → ConnState} (h : th.Carries conn)
    (he : ∀ c ∈ th.owned, conn' c = conn c) : th.Carries conn' := by
  unfold Carries at h ⊢
  split at h
  all_goals first | trivial | (rw [he _ (Multiset.mem_singleton_self _)]; exact h)

theorem Thread.carries_notify {conn : Conn → ConnState} (h : th.Carries conn) : th.notify.Carries conn := by
  unfold notify
  split
  · trivial
  · exact h

/-- A move touches only the mover's connection, or opens a new one. -/
theorem Moves.conn_eq (h : Moves inst sh th m o) (hc : c ∉ th.owned) (hn : c ≠ sh.next) :
    o.shared.conn c = sh.conn c := by
  cases h
  case connectPooled | connectUnpooled => exact Function.update_of_ne hn _ _
  case probeOk | closeStale | execute | commitOk | rollbackOk | checkOk | close =>
    exact Function.update_of_ne (fun he ↦ hc (Multiset.mem_singleton.mpr he)) _ _
  all_goals rfl

theorem Moves.carries (h : Moves inst sh th m o)
    (hav : ∀ c ∈ sh.pool.available, OnlyProbes (sh.conn c).uncommitted) (hth : th.Carries sh.conn) :
    o.thread.Carries o.shared.conn := by
  cases h with
  | begin call phase hp => subst hp; cases call.usePool inst <;> trivial
  | reuse ha => exact hav _ (ha ▸ List.mem_append_right _ (List.mem_singleton_self _))
  | connectPooled =>
    show OnlyProbes (sh.openNew.conn sh.next).uncommitted
    simp only [Shared.openNew_conn, OnlyProbes, List.not_mem_nil, false_implies, implies_true]
  | @connectUnpooled call =>
    show OwnStatements call.op (sh.openNew.conn sh.next).uncommitted
    simp only [Shared.openNew_conn, OwnStatements, List.not_mem_nil, false_implies, implies_true]
  | @register call => exact OnlyProbes.own hth call.op
  | @probeOk call c =>
    show OwnStatements call.op ((sh.execute c .probe).conn c).uncommitted
    rw [Shared.execute_uncommitted]
    exact (OnlyProbes.append_probe hth).own call.op
  | @execute call p committed c done sql hs =>
    cases committed with
    | false =>
      show OwnStatements call.op ((sh.execute c (.body sql)).conn c).uncommitted
      rw [Shared.execute_uncommitted]
      exact OwnStatements.append_body hth (List.mem_of_getElem? hs)
    | true =>
      have hd : done = call.op.statements.length := hth.2
      rw [hd, List.getElem?_length] at hs
      cases hs
  | @commitOk call p c done hc hd => exact ⟨Shared.commit_uncommitted sh c, hd⟩
  | @finishOk call p committed c done hc hd =>
    cases p with
    | false => trivial
    | true =>
      intro hcommits
      rw [hc.trans hcommits] at hth
      exact hth.1
  | @rollbackOk _ p => cases p <;> trivial
  | @rollbackFailed _ p => cases p <;> trivial
  | @checkOk call c =>
    intro hcommits
    show OnlyProbes ((sh.execute c .probe).conn c).uncommitted
    rw [Shared.execute_uncommitted, hth hcommits]
    exact OnlyProbes.append_probe (fun x hx ↦ absurd hx List.not_mem_nil)
  | _ => trivial

def Thread.returnsUncommitted (inst : SqlInstanceConfig) (sh : Shared) : Thread → Bool
  | .active call (.releasing _ false) => sh.pool.available.length < inst.poolCap && !call.op.commits
  | _ => false

theorem Moves.available_onlyProbes (h : Moves inst sh th m o)
    (hav : ∀ c ∈ sh.pool.available, OnlyProbes (sh.conn c).uncommitted) (hth : th.Carries sh.conn)
    (hsep : ∀ c ∈ sh.pool.available, c ∉ th.owned ∧ c ≠ sh.next)
    (hret : m = .release true → th.returnsUncommitted inst sh = false) :
    ∀ c ∈ o.shared.pool.available, OnlyProbes (o.shared.conn c).uncommitted := by
  have hkept : ∀ c ∈ sh.pool.available, OnlyProbes (o.shared.conn c).uncommitted := by
    intro c hc
    rw [h.conn_eq (hsep c hc).1 (hsep c hc).2]
    exact hav c hc
  cases h with
  | reuse ha => exact fun c hc ↦ hkept c (ha ▸ List.mem_append_left _ hc)
  | @releaseAvailable call c hu hl =>
    have hcommits : call.op.commits := by
      simpa only [Thread.returnsUncommitted, hl, decide_true, Bool.true_and, Bool.not_eq_false'] using hret rfl
    intro c' hc'
    rcases List.mem_append.mp hc' with hc' | hc'
    · exact hkept c' hc'
    · obtain rfl := List.mem_singleton.mp hc'
      exact hth hcommits
  | _ => exact hkept

variable {Tid : Type} [Fintype Tid] {s s' : State Tid} {t : Tid}

theorem Separate.available_notMem (h : Separate s) {c : Conn} (hc : c ∈ s.shared.pool.available) :
    c ∉ (s.thread t).owned ∧ c ≠ s.shared.next := by
  have hd := (Multiset.nodup_add.mp h.nodup).2.2
  refine ⟨fun ho ↦ ?_, fun he ↦ ?_⟩
  · exact Multiset.disjoint_left.mp hd (Multiset.mem_coe.mpr hc)
      (Multiset.mem_of_le (le_total Thread.owned s.thread t) ho)
  · exact h.next_notMem (he ▸ Multiset.mem_add.mpr (.inl (Multiset.mem_coe.mpr hc)))

variable [DecidableEq Tid]

/-- The steps of calls that never put back a connection whose last operation did not
commit. -/
def CleanReturns (inst : SqlInstanceConfig) (s : State Tid) (a : Action Tid) : Prop :=
  CallStep s a ∧ ∀ t, a = .move t (.release true) → (s.thread t).returnsUncommitted inst s.shared = false

instance (inst : SqlInstanceConfig) (s : State Tid) (a : Action Tid) : Decidable (CleanReturns inst s a) :=
  inferInstanceAs (Decidable (_ ∧ ∀ _, _ → _))

/-- Every pooled connection carries at most probes, and every borrowed one at most the
statements of its borrower besides. -/
structure CleanConnections (s : State Tid) : Prop where
  available : ∀ c ∈ s.shared.pool.available, OnlyProbes (s.shared.conn c).uncommitted
  carries : ∀ t, (s.thread t).Carries s.shared.conn

theorem Separate.conn_eq (h : Separate s) (hm : Moves inst s.shared (s.thread t) m o) {u : Tid} (hu : u ≠ t)
    {c : Conn} (hc : c ∈ (s.thread u).owned) : o.shared.conn c = s.shared.conn c := by
  have hn : (total Thread.owned s.thread).Nodup := (Multiset.nodup_add.mp h.nodup).2.1
  refine hm.conn_eq (disjoint_of_nodup Thread.owned s.thread hn hu hc) (fun he ↦ h.next_notMem ?_)
  exact he ▸ Multiset.mem_add.mpr (.inr (Multiset.mem_of_le (le_total Thread.owned s.thread u) hc))

theorem CleanConnections.step (h : CleanConnections s) (hsep : Separate s)
    (hok : CleanReturns inst s (.move t m)) (hs : step inst s (.move t m) = some s') :
    CleanConnections s' := by
  obtain ⟨o, hm, rfl⟩ := step_move hs
  refine ⟨?_, fun u ↦ ?_⟩
  · exact hm.available_onlyProbes h.available (h.carries t) (fun c hc ↦ hsep.available_notMem hc)
      (fun he ↦ hok.2 t (he ▸ rfl))
  · by_cases hu : u = t
    · subst hu
      rw [after_thread_self]
      exact hm.carries h.available (h.carries u)
    · have hc : (s.thread u).Carries o.shared.conn :=
        (h.carries u).congr (fun c hc ↦ hsep.conn_eq hm hu hc)
      exact Thread.keeps (p := Thread.Carries o.shared.conn) (fun _ ↦ Thread.carries_notify) (after_thread_of_ne hu) hc

theorem cleanConnections_of_reachable (h : Reachable (step inst) (CleanReturns inst) {} s) :
    CleanConnections s := by
  refine h.invariant ⟨fun c hc ↦ absurd hc List.not_mem_nil, fun _ ↦ trivial⟩
    (fun s a s' hr hi ha hs ↦ ?_)
  cases a with
  | closeAllPools => exact absurd rfl ha.1
  | move t m => exact hi.step (separate_of_reachable hr) ha hs

/-- While only connections of committing operations return to the pool, a reused connection
is handed out with nothing but probes on it, and a commit makes nothing but its own
statements and probes durable. -/
theorem handOut_clean (inst : SqlInstanceConfig) (h : Reachable (step inst) (CleanReturns inst) {} s)
    (hs : step inst s (.move t m) = some s') :
    (∀ call c, s.thread t = .active call (.probing c) → m = .probe true →
      OnlyProbes (s'.shared.conn c).uncommitted) ∧
    (∀ call c pooled done, s.thread t = .active call (.running c pooled done false) → m = .commit true →
      ∃ l, s'.shared.durable = s.shared.durable ++ l ∧ OwnStatements call.op l) := by
  have hclean := (cleanConnections_of_reachable h).carries t
  obtain ⟨o, hm, rfl⟩ := step_move hs
  refine ⟨?_, ?_⟩
  · rintro call c ht rfl
    rw [ht] at hm hclean
    cases hm
    show OnlyProbes ((s.shared.execute c .probe).conn c).uncommitted
    rw [Shared.execute_uncommitted]
    exact OnlyProbes.append_probe hclean
  · rintro call c pooled done ht rfl
    rw [ht] at hm hclean
    cases hm
    exact ⟨(s.shared.conn c).uncommitted, rfl, hclean⟩

def maintenance : Call := { op := .executeProc "EXEC dbo.usp_RunApprovedMaintenance".toList }

def freshBlock {Tid : Type} (t : Tid) (call : Call) (body : List (Action Tid)) : List (Action Tid) :=
  [.move t (.begin call), .move t (.acquire false), .move t (.connect true), .move t .register] ++ body ++
    [.move t (.finish true), .move t (.check true), .move t (.release true)]

theorem handOut_clean_after_commit :
    ∃ s s' : State (Fin 2), step smallInstance s (.move 1 (.probe true)) = some s' ∧
      s.thread 1 = .active maintenance (.probing 0) ∧ OnlyProbes (s'.shared.conn 0).uncommitted := by
  have hrun : (run (guarded (step smallInstance) (CleanReturns smallInstance)) {}
      (freshBlock (0 : Fin 2) maintenance [.move 0 .execute, .move 0 (.commit true)] ++
        [.move 1 (.begin maintenance), .move 1 (.acquire false)])).map
      (fun s ↦ (s.thread 1, (step smallInstance s (.move 1 (.probe true))).isSome)) =
      some (.active maintenance (.probing 0), true) := by decide
  obtain ⟨s, hr, hs⟩ := Option.map_eq_some_iff.mp hrun
  obtain ⟨ht, hp⟩ := Prod.mk.inj hs
  obtain ⟨s', hp⟩ := Option.isSome_iff_exists.mp hp
  exact ⟨s, s', hp, ht, (handOut_clean smallInstance (Reachable.init.of_run hr) hp).1 _ _ ht rfl⟩

theorem handOut_carries_earlier_statement :
    ¬ ∀ (inst : SqlInstanceConfig) (Tid : Type) [Fintype Tid] [DecidableEq Tid] (s s' : State Tid) (t : Tid)
      (call : Call) (c : Conn), Reachable (step inst) CallStep {} s →
      step inst s (.move t (.probe true)) = some s' → s.thread t = .active call (.probing c) →
      OnlyProbes (s'.shared.conn c).uncommitted := by
  intro h
  have hrun : (run (guarded (step smallInstance) CallStep) {}
      (freshBlock (0 : Fin 2) reader [.move 0 .execute] ++
        [.move 1 (.begin maintenance), .move 1 (.acquire false)])).map
      (fun s ↦ (s.thread 1, (step smallInstance s (.move 1 (.probe true))).map
        (fun s' ↦ (s'.shared.conn 0).uncommitted))) =
      some (.active maintenance (.probing 0),
        some [.body "SELECT name FROM sys.tables".toList, .probe, .probe]) := by decide
  obtain ⟨s, hr, hs⟩ := Option.map_eq_some_iff.mp hrun
  obtain ⟨ht, hp⟩ := Prod.mk.inj hs
  obtain ⟨s', hp, hu⟩ := Option.map_eq_some_iff.mp hp
  have hclean := h smallInstance (Fin 2) s s' 1 maintenance 0 (Reachable.init.of_run hr) hp ht
  exact absurd (hclean (.body "SELECT name FROM sys.tables".toList) (hu ▸ List.mem_cons_self)) (by decide)

end McpSqlServer.Pool

import McpSqlServer.Pool.HandOut
import McpSqlServer.Tools.SqlTools
import McpSqlServer.WriteGuard.Batches

namespace McpSqlServer.Pool

open Library.Text Library.Transition

variable {inst : SqlInstanceConfig} {sh : Shared} {th : Thread} {m : Move} {o : Outcome} {c : Conn}

/-- The manager of one instance together with the database that each connection is in. -/
structure Located (Tid : Type) where
  base : State Tid := {}
  database : Conn → Str := fun _ ↦ []

namespace Located

variable {Tid : Type} (useTarget : Str → Option Str) (inst : SqlInstanceConfig) (s : Located Tid)

/-- A connection begins in the database of its connection string; `useTarget` says where
the `USE` statements of a text, if it has any, leave the connection that executes it. -/
def databaseAfter : Action Tid → Conn → Str
  | .move t (.connect true) =>
    match s.base.thread t with
    | .active call _ => Function.update s.database s.base.shared.next (inst.databaseFor call.databaseOverride)
    | .idle => s.database
  | .move t .execute =>
    match s.base.thread t with
    | .active call (.running c _ done _) =>
      Function.update s.database c ((call.op.statements[done]?.bind useTarget).getD (s.database c))
    | _ => s.database
  | _ => s.database

def step {Tid : Type} [DecidableEq Tid] [Fintype Tid] (useTarget : Str → Option Str) (inst : SqlInstanceConfig)
    (s : Located Tid) (a : Action Tid) : Option (Located Tid) :=
  (Pool.step inst s.base a).map (fun base ↦ ⟨base, s.databaseAfter useTarget inst a⟩)

def returnsAway (t : Tid) : Bool :=
  match s.base.thread t with
  | .active _ (.releasing c false) =>
    s.base.shared.pool.available.length < inst.poolCap && decide (s.database c ≠ inst.database)
  | _ => false

end Located

namespace Thread

/-- The call was made without a database name and has not executed anything on `c` yet. -/
def Starts (c : Conn) : Thread → Prop
  | .active call (.registering d) | .active call (.probing d) | .active call (.running d _ 0 _) =>
    c = d ∧ call.databaseOverride = none
  | _ => False

theorem Starts.owned (h : th.Starts c) : c ∈ th.owned := by
  unfold Starts at h
  split at h
  · exact Multiset.mem_singleton.mpr h.1
  · exact Multiset.mem_singleton.mpr h.1
  · exact Multiset.mem_singleton.mpr h.1
  · exact h.elim

theorem starts_of_notify (h : th.notify.Starts c) : th.Starts c := by
  unfold notify at h
  split at h
  · exact h.elim
  · exact h

end Thread

theorem Moves.starts (h : Moves inst sh th m o) (hc : o.thread.Starts c) :
    (th.Starts c ∧ m ≠ .execute ∧ m ≠ .connect true) ∨
    (c ∈ sh.pool.available ∧ m ≠ .execute ∧ m ≠ .connect true) ∨
    (∃ call phase, th = .active call phase ∧ m = .connect true ∧ c = sh.next ∧ call.databaseOverride = none) := by
  cases h with
  | begin call phase hp =>
    subst hp
    cases hu : call.usePool inst <;> simp only [hu] at hc <;> exact hc.elim
  | reuse ha =>
    obtain ⟨rfl, -⟩ := hc
    exact .inr (.inl ⟨ha ▸ List.mem_append_right _ (List.mem_singleton_self _), by simp, by simp⟩)
  | connectPooled | connectUnpooled => exact .inr (.inr ⟨_, _, rfl, rfl, hc.1, hc.2⟩)
  | register | probeOk => exact .inl ⟨hc, by simp, by simp⟩
  | @commitOk call p d done =>
    cases done with
    | zero => exact .inl ⟨hc, by simp, by simp⟩
    | succ n => exact hc.elim
  | @finishOk _ p | @rollbackOk _ p | @rollbackFailed _ p => cases p <;> exact hc.elim
  | _ => exact hc.elim

theorem Moves.available_cases (h : Moves inst sh th m o) (hc : c ∈ o.shared.pool.available) :
    c ∈ sh.pool.available ∨ (m = .release true ∧ sh.pool.available.length < inst.poolCap ∧
      ∃ call, th = .active call (.releasing c false)) := by
  cases h with
  | reuse ha => exact .inl (ha ▸ List.mem_append_left _ hc)
  | @releaseAvailable call d hu hl =>
    rcases List.mem_append.mp hc with hc | hc
    · exact .inl hc
    · exact .inr ⟨rfl, hl, call, by rw [List.mem_singleton.mp hc]⟩
  | _ => exact .inl hc

section System

variable {Tid : Type} [Fintype Tid] [DecidableEq Tid] {useTarget : Str → Option Str} {s s' : Located Tid} {t : Tid}

def ReturnsHome (inst : SqlInstanceConfig) (s : Located Tid) (a : Action Tid) : Prop :=
  ∀ t, a = .move t (.release true) → s.returnsAway inst t = false

instance (inst : SqlInstanceConfig) (s : Located Tid) (a : Action Tid) : Decidable (ReturnsHome inst s a) :=
  inferInstanceAs (Decidable (∀ _, _ → _))

/-- Every connection that a call without a database name can start on is in the configured
database. -/
structure AtHome (inst : SqlInstanceConfig) (s : Located Tid) : Prop where
  available : ∀ c ∈ s.base.shared.pool.available, s.database c = inst.database
  starts : ∀ t c, (s.base.thread t).Starts c → s.database c = inst.database

omit [Fintype Tid] [DecidableEq Tid] in
theorem databaseAfter_of_ne (hc : c ∉ (s.base.thread t).owned) (hn : c ≠ s.base.shared.next) :
    s.databaseAfter useTarget inst (.move t m) c = s.database c := by
  cases hth : s.base.thread t with
  | idle =>
    cases m with
    | connect ok => cases ok <;> simp only [Located.databaseAfter, hth]
    | execute => simp only [Located.databaseAfter, hth]
    | _ => rfl
  | active call phase =>
    rw [hth] at hc
    cases m with
    | connect ok =>
      cases ok with
      | false => rfl
      | true => simp only [Located.databaseAfter, hth, Function.update_of_ne hn]
    | execute =>
      cases phase with
      | running d p done committed =>
        have hd : c ≠ d := fun he ↦ hc (Multiset.mem_singleton.mpr he)
        simp only [Located.databaseAfter, hth, Function.update_of_ne hd]
      | _ => simp only [Located.databaseAfter, hth]
    | _ => rfl

omit [Fintype Tid] [DecidableEq Tid] in
theorem databaseAfter_eq (he : m ≠ .execute) (hc : m ≠ .connect true) :
    s.databaseAfter useTarget inst (.move t m) = s.database := by
  cases m with
  | connect ok =>
    cases ok with
    | false => rfl
    | true => exact absurd rfl hc
  | execute => exact absurd rfl he
  | _ => rfl

theorem Located.step_move (h : Located.step useTarget inst s (.move t m) = some s') :
    ∃ o, Moves inst s.base.shared (s.base.thread t) m o ∧
      s' = ⟨s.base.after t o, s.databaseAfter useTarget inst (.move t m)⟩ := by
  obtain ⟨base, hb, rfl⟩ := Option.map_eq_some_iff.mp h
  obtain ⟨o, hm, rfl⟩ := Pool.step_move hb
  exact ⟨o, hm, rfl⟩

theorem Located.base_reachable {ok : Located Tid → Action Tid → Prop}
    (h : Reachable (Located.step useTarget inst) ok {} s) :
    Reachable (Pool.step inst) (fun _ _ ↦ True) {} s.base := by
  refine h.invariant (I := fun s ↦ Reachable (Pool.step inst) (fun _ _ ↦ True) {} s.base) .init
    (fun s a s' _ hi _ hs ↦ ?_)
  obtain ⟨base, hb, rfl⟩ := Option.map_eq_some_iff.mp hs
  exact hi.next trivial hb

omit [DecidableEq Tid] in
theorem AtHome.available_move (h : AtHome inst s) (hsep : Separate s.base)
    (hm : Moves inst s.base.shared (s.base.thread t) m o) (hret : m = .release true → s.returnsAway inst t = false)
    (hc : c ∈ o.shared.pool.available) :
    s.databaseAfter useTarget inst (.move t m) c = inst.database := by
  rcases hm.available_cases hc with ha | ⟨rfl, hl, call, hth⟩
  · obtain ⟨ho, hn⟩ := hsep.available_notMem ha
    exact (databaseAfter_of_ne ho hn).trans (h.available c ha)
  · have hr := hret rfl
    simp only [Located.returnsAway, hth, hl, decide_true, Bool.true_and, decide_eq_false_iff_not, ne_eq, not_not] at hr
    exact hr

omit [Fintype Tid] [DecidableEq Tid] in
theorem AtHome.starts_move (h : AtHome inst s) (hm : Moves inst s.base.shared (s.base.thread t) m o)
    (hc : o.thread.Starts c) : s.databaseAfter useTarget inst (.move t m) c = inst.database := by
  rcases hm.starts hc with ⟨hst, he, hcon⟩ | ⟨ha, he, hcon⟩ | ⟨call, phase, hth, rfl, rfl, hnone⟩
  · rw [databaseAfter_eq he hcon]
    exact h.starts t c hst
  · rw [databaseAfter_eq he hcon]
    exact h.available c ha
  · simp only [Located.databaseAfter, hth, Function.update_self, SqlInstanceConfig.databaseFor, hnone]

theorem AtHome.step (h : AtHome inst s) (hsep : Separate s.base) {a : Action Tid} (ha : ReturnsHome inst s a)
    (hs : Located.step useTarget inst s a = some s') : AtHome inst s' := by
  cases a with
  | closeAllPools =>
    obtain ⟨base, hb, rfl⟩ := Option.map_eq_some_iff.mp hs
    obtain rfl := step_closeAllPools hb
    exact ⟨fun c hc ↦ absurd hc List.not_mem_nil, fun t c hc ↦ h.starts t c (Thread.starts_of_notify hc)⟩
  | move t m =>
    obtain ⟨o, hm, rfl⟩ := Located.step_move hs
    refine ⟨fun c hc ↦ h.available_move hsep hm (fun he ↦ ha t (he ▸ rfl)) hc, fun u c hc ↦ ?_⟩
    by_cases hu : u = t
    · subst hu
      have ho : o.thread.Starts c := by
        rw [← after_thread_self (s := s.base) (t := u) (o := o)]
        exact hc
      exact h.starts_move hm ho
    · have hst : (s.base.thread u).Starts c := by
        rcases after_thread_of_ne (s := s.base) (o := o) hu with he | he
        · exact he ▸ hc
        · exact Thread.starts_of_notify (he ▸ hc)
      have hlt := hsep.lt_next_of_owned hst.owned
      exact (databaseAfter_of_ne (hsep.notMem_owned hu hst.owned) (Nat.ne_of_lt hlt)).trans (h.starts u c hst)

/-- While no connection that is in another database is put back, every call without a
database name starts in the configured one, whatever the earlier calls executed. -/
theorem starts_in_configured_database (useTarget : Str → Option Str) (inst : SqlInstanceConfig)
    (h : Reachable (Located.step useTarget inst) (ReturnsHome inst) {} s) {call : Call} {pooled committed : Bool}
    (ht : s.base.thread t = .active call (.running c pooled 0 committed)) (hcall : call.databaseOverride = none) :
    s.database c = inst.database := by
  have hhome : AtHome inst s := by
    refine h.invariant (I := AtHome inst) ⟨fun c hc ↦ absurd hc List.not_mem_nil, fun t c hc ↦ hc.elim⟩
      (fun s a s' hr hi ha hs ↦ ?_)
    exact hi.step (separate_of_reachable (Located.base_reachable hr)) ha hs
  refine hhome.starts t c ?_
  rw [ht]
  exact ⟨rfl, hcall⟩

end System

def leadingUse (sql : Str) : Option Str :=
  if "USE ".toList.isPrefixOf sql then some ((sql.drop 4).takeWhile (fun c ↦ c ≠ ';')) else none

theorem starts_in_configured_database_reused :
    ∃ s : Located (Fin 2), s.base.thread 1 = .active reader (.running 0 true 0 false) ∧
      s.base.shared.pool.reusedTotal = 1 ∧ s.database 0 = smallInstance.database := by
  have hrun : (run (guarded (Located.step leadingUse smallInstance) (ReturnsHome smallInstance)) {}
      (freshBlock (0 : Fin 2) reader [.move 0 .execute] ++
        [.move 1 (.begin reader), .move 1 (.acquire false), .move 1 (.probe true)])).map
      (fun s ↦ (s.base.thread 1, s.base.shared.pool.reusedTotal)) =
      some (.active reader (.running 0 true 0 false), 1) := by decide
  obtain ⟨s, hr, hs⟩ := Option.map_eq_some_iff.mp hrun
  obtain ⟨ht, hn⟩ := Prod.mk.inj hs
  exact ⟨s, ht, hn, starts_in_configured_database leadingUse smallInstance (Reachable.init.of_run hr) ht rfl⟩

/-- The calls that the guard lets the select and report tools and the exec_proc tool make. -/
inductive Admitted [UnicodeData] (policy : RuntimePolicy) : Call → Prop
  | read {tool sql : Str} (ht : tool ∉ policy.allowedWriteTools) (hg : enforce policy tool sql = .ok ()) :
      Admitted policy { op := .executeRead sql }
  | readInDatabase {tool sql name : Str} (ht : tool ∉ policy.allowedWriteTools)
      (hg : enforce policy tool sql = .ok ()) :
      Admitted policy { op := .executeReadInDatabase sql, databaseOverride := some name }
  | execProc {tool procName : Str} {params : ℕ} {dbOverride : Option Str}
      (hp : validateProcedure policy tool procName = .ok ()) (hg : enforce policy tool policyProbe = .ok ()) :
      Admitted policy { op := .executeProc (execStatement procName params), databaseOverride := dbOverride }

def Action.begun {Tid : Type} : Action Tid → Option Call
  | .move _ (.begin call) => some call
  | _ => none

def BeginsAdmitted [UnicodeData] (policy : RuntimePolicy) {Tid : Type} (_ : Located Tid) (a : Action Tid) : Prop :=
  ∀ call, a.begun = some call → Admitted policy call

def switching : Call := { op := .executeRead "USE tempdb; SELECT name FROM sys.tables".toList }

/-- The guard admits a batch that begins with `USE`, and the connection goes back to the
pool in the database that the batch has switched to. -/
theorem starts_in_tempdb :
    ¬ ∀ [UnicodeData] (inst : SqlInstanceConfig) (Tid : Type) [Fintype Tid] [DecidableEq Tid] (s : Located Tid)
      (t : Tid) (call : Call) (c : Conn) (pooled committed : Bool),
      Reachable (Located.step leadingUse inst) (BeginsAdmitted shippedPolicy) {} s →
      s.base.thread t = .active call (.running c pooled 0 committed) → call.databaseOverride = none →
      s.database c = inst.database := by
  intro h
  let _ := asciiData
  have hrun : (run (Located.step leadingUse smallInstance) {}
      (freshBlock (0 : Fin 2) switching [.move 0 .execute] ++
        [.move 1 (.begin reader), .move 1 (.acquire false), .move 1 (.probe true)])).map
      (fun s ↦ (s.base.thread 1, s.database 0)) =
      some (.active reader (.running 0 true 0 false), "tempdb".toList) := by decide
  obtain ⟨s, hr, hs⟩ := Option.map_eq_some_iff.mp hrun
  obtain ⟨ht, hd⟩ := Prod.mk.inj hs
  have hcalls : ∀ call ∈ [switching, reader], Admitted shippedPolicy call := by
    have htool : selectTool ∉ (shippedPolicy).allowedWriteTools := by decide
    rw [List.forall_mem_cons, List.forall_mem_singleton]
    exact ⟨.read htool (by decide), .read htool (by decide)⟩
  have hbegun : ∀ a ∈ freshBlock (0 : Fin 2) switching [.move 0 .execute] ++
      [.move 1 (.begin reader), .move 1 (.acquire false), .move 1 (.probe true)],
      ∀ call, a.begun = some call → call ∈ [switching, reader] := by
    simp [freshBlock, Action.begun]
  have hreach := Reachable.of_run_forall .init (fun _ a ha call hc ↦ hcalls call (hbegun a ha call hc)) hr
  have hhome := h smallInstance (Fin 2) s 1 reader 0 true false hreach ht rfl
  exact absurd (hd.symm.trans hhome) (by decide)

end McpSqlServer.Pool

import McpSqlServer.Pool.Holding
import Mathlib.Data.Nat.Count

namespace McpSqlServer.Pool

open Library.Transition Library.Ownership

variable {inst : SqlInstanceConfig} {sh sh' : Shared} {th : Thread} {m : Move} {o : Outcome} {c : Conn}

theorem map_erase_of_inj {α β : Type*} [DecidableEq α] [DecidableEq β] {f : α → β} {a : α} {l : List α}
    (h : ∀ b ∈ l, f b = f a → b = a) : (l.erase a).map f = (l.map f).erase (f a) := by
  induction l with
  | nil => rfl
  | cons b l ih =>
    by_cases hb : b = a
    · rw [hb, List.erase_cons_head, List.map_cons, List.erase_cons_head]
    · have hf : f b ≠ f a := fun he ↦ hb (h b List.mem_cons_self he)
      rw [List.erase_cons_tail (by simpa using hb), List.map_cons, List.map_cons, List.erase_cons_tail (by simpa using hf),
        ih (fun c hc ↦ h c (List.mem_cons_of_mem _ hc))]

def PoolState.rename (f : Conn → Conn) (s : PoolState) : PoolState :=
  { s with available := s.available.map f, inUse := s.inUse.map f }

def Phase.rename (f : Conn → Conn) : Phase → Phase
  | .registering c => .registering (f c)
  | .probing c => .probing (f c)
  | .discarding c => .discarding (f c)
  | .closingStale c => .closingStale (f c)
  | .running c pooled done committed => .running (f c) pooled done committed
  | .rollingBack c pooled => .rollingBack (f c) pooled
  | .checking c => .checking (f c)
  | .releasing c shouldDiscard => .releasing (f c) shouldDiscard
  | .closing c => .closing (f c)
  | phase => phase

namespace Thread

def rename (f : Conn → Conn) : Thread → Thread
  | .idle => .idle
  | .active call phase => .active call (phase.rename f)

def overriding : Thread → Bool
  | .idle => false
  | .active call _ => call.databaseOverride.isSome

/-- Where a call that does not use the pool can be. -/
def OffPool : Thread → Prop
  | .idle | .active _ (.connecting false) | .active _ (.running _ false _ _) | .active _ (.rollingBack _ false)
  | .active _ (.closing _) => True
  | _ => False

@[simp] theorem overriding_notify (th : Thread) : th.notify.overriding = th.overriding := by
  unfold notify
  split <;> rfl

@[simp] theorem holdsLock_rename (f : Conn → Conn) (th : Thread) : (th.rename f).holdsLock = th.holdsLock := by
  cases th with
  | idle => rfl
  | active call phase => cases phase <;> rfl

theorem rename_notify (f : Conn → Conn) (th : Thread) : (th.rename f).notify = th.notify.rename f := by
  cases th with
  | idle => rfl
  | active call phase => cases phase <;> rfl

theorem OffPool.notify_eq (h : th.OffPool) : th.notify = th := by
  unfold notify
  split
  · exact h.elim
  · rfl

end Thread

def Thread.overrides (th : Thread) : Move → Bool
  | .begin call => call.databaseOverride.isSome
  | _ => th.overriding

def State.overrides {Tid : Type} (s : State Tid) : Action Tid → Bool
  | .move t m => (s.thread t).overrides m
  | .closeAllPools => false

def withoutOverrides {Tid : Type} [DecidableEq Tid] [Fintype Tid] (inst : SqlInstanceConfig) (s : State Tid)
    (as : List (Action Tid)) : List (Action Tid) :=
  erase (step inst) State.overrides s as

theorem Moves.of_offPool (h : Moves inst sh th m o) (hoff : th.OffPool)
    (hb : ∀ call, m = .begin call → call.usePool inst = false) :
    o.thread.OffPool ∧ o.shared.pool = sh.pool ∧ o.notifyAll = false ∧
    (th.owned = 0 ∧ o.thread.owned = {sh.next} ∧ o.shared = sh.openNew ∨
      o.shared.next = sh.next ∧ (∀ d, d ∉ th.owned → o.shared.conn d = sh.conn d) ∧ o.thread.owned ≤ th.owned ∧
        ∀ d ∈ th.owned, d ∈ o.thread.owned ∨ (o.shared.conn d).closed = true) := by
  have hsame : ∀ d, d ∉ th.owned → sh.conn d = sh.conn d := fun _ _ ↦ rfl
  have hset {c : Conn} (k : ConnState) (hth : th.owned = {c}) : ∀ d, d ∉ th.owned → (sh.setConn c k).conn d = sh.conn d :=
    fun d hd ↦ Shared.setConn_of_ne (fun he ↦ hd (hth ▸ Multiset.mem_singleton.mpr he)) k
  cases h with
  | begin call phase hp =>
    rw [hp, hb call rfl]
    exact ⟨trivial, rfl, rfl, .inr ⟨rfl, hsame, le_rfl, fun _ ↦ .inl⟩⟩
  | connectFailed => exact ⟨trivial, rfl, rfl, .inr ⟨rfl, hsame, le_rfl, fun _ ↦ .inl⟩⟩
  | connectUnpooled => exact ⟨trivial, rfl, rfl, .inl ⟨rfl, rfl, rfl⟩⟩
  | @execute _ p | @commitOk _ p | @rollbackOk _ p =>
    cases p with
    | false => exact ⟨trivial, rfl, rfl, .inr ⟨rfl, hset _ rfl, le_rfl, fun _ ↦ .inl⟩⟩
    | true => exact hoff.elim
  | @commitFailed _ p | @finishOk _ p | @finishFailed _ p | @rollbackFailed _ p =>
    cases p with
    | false => exact ⟨trivial, rfl, rfl, .inr ⟨rfl, hsame, le_rfl, fun _ ↦ .inl⟩⟩
    | true => exact hoff.elim
  | close =>
    refine ⟨trivial, rfl, rfl, .inr ⟨rfl, hset _ rfl, Multiset.zero_le _, fun d hd ↦ .inr ?_⟩⟩
    rw [Multiset.mem_singleton.mp hd, Shared.close, Shared.setConn_self]
  | _ => exact hoff.elim

section Shared

variable {kept : Conn → Prop} [DecidablePred kept]

theorem inj_count {c d : Conn} (hc : kept c) (hd : kept d) (h : Nat.count kept c = Nat.count kept d) : c = d :=
  Nat.count_injective hc hd h

/-- What is shared, once with all connections and once with only the kept ones, which are
then counted without gaps. -/
structure Renamed (kept : Conn → Prop) [DecidablePred kept] (sh sh' : Shared) : Prop where
  pool : sh'.pool = sh.pool.rename (Nat.count kept)
  next : sh'.next = Nat.count kept sh.next
  conn : ∀ c < sh.next, kept c → sh'.conn (Nat.count kept c) = sh.conn c
  pooled : ∀ c, c ∈ sh.pool.available ∨ c ∈ sh.pool.inUse → c < sh.next ∧ kept c

namespace Renamed

theorem usable (h : Renamed kept sh sh') (hc : c < sh.next ∧ kept c) :
    sh'.usable (Nat.count kept c) = sh.usable c := by
  rw [Shared.usable, Shared.usable, h.conn c hc.1 hc.2]

theorem setConn (h : Renamed kept sh sh') (hc : c < sh.next ∧ kept c) (k : ConnState) :
    Renamed kept (sh.setConn c k) (sh'.setConn (Nat.count kept c) k) where
  pool := h.pool
  next := h.next
  conn d hd hk := by
    by_cases hdc : d = c
    · rw [hdc, Shared.setConn_self, Shared.setConn_self]
    · have hne : Nat.count kept d ≠ Nat.count kept c := fun he ↦ hdc (inj_count hk hc.2 he)
      rw [Shared.setConn_of_ne hne, Shared.setConn_of_ne hdc]
      exact h.conn d hd hk
  pooled := h.pooled

theorem execute (h : Renamed kept sh sh') (hc : c < sh.next ∧ kept c) (stmt : Issued) :
    Renamed kept (sh.execute c stmt) (sh'.execute (Nat.count kept c) stmt) := by
  rw [Shared.execute, Shared.execute, h.conn c hc.1 hc.2]
  exact h.setConn hc _

theorem commit (h : Renamed kept sh sh') (hc : c < sh.next ∧ kept c) :
    Renamed kept (sh.commit c) (sh'.commit (Nat.count kept c)) := by
  rw [Shared.commit, Shared.commit, h.conn c hc.1 hc.2]
  have hset := h.setConn hc { sh.conn c with uncommitted := [] }
  exact ⟨hset.pool, hset.next, hset.conn, hset.pooled⟩

theorem rollback (h : Renamed kept sh sh') (hc : c < sh.next ∧ kept c) :
    Renamed kept (sh.rollback c) (sh'.rollback (Nat.count kept c)) := by
  rw [Shared.rollback, Shared.rollback, h.conn c hc.1 hc.2]
  exact h.setConn hc _

theorem close (h : Renamed kept sh sh') (hc : c < sh.next ∧ kept c) :
    Renamed kept (sh.close c) (sh'.close (Nat.count kept c)) := by
  rw [Shared.close, Shared.close, h.conn c hc.1 hc.2]
  exact h.setConn hc _

theorem openNew (h : Renamed kept sh sh') (hk : kept sh.next) : Renamed kept sh.openNew sh'.openNew where
  pool := h.pool
  next := by
    show sh'.next + 1 = Nat.count kept (sh.next + 1)
    rw [Nat.count_succ, if_pos hk, h.next]
  conn c hc hkc := by
    by_cases hcn : c = sh.next
    · rw [hcn, ← h.next, Shared.openNew_conn, Shared.openNew_conn]
    · have hne : Nat.count kept c ≠ sh'.next := by
        rw [h.next]
        exact fun he ↦ hcn (inj_count hkc hk he)
      rw [Shared.openNew_of_ne hne, Shared.openNew_of_ne hcn]
      exact h.conn c (Nat.lt_of_le_of_ne (Nat.le_of_lt_succ hc) hcn) hkc
  pooled c hc := by
    obtain ⟨hl, hkc⟩ := h.pooled c hc
    exact ⟨Nat.lt_succ_of_lt hl, hkc⟩

theorem openNew_hidden (h : Renamed kept sh sh') (hk : ¬ kept sh.next) : Renamed kept sh.openNew sh' where
  pool := h.pool
  next := by
    show sh'.next = Nat.count kept (sh.next + 1)
    rw [Nat.count_succ, if_neg hk, h.next, Nat.add_zero]
  conn c hc hkc := by
    have hcn : c ≠ sh.next := fun he ↦ hk (he ▸ hkc)
    rw [Shared.openNew_of_ne hcn]
    exact h.conn c (Nat.lt_of_le_of_ne (Nat.le_of_lt_succ hc) hcn) hkc
  pooled c hc := by
    obtain ⟨hl, hkc⟩ := h.pooled c hc
    exact ⟨Nat.lt_succ_of_lt hl, hkc⟩

theorem withPool (h : Renamed kept sh sh') {p : PoolState} (hp : ∀ c, c ∈ p.available ∨ c ∈ p.inUse → c < sh.next ∧ kept c)
    {p' : PoolState} (he : p' = p.rename (Nat.count kept)) : Renamed kept { sh with pool := p } { sh' with pool := p' } :=
  ⟨he, h.next, h.conn, hp⟩

theorem removeInUse (h : Renamed kept sh sh') (hc : c < sh.next ∧ kept c) :
    sh'.pool.removeInUse (Nat.count kept c) = (sh.pool.removeInUse c).rename (Nat.count kept) := by
  have herase : (sh.pool.inUse.erase c).map (Nat.count kept) =
      (sh.pool.inUse.map (Nat.count kept)).erase (Nat.count kept c) :=
    map_erase_of_inj (fun b hb he ↦ inj_count (h.pooled b (.inr hb)).2 hc.2 he)
  rw [h.pool]
  simp only [PoolState.removeInUse, PoolState.rename, herase]

theorem discardStale (h : Renamed kept sh sh') (hc : c < sh.next ∧ kept c) :
    Renamed kept { sh with pool := sh.pool.discardStale c } { sh' with pool := sh'.pool.discardStale (Nat.count kept c) } := by
  refine h.withPool (fun d hd ↦ h.pooled d (hd.imp id List.mem_of_mem_erase)) ?_
  rw [PoolState.discardStale, h.removeInUse hc]
  rfl

theorem foldl_close (h : Renamed kept sh sh') {cs : List Conn} (hcs : ∀ c ∈ cs, c < sh.next ∧ kept c) :
    Renamed kept (cs.foldl Shared.close sh) ((cs.map (Nat.count kept)).foldl Shared.close sh') := by
  induction cs generalizing sh sh' with
  | nil => exact h
  | cons c cs ih => exact ih (h.close (hcs c List.mem_cons_self)) (fun d hd ↦ hcs d (List.mem_cons_of_mem _ hd))

theorem closeAll (h : Renamed kept sh sh') : Renamed kept sh.closeAll sh'.closeAll := by
  have hcs : ∀ c ∈ sh.pool.available ++ sh.pool.inUse, c < sh.next ∧ kept c :=
    fun c hc ↦ h.pooled c (List.mem_append.mp hc)
  have hfold := h.foldl_close hcs
  have hclear : (sh'.pool.clear).1 = (sh.pool.available ++ sh.pool.inUse).map (Nat.count kept) := by
    rw [h.pool, List.map_append]
    rfl
  rw [← hclear] at hfold
  refine hfold.withPool (fun c hc ↦ absurd hc (by simp)) ?_
  rw [h.pool]
  rfl

end Renamed

structure Matches (kept : Conn → Prop) [DecidablePred kept] (o o' : Outcome) : Prop where
  shared : Renamed kept o.shared o'.shared
  thread : o'.thread = o.thread.rename (Nat.count kept)
  notifyAll : o'.notifyAll = o.notifyAll
  owned : ∀ c ∈ o.thread.owned, c < o.shared.next ∧ kept c

theorem Moves.rename (h : Moves inst sh th m o) (hr : Renamed kept sh sh')
    (ho : ∀ c ∈ th.owned, c < sh.next ∧ kept c) (hk : o.shared.next ≠ sh.next → kept sh.next) :
    ∃ o', Moves inst sh' (th.rename (Nat.count kept)) m o' ∧ Matches kept o o' := by
  have hempty (n : ℕ) : ∀ c ∈ (0 : Multiset Conn), c < n ∧ kept c := fun c hc ↦ absurd hc (Multiset.notMem_zero c)
  have hav : sh'.pool.available = sh.pool.available.map (Nat.count kept) := by rw [hr.pool]; rfl
  have hsize : sh'.pool.size = sh.pool.size := by
    rw [hr.pool, PoolState.rename, PoolState.size, PoolState.size, List.length_map, List.length_map]
  have hnil (ha : sh.pool.available = []) : sh'.pool.available = [] := by rw [hav, ha, List.map_nil]
  have hself {c : Conn} (hc : th.owned = {c}) : c < sh.next ∧ kept c := ho c (hc ▸ Multiset.mem_singleton_self c)
  cases h with
  | begin call phase hp =>
    refine ⟨_, .begin call phase hp, hr, ?_, rfl, ?_⟩
    · subst hp
      cases call.usePool inst <;> rfl
    · subst hp
      cases call.usePool inst <;> exact hempty _
  | @reuse call timedOut rest c ha =>
    have ha' : sh'.pool.available = rest.map (Nat.count kept) ++ [Nat.count kept c] := by
      rw [hav, ha, List.map_append, List.map_singleton]
    have hc := hr.pooled c (.inl (ha ▸ List.mem_append_right _ (List.mem_singleton_self c)))
    refine ⟨_, .reuse ha', hr.withPool (fun d hd ↦ ?_) ?_, rfl, rfl, fun d hd ↦ Multiset.mem_singleton.mp hd ▸ hc⟩
    · rcases hd with hd | hd
      · exact hr.pooled d (.inl (ha ▸ List.mem_append_left _ hd))
      · rcases List.mem_append.mp hd with hd | hd
        · exact hr.pooled d (.inr hd)
        · exact List.mem_singleton.mp hd ▸ hc
    · rw [hr.pool]
      simp only [PoolState.rename, List.map_append, List.map_cons, List.map_nil]
  | createNew ha hs => exact ⟨_, .createNew (hnil ha) (hsize ▸ hs), hr, rfl, rfl, hempty _⟩
  | timeout ha hs => exact ⟨_, .timeout (hnil ha) (hsize ▸ hs), hr, rfl, rfl, hempty _⟩
  | wait ha hs => exact ⟨_, .wait (hnil ha) (hsize ▸ hs), hr, rfl, rfl, hempty _⟩
  | wake => exact ⟨_, .wake, hr, rfl, rfl, hempty _⟩
  | connectFailed => exact ⟨_, .connectFailed, hr, rfl, rfl, hempty _⟩
  | connectPooled =>
    have hkn := hk (Nat.succ_ne_self _)
    refine ⟨_, .connectPooled, hr.openNew hkn, ?_, rfl, fun c hc ↦ ?_⟩
    · simp only [hr.next, Thread.rename, Phase.rename]
    · rw [Multiset.mem_singleton.mp hc]
      exact ⟨Nat.lt_succ_self _, hkn⟩
  | connectUnpooled =>
    have hkn := hk (Nat.succ_ne_self _)
    refine ⟨_, .connectUnpooled, hr.openNew hkn, ?_, rfl, fun c hc ↦ ?_⟩
    · simp only [hr.next, Thread.rename, Phase.rename]
    · rw [Multiset.mem_singleton.mp hc]
      exact ⟨Nat.lt_succ_self _, hkn⟩
  | @register call c =>
    refine ⟨_, .register, hr.withPool (fun d hd ↦ ?_) ?_, rfl, rfl, ho⟩
    · rcases hd with hd | hd
      · exact hr.pooled d (.inl hd)
      · rcases List.mem_append.mp hd with hd | hd
        · exact hr.pooled d (.inr hd)
        · exact List.mem_singleton.mp hd ▸ hself rfl
    · rw [hr.pool]
      simp only [PoolState.registerCreated, PoolState.rename, List.map_append, List.map_cons, List.map_nil]
  | probeOk hu => exact ⟨_, .probeOk ((hr.usable (hself rfl)).trans hu), hr.execute (hself rfl) _, rfl, rfl, ho⟩
  | probeFailed => exact ⟨_, .probeFailed, hr, rfl, rfl, ho⟩
  | discard => exact ⟨_, .discard, hr.discardStale (hself rfl), rfl, rfl, ho⟩
  | closeStale => exact ⟨_, .closeStale, hr.close (hself rfl), rfl, rfl, hempty _⟩
  | execute hs hu => exact ⟨_, .execute hs ((hr.usable (hself rfl)).trans hu), hr.execute (hself rfl) _, rfl, rfl, ho⟩
  | commitOk hc hd hu =>
    exact ⟨_, .commitOk hc hd ((hr.usable (hself rfl)).trans hu), hr.commit (hself rfl), rfl, rfl, ho⟩
  | commitFailed hc hd => exact ⟨_, .commitFailed hc hd, hr, rfl, rfl, ho⟩
  | @finishOk call pooled committed c done hc hd =>
    refine ⟨_, .finishOk hc hd, hr, ?_, rfl, ?_⟩
    · cases pooled <;> rfl
    · cases pooled <;> exact ho
  | finishFailed => exact ⟨_, .finishFailed, hr, rfl, rfl, ho⟩
  | @rollbackOk call pooled c hu =>
    refine ⟨_, .rollbackOk ((hr.usable (hself rfl)).trans hu), hr.rollback (hself rfl), ?_, rfl, ?_⟩
    · cases pooled <;> rfl
    · cases pooled <;> exact ho
  | @rollbackFailed call pooled c =>
    refine ⟨_, .rollbackFailed, hr, ?_, rfl, ?_⟩
    · cases pooled <;> rfl
    · cases pooled <;> exact ho
  | checkOk hu => exact ⟨_, .checkOk ((hr.usable (hself rfl)).trans hu), hr.execute (hself rfl) _, rfl, rfl, ho⟩
  | checkFailed => exact ⟨_, .checkFailed, hr, rfl, rfl, ho⟩
  | @releaseAvailable call c hu hl =>
    have hlen : sh'.pool.available.length = sh.pool.available.length := by rw [hav, List.length_map]
    refine ⟨_, .releaseAvailable ((hr.usable (hself rfl)).trans hu) (hlen ▸ hl), hr.withPool (fun d hd ↦ ?_) ?_, rfl, rfl,
      hempty _⟩
    · rcases hd with hd | hd
      · rcases List.mem_append.mp hd with hd | hd
        · exact hr.pooled d (.inl hd)
        · exact List.mem_singleton.mp hd ▸ hself rfl
      · exact hr.pooled d (.inr (List.mem_of_mem_erase hd))
    · rw [hr.removeInUse (hself rfl), hav]
      simp only [PoolState.rename, List.map_append, List.map_cons, List.map_nil]
  | releaseDiscard hu hl =>
    have hlen : sh'.pool.available.length = sh.pool.available.length := by rw [hav, List.length_map]
    refine ⟨_, .releaseDiscard (fun ha ↦ (hr.usable (hself rfl)).trans (hu ha)) (hlen ▸ hl),
      hr.discardStale (hself rfl), rfl, rfl, ho⟩
  | close => exact ⟨_, .close, hr.close (hself rfl), rfl, rfl, hempty _⟩

theorem Moves.hidden (h : Moves inst sh th m o) (hr : Renamed kept sh sh') (hoff : th.OffPool)
    (hb : ∀ call, m = .begin call → call.usePool inst = false) (ho : ∀ c ∈ th.owned, ¬ kept c)
    (hk : o.shared.next ≠ sh.next → ¬ kept sh.next) :
    Renamed kept o.shared sh' ∧ o.thread.OffPool ∧ (∀ c ∈ o.thread.owned, ¬ kept c) ∧ o.notifyAll = false := by
  obtain ⟨hoff', hpool, hn, ⟨-, hown, hsh⟩ | ⟨hnext, hconn, hown, -⟩⟩ := h.of_offPool hoff hb
  · have hkn : ¬ kept sh.next := hk (hsh ▸ Nat.succ_ne_self _)
    refine ⟨hsh ▸ hr.openNew_hidden hkn, hoff', fun c hc ↦ ?_, hn⟩
    rw [hown, Multiset.mem_singleton] at hc
    exact hc ▸ hkn
  · refine ⟨⟨hr.pool.trans (hpool ▸ rfl), hr.next.trans (hnext ▸ rfl), fun c hc hkc ↦ ?_, ?_⟩, hoff', fun c hc ↦ ?_, hn⟩
    · rw [hconn c (fun hc ↦ ho c hc hkc)]
      exact hr.conn c (hnext ▸ hc) hkc
    · rw [hpool, hnext]
      exact hr.pooled
    · exact ho c (Multiset.mem_of_le hown hc)

end Shared

theorem Moves.overriding_cases (h : Moves inst sh th m o) :
    o.thread = .idle ∨ o.thread.overriding = th.overrides m := by
  cases h with
  | timeout | connectFailed | releaseAvailable | close => exact .inl rfl
  | _ => exact .inr rfl

theorem Moves.overriding_of_overrides (h : Moves inst sh th m o) (hv : th.overrides m = false) :
    th.overriding = false := by
  cases h with
  | begin => rfl
  | _ => exact hv

theorem Moves.idle_or_overriding (h : Moves inst sh th m o) (hv : th.overrides m = true) :
    th = .idle ∨ th.overriding = true := by
  cases h with
  | begin => exact .inl rfl
  | _ => exact .inr hv

theorem Moves.not_usePool (h : Moves inst sh th m o) (hv : th.overrides m = true) (call : Call) (hm : m = .begin call) :
    call.usePool inst = false := by
  subst hm
  have hs : call.databaseOverride.isSome = true := hv
  rw [Call.usePool, Option.isNone_eq_false_iff.mpr hs, Bool.and_false]

theorem Moves.offPool_or_closed (h : Moves inst sh th m o) (hoff : th.OffPool) (hc : c ∈ th.owned) :
    (o.thread.OffPool ∧ c ∈ o.thread.owned) ∨ (o.shared.conn c).closed = true := by
  have hactive : ∀ call, m = .begin call → call.usePool inst = false := by
    rintro call rfl
    cases h
    exact absurd hc (Multiset.notMem_zero c)
  obtain ⟨hoff', -, -, ⟨hown, -⟩ | ⟨-, -, -, hkeep⟩⟩ := h.of_offPool hoff hactive
  · exact absurd (hown ▸ hc) (Multiset.notMem_zero c)
  · exact (hkeep c hc).imp_left (fun hc ↦ ⟨hoff', hc⟩)

section System

variable {Tid : Type} {s s' : State Tid} {t : Tid} {kept : Conn → Prop} [DecidablePred kept]

/-- The state of a run, and the state of the run without its operations on other databases. -/
structure Erased (kept : Conn → Prop) [DecidablePred kept] (s s' : State Tid) : Prop where
  shared : Renamed kept s.shared s'.shared
  idle : ∀ t, (s.thread t).overriding = true → s'.thread t = .idle
  thread : ∀ t, (s.thread t).overriding = false → s'.thread t = (s.thread t).rename (Nat.count kept)
  owned : ∀ t, (s.thread t).overriding = false → ∀ c ∈ (s.thread t).owned, c < s.shared.next ∧ kept c
  offPool : ∀ t, (s.thread t).overriding = true → (s.thread t).OffPool ∧ ∀ c ∈ (s.thread t).owned, ¬ kept c

def Keeps (inst : SqlInstanceConfig) [Fintype Tid] [DecidableEq Tid] (kept : Conn → Prop) (s : State Tid) (a : Action Tid) :
    Prop :=
  ∀ s', step inst s a = some s' → s'.shared.next ≠ s.shared.next → (kept s.shared.next ↔ s.overrides a = false)

theorem Erased.holdsLock (h : Erased kept s s') (hl : (s.thread t).holdsLock = false) :
    (s'.thread t).holdsLock = false := by
  cases ho : (s.thread t).overriding with
  | true => rw [h.idle t ho]; rfl
  | false => rw [h.thread t ho, Thread.holdsLock_rename, hl]

theorem Erased.notify (h : Erased kept s s') :
    Erased kept { s with thread := fun t ↦ (s.thread t).notify } { s' with thread := fun t ↦ (s'.thread t).notify } where
  shared := h.shared
  idle t ho := by
    have ho : (s.thread t).overriding = true := (Thread.overriding_notify _).symm.trans ho
    show (s'.thread t).notify = .idle
    rw [h.idle t ho]
    rfl
  thread t ho := by
    have ho : (s.thread t).overriding = false := (Thread.overriding_notify _).symm.trans ho
    show (s'.thread t).notify = (s.thread t).notify.rename _
    rw [h.thread t ho, Thread.rename_notify]
  owned t ho c hc := h.owned t ((Thread.overriding_notify _).symm.trans ho) c ((Thread.owned_notify _).symm ▸ hc)
  offPool t ho := by
    obtain ⟨hoff, hown⟩ := h.offPool t ((Thread.overriding_notify _).symm.trans ho)
    show (s.thread t).notify.OffPool ∧ ∀ c ∈ (s.thread t).notify.owned, ¬ kept c
    rw [hoff.notify_eq]
    exact ⟨hoff, hown⟩

variable [DecidableEq Tid]

theorem Erased.update (h : Erased kept s s') (hr : Renamed kept sh sh') (hn : s.shared.next ≤ sh.next) {th' : Thread}
    (hoff : th.overriding = true → th' = .idle ∧ th.OffPool ∧ ∀ c ∈ th.owned, ¬ kept c)
    (hon : th.overriding = false → th' = th.rename (Nat.count kept) ∧ ∀ c ∈ th.owned, c < sh.next ∧ kept c) :
    Erased kept ⟨sh, Function.update s.thread t th⟩ ⟨sh', Function.update s'.thread t th'⟩ := by
  refine ⟨hr, fun u ho ↦ ?_, fun u ho ↦ ?_, fun u ho ↦ ?_, fun u ho ↦ ?_⟩
  all_goals
    by_cases hu : u = t
    · subst hu
      simp only [Function.update_self] at ho ⊢
      first
        | exact (hoff ho).1
        | exact (hon ho).1
        | exact (hon ho).2
        | exact (hoff ho).2
    · simp only [Function.update_of_ne hu] at ho ⊢
      first
        | exact h.idle u ho
        | exact h.thread u ho
        | exact h.offPool u ho
        | exact fun c hc ↦ ⟨Nat.lt_of_lt_of_le (h.owned u ho c hc).1 hn, (h.owned u ho c hc).2⟩

variable [Fintype Tid]

theorem Erased.step_visible (h : Erased kept s s') {a : Action Tid} {s₁ : State Tid} (hk : Keeps inst kept s a)
    (hv : s.overrides a = false) (hs : step inst s a = some s₁) :
    ∃ s₁', step inst s' a = some s₁' ∧ Erased kept s₁ s₁' := by
  cases a with
  | closeAllPools =>
    have hfree : ∀ u, (s.thread u).holdsLock = false := by
      unfold step at hs
      exact (Option.ite_none_right_eq_some.mp hs).1
    obtain rfl := step_closeAllPools hs
    refine ⟨_, if_pos (fun u ↦ h.holdsLock (hfree u)), ?_⟩
    have hn := h.notify
    exact ⟨h.shared.closeAll, hn.idle, hn.thread, fun t ho ↦ (Shared.closeAll_next s.shared).symm ▸ hn.owned t ho,
      hn.offPool⟩
  | move t m =>
    have hnext := hk s₁ hs
    obtain ⟨o, hm, hlock, rfl⟩ := step_move_iff.mp hs
    have ho := hm.overriding_of_overrides hv
    obtain ⟨o', hm', hmatch⟩ := hm.rename h.shared (h.owned t ho) (fun hne ↦ (hnext hne).mpr hv)
    rw [← h.thread t ho] at hm'
    refine ⟨s'.after t o', step_move_iff.mpr ⟨o', hm', fun hl u hu ↦ ?_, rfl⟩, ?_⟩
    · rw [hmatch.thread, Thread.holdsLock_rename] at hl
      exact h.holdsLock (hlock hl u hu)
    · have hkept : o.thread.overriding = false := by
        rcases hm.overriding_cases with hidle | he
        · rw [hidle]
          rfl
        · exact he.trans hv
      have hon : o.thread.overriding = false →
          o'.thread = o.thread.rename (Nat.count kept) ∧ ∀ c ∈ o.thread.owned, c < o.shared.next ∧ kept c :=
        fun _ ↦ ⟨hmatch.thread, hmatch.owned⟩
      have hoff : o.thread.overriding = true → o'.thread = .idle ∧ o.thread.OffPool ∧ ∀ c ∈ o.thread.owned, ¬ kept c :=
        fun he ↦ absurd (hkept.symm.trans he) Bool.false_ne_true
      unfold State.after
      rw [hmatch.notifyAll]
      cases o.notifyAll with
      | false => exact h.update hmatch.shared hm.next_le hoff hon
      | true => exact h.notify.update hmatch.shared hm.next_le hoff hon

theorem Erased.step_hidden (h : Erased kept s s') {a : Action Tid} {s₁ : State Tid} (hk : Keeps inst kept s a)
    (hv : s.overrides a = true) (hs : step inst s a = some s₁) : Erased kept s₁ s' := by
  cases a with
  | closeAllPools => exact absurd hv Bool.false_ne_true
  | move t m =>
    have hnext := hk s₁ hs
    obtain ⟨o, hm, rfl⟩ := step_move hs
    have hth : (s.thread t).OffPool ∧ (∀ c ∈ (s.thread t).owned, ¬ kept c) ∧ s'.thread t = .idle := by
      rcases hm.idle_or_overriding hv with hidle | ho
      · have hthread := h.thread t (by rw [hidle]; rfl)
        rw [hidle] at hthread ⊢
        exact ⟨trivial, fun c hc ↦ absurd hc (Multiset.notMem_zero c), hthread⟩
      · exact ⟨(h.offPool t ho).1, (h.offPool t ho).2, h.idle t ho⟩
    obtain ⟨hoff, hown, hidle⟩ := hth
    obtain ⟨hr, hoff', hown', hn⟩ := hm.hidden h.shared hoff (hm.not_usePool hv) hown
      (fun hne hkn ↦ by rw [(hnext hne).mp hkn] at hv; cases hv)
    have hs' : s' = ⟨s'.shared, Function.update s'.thread t .idle⟩ := by
      rw [← hidle, Function.update_eq_self]
    unfold State.after
    rw [hn, hs']
    refine h.update hr hm.next_le (fun _ ↦ ⟨rfl, hoff', hown'⟩) (fun he ↦ ?_)
    rcases hm.overriding_cases with ho | ho
    · rw [ho]
      exact ⟨rfl, fun c hc ↦ absurd hc (Multiset.notMem_zero c)⟩
    · exact absurd (he.symm.trans (ho.trans hv)) Bool.false_ne_true

theorem step_next_le {a : Action Tid} (hs : step inst s a = some s') : s.shared.next ≤ s'.shared.next := by
  cases a with
  | closeAllPools =>
    obtain rfl := step_closeAllPools hs
    exact le_of_eq (Shared.closeAll_next s.shared).symm
  | move t m =>
    obtain ⟨o, hm, rfl⟩ := step_move hs
    exact hm.next_le

theorem run_next_le {as : List (Action Tid)} (hr : run (step inst) s as = some s') : s.shared.next ≤ s'.shared.next :=
  run_invariant (I := fun u ↦ s.shared.next ≤ u.shared.next) (fun _ _ _ hi hs ↦ hi.trans (step_next_le hs)) le_rfl hr

def Opened (inst : SqlInstanceConfig) (as : List (Action Tid)) (c : Conn) : Prop :=
  ∃ pre a post s s', as = pre ++ a :: post ∧ run (step inst) {} pre = some s ∧ step inst s a = some s' ∧
    s.shared.next = c ∧ s'.shared.next ≠ c ∧ s.overrides a = false

theorem opened_once {as pre pre' post post' : List (Action Tid)} {a a' : Action Tid} {s₁ s₁' : State Tid}
    (has : as = pre ++ a :: post) (has' : as = pre' ++ a' :: post')
    (hr : run (step inst) {} pre = some s) (hr' : run (step inst) {} pre' = some s')
    (hs : step inst s a = some s₁) (hs' : step inst s' a' = some s₁')
    (ho : s₁.shared.next ≠ s.shared.next) (ho' : s₁'.shared.next ≠ s'.shared.next)
    (hn : s.shared.next = s'.shared.next) : pre = pre' ∧ a = a' := by
  have hlater {pre mid : List (Action Tid)} {a : Action Tid} {s s₁ s' : State Tid}
      (hr : run (step inst) {} pre = some s) (hs : step inst s a = some s₁)
      (hr' : run (step inst) {} (pre ++ a :: mid) = some s') : s₁.shared.next ≤ s'.shared.next := by
    rw [run_append, hr, Option.bind_some, run_cons, hs, Option.bind_some] at hr'
    exact run_next_le hr'
  rcases List.append_eq_append_iff.mp (has.symm.trans has') with ⟨mid, hpre, hmid⟩ | ⟨mid, hpre, hmid⟩
  · cases mid with
    | nil => exact ⟨(hpre.trans (List.append_nil _)).symm, (List.cons.inj hmid).1⟩
    | cons b mid =>
      obtain ⟨rfl, -⟩ := List.cons.inj hmid
      have hle := hlater hr hs (hpre ▸ hr')
      exact absurd (Nat.le_antisymm (hle.trans_eq hn.symm) (step_next_le hs)) ho
  · cases mid with
    | nil => exact ⟨hpre.trans (List.append_nil _), (List.cons.inj hmid).1.symm⟩
    | cons b mid =>
      obtain ⟨rfl, -⟩ := List.cons.inj hmid
      have hle := hlater hr' hs' (hpre ▸ hr)
      exact absurd (Nat.le_antisymm (hle.trans_eq hn) (step_next_le hs')) ho'

theorem along_opened (as : List (Action Tid)) : Along (step inst) (Keeps inst (Opened inst as)) {} as := by
  intro pre a post s has hr s₁ hs ho
  constructor
  · rintro ⟨pre', a', post', s', s₁', has', hr', hs', hn', ho', hv⟩
    obtain ⟨rfl, rfl⟩ := opened_once has has' hr hr' hs hs' ho (hn' ▸ ho') hn'.symm
    obtain rfl : s = s' := Option.some.inj (hr.symm.trans hr')
    exact hv
  · intro hv
    exact ⟨pre, a, post, s, s₁, has, hr, hs, rfl, ho, hv⟩

def HeldOrClosed (t : Tid) (c : Conn) (s : State Tid) : Prop :=
  c < s.shared.next ∧ (((s.thread t).OffPool ∧ c ∈ (s.thread t).owned) ∨ (s.shared.conn c).closed = true)

theorem HeldOrClosed.step (h : HeldOrClosed t c s) {a : Action Tid} (hs : step inst s a = some s') :
    HeldOrClosed t c s' := by
  refine ⟨Nat.lt_of_lt_of_le h.1 (step_next_le hs), ?_⟩
  cases a with
  | closeAllPools =>
    obtain rfl := step_closeAllPools hs
    rcases h.2 with ⟨hoff, hc⟩ | hc
    · refine .inl ?_
      show (s.thread t).notify.OffPool ∧ c ∈ (s.thread t).notify.owned
      rw [hoff.notify_eq]
      exact ⟨hoff, hc⟩
    · exact .inr (Shared.closeAll_closed hc)
  | move u m =>
    obtain ⟨o, hm, rfl⟩ := step_move hs
    rcases h.2 with ⟨hoff, hc⟩ | hc
    · by_cases hu : t = u
      · subst hu
        rw [after_thread_self]
        exact hm.offPool_or_closed hoff hc
      · exact .inl (Thread.keeps (p := fun th ↦ th.OffPool ∧ c ∈ th.owned) (fun _ h ↦ h.1.notify_eq.symm ▸ h)
          (after_thread_of_ne hu) ⟨hoff, hc⟩)
    · exact .inr (hm.closed h.1 hc)

omit [DecidableEq Tid] [Fintype Tid] in
theorem erased_init : Erased kept ({} : State Tid) {} where
  shared := ⟨rfl, (Nat.count_zero kept).symm, fun c hc ↦ absurd hc (Nat.not_lt_zero c),
    fun c hc ↦ absurd hc (by simp)⟩
  idle _ _ := rfl
  thread _ _ := rfl
  owned _ _ c hc := absurd hc (Multiset.notMem_zero c)
  offPool _ ho := absurd ho Bool.false_ne_true

theorem run_withoutOverrides [DecidablePred (Opened inst as)] {pre post : List (Action Tid)} (has : as = pre ++ post)
    (hr : run (step inst) {} pre = some s) :
    ∃ s', run (step inst) {} (withoutOverrides inst {} pre) = some s' ∧ Erased (Opened inst as) s s' := by
  have hkeeps : Along (step inst) (Keeps inst (Opened inst as)) {} (pre ++ post) := by
    intro pre' a post' s' has' hr'
    exact along_opened as pre' a post' s' (has.trans has') hr'
  exact run_erase (fun _ _ _ _ h hk hv hs ↦ h.step_hidden hk hv hs) (fun _ _ _ _ h hk hv hs ↦ h.step_visible hk hv hs)
    erased_init hkeeps.of_append hr

theorem heldOrClosed_connect (hoff : (s.thread t).OffPool) (hs : step inst s (.move t (.connect true)) = some s') :
    s'.shared.next = s.shared.next + 1 ∧ HeldOrClosed t s.shared.next s' := by
  obtain ⟨o, hm, rfl⟩ := step_move hs
  rw [HeldOrClosed, after_thread_self]
  cases hth : s.thread t with
  | idle =>
    rw [hth] at hm
    cases hm
  | active call phase =>
    rw [hth] at hm hoff
    cases hm with
    | connectPooled => exact hoff.elim
    | connectUnpooled => exact ⟨rfl, Nat.lt_succ_self _, .inl ⟨trivial, Multiset.mem_singleton_self _⟩⟩

/-- Without its override operations a run goes through the same pools, up to the names of
the connections; and a connection that one of them opens is never in the pool, and held by
the operation until it is closed. -/
theorem overrides_never_touch_pool (inst : SqlInstanceConfig) (as : List (Action Tid)) :
    (∃ (f : Conn → Conn) (kept : Set Conn), Set.InjOn f kept ∧ ∀ pre post s, as = pre ++ post →
      run (step inst) {} pre = some s → (∀ c, c ∈ s.shared.pool.available ∨ c ∈ s.shared.pool.inUse → c ∈ kept) ∧
      ∃ s', run (step inst) {} (withoutOverrides inst {} pre) = some s' ∧ s'.shared.pool = s.shared.pool.rename f) ∧
    (∀ pre t post s₁ s, as = pre ++ .move t (.connect true) :: post → run (step inst) {} pre = some s₁ →
      (s₁.thread t).overriding = true → run (step inst) {} as = some s →
      s₁.shared.next ∉ s.shared.pool.available ∧ s₁.shared.next ∉ s.shared.pool.inUse ∧
      (s₁.shared.next ∈ (s.thread t).owned ∨ (s.shared.conn s₁.shared.next).closed = true)) := by
  classical
  constructor
  · refine ⟨Nat.count (Opened inst as), {c | Opened inst as c}, fun c hc d hd ↦ inj_count hc hd, fun pre post s has hr ↦ ?_⟩
    obtain ⟨s', hr', he⟩ := run_withoutOverrides has hr
    exact ⟨fun c hc ↦ (he.shared.pooled c hc).2, s', hr', he.shared.pool⟩
  · intro pre t post s₁ s has hr₁ ho hr
    obtain ⟨s', -, he⟩ := run_withoutOverrides (List.append_nil as).symm hr
    obtain ⟨s₁', -, he₁⟩ := run_withoutOverrides has hr₁
    rw [has, run_append, hr₁, Option.bind_some, run_cons] at hr
    obtain ⟨s₂, hs, hr⟩ := Option.bind_eq_some_iff.mp hr
    obtain ⟨hnext, hheld⟩ := heldOrClosed_connect (he₁.offPool t ho).1 hs
    have hnot : ¬ Opened inst as s₁.shared.next := by
      intro hk
      have hv := (along_opened as pre _ post s₁ has hr₁ s₂ hs (hnext ▸ Nat.succ_ne_self _)).mp hk
      exact absurd (hv.symm.trans ho) Bool.false_ne_true
    have hend : HeldOrClosed t s₁.shared.next s := run_invariant (fun _ _ _ hi hs ↦ hi.step hs) hheld hr
    exact ⟨fun hc ↦ hnot (he.shared.pooled _ (.inl hc)).2, fun hc ↦ hnot (he.shared.pooled _ (.inr hc)).2,
      hend.2.imp_left And.right⟩

end System

end McpSqlServer.Pool

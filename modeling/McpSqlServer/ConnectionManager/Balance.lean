import McpSqlServer.ConnectionManager.Operations
import Mathlib.Algebra.Order.Ring.Rat

namespace McpSqlServer.ConnectionManager

open Library Library.Text Library.Python
open Pool (Conn PoolState)

variable {α β : Type} {S : Site} {w w' w₀ : World} {instanceId : Str} {c : Conn} {P Q : World → Prop}
  {E : Exc → World → Prop} {m : ManagerM α}

section Calls

theorem ask_spec {d : DriverCall} (h : ∀ w, P w → Q (w.record (.call d))) :
    Triple P (ask S d) (fun _ ↦ Q) (fun e w ↦ e.caught = true ∧ Q w) := by
  refine Triple.modify_bind h ?_
  refine Triple.bind (R := fun log w ↦ OnlyExceptions (S.answer log) ∧ Q w)
    (Triple.read (fun w hw ↦ ⟨S.answer_onlyExceptions w.log, hw⟩)) (fun log ↦ Triple.extract (fun hlog ↦ ?_))
  exact Triple.ofExcept (fun _ _ _ hw ↦ hw) (fun e _ he hw ↦ ⟨hlog e he, hw⟩)

theorem succeeds_spec (hm : Triple P m (fun _ ↦ Q) (fun e w ↦ e.caught = true ∧ Q w)) :
    Triple P (succeeds m) (fun _ ↦ Q) E := by
  refine Triple.catching (F := fun e w ↦ e.caught = true ∧ Q w) ?_ (fun e ↦ Triple.extract (fun he ↦ ?_))
  · exact Triple.bind hm (fun _ ↦ Triple.pure (fun _ hw ↦ hw))
  · rw [if_pos he]
    exact Triple.pure (fun _ hw ↦ hw)

theorem suppress_spec (hm : Triple P m (fun _ ↦ Q) (fun e w ↦ e.caught = true ∧ Q w)) :
    Triple P (suppress m) (fun _ ↦ Q) E :=
  Triple.bind (succeeds_spec hm) (fun _ ↦ Triple.pure (fun _ hw ↦ hw))

def OnlyCalled (w w' : World) : Prop := ∃ calls : List DriverCall, w' = { w with log := w.log ++ calls.map .call }

theorem OnlyCalled.refl (w : World) : OnlyCalled w w := ⟨[], by rw [List.map_nil, List.append_nil]⟩

theorem OnlyCalled.record (h : OnlyCalled w w') (d : DriverCall) : OnlyCalled w (w'.record (.call d)) := by
  obtain ⟨calls, rfl⟩ := h
  refine ⟨calls ++ [d], ?_⟩
  simp only [World.record, List.map_append, List.map_cons, List.map_nil, List.append_assoc]

/-- The computation calls the driver and does nothing else to the manager, and it raises
nothing but `Exception`s. -/
def DrivesOnly (m : ManagerM α) : Prop :=
  ∀ w₀, Triple (OnlyCalled w₀) m (fun _ ↦ OnlyCalled w₀) (fun e w ↦ e.caught = true ∧ OnlyCalled w₀ w)

theorem DrivesOnly.keeps (hm : DrivesOnly m) (hP : ∀ w w', P w → OnlyCalled w w' → P w') :
    Triple P m (fun _ ↦ P) (fun e w ↦ e.caught = true ∧ P w) := by
  intro w hw
  exact (hm w w (.refl w)).mono (fun _ w' h ↦ hP w w' hw h) (fun _ w' h ↦ ⟨h.1, hP w w' hw h.2⟩)

def DriverCall.conn : DriverCall → Option Conn
  | .connect _ _ => none
  | .cursor c | .execute c _ _ | .description c | .fetchone c | .fetchmany c _ | .fetchall c | .rowcount c
  | .commit c | .rollback c | .setAutocommit c _ | .close c => some c

def DrivesOn (c : Conn) (m : ManagerM α) : Prop :=
  ∀ P : World → Prop, (∀ w d, d.conn = some c → P w → P (w.record (.call d))) →
    Triple P m (fun _ ↦ P) (fun e w ↦ e.caught = true ∧ P w)

namespace DrivesOn

theorem drivesOnly (hm : DrivesOn c m) : DrivesOnly m := fun w₀ ↦ hm (OnlyCalled w₀) (fun _ d _ h ↦ h.record d)

theorem pure (a : α) : DrivesOn c (pure a) := fun _ _ ↦ Triple.pure (fun _ h ↦ h)

theorem bind {n : ManagerM β} {f : β → ManagerM α} (hn : DrivesOn c n) (hf : ∀ b, DrivesOn c (f b)) :
    DrivesOn c (n >>= f) := fun P hP ↦ Triple.bind (hn P hP) (fun b ↦ hf b P hP)

theorem ofExcept {r : Except Exc α} (hr : OnlyExceptions r) : DrivesOn c (Act.ofExcept r) :=
  fun _ _ ↦ Triple.ofExcept (fun _ _ _ h ↦ h) (fun e _ he h ↦ ⟨hr e he, h⟩)

theorem ask {d : DriverCall} (hd : d.conn = some c) : DrivesOn c (ask S d) := fun _ hP ↦ ask_spec (fun w h ↦ hP w d hd h)

theorem ensuring {cleanup : ManagerM Unit} (hm : DrivesOn c m) (hc : DrivesOn c cleanup) :
    DrivesOn c (Act.ensuring m cleanup) := by
  refine fun P hP ↦ Triple.ensuring (hm P hP) (fun _ ↦ hc P hP) (fun e ↦ Triple.extract (fun he ↦ ?_))
  exact (hc P hP).mono (fun _ h ↦ h) (fun _ _ h ↦ ⟨he, h⟩) (fun _ _ h ↦ h)

end DrivesOn

theorem probe_drivesOn (c : Conn) : DrivesOn c (do
    let _ ← ask S (.cursor c)
    let _ ← ask S (.execute c "SELECT 1".toList [])
    ask S (.fetchone c)) := .bind (.ask rfl) (fun _ ↦ .bind (.ask rfl) (fun _ ↦ .ask rfl))

theorem isConnectionUsable_spec (hP : ∀ w w', P w → OnlyCalled w w' → P w') :
    Triple P (isConnectionUsable S c) (fun _ ↦ P) E :=
  succeeds_spec ((probe_drivesOn c).drivesOnly.keeps hP)

variable [UnicodeData]

theorem columnNames_drivesOn (c : Conn) : DrivesOn c (columnNames S c) :=
  .bind (.ask rfl) (fun _ ↦ .ofExcept (normalizeColumnNames_onlyExceptions _))

theorem executeReadOp_drivesOn (sql : Str) (maxRows : ℤ) (c : Conn) : DrivesOn c (executeReadOp S sql maxRows c) := by
  refine .bind (.ask rfl) (fun _ ↦ .bind (.ask rfl) (fun _ ↦ ?_))
  exact .bind (columnNames_drivesOn c) (fun _ ↦ .bind (.ask rfl) (fun _ ↦ .pure _))

theorem executeReadInDatabaseOp_drivesOn (sql : Str) (maxRows : ℤ) (c : Conn) :
    DrivesOn c (executeReadInDatabaseOp S sql maxRows c) := by
  refine .bind (.ask rfl) (fun _ ↦ .bind (.ask rfl) (fun _ ↦ ?_))
  exact .bind (columnNames_drivesOn c) (fun _ ↦ .bind (.ask rfl) (fun _ ↦ .pure _))

theorem fetchSingleRowOp_drivesOn (sql : Str) (c : Conn) : DrivesOn c (fetchSingleRowOp S sql c) := by
  refine .bind (.ask rfl) (fun _ ↦ .bind (.ask rfl) (fun _ ↦ ?_))
  exact .bind (.ask rfl) (fun _ ↦ .bind (columnNames_drivesOn c) (fun _ ↦ .pure _))

theorem listObjectsOp_drivesOn (maxRows : ℤ) (typeCode : Str) (c : Conn) :
    DrivesOn c (listObjectsOp S maxRows typeCode c) := by
  refine .bind (.ask rfl) (fun _ ↦ .bind (.ask rfl) (fun _ ↦ ?_))
  exact .bind (columnNames_drivesOn c) (fun _ ↦ .bind (.ask rfl) (fun _ ↦ .pure _))

theorem explainQueryOp_drivesOn (sql : Str) (c : Conn) : DrivesOn c (explainQueryOp S sql c) := by
  refine .bind (.ask rfl) (fun _ ↦ .bind (.ask rfl) (fun _ ↦ .ensuring ?_ (.bind (.ask rfl) (fun _ ↦ .pure ()))))
  refine .bind (.ask rfl) (fun _ ↦ ?_)
  exact .bind (columnNames_drivesOn c) (fun _ ↦ .bind (.ask rfl) (fun _ ↦ .pure _))

theorem executeProcOp_begins (procName : Str) (params : List Value) (c : Conn) :
    ∃ rest : Reply → ManagerM Value, executeProcOp S procName params c = ask S (.cursor c) >>= rest ∧
      ∀ r, DrivesOn c (rest r) := by
  refine ⟨_, rfl, fun _ ↦ .bind (.ask rfl) (fun _ ↦ .bind (.ask rfl) (fun described ↦ .bind ?_ (fun _ ↦ ?_)))⟩
  · split
    · exact .bind (columnNames_drivesOn c) (fun _ ↦ .bind (.ask rfl) (fun _ ↦ .pure _))
    · exact .pure _
  · exact .bind (.ask rfl) (fun _ ↦ .bind (.ask rfl) (fun _ ↦ .pure _))

theorem executeProcOp_drivesOn (procName : Str) (params : List Value) (c : Conn) :
    DrivesOn c (executeProcOp S procName params c) := by
  obtain ⟨rest, heq, hrest⟩ := executeProcOp_begins (S := S) procName params c
  rw [heq]
  exact .bind (.ask rfl) hrest

omit [UnicodeData] in
theorem healthcheckOp_drivesOn (c : Conn) : DrivesOn c (healthcheckOp S c) :=
  .bind (.ask rfl) (fun _ ↦ .bind (.ask rfl) (fun _ ↦ .bind (.ask rfl) (fun _ ↦ .pure ())))

end Calls

section Pools

variable {next : Conn} {pool : PoolState}

def held (pool : PoolState) : Multiset Conn := pool.available + pool.inUse

/-- No connection is twice in the lists of a pool, and none is there before it is opened. -/
structure Tidy (next : Conn) (pool : PoolState) : Prop where
  nodup : (held pool).Nodup
  lt_next : ∀ c ∈ held pool, c < next

theorem Tidy.of_le {pool' : PoolState} {next' : Conn} (h : Tidy next pool) (hl : held pool' ≤ held pool)
    (hn : next ≤ next') : Tidy next' pool' where
  nodup := Multiset.nodup_of_le hl h.nodup
  lt_next c hc := Nat.lt_of_lt_of_le (h.lt_next c (Multiset.mem_of_le hl hc)) hn

theorem held_reuse {rest : List Conn} (ha : pool.available = rest ++ [c]) (reused : ℕ) :
    held { pool with available := rest, inUse := pool.inUse ++ [c], reusedTotal := reused } = held pool := by
  simp only [held, ha, ← Multiset.coe_add, Multiset.coe_singleton]
  ac_rfl

theorem held_discardStale_le (hc : c ∈ pool.inUse) : held (pool.discardStale c) ≤ held pool := by
  have hu := pool.coe_inUse_removeInUse c hc
  refine add_le_add le_rfl ?_
  rw [← hu]
  exact Multiset.le_add_right _ _

theorem notMem_held_discardStale (h : (held pool).Nodup) (hc : c ∈ pool.inUse) : c ∉ held (pool.discardStale c) := by
  have hu := pool.coe_inUse_removeInUse c hc
  have hheld : held pool = held (pool.discardStale c) + {c} := by
    rw [held, ← hu, ← add_assoc]
    rfl
  rw [hheld] at h
  exact fun hm ↦ Multiset.disjoint_left.mp (Multiset.nodup_add.mp h).2.2 hm (Multiset.mem_singleton_self c)

theorem release_spec (hc : c ∈ pool.inUse) (cap : ℕ) (shouldDiscard autocommitOk : Bool) :
    held (pool.release cap c shouldDiscard autocommitOk).2 ≤ held pool ∧
      ((pool.release cap c shouldDiscard autocommitOk).2.inUse : Multiset Conn) + {c} = pool.inUse := by
  have hu := pool.coe_inUse_removeInUse c hc
  rcases pool.release_cases cap c shouldDiscard autocommitOk with ⟨-, -, -, he⟩ | ⟨-, he⟩
  · rw [he]
    refine ⟨le_of_eq ?_, hu⟩
    simp only [held, ← Multiset.coe_add, Multiset.coe_singleton, ← hu]
    ac_rfl
  · rw [he]
    exact ⟨held_discardStale_le hc, hu⟩

end Pools

def Retired (w : World) (instanceId : Str) (c : Conn) : Prop := c < w.next ∧ c ∉ held (w.pools instanceId)

/-- Every pooled connection on which a block failed was rolled back and closed right then
and is not in the pool any more. -/
def Disposed (w : World) (instanceId : Str) (events : List Event) : Prop :=
  ∀ c e, .left c true (some e) ∈ events →
    [.left c true (some e), .call (.rollback c), .call (.close c)] <:+: events ∧ Retired w instanceId c

/-- In comparison with an earlier state, `in_use` has grown by `borrowed` and nothing else
is out of order. -/
structure Balanced (w₀ : World) (instanceId : Str) (borrowed : Multiset Conn) (w : World) : Prop where
  tidy : Tidy w.next (w.pools instanceId)
  others : ∀ i, i ≠ instanceId → w.pools i = w₀.pools i
  inUse : ((w.pools instanceId).inUse : Multiset Conn) = (w₀.pools instanceId).inUse + borrowed
  disposed : ∃ events, w.log = w₀.log ++ events ∧ Disposed w instanceId events

namespace Balanced

variable {borrowed : Multiset Conn}

theorem init (h : Tidy w.next (w.pools instanceId)) : Balanced w instanceId 0 w where
  tidy := h
  others _ _ := rfl
  inUse := (add_zero _).symm
  disposed := ⟨[], (List.append_nil _).symm, fun _ _ h ↦ absurd h List.not_mem_nil⟩

theorem log (h : Balanced w₀ instanceId borrowed w) {new : List Event} (hn : ∀ c e, .left c true (some e) ∉ new) :
    Balanced w₀ instanceId borrowed { w with log := w.log ++ new } where
  tidy := h.tidy
  others := h.others
  inUse := h.inUse
  disposed := by
    obtain ⟨events, he, hd⟩ := h.disposed
    refine ⟨events ++ new, by rw [he, List.append_assoc], fun c e hm ↦ ?_⟩
    obtain ⟨hi, hr⟩ := hd c e ((List.mem_append.mp hm).resolve_right (hn c e))
    exact ⟨List.infix_append_of_infix_left hi, hr⟩

theorem record (h : Balanced w₀ instanceId borrowed w) {e : Event} (he : ∀ c f, e ≠ .left c true (some f)) :
    Balanced w₀ instanceId borrowed (w.record e) :=
  h.log (fun c f hm ↦ he c f (List.mem_singleton.mp hm).symm)

theorem onlyCalled (h : Balanced w₀ instanceId borrowed w) (hc : OnlyCalled w w') :
    Balanced w₀ instanceId borrowed w' := by
  obtain ⟨calls, rfl⟩ := hc
  refine h.log (fun c e hm ↦ ?_)
  obtain ⟨d, -, hd⟩ := List.mem_map.mp hm
  cases hd

theorem setPool (h : Balanced w₀ instanceId borrowed w) {pool : PoolState} {borrowed' : Multiset Conn}
    (hl : held pool ≤ held (w.pools instanceId))
    (hu : (pool.inUse : Multiset Conn) = (w₀.pools instanceId).inUse + borrowed') :
    Balanced w₀ instanceId borrowed' (w.setPool instanceId pool) := by
  refine ⟨?_, fun i hi ↦ (Function.update_of_ne hi _ _).trans (h.others i hi), ?_, ?_⟩
  · rw [World.setPool_self]
    exact h.tidy.of_le hl le_rfl
  · rw [World.setPool_self, hu]
  · obtain ⟨events, he, hd⟩ := h.disposed
    refine ⟨events, he, fun c e hm ↦ ⟨(hd c e hm).1, (hd c e hm).2.1, ?_⟩⟩
    rw [World.setPool_self]
    exact fun hc ↦ (hd c e hm).2.2 (Multiset.mem_of_le hl hc)

theorem opened (h : Balanced w₀ instanceId borrowed w) :
    Balanced w₀ instanceId borrowed { w with next := w.next + 1 } := by
  refine ⟨h.tidy.of_le le_rfl (Nat.le_succ _), h.others, h.inUse, ?_⟩
  obtain ⟨events, he, hd⟩ := h.disposed
  exact ⟨events, he, fun c e hm ↦ ⟨(hd c e hm).1, Nat.lt_succ_of_lt (hd c e hm).2.1, (hd c e hm).2.2⟩⟩

theorem registerCreated (h : Balanced w₀ instanceId 0 w) :
    Balanced w₀ instanceId {w.next}
      ({ w with next := w.next + 1 }.setPool instanceId ((w.pools instanceId).registerCreated w.next)) := by
  have hheld : held ((w.pools instanceId).registerCreated w.next) = held (w.pools instanceId) + {w.next} := by
    simp only [held, PoolState.registerCreated, ← Multiset.coe_add, Multiset.coe_singleton, add_assoc]
  have hnew : w.next ∉ held (w.pools instanceId) := fun hm ↦ Nat.lt_irrefl _ (h.tidy.lt_next _ hm)
  refine ⟨⟨?_, ?_⟩, fun i hi ↦ (Function.update_of_ne hi _ _).trans (h.others i hi), ?_, ?_⟩
  · rw [World.setPool_self, hheld]
    exact Multiset.nodup_add.mpr ⟨h.tidy.nodup, Multiset.nodup_singleton _, Multiset.disjoint_singleton.mpr hnew⟩
  · intro c hc
    rw [World.setPool_self, hheld, Multiset.mem_add, Multiset.mem_singleton] at hc
    rcases hc with hc | rfl
    · exact Nat.lt_succ_of_lt (h.tidy.lt_next c hc)
    · exact Nat.lt_succ_self _
  · rw [World.setPool_self, PoolState.registerCreated, ← Multiset.coe_add, Multiset.coe_singleton, h.inUse, add_zero]
  · obtain ⟨events, he, hd⟩ := h.disposed
    refine ⟨events, he, fun c e hm ↦ ⟨(hd c e hm).1, Nat.lt_succ_of_lt (hd c e hm).2.1, ?_⟩⟩
    rw [World.setPool_self, hheld, Multiset.mem_add, Multiset.mem_singleton, not_or]
    exact ⟨(hd c e hm).2.2, Nat.ne_of_lt (hd c e hm).2.1⟩

theorem mem_inUse (h : Balanced w₀ instanceId {c} w) : c ∈ (w.pools instanceId).inUse := by
  rw [← Multiset.mem_coe, h.inUse]
  exact Multiset.mem_add.mpr (.inr (Multiset.mem_singleton_self c))

theorem giveBack (h : Balanced w₀ instanceId {c} w) {pool : PoolState}
    (hl : held pool ≤ held (w.pools instanceId))
    (hu : (pool.inUse : Multiset Conn) + {c} = (w.pools instanceId).inUse) :
    Balanced w₀ instanceId 0 (w.setPool instanceId pool) :=
  h.setPool hl ((add_right_cancel (hu.trans h.inUse)).trans (add_zero _).symm)

theorem discardStale (h : Balanced w₀ instanceId {c} w) :
    Balanced w₀ instanceId 0 (w.setPool instanceId ((w.pools instanceId).discardStale c)) :=
  h.giveBack (held_discardStale_le h.mem_inUse) ((w.pools instanceId).coe_inUse_removeInUse c h.mem_inUse)

theorem disposeBorrowed (h : Balanced w₀ instanceId {c} w) (e : Exc) :
    Balanced w₀ instanceId 0
      ((((w.record (.left c true (some e))).record (.call (.rollback c))).setPool instanceId
        ((w.pools instanceId).discardStale c)).record (.call (.close c))) := by
  have hd := h.discardStale
  have hret : Retired (w.setPool instanceId ((w.pools instanceId).discardStale c)) instanceId c := by
    refine ⟨h.tidy.lt_next c (Multiset.mem_add.mpr (.inr (Multiset.mem_coe.mpr h.mem_inUse))), ?_⟩
    rw [World.setPool_self]
    exact notMem_held_discardStale h.tidy.nodup h.mem_inUse
  refine ⟨hd.tidy, hd.others, hd.inUse, ?_⟩
  obtain ⟨events, he, hdis⟩ := hd.disposed
  refine ⟨events ++ [.left c true (some e), .call (.rollback c), .call (.close c)], ?_, fun d f hm ↦ ?_⟩
  · have hlog : w.log = w₀.log ++ events := he
    simp only [World.record, World.setPool, hlog, List.append_assoc, List.cons_append, List.nil_append]
  · rcases List.mem_append.mp hm with hm | hm
    · exact ⟨List.infix_append_of_infix_left (hdis d f hm).1, (hdis d f hm).2⟩
    · simp only [List.mem_cons, Event.left.injEq, Option.some.injEq, true_and, reduceCtorEq, List.not_mem_nil,
        or_false] at hm
      obtain ⟨rfl, rfl⟩ := hm
      exact ⟨List.infix_append_right, hret⟩

end Balanced

theorem ask_invariant {d : DriverCall} (h : ∀ w, P w → P (w.record (.call d))) : Invariant P (ask S d) :=
  (ask_spec h).mono (fun _ hw ↦ hw) (fun _ _ hw ↦ hw) (fun _ _ hw ↦ hw.2)

theorem connectNew_spec {inst : SqlInstanceConfig} {databaseOverride : Option Str}
    (h : ∀ w d, P w → P (w.record (.call d))) :
    Triple P (connectNew S inst databaseOverride)
      (fun c w ↦ ∃ w₁, P w₁ ∧ c = w₁.next ∧ w = { w₁ with next := w₁.next + 1 }) (fun _ ↦ P) := by
  refine Triple.bind (ask_invariant (fun w hw ↦ h w _ hw)) (fun _ ↦ ?_)
  refine Triple.bind (R := fun c w ↦ P w ∧ c = w.next) (Triple.read (fun w hw ↦ ⟨hw, rfl⟩)) (fun c ↦ ?_)
  refine Triple.bind (Triple.modify (fun w hw ↦ ?_)) (fun _ ↦ Triple.pure (fun _ hw ↦ hw))
  exact ⟨w, hw.1, hw.2, by rw [hw.2]⟩

section Paths

variable {inst : SqlInstanceConfig} {databaseOverride : Option Str}

theorem lookup_id (h : S.lookup instanceId = some inst) : inst.id = instanceId := by
  simpa only [decide_eq_true_eq] using List.find?_some h

theorem acquireLoop_balanced (deadline : ℚ) (rounds : ℕ) :
    Triple (Balanced w₀ inst.id 0) (acquireLoop S inst deadline rounds) (fun c ↦ Balanced w₀ inst.id {c})
      (fun _ ↦ Balanced w₀ inst.id 0) := by
  induction rounds with
  | zero => exact Triple.raise (fun _ h ↦ h)
  | succ rounds ih =>
    refine Triple.read_bind (fun v h ↦ ?_)
    dsimp only [id]
    rcases (v.pools inst.id).acquire_cases inst.poolCap with ⟨rest, c, ha, he⟩ | ⟨-, -, he⟩ | ⟨-, -, he⟩
    · simp only [he]
      have hreused : Balanced w₀ inst.id {c} (v.setPool inst.id
          { v.pools inst.id with available := rest, inUse := (v.pools inst.id).inUse ++ [c],
                                 reusedTotal := (v.pools inst.id).reusedTotal + 1 }) := by
        refine h.setPool (le_of_eq (held_reuse ha _)) ?_
        rw [← Multiset.coe_add, Multiset.coe_singleton, h.inUse, add_zero]
      refine Triple.modify_bind (I := Balanced w₀ inst.id {c}) (fun w hw ↦ hw ▸ hreused) ?_
      refine Triple.bind (isConnectionUsable_spec (fun _ _ h hc ↦ h.onlyCalled hc)) (fun usable ↦ ?_)
      split
      · exact Triple.pure (fun _ h ↦ h)
      · refine Triple.modify_bind (I := Balanced w₀ inst.id 0) (fun _ h ↦ h.discardStale) ?_
        exact Triple.bind (suppress_spec (ask_spec (fun _ h ↦ h.record (by simp)))) (fun _ ↦ ih)
    · simp only [he]
      rintro _ rfl
      refine Triple.bind (connectNew_spec (fun _ _ h ↦ h.record (by simp))) (fun c ↦ ?_) _ h
      refine Triple.bind (R := fun _ ↦ Balanced w₀ inst.id {c}) (Triple.modify ?_) (fun _ ↦ Triple.pure (fun _ h ↦ h))
      rintro _ ⟨w₁, h₁, rfl, rfl⟩
      exact h₁.registerCreated
    · simp only [he]
      rintro _ rfl
      split
      · exact h
      · exact Triple.modify_bind (fun _ h ↦ h.record (by simp)) ih _ h

theorem acquireLoop_late {deadline : ℚ} (he : (w.pools inst.id).acquire inst.poolCap = (.full, w.pools inst.id))
    (hd : deadline ≤ S.monotonic w.log) (n : ℕ) :
    acquireLoop S inst deadline (n + 1) w = (.error (acquireTimeout inst), w) := by
  have hlate : deadline - S.monotonic w.log ≤ 0 := sub_nonpos.mpr hd
  simp only [acquireLoop, bind, Act.read, id, he]
  exact congrFun (if_pos hlate) w

/-- The rounds that `_acquire_connection` is given are as good as any larger number. -/
theorem acquireLoop_rounds {deadline : ℚ} {rounds : ℕ} (h : (w.pools inst.id).available.length + 2 ≤ rounds) :
    acquireLoop S inst deadline (rounds + 1) w = acquireLoop S inst deadline rounds w := by
  induction rounds generalizing w with
  | zero => exact absurd h (by omega)
  | succ n ih =>
    refine Triple.bind_congr (P := fun s ↦ s = w) (R := fun v s ↦ v = w ∧ s = w)
      (Triple.read (fun s hs ↦ ⟨hs, hs⟩)) (fun v s hv ↦ ?_) rfl
    obtain ⟨rfl, rfl⟩ := hv
    rcases (s.pools inst.id).acquire_cases inst.poolCap with ⟨rest, c, ha, he⟩ | ⟨-, -, he⟩ | ⟨-, -, he⟩
    · simp only [he]
      let shorter (w : World) : Prop := (w.pools inst.id).available = rest
      have hrest : rest.length + 2 ≤ n := by
        rw [ha, List.length_append, List.length_singleton] at h
        omega
      refine Triple.bind_congr (P := fun w ↦ w = s) (R := fun _ ↦ shorter)
        (Triple.modify (fun w _ ↦ ?_)) (fun _ w hw ↦ ?_) rfl
      · exact congrArg PoolState.available (World.setPool_self w inst.id _)
      refine Triple.bind_congr (P := shorter) (R := fun _ ↦ shorter)
        (isConnectionUsable_spec ?_) (fun usable w hw ↦ ?_) hw
      · rintro w _ hw ⟨calls, rfl⟩
        exact hw
      split
      · rfl
      · refine Triple.bind_congr (P := shorter) (R := fun _ ↦ shorter)
          (Triple.modify (fun w hw ↦ ?_)) (fun _ w hw ↦ ?_) hw
        · exact (congrArg PoolState.available (World.setPool_self w inst.id _)).trans hw
        refine Triple.bind_congr (P := shorter) (R := fun _ ↦ shorter)
          (suppress_spec (ask_spec (fun w hw ↦ hw))) (fun _ w hw ↦ ?_) hw
        have hw : (w.pools inst.id).available = rest := hw
        exact ih (hw ▸ hrest)
    · simp only [he]
    · simp only [he]
      split
      · rfl
      · obtain ⟨k, rfl⟩ : ∃ k, n = k + 1 := ⟨n - 1, by omega⟩
        -- nobody gives a connection back during the wait, so the deadline has passed after it
        have hd : deadline ≤ S.monotonic (s.log ++ [.waited (deadline - S.monotonic s.log)]) := by
          have hw := S.monotonic_waited s.log (deadline - S.monotonic s.log)
          rwa [add_sub_cancel] at hw
        have hlate := fun m ↦ acquireLoop_late (S := S) (w := s.record (.waited (deadline - S.monotonic s.log))) he hd m
        exact (hlate (k + 1)).trans (hlate k).symm

def borrowedBy (c : Conn) (pooled : Bool) : Multiset Conn := if pooled then {c} else 0

theorem acquireConnection_balanced :
    Triple (Balanced w₀ instanceId 0) (acquireConnection S instanceId databaseOverride)
      (fun r w ↦ (∃ inst, S.lookup instanceId = some inst) ∧ Balanced w₀ instanceId (borrowedBy r.1 r.2) w)
      (fun _ ↦ Balanced w₀ instanceId 0) := by
  unfold acquireConnection
  cases hl : S.lookup instanceId with
  | none => exact Triple.raise (fun _ h ↦ h)
  | some inst =>
    obtain rfl := lookup_id hl
    dsimp only
    split
    · refine Triple.read_bind (fun v h ↦ ?_)
      rintro _ rfl
      exact Triple.bind (acquireLoop_balanced _ _) (fun c ↦ Triple.pure (fun _ h ↦ ⟨⟨inst, rfl⟩, h⟩)) _ h
    · refine Triple.bind (connectNew_spec (fun _ _ h ↦ h.record (by simp))) (fun c ↦ Triple.pure ?_)
      rintro _ ⟨w₁, h₁, rfl, rfl⟩
      exact ⟨⟨inst, rfl⟩, h₁.opened⟩

theorem close_balanced : Triple (Balanced w₀ instanceId 0) (suppress (ask S (.close c)))
    (fun _ ↦ Balanced w₀ instanceId 0) E := suppress_spec (ask_spec (fun _ h ↦ h.record (by simp)))

theorem returnConnection_balanced (shouldDiscard autocommitOk : Bool) :
    Triple (Balanced w₀ inst.id {c}) (returnConnection S inst c shouldDiscard autocommitOk)
      (fun _ ↦ Balanced w₀ inst.id 0) E := by
  refine Triple.read_bind (fun w h ↦ ?_)
  refine Triple.modify_bind (I := Balanced w₀ inst.id 0) ?_ ?_
  · rintro _ rfl
    obtain ⟨hheld, hu⟩ := release_spec h.mem_inUse inst.poolCap shouldDiscard autocommitOk
    exact h.giveBack hheld hu
  · split
    · exact close_balanced
    · exact Triple.pure (fun _ h ↦ h)

theorem releaseConnection_balanced (hl : S.lookup instanceId = some inst) (pooled : Bool) :
    Triple (Balanced w₀ instanceId (borrowedBy c pooled)) (releaseConnection S instanceId c pooled false)
      (fun _ ↦ Balanced w₀ instanceId 0) E := by
  obtain rfl := lookup_id hl
  refine Triple.bind (R := fun _ ↦ Balanced w₀ inst.id (borrowedBy c pooled)) (Triple.pure (fun _ h ↦ h)) (fun _ ↦ ?_)
  cases pooled with
  | false => exact close_balanced
  | true =>
    simp only [if_true, hl]
    refine Triple.bind (isConnectionUsable_spec (fun _ _ h hc ↦ h.onlyCalled hc)) (fun usable ↦ ?_)
    refine Triple.bind (R := fun _ ↦ Balanced w₀ inst.id {c}) ?_ (fun ok ↦ returnConnection_balanced (!usable) ok)
    split
    · exact succeeds_spec (ask_spec (fun _ h ↦ h.record (by simp)))
    · exact Triple.pure (fun _ h ↦ h)

theorem releaseConnection_disposes (hl : S.lookup instanceId = some inst) (pooled : Bool) (e : Exc) :
    Triple (fun w ↦ ∃ w₁, Balanced w₀ instanceId (borrowedBy c pooled) w₁ ∧ w = w₁.record (.left c pooled (some e)))
      (releaseConnection S instanceId c pooled true) (fun _ ↦ Balanced w₀ instanceId 0) E := by
  obtain rfl := lookup_id hl
  cases pooled with
  | false =>
    refine Triple.bind (suppress_spec (ask_spec (Q := Balanced w₀ inst.id 0) ?_)) (fun _ ↦ close_balanced)
    rintro _ ⟨w₁, h₁, rfl⟩
    have hleft : Balanced w₀ inst.id 0 (w₁.record (.left c false (some e))) := h₁.record (by simp)
    exact hleft.record (by simp)
  | true =>
    let rolledBack (w : World) : Prop := ∃ w₁, Balanced w₀ inst.id {c} w₁ ∧
      w = (w₁.record (.left c true (some e))).record (.call (.rollback c))
    refine Triple.bind (suppress_spec (ask_spec (Q := rolledBack) ?_)) (fun _ ↦ ?_)
    · rintro _ ⟨w₁, h₁, rfl⟩
      exact ⟨w₁, h₁, rfl⟩
    simp only [if_true, hl]
    refine Triple.bind (R := fun usable w ↦ usable = false ∧ rolledBack w) (Triple.pure (fun _ h ↦ ⟨rfl, h⟩)) (fun usable ↦ ?_)
    refine Triple.extract (fun husable ↦ ?_)
    rw [husable, if_neg Bool.false_ne_true]
    refine Triple.bind (R := fun ok w ↦ ok = false ∧ rolledBack w) (Triple.pure (fun _ h ↦ ⟨rfl, h⟩)) (fun ok ↦ ?_)
    refine Triple.extract (fun hok ↦ ?_)
    subst hok
    refine Triple.read_bind (fun w hw ↦ ?_)
    obtain ⟨w₁, h₁, rfl⟩ := hw
    refine Triple.modify_bind (fun _ hw ↦ by rw [hw]) (suppress_spec (ask_spec ?_))
    rintro _ rfl
    exact h₁.disposeBorrowed e

theorem connect_balanced {block : Conn → ManagerM α} (hb : ∀ c, DrivesOn c (block c)) :
    Invariant (Balanced w₀ instanceId 0) (connect S instanceId databaseOverride block) := by
  refine Triple.bind acquireConnection_balanced (fun ⟨c, pooled⟩ ↦ Triple.extract (fun ⟨inst, hl⟩ ↦ ?_))
  refine Triple.modify_bind (I := Balanced w₀ instanceId (borrowedBy c pooled)) (fun _ h ↦ h.record (by simp)) ?_
  refine Triple.bind (R := fun _ ↦ Balanced w₀ instanceId (borrowedBy c pooled)) ?_ (fun a ↦ ?_)
  · refine Triple.catching ((hb c).drivesOnly.keeps (fun _ _ h hc ↦ h.onlyCalled hc)) (fun e ↦ Triple.extract (fun he ↦ ?_))
    refine Triple.modify_bind (I := fun w ↦ ∃ w₁, Balanced w₀ instanceId (borrowedBy c pooled) w₁ ∧
      w = w₁.record (.left c pooled (some e))) (fun w h ↦ ⟨w, h, rfl⟩) ?_
    rw [he]
    exact Triple.bind (releaseConnection_disposes hl pooled e) (fun _ ↦ Triple.raise (fun _ h ↦ h))
  · refine Triple.modify_bind (I := Balanced w₀ instanceId (borrowedBy c pooled)) (fun _ h ↦ h.record (by simp)) ?_
    exact Triple.bind (releaseConnection_balanced hl pooled) (fun _ ↦ Triple.pure (fun _ h ↦ h))

theorem setHealth_balanced (state : Str) (started : ℚ) (error : Value) :
    Invariant (Balanced w₀ instanceId 0) (setHealth S instanceId state started error) :=
  Invariant.modify (fun _ h ↦ ⟨h.tidy, h.others, h.inUse, h.disposed⟩)

variable [UnicodeData]

theorem readAttempts_balanced {operation : Conn → ManagerM Value} (ho : ∀ c, DrivesOn c (operation c)) (n : ℕ) :
    Invariant (Balanced w₀ instanceId 0) (readAttempts S instanceId databaseOverride operation n) := by
  induction n with
  | zero => exact Invariant.raise _
  | succ n ih =>
    have hrecord : ∀ {e : Event}, (∀ c f, e ≠ .left c true (some f)) →
        Invariant (Balanced w₀ instanceId 0) (record e) := fun he ↦ Invariant.modify (fun _ h ↦ h.record he)
    refine .catching (.bind (connect_balanced ho) (fun v ↦ .bind (hrecord (by simp)) (fun _ ↦ .pure v))) (fun e ↦ ?_)
    refine .bind (hrecord (by simp)) (fun _ ↦ ?_)
    split
    · exact .bind (hrecord (by simp)) (fun _ ↦ ih)
    · exact Invariant.raise e

theorem Operation.perform_balanced (op : Operation) :
    Invariant (Balanced w₀ instanceId 0) (op.perform S instanceId) := by
  cases op with
  | executeRead sql maxRows => exact readAttempts_balanced (executeReadOp_drivesOn sql maxRows) _
  | executeReadInDatabase name sql maxRows => exact readAttempts_balanced (executeReadInDatabaseOp_drivesOn sql maxRows) _
  | fetchSingleRowInDatabase name sql => exact readAttempts_balanced (fetchSingleRowOp_drivesOn sql) _
  | listObjects name objectType maxRows =>
    show Invariant _ (ConnectionManager.listObjects S instanceId name objectType maxRows)
    unfold ConnectionManager.listObjects
    split
    · exact readAttempts_balanced (listObjectsOp_drivesOn maxRows _) _
    · exact Invariant.raise _
  | explainQuery name sql => exact .bind (readAttempts_balanced (explainQueryOp_drivesOn sql) _) (fun _ ↦ .pure _)
  | executeProc procName params dbOverride => exact connect_balanced (executeProcOp_drivesOn procName params)
  | healthcheckInstance =>
    refine .bind (.read id) (fun v ↦ .bind (.catching ?_ (fun e ↦ ?_)) (fun _ ↦ .bind (.read id) (fun _ ↦ .pure _)))
    · exact .bind (connect_balanced healthcheckOp_drivesOn) (fun _ ↦ setHealth_balanced _ _ _)
    · split
      · exact setHealth_balanced _ _ _
      · exact Invariant.raise e

end Paths

end McpSqlServer.ConnectionManager

import McpSqlServer.ConnectionManager.Retirement
import McpSqlServer.Library.Lifecycle

namespace McpSqlServer.ConnectionManager

open Library Library.Text Library.Python
open Pool (Conn PoolState)

def Site.ids (S : Site) : Finset Str := ((S.config.filter SqlInstanceConfig.enabled).map SqlInstanceConfig.id).toFinset

def Event.isClose : Event → Bool
  | .call (.close _) => true
  | _ => false

def connUsage : Usage Event Conn := ⟨Event.conn, Event.isClose⟩

def noneLent : Str → List Conn := fun _ ↦ []

def lend (instanceId : Str) (c : Conn) : Str → List Conn := Function.update noneLent instanceId [c]

/-- Every connection opened so far is closed, free or in one pool, the pools have lent what is
said, and nothing was asked of a connection behind its `close`. -/
structure Tended (S : Site) (lent : Str → List Conn) (free : Multiset Conn) (w : World) : Prop where
  census : Census S.ids (fun i ↦ held (w.pools i)) free (connUsage.ended w.log) w.next
  lent : ∀ i, (w.pools i).inUse = lent i
  respects : connUsage.Respects w.log

/-- A connection that is not closed and that nobody else may use. -/
def Usable (lent : Str → List Conn) (free : Multiset Conn) (c : Conn) : Prop := c ∈ free ∨ ∃ i, c ∈ lent i

variable {α β : Type} {S : Site} {w : World} {instanceId : Str} {c : Conn} {E : Exc → World → Prop}
  {inst : SqlInstanceConfig} {databaseOverride : Option Str} {lent : Str → List Conn} {free free' : Multiset Conn}

theorem mem_ids (h : S.lookup instanceId = some inst) : instanceId ∈ S.ids := by
  have hmem := List.mem_of_find?_eq_some h
  rw [← lookup_id h, Site.ids, List.mem_toFinset]
  exact List.mem_map_of_mem (List.mem_reverse.mp hmem)

section Steps

namespace Tended

theorem initial (S : Site) : Tended S noneLent 0 {} where
  census := Census.initial S.ids
  lent _ := rfl
  respects := List.Pairwise.nil

theorem not_ended (h : Tended S lent free w) (hc : Usable lent free c) : c ∉ connUsage.ended w.log := by
  rcases hc with hc | ⟨i, hc⟩
  · exact h.census.not_ended_of_free hc
  · rw [← h.lent i] at hc
    exact h.census.not_ended_of_filed (mem_held_of_inUse hc)

theorem record (h : Tended S lent free w) {e : Event} (he : e.isClose = false)
    (hc : ∀ c ∈ e.conn, Usable lent free c) : Tended S lent free (w.record e) where
  census := by
    rw [World.record, Usage.ended_concat_of_not he]
    exact h.census
  lent := h.lent
  respects := Usage.respects_concat.mpr ⟨h.respects, fun c hm ↦ h.not_ended (hc c hm)⟩

theorem close (h : Tended S lent ({c} + free) w) : Tended S lent free (w.record (.call (.close c))) where
  census := by
    rw [World.record, Usage.ended_concat rfl rfl, ← Multiset.coe_add, Multiset.coe_singleton]
    exact h.census.ending
  lent := h.lent
  respects := by
    refine Usage.respects_concat.mpr ⟨h.respects, fun d hd ↦ ?_⟩
    obtain rfl := Option.some.inj hd
    exact h.not_ended (.inl (Multiset.mem_add.mpr (.inl (Multiset.mem_singleton_self c))))

theorem opening (h : Tended S lent free w) : Tended S lent ({w.next} + free) { w with next := w.next + 1 } :=
  ⟨h.census.opening, h.lent, h.respects⟩

theorem setPool (h : Tended S lent free w) (hi : instanceId ∈ S.ids) {pool : PoolState}
    (heq : held pool + free' = held (w.pools instanceId) + free) :
    Tended S (Function.update lent instanceId pool.inUse) free' (w.setPool instanceId pool) where
  census := by
    have hfiled : (fun i ↦ held ((w.setPool instanceId pool).pools i)) =
        Function.update (fun i ↦ held (w.pools i)) instanceId (held pool) :=
      Function.comp_update held w.pools instanceId pool
    rw [hfiled]
    exact h.census.filing hi heq
  lent i := by
    by_cases hii : i = instanceId
    · rw [hii, World.setPool_self, Function.update_self]
    · rw [World.setPool_of_ne hii, Function.update_of_ne hii, h.lent i]
  respects := h.respects

end Tended

end Steps

def Uses (c : Conn) (m : ManagerM α) : Prop :=
  ∀ P : World → Prop, (∀ w d, d.conn = some c → (Event.call d).isClose = false → P w → P (w.record (.call d))) →
    Triple P m (fun _ ↦ P) (fun e w ↦ e.caught = true ∧ P w)

namespace Uses

theorem pure (a : α) : Uses c (pure a) := fun _ _ ↦ Triple.pure (fun _ h ↦ h)

theorem bind {n : ManagerM β} {f : β → ManagerM α} (hn : Uses c n) (hf : ∀ b, Uses c (f b)) : Uses c (n >>= f) :=
  fun P hP ↦ Triple.bind (hn P hP) (fun b ↦ hf b P hP)

theorem ofExcept {r : Except Exc α} (hr : OnlyExceptions r) : Uses c (Act.ofExcept r) :=
  fun _ _ ↦ Triple.ofExcept (fun _ _ _ h ↦ h) (fun e _ he h ↦ ⟨hr e he, h⟩)

theorem ask {d : DriverCall} (hd : d.conn = some c) (hn : (Event.call d).isClose = false) : Uses c (ask S d) :=
  fun _ hP ↦ ask_spec (fun w h ↦ hP w d hd hn h)

theorem ensuring {m : ManagerM α} {cleanup : ManagerM Unit} (hm : Uses c m) (hc : Uses c cleanup) :
    Uses c (Act.ensuring m cleanup) := by
  refine fun P hP ↦ Triple.ensuring (hm P hP) (fun _ ↦ hc P hP) (fun e ↦ Triple.extract (fun he ↦ ?_))
  exact (hc P hP).mono (fun _ h ↦ h) (fun _ _ h ↦ ⟨he, h⟩) (fun _ _ h ↦ h)

theorem tended {m : ManagerM α} (hm : Uses c m) (hc : Usable lent free c) : Triple (Tended S lent free) m
    (fun _ ↦ Tended S lent free) (fun e w ↦ e.caught = true ∧ Tended S lent free w) :=
  hm _ (fun _ _ hd hn h ↦ h.record hn (fun _ hm ↦ Option.some.inj (hd.symm.trans hm) ▸ hc))

end Uses

section Operations

theorem probe_uses (c : Conn) : Uses c (do
    let _ ← ask S (.cursor c)
    let _ ← ask S (.execute c "SELECT 1".toList [])
    ask S (.fetchone c)) := .bind (.ask rfl rfl) (fun _ ↦ .bind (.ask rfl rfl) (fun _ ↦ .ask rfl rfl))

theorem healthcheckOp_uses (c : Conn) : Uses c (healthcheckOp S c) :=
  .bind (.ask rfl rfl) (fun _ ↦ .bind (.ask rfl rfl) (fun _ ↦ .bind (.ask rfl rfl) (fun _ ↦ .pure ())))

variable [UnicodeData]

theorem columnNames_uses (c : Conn) : Uses c (columnNames S c) :=
  .bind (.ask rfl rfl) (fun _ ↦ .ofExcept (normalizeColumnNames_onlyExceptions _))

theorem executeReadOp_uses (sql : Str) (maxRows : ℤ) (c : Conn) : Uses c (executeReadOp S sql maxRows c) := by
  refine .bind (.ask rfl rfl) (fun _ ↦ .bind (.ask rfl rfl) (fun _ ↦ ?_))
  exact .bind (columnNames_uses c) (fun _ ↦ .bind (.ask rfl rfl) (fun _ ↦ .pure _))

theorem executeReadInDatabaseOp_uses (sql : Str) (maxRows : ℤ) (c : Conn) :
    Uses c (executeReadInDatabaseOp S sql maxRows c) := by
  refine .bind (.ask rfl rfl) (fun _ ↦ .bind (.ask rfl rfl) (fun _ ↦ ?_))
  exact .bind (columnNames_uses c) (fun _ ↦ .bind (.ask rfl rfl) (fun _ ↦ .pure _))

theorem fetchSingleRowOp_uses (sql : Str) (c : Conn) : Uses c (fetchSingleRowOp S sql c) := by
  refine .bind (.ask rfl rfl) (fun _ ↦ .bind (.ask rfl rfl) (fun _ ↦ .bind (.ask rfl rfl) (fun _ ↦ ?_)))
  exact .bind (columnNames_uses c) (fun _ ↦ .pure _)

theorem listObjectsOp_uses (maxRows : ℤ) (typeCode : Str) (c : Conn) : Uses c (listObjectsOp S maxRows typeCode c) := by
  refine .bind (.ask rfl rfl) (fun _ ↦ .bind (.ask rfl rfl) (fun _ ↦ ?_))
  exact .bind (columnNames_uses c) (fun _ ↦ .bind (.ask rfl rfl) (fun _ ↦ .pure _))

theorem explainQueryOp_uses (sql : Str) (c : Conn) : Uses c (explainQueryOp S sql c) := by
  refine .bind (.ask rfl rfl) (fun _ ↦ .bind (.ask rfl rfl) (fun _ ↦ .ensuring ?_ ?_))
  · refine .bind (.ask rfl rfl) (fun _ ↦ .bind (columnNames_uses c) (fun _ ↦ ?_))
    exact .bind (.ask rfl rfl) (fun _ ↦ .pure _)
  · exact .bind (.ask rfl rfl) (fun _ ↦ .pure ())

theorem executeProcOp_uses (procName : Str) (params : List Value) (c : Conn) :
    Uses c (executeProcOp S procName params c) := by
  refine .bind (.ask rfl rfl) (fun _ ↦ .bind (.ask rfl rfl) (fun _ ↦ .bind (.ask rfl rfl) (fun described ↦ ?_)))
  refine .bind ?_ (fun _ ↦ .bind (.ask rfl rfl) (fun _ ↦ .bind (.ask rfl rfl) (fun _ ↦ .pure _)))
  split
  · exact .bind (columnNames_uses c) (fun _ ↦ .bind (.ask rfl rfl) (fun _ ↦ .pure _))
  · exact .pure _

end Operations

section Paths

theorem close_tended :
    Triple (Tended S lent ({c} + free)) (suppress (ask S (.close c))) (fun _ ↦ Tended S lent free) E :=
  suppress_spec (ask_spec (fun _ h ↦ h.close))

theorem suppress_tended {m : ManagerM α} (hm : Uses c m) (hc : Usable lent free c) :
    Triple (Tended S lent free) (suppress m) (fun _ ↦ Tended S lent free) E := suppress_spec (hm.tended hc)

theorem succeeds_tended {m : ManagerM α} (hm : Uses c m) (hc : Usable lent free c) :
    Triple (Tended S lent free) (succeeds m) (fun _ ↦ Tended S lent free) E := succeeds_spec (hm.tended hc)

theorem usable_lend (instanceId : Str) (c : Conn) : Usable (lend instanceId c) 0 c :=
  .inr ⟨instanceId, by rw [lend, Function.update_self]; exact List.mem_singleton_self c⟩

theorem update_lend (instanceId : Str) (c : Conn) : Function.update (lend instanceId c) instanceId [] = noneLent := by
  rw [lend, Function.update_idem]
  exact Function.update_eq_self instanceId noneLent

theorem connectNew_tended : Triple (Tended S lent free) (connectNew S inst databaseOverride)
    (fun c ↦ Tended S lent ({c} + free)) (fun _ ↦ Tended S lent free) := by
  refine Triple.bind (ask_invariant (fun w h ↦ h.record rfl (fun _ hc ↦ by cases hc))) (fun _ ↦ ?_)
  refine Triple.read_bind (fun w h ↦ Triple.modify_bind (I := Tended S lent ({w.next} + free)) ?_
    (Triple.pure (fun _ h ↦ h)))
  rintro _ rfl
  exact h.opening

theorem inUse_lend {pool : Str → PoolState} (h : ∀ i, (pool i).inUse = lend instanceId c i) :
    (pool instanceId).inUse = [c] := by rw [h, lend, Function.update_self]

theorem discardStale_tended (hi : instanceId ∈ S.ids) (h : Tended S (lend instanceId c) 0 w) :
    Tended S noneLent ({c} + 0) (w.setPool instanceId ((w.pools instanceId).discardStale c)) := by
  have hlent := inUse_lend h.lent
  have hheld : held ((w.pools instanceId).discardStale c) + ({c} + 0) = held (w.pools instanceId) + 0 := by
    simp only [held, PoolState.discardStale, PoolState.countDiscarded, PoolState.removeInUse, hlent,
      List.erase_cons_head, Multiset.coe_nil, Multiset.coe_singleton, add_zero]
  have hset := h.setPool hi hheld
  have hnone : ((w.pools instanceId).discardStale c).inUse = [] := by
    rw [PoolState.discardStale, PoolState.countDiscarded, PoolState.removeInUse, hlent, List.erase_cons_head]
  rwa [hnone, update_lend] at hset

theorem registerCreated_tended (hi : instanceId ∈ S.ids) (h : Tended S noneLent ({c} + 0) w) :
    Tended S (lend instanceId c) 0 (w.setPool instanceId ((w.pools instanceId).registerCreated c)) := by
  have hlent : (w.pools instanceId).inUse = [] := h.lent instanceId
  have hheld : held ((w.pools instanceId).registerCreated c) + 0 = held (w.pools instanceId) + ({c} + 0) := by
    simp only [held, PoolState.registerCreated, hlent, List.nil_append, Multiset.coe_nil, Multiset.coe_singleton,
      add_zero]
  have hset := h.setPool hi hheld
  have hlend : ((w.pools instanceId).registerCreated c).inUse = [c] := by
    rw [PoolState.registerCreated, hlent, List.nil_append]
  rw [hlend] at hset
  exact hset

theorem reuse_tended (hi : instanceId ∈ S.ids) (h : Tended S noneLent 0 w) {rest : List Conn} (reused : ℕ)
    (ha : (w.pools instanceId).available = rest ++ [c]) :
    Tended S (lend instanceId c) 0 (w.setPool instanceId { w.pools instanceId with
      available := rest, inUse := (w.pools instanceId).inUse ++ [c], reusedTotal := reused }) := by
  have hlent : (w.pools instanceId).inUse = [] := h.lent instanceId
  have hset := h.setPool hi (congrArg (· + 0) (held_reuse ha reused))
  rwa [hlent, List.nil_append] at hset ⊢

theorem release_tended (hi : instanceId ∈ S.ids) (h : Tended S (lend instanceId c) 0 w) (cap : ℕ)
    (shouldDiscard autocommitOk : Bool) :
    Tended S noneLent (if ((w.pools instanceId).release cap c shouldDiscard autocommitOk).1 then {c} + 0 else 0)
      (w.setPool instanceId ((w.pools instanceId).release cap c shouldDiscard autocommitOk).2) := by
  have hlent := inUse_lend h.lent
  rcases (w.pools instanceId).release_cases cap c shouldDiscard autocommitOk with ⟨-, -, -, he⟩ | ⟨-, he⟩
  · rw [he, if_neg Bool.false_ne_true]
    have hheld : held { (w.pools instanceId).removeInUse c with
        available := (w.pools instanceId).available ++ [c] } + 0 = held (w.pools instanceId) + 0 := by
      simp only [held, PoolState.removeInUse, hlent, List.erase_cons_head, ← Multiset.coe_add, Multiset.coe_singleton,
        Multiset.coe_nil, add_zero]
    have hset := h.setPool hi hheld
    have hnone : ((w.pools instanceId).removeInUse c).inUse = [] := by
      rw [PoolState.removeInUse, hlent, List.erase_cons_head]
    rwa [hnone, update_lend] at hset
  · rw [he]
    exact discardStale_tended hi h

theorem acquireLoop_tended (hi : inst.id ∈ S.ids) (deadline : ℚ) (rounds : ℕ) :
    Triple (Tended S noneLent 0) (acquireLoop S inst deadline rounds) (fun c ↦ Tended S (lend inst.id c) 0)
      (fun _ ↦ Tended S noneLent 0) := by
  induction rounds with
  | zero => exact Triple.raise (fun _ h ↦ h)
  | succ rounds ih =>
    refine Triple.read_bind (fun v h ↦ ?_)
    dsimp only [id]
    rcases (v.pools inst.id).acquire_cases inst.poolCap with ⟨rest, c, ha, he⟩ | ⟨-, -, he⟩ | ⟨-, -, he⟩
    · simp only [he]
      refine Triple.modify_bind (I := Tended S (lend inst.id c) 0) (fun _ hw ↦ hw ▸ reuse_tended hi h _ ha) ?_
      refine Triple.bind (succeeds_tended (probe_uses c) (usable_lend _ c)) (fun usable ↦ ?_)
      split
      · exact Triple.pure (fun _ h ↦ h)
      · refine Triple.modify_bind (I := Tended S noneLent ({c} + 0)) (fun _ h ↦ discardStale_tended hi h) ?_
        exact Triple.bind close_tended (fun _ ↦ ih)
    · simp only [he]
      rintro _ rfl
      refine Triple.bind connectNew_tended (fun c ↦ ?_) _ h
      refine Triple.bind (R := fun _ ↦ Tended S (lend inst.id c) 0) ?_ (fun _ ↦ Triple.pure (fun _ h ↦ h))
      exact Triple.modify (fun _ h ↦ registerCreated_tended hi h)
    · simp only [he]
      rintro _ rfl
      split
      · exact h
      · exact Triple.modify_bind (fun _ h ↦ h.record rfl (fun _ hc ↦ by cases hc)) ih _ h

def lentTo (instanceId : Str) (c : Conn) (pooled : Bool) : Str → List Conn :=
  if pooled then lend instanceId c else noneLent

def ownedBy (c : Conn) (pooled : Bool) : Multiset Conn := if pooled then 0 else {c} + 0

theorem usable_borrowed (instanceId : Str) (c : Conn) (pooled : Bool) :
    Usable (lentTo instanceId c pooled) (ownedBy c pooled) c := by
  cases pooled with
  | false => exact .inl (Multiset.mem_add.mpr (.inl (Multiset.mem_singleton_self c)))
  | true => exact usable_lend instanceId c

theorem acquireConnection_tended : Triple (Tended S noneLent 0) (acquireConnection S instanceId databaseOverride)
    (fun r w ↦ (∃ inst, S.lookup instanceId = some inst) ∧ Tended S (lentTo instanceId r.1 r.2) (ownedBy r.1 r.2) w)
    (fun _ ↦ Tended S noneLent 0) := by
  unfold acquireConnection
  cases hl : S.lookup instanceId with
  | none => exact Triple.raise (fun _ h ↦ h)
  | some inst =>
    have hi := mem_ids hl
    obtain rfl := lookup_id hl
    dsimp only
    split
    · refine Triple.read_bind (fun v h ↦ ?_)
      rintro _ rfl
      exact Triple.bind (acquireLoop_tended hi _ _) (fun c ↦ Triple.pure (fun _ h ↦ ⟨⟨inst, rfl⟩, h⟩)) _ h
    · exact Triple.bind connectNew_tended (fun c ↦ Triple.pure (fun _ h ↦ ⟨⟨inst, rfl⟩, h⟩))

theorem returnConnection_tended (hi : inst.id ∈ S.ids) (shouldDiscard autocommitOk : Bool) :
    Triple (Tended S (lend inst.id c) 0) (returnConnection S inst c shouldDiscard autocommitOk)
      (fun _ ↦ Tended S noneLent 0) E := by
  refine Triple.read_bind (fun w h ↦ ?_)
  have hreleased := release_tended hi h inst.poolCap shouldDiscard autocommitOk
  refine Triple.modify_bind (I := Tended S noneLent
    (if ((w.pools inst.id).release inst.poolCap c shouldDiscard autocommitOk).1 then {c} + 0 else 0)) ?_ ?_
  · rintro _ rfl
    exact hreleased
  dsimp only [id]
  split
  · exact close_tended
  · exact Triple.pure (fun _ h ↦ h)

theorem releaseConnection_tended (hl : S.lookup instanceId = some inst) (pooled hadError : Bool) :
    Triple (Tended S (lentTo instanceId c pooled) (ownedBy c pooled)) (releaseConnection S instanceId c pooled hadError)
      (fun _ ↦ Tended S noneLent 0) E := by
  have hi := mem_ids hl
  obtain rfl := lookup_id hl
  have hc := usable_borrowed inst.id c pooled
  refine Triple.bind (R := fun _ ↦ Tended S (lentTo inst.id c pooled) (ownedBy c pooled)) ?_ (fun _ ↦ ?_)
  · split
    · exact suppress_tended (.ask rfl rfl) hc
    · exact Triple.pure (fun _ h ↦ h)
  cases pooled with
  | false => exact close_tended
  | true =>
    simp only [if_true, hl]
    refine Triple.bind (R := fun _ ↦ Tended S (lend inst.id c) 0) ?_ (fun usable ↦ ?_)
    · split
      · exact Triple.pure (fun _ h ↦ h)
      · exact succeeds_tended (probe_uses c) hc
    · refine Triple.bind (R := fun _ ↦ Tended S (lend inst.id c) 0) ?_ (fun ok ↦ ?_)
      · split
        · exact succeeds_tended (.ask rfl rfl) hc
        · exact Triple.pure (fun _ h ↦ h)
      · exact returnConnection_tended hi (!usable) ok

theorem connect_tended {block : Conn → ManagerM α} (hb : ∀ c, Uses c (block c)) :
    Invariant (Tended S noneLent 0) (connect S instanceId databaseOverride block) := by
  refine Triple.bind acquireConnection_tended (fun ⟨c, pooled⟩ ↦ Triple.extract (fun ⟨inst, hl⟩ ↦ ?_))
  have hc := usable_borrowed instanceId c pooled
  have hrecord {e : Event} (he : e.conn = some c) (hn : e.isClose = false) : Triple (ε := Exc)
      (Tended S (lentTo instanceId c pooled) (ownedBy c pooled)) (record e)
      (fun _ ↦ Tended S (lentTo instanceId c pooled) (ownedBy c pooled)) (fun _ ↦ Tended S noneLent 0) :=
    Triple.modify (fun _ h ↦ h.record hn (fun _ hm ↦ Option.some.inj (he.symm.trans hm) ▸ hc))
  have hrelease (hadError : Bool) : Triple (Tended S (lentTo instanceId c pooled) (ownedBy c pooled))
      (releaseConnection S instanceId c pooled hadError) (fun _ ↦ Tended S noneLent 0) (fun _ ↦ Tended S noneLent 0) :=
    releaseConnection_tended hl pooled hadError
  refine Triple.bind (hrecord rfl rfl) (fun _ ↦ ?_)
  refine Triple.bind (Triple.catching ((hb c).tended hc) (fun e ↦ Triple.extract (fun _ ↦ ?_))) (fun a ↦ ?_)
  · exact Triple.bind (hrecord rfl rfl) (fun _ ↦ Triple.bind (hrelease _) (fun _ ↦ Triple.raise (fun _ h ↦ h)))
  · exact Triple.bind (hrecord rfl rfl) (fun _ ↦ Triple.bind (hrelease false) (fun _ ↦ Triple.pure (fun _ h ↦ h)))

theorem closePool_tended (hi : inst.id ∈ S.ids) (emptied : List Str) :
    Triple (fun w ↦ Tended S noneLent 0 w ∧ ∀ i ∈ emptied, held (w.pools i) = 0) (do
      let w ← Act.read id
      let cleared := (w.pools inst.id).clear
      updatePool inst.id (fun _ ↦ cleared.2)
      let _ ← Act.each (fun c ↦ suppress (ask S (.close c))) cleared.1
      pure ()) (fun _ w ↦ Tended S noneLent 0 w ∧ ∀ i ∈ inst.id :: emptied, held (w.pools i) = 0) E := by
  have hcloseEach (l : List Conn) : Triple
      (fun w ↦ Tended S noneLent l w ∧ ∀ i ∈ inst.id :: emptied, held (w.pools i) = 0)
      (Act.each (fun c ↦ suppress (ask S (.close c))) l)
      (fun _ w ↦ Tended S noneLent 0 w ∧ ∀ i ∈ inst.id :: emptied, held (w.pools i) = 0) E := by
    induction l with
    | nil => exact Triple.pure (fun _ h ↦ h)
    | cons c l ih =>
      refine Triple.bind (suppress_spec (ask_spec (fun w h ↦ ?_))) (fun _ ↦
        Triple.bind ih (fun _ ↦ Triple.pure (fun _ h ↦ h)))
      have hcons : Tended S noneLent ({c} + (l : Multiset Conn)) w := by
        rw [Multiset.singleton_add, Multiset.cons_coe]
        exact h.1
      exact ⟨hcons.close, h.2⟩
  refine Triple.read_bind (fun w h ↦ ?_)
  have hlent : (w.pools inst.id).inUse = [] := h.1.lent inst.id
  have hheld : held (w.pools inst.id).clear.2 + ((w.pools inst.id).clear.1 : Multiset Conn) =
      held (w.pools inst.id) + 0 := by
    simp only [held, PoolState.clear, hlent, List.append_nil, Multiset.coe_nil, add_zero, zero_add]
  have hset := h.1.setPool hi hheld
  rw [show (w.pools inst.id).clear.2.inUse = [] from rfl, show Function.update noneLent inst.id [] = noneLent from
    Function.update_eq_self inst.id noneLent] at hset
  refine Triple.modify_bind (I := fun w' ↦ Tended S noneLent (w.pools inst.id).clear.1 w' ∧
    ∀ i ∈ inst.id :: emptied, held (w'.pools i) = 0) ?_ (Triple.bind (hcloseEach _) (fun _ ↦ Triple.pure (fun _ h ↦ h)))
  rintro _ rfl
  refine ⟨hset, fun i hm ↦ ?_⟩
  by_cases hii : i = inst.id
  · rw [hii, World.setPool_self]
    rfl
  · rw [World.setPool_of_ne hii]
    exact h.2 i ((List.mem_cons.mp hm).resolve_left hii)

theorem closePools_tended {l : List SqlInstanceConfig} (hl : ∀ inst ∈ l, inst.id ∈ S.ids) (emptied : List Str) :
    Triple (fun w ↦ Tended S noneLent 0 w ∧ ∀ i ∈ emptied, held (w.pools i) = 0) (Act.each (fun inst ↦ do
      let w ← Act.read id
      let cleared := (w.pools inst.id).clear
      updatePool inst.id (fun _ ↦ cleared.2)
      let _ ← Act.each (fun c ↦ suppress (ask S (.close c))) cleared.1
      pure ()) l) (fun _ w ↦ Tended S noneLent 0 w ∧ ∀ i ∈ l.map SqlInstanceConfig.id ++ emptied, held (w.pools i) = 0)
      E := by
  induction l generalizing emptied with
  | nil => exact Triple.pure (fun _ h ↦ h)
  | cons inst l ih =>
    obtain ⟨hi, hl⟩ := List.forall_mem_cons.mp hl
    refine Triple.bind (closePool_tended hi emptied) (fun _ ↦ Triple.bind (ih hl (inst.id :: emptied)) (fun _ ↦ ?_))
    refine Triple.pure (fun w h ↦ ⟨h.1, fun i hm ↦ h.2 i ?_⟩)
    rcases List.mem_append.mp hm with hm | hm
    · rcases List.mem_cons.mp hm with rfl | hm
      · exact List.mem_append_right _ List.mem_cons_self
      · exact List.mem_append_left _ hm
    · exact List.mem_append_right _ (List.mem_cons_of_mem _ hm)

theorem closeAllPools_tended : Triple (Tended S noneLent 0) (closeAllPools S)
    (fun _ w ↦ Tended S noneLent 0 w ∧ ∀ i, held (w.pools i) = 0) E := by
  have hids : ∀ inst ∈ S.config.filter SqlInstanceConfig.enabled, inst.id ∈ S.ids :=
    fun inst hm ↦ List.mem_toFinset.mpr (List.mem_map_of_mem hm)
  refine Triple.bind ((closePools_tended hids []).mono (fun _ h ↦ ⟨h, fun _ hi ↦ absurd hi List.not_mem_nil⟩)
    (fun _ _ h ↦ h) (fun _ _ h ↦ h)) (fun _ ↦ Triple.pure (fun w h ↦ ⟨h.1, fun i ↦ ?_⟩))
  by_cases hi : i ∈ S.ids
  · exact h.2 i (List.mem_append_left _ (List.mem_toFinset.mp hi))
  · exact h.1.census.elsewhere i hi

theorem setHealth_tended (state : Str) (started : ℚ) (error : Value) :
    Invariant (Tended S lent free) (setHealth S instanceId state started error) :=
  Invariant.modify (fun _ h ↦ ⟨h.census, h.lent, h.respects⟩)

variable [UnicodeData]

theorem readAttempts_tended {operation : Conn → ManagerM Value} (ho : ∀ c, Uses c (operation c)) (n : ℕ) :
    Invariant (Tended S noneLent 0) (readAttempts S instanceId databaseOverride operation n) := by
  have hrecord {e : Event} (he : e.conn = none) (hn : e.isClose = false) : Invariant (Tended S noneLent 0) (record e) :=
    Invariant.modify (fun _ h ↦ h.record hn (fun c hc ↦ by rw [he] at hc; cases hc))
  induction n with
  | zero => exact Invariant.raise _
  | succ n ih =>
    refine .catching (.bind (connect_tended ho) (fun v ↦ .bind (hrecord rfl rfl) (fun _ ↦ .pure v))) (fun e ↦ ?_)
    refine .bind (hrecord rfl rfl) (fun _ ↦ ?_)
    split
    · exact .bind (hrecord rfl rfl) (fun _ ↦ ih)
    · exact Invariant.raise e

theorem Operation.perform_tended (op : Operation) : Invariant (Tended S noneLent 0) (op.perform S instanceId) := by
  cases op with
  | executeRead sql maxRows => exact readAttempts_tended (executeReadOp_uses sql maxRows) _
  | executeReadInDatabase name sql maxRows => exact readAttempts_tended (executeReadInDatabaseOp_uses sql maxRows) _
  | fetchSingleRowInDatabase name sql => exact readAttempts_tended (fetchSingleRowOp_uses sql) _
  | listObjects name objectType maxRows =>
    show Invariant _ (ConnectionManager.listObjects S instanceId name objectType maxRows)
    unfold ConnectionManager.listObjects
    split
    · exact readAttempts_tended (listObjectsOp_uses maxRows _) _
    · exact Invariant.raise _
  | explainQuery name sql => exact .bind (readAttempts_tended (explainQueryOp_uses sql) _) (fun _ ↦ .pure _)
  | executeProc procName params dbOverride => exact connect_tended (executeProcOp_uses procName params)
  | healthcheckInstance =>
    refine .bind (.read id) (fun v ↦ .bind (.catching ?_ (fun e ↦ ?_)) (fun _ ↦ .bind (.read id) (fun _ ↦ .pure _)))
    · exact .bind (connect_tended healthcheckOp_uses) (fun _ ↦ setHealth_tended _ _ _)
    · split
      · exact setHealth_tended _ _ _
      · exact Invariant.raise e

theorem ManagerCall.perform_tended (call : ManagerCall) : Invariant (Tended S noneLent 0) (call.perform S) := by
  cases call with
  | operate instanceId op => exact .bind (Operation.perform_tended op) (fun _ ↦ .pure ())
  | closeAllPools => exact closeAllPools_tended.mono (fun _ h ↦ h) (fun _ _ h ↦ h.1) (fun _ _ h ↦ h)

theorem runCalls_tended (calls : List ManagerCall) (h : Tended S noneLent 0 w) :
    Tended S noneLent 0 (runCalls S calls w) := by
  induction calls generalizing w with
  | nil => exact h
  | cons call calls ih =>
    have hcall : Ends (fun _ ↦ Tended S noneLent 0) (fun _ ↦ Tended S noneLent 0) (call.perform S w) :=
      call.perform_tended w h
    exact ih (hcall.snd (fun _ _ h ↦ h) (fun _ _ h ↦ h))

end Paths

section Runs

/-- Every connection was closed once and is in no pool, or was not closed and is idle in one
pool. Nothing was asked of a connection behind its `close`, and no pool has lent one. -/
structure World.Accounted (w : World) : Prop where
  settled : ∀ c < w.next, ((connUsage.ended w.log).count c = 1 ∧ ∀ i, c ∉ (w.pools i).available) ∨
    ((connUsage.ended w.log).count c = 0 ∧ ∃! i, c ∈ (w.pools i).available)
  respects : connUsage.Respects w.log
  idle : ∀ i, (w.pools i).inUse = []

theorem mem_held_of_idle {pool : PoolState} (h : pool.inUse = []) : c ∈ held pool ↔ c ∈ pool.available := by
  rw [held, h, Multiset.coe_nil, add_zero, Multiset.mem_coe]

theorem Tended.accounted (h : Tended S noneLent 0 w) : w.Accounted where
  settled c hc := by
    have hsettled := h.census.settled hc
    simp only [mem_held_of_idle (h.lent _), Multiset.coe_count] at hsettled
    exact hsettled
  respects := h.respects
  idle := h.lent

/-- Over every run of a manager its connections are accounted for, and behind
`close_all_pools` all of them have been closed. -/
theorem runCalls_accounted [UnicodeData] (S : Site) (calls : List ManagerCall) :
    (runCalls S calls {}).Accounted ∧ ∀ earlier, calls = earlier ++ [.closeAllPools] →
      ∀ c < (runCalls S calls {}).next, (connUsage.ended (runCalls S calls {}).log).count c = 1 := by
  refine ⟨(runCalls_tended calls (.initial S)).accounted, ?_⟩
  rintro earlier rfl c hc
  have hearlier := runCalls_tended earlier (.initial S)
  have hclosed := closeAllPools_tended (E := fun _ _ ↦ False) (runCalls S earlier {}) hearlier
  rw [runCalls, List.foldl_append] at hc ⊢
  have hlast : Tended S noneLent 0 (closeAllPools S (runCalls S earlier {})).2 ∧
      ∀ i, held ((closeAllPools S (runCalls S earlier {})).2.pools i) = 0 :=
    hclosed.snd (fun _ _ h ↦ h) (fun _ _ h ↦ h.elim)
  rcases hlast.1.census.settled hc with ⟨hone, -⟩ | ⟨-, i, hi, -⟩
  · exact Multiset.coe_count c _ ▸ hone
  · rw [hlast.2 i] at hi
    exact absurd hi (Multiset.notMem_zero c)

end Runs

end McpSqlServer.ConnectionManager

import McpSqlServer.ConnectionManager.Upkeep

namespace McpSqlServer.ConnectionManager

open Library Library.Text Library.Python
open Pool (Conn PoolState)

variable {α : Type} {S : Site} {w : World} {instanceId : Str} {c : Conn} {E : Exc → World → Prop}
  {inst : SqlInstanceConfig} {databaseOverride : Option Str} {G : Conn → Prop} {p : List Event → Prop}

def closeAllPools (S : Site) : ManagerM Unit := do
  let _ ← Act.each (fun inst : SqlInstanceConfig ↦ do
    let w ← Act.read id
    let cleared := (w.pools inst.id).clear
    updatePool inst.id (fun _ ↦ cleared.2)
    let _ ← Act.each (fun c ↦ suppress (ask S (.close c))) cleared.1
    pure ()) (S.config.filter SqlInstanceConfig.enabled)
  pure ()

inductive ManagerCall
  | operate (instanceId : Str) (op : Operation)
  | closeAllPools

def ManagerCall.perform [UnicodeData] (S : Site) : ManagerCall → ManagerM Unit
  | .operate instanceId op => do
    let _ ← op.perform S instanceId
    pure ()
  | .closeAllPools => ConnectionManager.closeAllPools S

/-- The manager behind a sequence of calls, whatever they end in. -/
def runCalls [UnicodeData] (S : Site) (calls : List ManagerCall) (w : World) : World :=
  calls.foldl (fun w call ↦ (call.perform S w).2) w

def Event.conn : Event → Option Conn
  | .call d => d.conn
  | .entered c _ | .left c _ _ => some c
  | _ => none

/-- No connection is twice in the pools, and none is there before it is opened. -/
structure Apart (w : World) : Prop where
  tidy : ∀ i, Tidy w.next (w.pools i)
  disjoint : ∀ i j c, c ∈ held (w.pools i) → c ∈ held (w.pools j) → i = j

def Gone (w : World) (c : Conn) : Prop := ∀ i, Retired w i c

/-- An assertion about the events so far that events about other connections leave alone. -/
def Ignores (G : Conn → Prop) (p : List Event → Prop) : Prop :=
  ∀ log e, (∀ c ∈ e.conn, ¬ G c) → p log → p (log ++ [e])

/-- The pools are in order, and certain connections are gone for good. -/
structure Orderly (G : Conn → Prop) (p : List Event → Prop) (w : World) : Prop where
  apart : Apart w
  gone : ∀ c, G c → Gone w c
  log : p w.log

/-- How a block has its connection. -/
def Borrows (w : World) (instanceId : Str) (c : Conn) (pooled : Bool) : Prop :=
  if pooled then c ∈ (w.pools instanceId).inUse else Gone w c

theorem mem_held_of_inUse {pool : PoolState} (h : c ∈ pool.inUse) : c ∈ held pool :=
  Multiset.mem_add.mpr (.inr (Multiset.mem_coe.mpr h))

section Steps

theorem Apart.initial : Apart {} where
  tidy _ := ⟨Multiset.nodup_zero, fun _ hc ↦ absurd hc (Multiset.notMem_zero _)⟩
  disjoint _ _ _ hc := absurd hc (Multiset.notMem_zero _)

theorem Apart.setPool (h : Apart w) {pool : PoolState} (hl : held pool ≤ held (w.pools instanceId)) :
    Apart (w.setPool instanceId pool) := by
  have hsub : ∀ i d, d ∈ held ((w.setPool instanceId pool).pools i) → d ∈ held (w.pools i) := by
    intro i d hd
    by_cases hi : i = instanceId
    · subst hi
      rw [World.setPool_self] at hd
      exact Multiset.mem_of_le hl hd
    · rwa [World.setPool_of_ne hi] at hd
  refine ⟨fun i ↦ ?_, fun i j d hd hd' ↦ h.disjoint i j d (hsub i d hd) (hsub j d hd')⟩
  by_cases hi : i = instanceId
  · subst hi
    rw [World.setPool_self]
    exact (h.tidy i).of_le hl le_rfl
  · rw [World.setPool_of_ne hi]
    exact h.tidy i

theorem Gone.setPool (h : Gone w c) {pool : PoolState} (hc : c ∉ held pool) : Gone (w.setPool instanceId pool) c := by
  intro i
  refine ⟨(h i).1, ?_⟩
  by_cases hi : i = instanceId
  · subst hi
    rwa [World.setPool_self]
  · rw [World.setPool_of_ne hi]
    exact (h i).2

namespace Orderly

theorem record (h : Orderly G p w) (hp : Ignores G p) {e : Event} (he : ∀ c ∈ e.conn, ¬ G c) :
    Orderly G p (w.record e) := ⟨⟨h.apart.tidy, h.apart.disjoint⟩, h.gone, hp w.log e he h.log⟩

theorem not_gone (h : Orderly G p w) (hc : c ∈ held (w.pools instanceId)) : ¬ G c :=
  fun hg ↦ (h.gone c hg instanceId).2 hc

theorem setPool (h : Orderly G p w) {pool : PoolState} (hl : held pool ≤ held (w.pools instanceId)) :
    Orderly G p (w.setPool instanceId pool) :=
  ⟨h.apart.setPool hl, fun c hc ↦ (h.gone c hc).setPool (fun hm ↦
    have hin : c ∈ held (w.pools instanceId) := Multiset.mem_of_le hl hm
    h.not_gone hin hc), h.log⟩

theorem opened (h : Orderly G p w) : Orderly G p { w with next := w.next + 1 } := by
  refine ⟨⟨fun i ↦ (h.apart.tidy i).of_le le_rfl (Nat.le_succ _), h.apart.disjoint⟩, fun c hc i ↦ ?_, h.log⟩
  exact ⟨Nat.lt_succ_of_lt (h.gone c hc i).1, (h.gone c hc i).2⟩

theorem next_not_gone (h : Orderly G p w) : ¬ G w.next := fun hg ↦ Nat.lt_irrefl _ (h.gone _ hg []).1

theorem next_gone (h : Orderly G p w) : Gone { w with next := w.next + 1 } w.next :=
  fun i ↦ ⟨Nat.lt_succ_self _, fun hm ↦ Nat.lt_irrefl _ ((h.apart.tidy i).lt_next _ hm)⟩

theorem registerCreated (h : Orderly G p w) (hc : Gone w c) (hg : ¬ G c) :
    Orderly G p (w.setPool instanceId ((w.pools instanceId).registerCreated c)) := by
  have hheld : held ((w.pools instanceId).registerCreated c) = held (w.pools instanceId) + {c} := by
    simp only [held, PoolState.registerCreated, ← Multiset.coe_add, Multiset.coe_singleton, add_assoc]
  have hmem : ∀ i d, d ∈ held ((w.setPool instanceId ((w.pools instanceId).registerCreated c)).pools i) →
      d ∈ held (w.pools i) ∨ (i = instanceId ∧ d = c) := by
    intro i d hd
    by_cases hi : i = instanceId
    · subst hi
      rw [World.setPool_self, hheld, Multiset.mem_add, Multiset.mem_singleton] at hd
      exact hd.imp id (fun hd ↦ ⟨rfl, hd⟩)
    · rw [World.setPool_of_ne hi] at hd
      exact .inl hd
  refine ⟨⟨fun i ↦ ⟨?_, fun d hd ↦ ?_⟩, fun i j d hd hd' ↦ ?_⟩, fun d hd i ↦ ⟨(h.gone d hd i).1, fun hm ↦ ?_⟩, h.log⟩
  · by_cases hi : i = instanceId
    · subst hi
      rw [World.setPool_self, hheld]
      exact Multiset.nodup_add.mpr ⟨(h.apart.tidy i).nodup, Multiset.nodup_singleton _,
        Multiset.disjoint_singleton.mpr (hc i).2⟩
    · rw [World.setPool_of_ne hi]
      exact (h.apart.tidy i).nodup
  · rcases hmem i d hd with hd | ⟨-, rfl⟩
    · exact (h.apart.tidy i).lt_next d hd
    · exact (hc i).1
  · rcases hmem i d hd with hi | ⟨hi, rfl⟩
    · rcases hmem j d hd' with hj | ⟨-, rfl⟩
      · exact h.apart.disjoint i j d hi hj
      · exact absurd hi (hc i).2
    · rcases hmem j d hd' with hj | ⟨hj, -⟩
      · exact absurd hj (hc j).2
      · exact hi.trans hj.symm
  · rcases hmem i d hm with hm | ⟨-, rfl⟩
    · exact (h.gone d hd i).2 hm
    · exact hg hd

theorem discard_gone (h : Orderly G p w) (hc : c ∈ (w.pools instanceId).inUse) :
    Gone (w.setPool instanceId ((w.pools instanceId).discardStale c)) c := by
  have hheld := mem_held_of_inUse hc
  intro i
  refine ⟨(h.apart.tidy instanceId).lt_next c hheld, ?_⟩
  by_cases hi : i = instanceId
  · subst hi
    rw [World.setPool_self]
    exact notMem_held_discardStale (h.apart.tidy i).nodup hc
  · rw [World.setPool_of_ne hi]
    exact fun hm ↦ hi (h.apart.disjoint i instanceId c hm hheld)

end Orderly

end Steps

section Paths

variable (hp : Ignores G p)
include hp

theorem ask_orderly {d : DriverCall} (hd : ∀ c ∈ d.conn, ¬ G c) : Triple (Orderly G p) (ask S d) (fun _ ↦ Orderly G p)
    (fun e w ↦ e.caught = true ∧ Orderly G p w) := ask_spec (fun _ h ↦ h.record hp hd)

/-- What only calls the driver about a connection that is not gone keeps the order. -/
theorem drivesOn_orderly {m : ManagerM α} (hm : DrivesOn c m) (hc : ¬ G c) (K : World → Prop)
    (hK : ∀ w e, K w → K (w.record e)) : Triple (fun w ↦ Orderly G p w ∧ K w) m (fun _ w ↦ Orderly G p w ∧ K w)
      (fun e w ↦ e.caught = true ∧ Orderly G p w ∧ K w) := by
  refine hm _ (fun w d hd h ↦ ⟨h.1.record hp (fun c' hc' ↦ ?_), hK _ _ h.2⟩)
  have heq : c' = c := Option.some.inj (hc'.symm.trans hd)
  rwa [heq]

theorem connectNew_orderly : Triple (Orderly G p) (connectNew S inst databaseOverride)
    (fun c w ↦ ¬ G c ∧ Orderly G p w ∧ Gone w c) (fun _ ↦ Orderly G p) := by
  refine Triple.bind (ask_invariant (fun w h ↦ h.record hp (fun _ h ↦ nomatch h))) (fun _ ↦ ?_)
  refine Triple.read_bind (fun w h ↦ ?_)
  refine Triple.modify_bind (I := fun w' ↦ ¬ G w.next ∧ Orderly G p w' ∧ Gone w' w.next) ?_ (Triple.pure (fun _ h ↦ h))
  rintro _ rfl
  exact ⟨h.next_not_gone, h.opened, h.next_gone⟩

theorem acquireLoop_orderly (deadline : ℚ) (rounds : ℕ) : Triple (Orderly G p) (acquireLoop S inst deadline rounds)
    (fun c w ↦ ¬ G c ∧ Orderly G p w ∧ c ∈ (w.pools inst.id).inUse) (fun _ ↦ Orderly G p) := by
  induction rounds with
  | zero => exact Triple.raise (fun _ h ↦ h)
  | succ rounds ih =>
    refine Triple.read_bind (fun v h ↦ ?_)
    dsimp only [id]
    rcases (v.pools inst.id).acquire_cases inst.poolCap with ⟨rest, c, ha, he⟩ | ⟨-, -, he⟩ | ⟨-, -, he⟩
    · simp only [he]
      have hc : c ∈ held (v.pools inst.id) := by
        refine Multiset.mem_add.mpr (.inl (Multiset.mem_coe.mpr ?_))
        rw [ha]
        exact List.mem_append_right _ (List.mem_singleton_self c)
      have hg : ¬ G c := h.not_gone hc
      refine Triple.modify_bind (I := fun w ↦ Orderly G p w ∧ c ∈ (w.pools inst.id).inUse) ?_ ?_
      · rintro _ rfl
        refine ⟨h.setPool (le_of_eq (held_reuse ha _)), ?_⟩
        rw [World.setPool_self]
        exact List.mem_append_right _ (List.mem_singleton_self c)
      · refine Triple.bind (succeeds_spec (drivesOn_orderly hp (probe_drivesOn c) hg _ (fun _ _ h ↦ h))) (fun usable ↦ ?_)
        split
        · exact Triple.pure (fun _ h ↦ ⟨hg, h⟩)
        · refine Triple.modify_bind (I := Orderly G p) (fun w hw ↦ hw.1.setPool (held_discardStale_le hw.2)) ?_
          exact Triple.bind (suppress_spec (ask_orderly hp (fun d hd ↦ Option.some.inj hd ▸ hg))) (fun _ ↦ ih)
    · simp only [he]
      rintro _ rfl
      refine Triple.bind (connectNew_orderly hp) (fun c ↦ ?_) _ h
      refine Triple.bind (R := fun _ w ↦ ¬ G c ∧ Orderly G p w ∧ c ∈ (w.pools inst.id).inUse) (Triple.modify ?_)
        (fun _ ↦ Triple.pure (fun _ h ↦ h))
      intro w hw
      obtain ⟨hg, ho, hgone⟩ := hw
      refine ⟨hg, ho.registerCreated hgone hg, ?_⟩
      rw [World.setPool_self]
      exact List.mem_append_right _ (List.mem_singleton_self c)
    · simp only [he]
      rintro _ rfl
      split
      · exact h
      · exact Triple.modify_bind (fun _ h ↦ h.record hp (fun _ h ↦ nomatch h)) ih _ h

theorem acquireConnection_orderly : Triple (Orderly G p) (acquireConnection S instanceId databaseOverride)
    (fun r w ↦ (∃ inst, S.lookup instanceId = some inst) ∧ ¬ G r.1 ∧ Orderly G p w ∧ Borrows w instanceId r.1 r.2)
    (fun _ ↦ Orderly G p) := by
  unfold acquireConnection
  cases hl : S.lookup instanceId with
  | none => exact Triple.raise (fun _ h ↦ h)
  | some inst =>
    obtain rfl := lookup_id hl
    dsimp only
    split
    · refine Triple.read_bind (fun v h ↦ ?_)
      rintro _ rfl
      exact Triple.bind (acquireLoop_orderly hp _ _) (fun c ↦ Triple.pure (fun _ h ↦ ⟨⟨inst, rfl⟩, h⟩)) _ h
    · exact Triple.bind (connectNew_orderly hp) (fun c ↦ Triple.pure (fun _ h ↦ ⟨⟨inst, rfl⟩, h⟩))

theorem returnConnection_orderly (hc : ¬ G c) (shouldDiscard autocommitOk : Bool) :
    Triple (fun w ↦ Orderly G p w ∧ c ∈ (w.pools inst.id).inUse) (returnConnection S inst c shouldDiscard autocommitOk)
      (fun _ w ↦ Orderly G p w ∧ (shouldDiscard = true → Gone w c)) E := by
  refine Triple.read_bind (fun w h ↦ ?_)
  obtain ⟨ho, hu⟩ := h
  refine Triple.modify_bind (I := fun w ↦ Orderly G p w ∧ (shouldDiscard = true → Gone w c)) ?_ ?_
  · rintro v rfl
    obtain ⟨hheld, -⟩ := release_spec hu inst.poolCap shouldDiscard autocommitOk
    refine ⟨ho.setPool hheld, fun hd ↦ ?_⟩
    rcases (v.pools inst.id).release_cases inst.poolCap c shouldDiscard autocommitOk with ⟨hk, -, -, -⟩ | ⟨-, he⟩
    · rw [hk] at hd
      cases hd
    · show Gone (v.setPool inst.id ((v.pools inst.id).release inst.poolCap c shouldDiscard autocommitOk).2) c
      rw [he]
      exact ho.discard_gone hu
  · split
    · have hclose : DrivesOn c (ask S (.close c)) := .ask rfl
      exact suppress_spec (drivesOn_orderly hp hclose hc _ (fun _ _ h ↦ h))
    · exact Triple.pure (fun _ h ↦ h)

theorem releaseConnection_orderly (hl : S.lookup instanceId = some inst) (hc : ¬ G c) (pooled hadError : Bool) :
    Triple (fun w ↦ Orderly G p w ∧ Borrows w instanceId c pooled) (releaseConnection S instanceId c pooled hadError)
      (fun _ w ↦ Orderly G p w ∧ (hadError = true → Gone w c)) E := by
  obtain rfl := lookup_id hl
  have hrollback : DrivesOn c (ask S (.rollback c)) := .ask rfl
  have hclose : DrivesOn c (ask S (.close c)) := .ask rfl
  have hauto : DrivesOn c (ask S (.setAutocommit c false)) := .ask rfl
  refine Triple.bind (R := fun _ w ↦ Orderly G p w ∧ Borrows w inst.id c pooled) ?_ (fun _ ↦ ?_)
  · split
    · exact suppress_spec (drivesOn_orderly hp hrollback hc _ (fun _ _ h ↦ h))
    · exact Triple.pure (fun _ h ↦ h)
  cases pooled with
  | false =>
    rw [if_neg Bool.false_ne_true]
    exact (suppress_spec (drivesOn_orderly hp hclose hc _ (fun _ _ h ↦ h))).mono (fun _ h ↦ h)
      (fun _ _ h ↦ ⟨h.1, fun _ ↦ h.2⟩) (fun _ _ h ↦ h)
  | true =>
    simp only [if_true, hl]
    refine Triple.bind (R := fun usable w ↦ (hadError = true → usable = false) ∧
      Orderly G p w ∧ c ∈ (w.pools inst.id).inUse) ?_ (fun usable ↦ Triple.extract (fun husable ↦ ?_))
    · split
      · exact Triple.pure (fun _ h ↦ ⟨fun _ ↦ rfl, h⟩)
      · rename_i herror
        exact (succeeds_spec (drivesOn_orderly hp (probe_drivesOn c) hc _ (fun _ _ h ↦ h))).mono (fun _ h ↦ h)
          (fun _ _ h ↦ ⟨fun ht ↦ absurd ht herror, h⟩) (fun _ _ h ↦ h)
    · refine Triple.bind (R := fun _ w ↦ Orderly G p w ∧ c ∈ (w.pools inst.id).inUse) ?_ (fun ok ↦ ?_)
      · split
        · exact succeeds_spec (drivesOn_orderly hp hauto hc _ (fun _ _ h ↦ h))
        · exact Triple.pure (fun _ h ↦ h)
      · refine (returnConnection_orderly hp hc (!usable) ok).mono (fun _ h ↦ h) (fun _ _ h ↦ ⟨h.1, fun ht ↦ ?_⟩)
          (fun _ _ h ↦ h)
        exact h.2 (by rw [husable ht]; rfl)

omit hp in
/-- From its connection on, a `connect` is about that connection only. -/
theorem connect_keeps {block : Conn → ManagerM α} (hb : DrivesOn c (block c))
    (hp : ∀ log e, e.conn = some c → p log → p (log ++ [e])) {pooled : Bool} {w₀ : World}
    (ha : acquireConnection S instanceId databaseOverride w = (.ok (c, pooled), w₀)) (hw : p w₀.log) :
    p (connect S instanceId databaseOverride block w).2.log := by
  have hblock := hb (fun w ↦ p w.log) (fun w d hd h ↦ hp w.log _ hd h) (w₀.record (.entered c pooled)) (hp _ _ rfl hw)
  rcases hrun : block c (w₀.record (.entered c pooled)) with ⟨r, w₁⟩
  rw [hrun] at hblock
  have hw₁ : p w₁.log := hblock.snd (fun _ _ h ↦ h) (fun _ _ h ↦ h.2)
  obtain ⟨w', hr, hw'⟩ := connect_of_block (fun log d hd _ ↦ hp log _ hd) ha hrun (fun failure ↦ hp w₁.log _ rfl hw₁)
  rwa [hr]

theorem connect_orderly {block : Conn → ManagerM α} (hb : ∀ c, DrivesOn c (block c)) :
    Invariant (Orderly G p) (connect S instanceId databaseOverride block) := by
  refine Triple.bind (acquireConnection_orderly hp) (fun ⟨c, pooled⟩ ↦ Triple.extract (fun ⟨inst, hl⟩ ↦
    Triple.extract (fun hc ↦ ?_)))
  have hrelease (hadError : Bool) : Triple (fun w ↦ Orderly G p w ∧ Borrows w instanceId c pooled)
      (releaseConnection S instanceId c pooled hadError) (fun _ w ↦ Orderly G p w) (fun _ ↦ Orderly G p) :=
    (releaseConnection_orderly hp hl hc pooled hadError).mono (fun _ h ↦ h) (fun _ _ h ↦ h.1) (fun _ _ h ↦ h)
  have hrecord (e : Event) (he : e.conn = some c) : Triple (ε := Exc) (fun w ↦ Orderly G p w ∧ Borrows w instanceId c pooled)
      (record e) (fun _ w ↦ Orderly G p w ∧ Borrows w instanceId c pooled) (fun _ ↦ Orderly G p) := by
    refine Triple.modify (fun w h ↦ ⟨h.1.record hp (fun d hd ↦ ?_), h.2⟩)
    have heq : d = c := Option.some.inj (hd.symm.trans he)
    rwa [heq]
  refine Triple.bind (hrecord _ rfl) (fun _ ↦ ?_)
  refine Triple.bind (R := fun _ w ↦ Orderly G p w ∧ Borrows w instanceId c pooled) ?_ (fun a ↦ ?_)
  · refine Triple.catching (drivesOn_orderly hp (hb c) hc _ (fun _ _ h ↦ h)) (fun e ↦ Triple.extract (fun he ↦ ?_))
    exact Triple.bind (hrecord _ rfl) (fun _ ↦ Triple.bind (hrelease _) (fun _ ↦ Triple.raise (fun _ h ↦ h)))
  · exact Triple.bind (hrecord _ rfl) (fun _ ↦ Triple.bind (hrelease false) (fun _ ↦ Triple.pure (fun _ h ↦ h)))

/-- A connection on which the block has failed is gone behind its `connect`. -/
theorem connect_gone {block : Conn → ManagerM α} (hb : ∀ c, DrivesOn c (block c)) (h : Orderly G p w) {pooled : Bool}
    {w₀ w' : World} {e : Exc} (ha : acquireConnection S instanceId databaseOverride w = (.ok (c, pooled), w₀))
    (hr : connect S instanceId databaseOverride block w = (.error e, w')) : Gone w' c := by
  have hacquire : Ends _ _ (acquireConnection S instanceId databaseOverride w) := acquireConnection_orderly hp w h
  rw [ha] at hacquire
  obtain ⟨⟨inst, hl⟩, hc, ho, hborrows⟩ := hacquire
  have hon {v : World} (hv : Orderly G p v) {e : Event} (he : e.conn = some c) : Orderly G p (v.record e) := by
    refine hv.record hp (fun d hd ↦ ?_)
    rwa [Option.some.inj (hd.symm.trans he)]
  have hblock := drivesOn_orderly hp (hb c) hc (fun w ↦ Borrows w instanceId c pooled) (fun _ _ h ↦ h)
    (w₀.record (.entered c pooled)) ⟨hon ho rfl, hborrows⟩
  rcases hrun : block c (w₀.record (.entered c pooled)) with ⟨r, w₁⟩
  rw [hrun] at hblock
  have hend := connect_eq_release ha hrun
  rw [hr] at hend
  obtain ⟨rfl, hw'⟩ := Prod.mk.inj hend
  obtain ⟨he, ho₁, hborrows₁⟩ := hblock
  have hrelease := releaseConnection_orderly (E := fun _ _ ↦ False) hp hl hc pooled e.caught
    (w₁.record (.left c pooled (some e))) ⟨hon ho₁ rfl, hborrows₁⟩
  have hgone : e.caught = true → Gone w' c := by
    rw [hw']
    exact hrelease.snd (fun _ _ h ↦ h.2) (fun _ _ h ↦ h.elim)
  exact hgone he

theorem closeAllPools_orderly : Invariant (Orderly G p) (closeAllPools S) := by
  refine .bind (Invariant.each (fun inst ↦ ?_) _) (fun _ ↦ .pure ())
  refine Triple.read_bind (fun w h ↦ ?_)
  have hempty : held ((w.pools inst.id).clear).2 ≤ held (w.pools inst.id) := Multiset.zero_le _
  refine Triple.modify_bind (I := Orderly G p) (fun _ hw ↦ hw ▸ h.setPool hempty) ?_
  refine .bind (Invariant.each_of_mem (fun c hc ↦ ?_)) (fun _ ↦ Triple.pure (fun _ h ↦ h))
  have hheld : c ∈ held (w.pools inst.id) :=
    Multiset.mem_add.mpr ((List.mem_append.mp hc).imp Multiset.mem_coe.mpr Multiset.mem_coe.mpr)
  exact suppress_spec (ask_orderly hp (fun d hd ↦ Option.some.inj hd ▸ h.not_gone hheld))

omit hp in
theorem setHealth_orderly (state : Str) (started : ℚ) (error : Value) :
    Invariant (Orderly G p) (setHealth S instanceId state started error) :=
  Invariant.modify (fun _ h ↦ ⟨⟨h.apart.tidy, h.apart.disjoint⟩, h.gone, h.log⟩)

variable [UnicodeData]

theorem readAttempts_orderly {operation : Conn → ManagerM Value} (ho : ∀ c, DrivesOn c (operation c)) (n : ℕ) :
    Invariant (Orderly G p) (readAttempts S instanceId databaseOverride operation n) := by
  have hrecord {e : Event} (he : e.conn = none) : Invariant (Orderly G p) (record e) :=
    Invariant.modify (fun _ h ↦ h.record hp (fun c hc ↦ by rw [he] at hc; cases hc))
  induction n with
  | zero => exact Invariant.raise _
  | succ n ih =>
    refine .catching (.bind (connect_orderly hp ho) (fun v ↦ .bind (hrecord rfl) (fun _ ↦ .pure v))) (fun e ↦ ?_)
    refine .bind (hrecord rfl) (fun _ ↦ ?_)
    split
    · exact .bind (hrecord rfl) (fun _ ↦ ih)
    · exact Invariant.raise e

theorem Operation.perform_orderly (op : Operation) : Invariant (Orderly G p) (op.perform S instanceId) := by
  cases op with
  | executeRead sql maxRows => exact readAttempts_orderly hp (executeReadOp_drivesOn sql maxRows) _
  | executeReadInDatabase name sql maxRows => exact readAttempts_orderly hp (executeReadInDatabaseOp_drivesOn sql maxRows) _
  | fetchSingleRowInDatabase name sql => exact readAttempts_orderly hp (fetchSingleRowOp_drivesOn sql) _
  | listObjects name objectType maxRows =>
    show Invariant _ (ConnectionManager.listObjects S instanceId name objectType maxRows)
    unfold ConnectionManager.listObjects
    split
    · exact readAttempts_orderly hp (listObjectsOp_drivesOn maxRows _) _
    · exact Invariant.raise _
  | explainQuery name sql => exact .bind (readAttempts_orderly hp (explainQueryOp_drivesOn sql) _) (fun _ ↦ .pure _)
  | executeProc procName params dbOverride => exact connect_orderly hp (executeProcOp_drivesOn procName params)
  | healthcheckInstance =>
    refine .bind (.read id) (fun v ↦ .bind (.catching ?_ (fun e ↦ ?_)) (fun _ ↦ .bind (.read id) (fun _ ↦ .pure _)))
    · exact .bind (connect_orderly hp healthcheckOp_drivesOn) (fun _ ↦ setHealth_orderly _ _ _)
    · split
      · exact setHealth_orderly _ _ _
      · exact Invariant.raise e

theorem ManagerCall.perform_orderly (call : ManagerCall) : Invariant (Orderly G p) (call.perform S) := by
  cases call with
  | operate instanceId op => exact .bind (Operation.perform_orderly hp op) (fun _ ↦ .pure ())
  | closeAllPools => exact closeAllPools_orderly hp

/-- Whatever the manager is asked to do, the pools stay in order and what is gone stays gone. -/
theorem runCalls_orderly (calls : List ManagerCall) (h : Orderly G p w) : Orderly G p (runCalls S calls w) := by
  induction calls generalizing w with
  | nil => exact h
  | cons call calls ih =>
    have hcall : Ends (fun _ ↦ Orderly G p) (fun _ ↦ Orderly G p) (call.perform S w) :=
      ManagerCall.perform_orderly hp call w h
    exact ih (hcall.snd (fun _ _ h ↦ h) (fun _ _ h ↦ h))

end Paths

end McpSqlServer.ConnectionManager

import McpSqlServer.ConnectionManager.Attempts
import Mathlib.Data.List.Induction

namespace McpSqlServer.ConnectionManager

open Library Library.Text Library.Python
open Pool (Conn PoolState)

/-- Makes the calls until one fails: whether all succeed, and the log behind them. -/
def Site.tryCalls (S : Site) (log : List Event) : List DriverCall → Bool × List Event
  | [] => (true, log)
  | d :: calls =>
    if (S.answer (log ++ [.call d])).toBool then S.tryCalls (log ++ [.call d]) calls else (false, log ++ [.call d])

/-- The `SELECT 1` probe of a connection: whether it is usable, and the log behind the probe. -/
def Site.probe (S : Site) (log : List Event) (c : Conn) : Bool × List Event :=
  S.tryCalls log [.cursor c, .execute c "SELECT 1".toList [], .fetchone c]

/-- Behind the log the connections were probed one by one from the last to the first, none was
usable, and each was closed. -/
inductive Discards (S : Site) : List Event → List Conn → List Event → Prop
  | none (log : List Event) : Discards S log [] log
  | next {log log' : List Event} {stale : List Conn} {c : Conn} : (S.probe log c).1 = false →
      Discards S ((S.probe log c).2 ++ [.call (.close c)]) stale log' → Discards S log (stale ++ [c]) log'

structure Discarded (S : Site) (instanceId : Str) (stale : List Conn) (w w₁ : World) : Prop where
  available : (w.pools instanceId).available = (w₁.pools instanceId).available ++ stale
  discards : Discards S w.log stale w₁.log
  inUse : (w₁.pools instanceId).inUse.Perm (w.pools instanceId).inUse
  inUse_eq : (∀ c ∈ stale, c ∉ (w.pools instanceId).inUse) →
    (w₁.pools instanceId).inUse = (w.pools instanceId).inUse
  createdTotal : (w₁.pools instanceId).createdTotal = (w.pools instanceId).createdTotal
  reusedTotal : (w₁.pools instanceId).reusedTotal = (w.pools instanceId).reusedTotal + stale.length
  discardedTotal : (w₁.pools instanceId).discardedTotal = (w.pools instanceId).discardedTotal + stale.length
  others : ∀ i, i ≠ instanceId → w₁.pools i = w.pools i
  next : w₁.next = w.next
  health : w₁.health = w.health

/-- How `_acquire_connection` ends from a state where the last available connection is usable, if
there is one. -/
inductive Acquires (S : Site) (inst : SqlInstanceConfig) (deadline : ℚ) (w : World) : Except Exc Conn → World → Prop
  | reuse {rest : List Conn} {c : Conn} : (w.pools inst.id).available = rest ++ [c] → (S.probe w.log c).1 = true →
      Acquires S inst deadline w (.ok c) { w.setPool inst.id { w.pools inst.id with
        available := rest, inUse := (w.pools inst.id).inUse ++ [c], reusedTotal := (w.pools inst.id).reusedTotal + 1 } with
          log := (S.probe w.log c).2 }
  | create {reply : Reply} : (w.pools inst.id).available = [] → (w.pools inst.id).inUse.length < inst.poolCap →
      S.answer (w.log ++ [.call (.connect inst.id inst.database)]) = .ok reply →
      Acquires S inst deadline w (.ok w.next) { w.setPool inst.id { w.pools inst.id with
        inUse := (w.pools inst.id).inUse ++ [w.next], createdTotal := (w.pools inst.id).createdTotal + 1 } with
          next := w.next + 1, log := w.log ++ [.call (.connect inst.id inst.database)] }
  | refused {e : Exc} : (w.pools inst.id).available = [] → (w.pools inst.id).inUse.length < inst.poolCap →
      S.answer (w.log ++ [.call (.connect inst.id inst.database)]) = .error e →
      Acquires S inst deadline w (.error e) { w with log := w.log ++ [.call (.connect inst.id inst.database)] }
  | late : (w.pools inst.id).available = [] → inst.poolCap ≤ (w.pools inst.id).inUse.length →
      deadline ≤ S.monotonic w.log → Acquires S inst deadline w (.error (acquireTimeout inst)) w
  | timeout {remaining : ℚ} : (w.pools inst.id).available = [] → inst.poolCap ≤ (w.pools inst.id).inUse.length →
      remaining = deadline - S.monotonic w.log → 0 < remaining →
      deadline ≤ S.monotonic (w.log ++ [.waited remaining]) →
      Acquires S inst deadline w (.error (acquireTimeout inst)) { w with log := w.log ++ [.waited remaining] }

def Event.isProbe : Event → Bool
  | .call (.cursor _) => true
  | _ => false

def probes (log : List Event) : ℕ := log.countP Event.isProbe

variable {S : Site} {w w' w₁ : World} {instanceId : Str} {c : Conn} {stale : List Conn} {inst : SqlInstanceConfig}
  {deadline : ℚ}

section Probes

theorem ask_eq (d : DriverCall) (w : World) :
    ask S d w = (S.answer (w.log ++ [.call d]), w.record (.call d)) := rfl

theorem suppress_ask_eq (d : DriverCall) (w : World) : suppress (ask S d) w = (.ok (), w.record (.call d)) := by
  have h : Ends (fun _ w' ↦ w' = w.record (.call d)) (fun _ _ ↦ False) (suppress (ask S d) w) :=
    suppress_spec (P := fun v ↦ v = w) (ask_spec (fun v hv ↦ hv ▸ rfl)) w rfl
  rcases hr : suppress (ask S d) w with ⟨r, w'⟩
  rw [hr] at h
  cases r with
  | ok u => exact congrArg _ h
  | error e => exact h.elim

theorem succeeds_congr {α : Type} {m n : ManagerM α} (h : m w = n w') : succeeds m w = succeeds n w' := by
  cases hr : n w' with
  | mk r v =>
    rw [hr] at h
    cases r with
    | ok a =>
      have hm := Act.bind_of_ok h (fun _ ↦ (pure true : ManagerM Bool))
      have hn := Act.bind_of_ok hr (fun _ ↦ (pure true : ManagerM Bool))
      exact (Act.catching_of_ok hm).trans (Act.catching_of_ok hn).symm
    | error e =>
      have hm := Act.bind_of_error h (fun _ ↦ (pure true : ManagerM Bool))
      have hn := Act.bind_of_error hr (fun _ ↦ (pure true : ManagerM Bool))
      rw [succeeds, succeeds, Act.catching_of_error hm, Act.catching_of_error hn]

theorem succeeds_of_error {α : Type} {m : ManagerM α} {e : Exc} (h : m w = (.error e, w')) (he : e.caught = true) :
    succeeds m w = (.ok false, w') := by
  have hm := Act.bind_of_error h (fun _ ↦ (pure true : ManagerM Bool))
  rw [succeeds, Act.catching_of_error hm, if_pos he]
  rfl

def Tries (S : Site) (m : ManagerM Reply) (calls : List DriverCall) : Prop :=
  ∀ w, succeeds m w = (.ok (S.tryCalls w.log calls).1, { w with log := (S.tryCalls w.log calls).2 })

theorem Tries.bind {m : ManagerM Reply} {calls : List DriverCall} (hm : Tries S m calls) (d : DriverCall) :
    Tries S (ask S d >>= fun _ ↦ m) (d :: calls) := by
  intro w
  rw [Site.tryCalls]
  cases ha : S.answer (w.log ++ [.call d]) with
  | ok reply =>
    have hask : ask S d w = (.ok reply, w.record (.call d)) := by rw [ask_eq, ha]
    rw [succeeds_congr (Act.bind_of_ok hask _), hm]
    rfl
  | error e =>
    have hask : ask S d w = (.error e, w.record (.call d)) := by rw [ask_eq, ha]
    rw [succeeds_of_error (Act.bind_of_error hask _) (S.answer_onlyExceptions _ e ha)]
    rfl

theorem tries_ask (d : DriverCall) : Tries S (ask S d) [d] := by
  intro w
  rw [Site.tryCalls]
  cases ha : S.answer (w.log ++ [.call d]) with
  | ok reply =>
    have hask : ask S d w = (.ok reply, w.record (.call d)) := by rw [ask_eq, ha]
    exact Act.catching_of_ok (Act.bind_of_ok hask _)
  | error e =>
    have hask : ask S d w = (.error e, w.record (.call d)) := by rw [ask_eq, ha]
    rw [succeeds_of_error hask (S.answer_onlyExceptions _ e ha)]
    rfl

theorem isConnectionUsable_eq (c : Conn) (w : World) :
    isConnectionUsable S c w = (.ok (S.probe w.log c).1, { w with log := (S.probe w.log c).2 }) :=
  (((tries_ask (.fetchone c)).bind (.execute c "SELECT 1".toList [])).bind (.cursor c)) w

theorem probes_append (log log' : List Event) : probes (log ++ log') = probes log + probes log' := List.countP_append

theorem probes_probe (log : List Event) (c : Conn) : probes (S.probe log c).2 = probes log + 1 := by
  unfold Site.probe Site.tryCalls
  split
  · unfold Site.tryCalls
    split
    · unfold Site.tryCalls
      split
      · unfold Site.tryCalls
        rw [probes_append, probes_append, probes_append]
        rfl
      · rw [probes_append, probes_append, probes_append]
        rfl
    · rw [probes_append, probes_append]
      rfl
  · exact probes_append _ _

theorem Discards.probes_eq {log log' : List Event} (h : Discards S log stale log') :
    probes log' = probes log + stale.length := by
  induction h with
  | none log => rfl
  | next hc h ih =>
    rw [ih, probes_append, probes_probe, List.length_append]
    show probes _ + 1 + 0 + _ = probes _ + (_ + 1)
    omega

end Probes

section Rounds

variable {rest : List Conn} {rounds : ℕ}

def World.discardLast (S : Site) (instanceId : Str) (rest : List Conn) (c : Conn) (w : World) : World :=
  { w.setPool instanceId (PoolState.discardStale c { w.pools instanceId with
      available := rest, inUse := (w.pools instanceId).inUse ++ [c],
      reusedTotal := (w.pools instanceId).reusedTotal + 1 }) with
    log := (S.probe w.log c).2 ++ [.call (.close c)] }

theorem acquire_reuse {s : PoolState} (h : s.available = rest ++ [c]) (cap : ℕ) : s.acquire cap =
    (.reuse c, { s with available := rest, inUse := s.inUse ++ [c], reusedTotal := s.reusedTotal + 1 }) := by
  simp [PoolState.acquire, h]

theorem acquire_createNew {s : PoolState} {cap : ℕ} (h : s.available = []) (hs : s.inUse.length < cap) :
    s.acquire cap = (.createNew, s) := by
  simp [PoolState.acquire, PoolState.size, h, hs]

theorem acquire_full {s : PoolState} {cap : ℕ} (h : s.available = []) (hs : cap ≤ s.inUse.length) :
    s.acquire cap = (.full, s) := by
  simp [PoolState.acquire, PoolState.size, h, hs]

theorem acquireLoop_usable (h : (w.pools inst.id).available = rest ++ [c]) (hc : (S.probe w.log c).1 = true) :
    acquireLoop S inst deadline (rounds + 1) w = (.ok c, { w.setPool inst.id { w.pools inst.id with
      available := rest, inUse := (w.pools inst.id).inUse ++ [c], reusedTotal := (w.pools inst.id).reusedTotal + 1 } with
        log := (S.probe w.log c).2 }) := by
  rw [acquireLoop, Act.bind_of_ok (m := Act.read id) rfl]
  simp only [id, acquire_reuse h]
  rw [Act.bind_of_ok (m := updatePool inst.id _) rfl, Act.bind_of_ok (isConnectionUsable_eq c _)]
  simp only [World.setPool, hc]
  rfl

theorem acquireLoop_stale (h : (w.pools inst.id).available = rest ++ [c]) (hc : (S.probe w.log c).1 = false) :
    acquireLoop S inst deadline (rounds + 1) w =
      acquireLoop S inst deadline rounds (w.discardLast S inst.id rest c) := by
  rw [acquireLoop, Act.bind_of_ok (m := Act.read id) rfl]
  simp only [id, acquire_reuse h]
  rw [Act.bind_of_ok (m := updatePool inst.id _) rfl, Act.bind_of_ok (isConnectionUsable_eq c _)]
  simp only [World.setPool, hc]
  rw [if_neg Bool.false_ne_true, Act.bind_of_ok (m := updatePool inst.id _) rfl, Act.bind_of_ok (suppress_ask_eq _ _)]
  simp only [World.setPool, World.record, World.discardLast, Function.update_idem, Function.update_self]

theorem acquireLoop_connects (h : (w.pools inst.id).available = []) (hs : (w.pools inst.id).inUse.length < inst.poolCap) :
    ∃ r w', Acquires S inst deadline w r w' ∧ ∀ rounds, 0 < rounds → acquireLoop S inst deadline rounds w = (r, w') := by
  have hround : ∀ rounds, acquireLoop S inst deadline (rounds + 1) w =
      (connectNew S inst none >>= fun c ↦ updatePool inst.id (PoolState.registerCreated c) >>= fun _ ↦ pure c) w := by
    intro rounds
    rw [acquireLoop, Act.bind_of_ok (m := Act.read id) rfl]
    simp only [id, acquire_createNew h hs]
  have hask := ask_eq (S := S) (.connect inst.id (inst.databaseFor none)) w
  cases ha : S.answer (w.log ++ [.call (.connect inst.id inst.database)]) with
  | ok reply =>
    refine ⟨_, _, .create h hs ha, fun rounds hr ↦ ?_⟩
    obtain ⟨rounds, rfl⟩ := Nat.exists_eq_succ_of_ne_zero hr.ne'
    have hopen : connectNew S inst none w = (.ok w.next,
        { w with next := w.next + 1, log := w.log ++ [.call (.connect inst.id inst.database)] }) := by
      rw [connectNew, Act.bind_of_ok (hask.trans (congrArg (·, _) ha))]
      rfl
    rw [hround, Act.bind_of_ok hopen]
    rfl
  | error e =>
    refine ⟨_, _, .refused h hs ha, fun rounds hr ↦ ?_⟩
    obtain ⟨rounds, rfl⟩ := Nat.exists_eq_succ_of_ne_zero hr.ne'
    have hopen : connectNew S inst none w =
        (.error e, { w with log := w.log ++ [.call (.connect inst.id inst.database)] }) := by
      rw [connectNew, Act.bind_of_error (hask.trans (congrArg (·, _) ha))]
      rfl
    rw [hround, Act.bind_of_error hopen]

theorem acquireLoop_full (h : (w.pools inst.id).available = []) (hs : inst.poolCap ≤ (w.pools inst.id).inUse.length) :
    acquireLoop S inst deadline (rounds + 1) w =
      if deadline - S.monotonic w.log ≤ 0 then (.error (acquireTimeout inst), w)
      else acquireLoop S inst deadline rounds (w.record (.waited (deadline - S.monotonic w.log))) := by
  rw [acquireLoop, Act.bind_of_ok (m := Act.read id) rfl]
  simp only [id, acquire_full h hs]
  split
  · rfl
  · rfl

theorem acquireLoop_waits (h : (w.pools inst.id).available = []) (hs : inst.poolCap ≤ (w.pools inst.id).inUse.length) :
    ∃ r w', Acquires S inst deadline w r w' ∧ ∀ rounds, 1 < rounds → acquireLoop S inst deadline rounds w = (r, w') := by
  by_cases hlate : deadline - S.monotonic w.log ≤ 0
  · refine ⟨_, _, .late h hs (sub_nonpos.mp hlate), fun rounds hr ↦ ?_⟩
    obtain ⟨rounds, rfl⟩ := Nat.exists_eq_succ_of_ne_zero (Nat.ne_of_gt (Nat.lt_of_succ_lt hr))
    rw [acquireLoop_full h hs, if_pos hlate]
  · have hwaited := S.monotonic_waited w.log (deadline - S.monotonic w.log)
    have hover : deadline ≤ S.monotonic (w.log ++ [.waited (deadline - S.monotonic w.log)]) := by
      rwa [add_sub_cancel] at hwaited
    refine ⟨_, _, .timeout h hs rfl (not_le.mp hlate) hover, fun rounds hr ↦ ?_⟩
    obtain ⟨rounds, rfl⟩ := Nat.exists_eq_add_of_le' hr
    have hlast : acquireLoop S inst deadline (rounds + 1) (w.record (.waited (deadline - S.monotonic w.log))) = _ :=
      acquireLoop_full h hs
    rw [acquireLoop_full h hs, if_neg hlate, hlast]
    exact if_pos (sub_nonpos.mpr hover)

theorem perm_erase_concat (l : List Conn) (c : Conn) : ((l ++ [c]).erase c).Perm l := by
  have h := (List.perm_append_singleton c l).erase c
  rwa [List.erase_cons_head] at h

theorem erase_concat_of_notMem {l : List Conn} (h : c ∉ l) : (l ++ [c]).erase c = l := by
  rw [List.erase_append_right _ h, List.erase_cons_head, List.append_nil]

theorem discarded_nil (S : Site) (instanceId : Str) (w : World) : Discarded S instanceId [] w w where
  available := (List.append_nil _).symm
  discards := .none _
  inUse := .refl _
  inUse_eq _ := rfl
  createdTotal := rfl
  reusedTotal := rfl
  discardedTotal := rfl
  others _ _ := rfl
  next := rfl
  health := rfl

theorem discarded_concat (ha : (w.pools instanceId).available = rest ++ [c]) (hc : (S.probe w.log c).1 = false)
    (h : Discarded S instanceId stale (w.discardLast S instanceId rest c) w₁) :
    Discarded S instanceId (stale ++ [c]) w w₁ := by
  have hpool : (w.discardLast S instanceId rest c).pools instanceId =
      { available := rest, inUse := ((w.pools instanceId).inUse ++ [c]).erase c,
        createdTotal := (w.pools instanceId).createdTotal, reusedTotal := (w.pools instanceId).reusedTotal + 1,
        discardedTotal := (w.pools instanceId).discardedTotal + 1 } := w.setPool_self instanceId _
  have havailable := h.available
  have hinUse := h.inUse
  have hinUse_eq := h.inUse_eq
  have hcreated := h.createdTotal
  have hreused := h.reusedTotal
  have hdiscarded := h.discardedTotal
  simp only [hpool] at havailable hinUse hinUse_eq hcreated hreused hdiscarded
  constructor
  · rw [ha, ← List.append_assoc, ← havailable]
  · exact .next hc h.discards
  · exact hinUse.trans (perm_erase_concat _ c)
  · intro hnew
    have hcn : c ∉ (w.pools instanceId).inUse := hnew c (List.mem_append_right _ (List.mem_singleton_self c))
    have heq : ((w.pools instanceId).inUse ++ [c]).erase c = (w.pools instanceId).inUse := erase_concat_of_notMem hcn
    refine (hinUse_eq (fun d hd hmem ↦ hnew d (List.mem_append_left _ hd) ?_)).trans heq
    rw [← heq]
    exact hmem
  · exact hcreated
  · rw [hreused, List.length_append, List.length_singleton]
    omega
  · rw [hdiscarded, List.length_append, List.length_singleton]
    omega
  · intro i hi
    rw [h.others i hi]
    exact w.setPool_of_ne hi _
  · exact h.next
  · exact h.health

theorem acquireLoop_acquires (S : Site) (inst : SqlInstanceConfig) (deadline : ℚ) (available : List Conn) (w : World)
    (ha : (w.pools inst.id).available = available) :
    ∃ stale w₁ r w', Discarded S inst.id stale w w₁ ∧ Acquires S inst deadline w₁ r w' ∧
      ∀ rounds, available.length + 2 ≤ rounds → acquireLoop S inst deadline rounds w = (r, w') := by
  induction available using List.reverseRecOn generalizing w with
  | nil =>
    rcases Nat.lt_or_ge (w.pools inst.id).inUse.length inst.poolCap with hs | hs
    · obtain ⟨r, w', hr, hloop⟩ : ∃ r w', Acquires S inst deadline w r w' ∧ _ := acquireLoop_connects ha hs
      exact ⟨[], w, r, w', discarded_nil S inst.id w, hr, fun rounds hrounds ↦ hloop rounds (Nat.lt_of_succ_lt hrounds)⟩
    · obtain ⟨r, w', hr, hloop⟩ : ∃ r w', Acquires S inst deadline w r w' ∧ _ := acquireLoop_waits ha hs
      exact ⟨[], w, r, w', discarded_nil S inst.id w, hr, fun rounds hrounds ↦ hloop rounds hrounds⟩
  | append_singleton rest c ih =>
    rw [List.length_append, List.length_singleton]
    cases hc : (S.probe w.log c).1 with
    | true =>
      refine ⟨[], w, _, _, discarded_nil S inst.id w, .reuse ha hc, fun rounds hrounds ↦ ?_⟩
      obtain ⟨rounds, rfl⟩ := Nat.exists_eq_succ_of_ne_zero (show rounds ≠ 0 by omega)
      exact acquireLoop_usable ha hc
    | false =>
      have hrest : ((w.discardLast S inst.id rest c).pools inst.id).available = rest :=
        congrArg PoolState.available (w.setPool_self inst.id _)
      obtain ⟨stale, w₁, r, w', hstale, hr, hloop⟩ := ih (w.discardLast S inst.id rest c) hrest
      refine ⟨stale ++ [c], w₁, r, w', discarded_concat ha hc hstale, hr, fun rounds hrounds ↦ ?_⟩
      obtain ⟨rounds, rfl⟩ := Nat.exists_eq_succ_of_ne_zero (show rounds ≠ 0 by omega)
      rw [acquireLoop_stale ha hc]
      exact hloop rounds (by omega)

theorem Acquires.probes_le {r : Except Exc Conn} (h : Acquires S inst deadline w r w') :
    probes w'.log ≤ probes w.log + (w.pools inst.id).available.length := by
  cases h with
  | reuse ha hc =>
    rw [ha, List.length_append, List.length_singleton, probes_probe]
    omega
  | create ha hs hr => exact (probes_append _ _).le.trans (Nat.le_add_right _ _)
  | refused ha hs hr => exact (probes_append _ _).le.trans (Nat.le_add_right _ _)
  | late ha hs hl => exact Nat.le_add_right _ _
  | timeout ha hs hr hp ho => exact (probes_append _ _).le.trans (Nat.le_add_right _ _)

end Rounds

/-- `_acquire_connection` without override: unusable connections at the end of `available` are
discarded, then the last one left is taken, or a new one is opened, or the deadline passes. -/
theorem acquireConnection_exact (S : Site) {instanceId : Str} {inst : SqlInstanceConfig} (w : World)
    (hl : S.lookup instanceId = some inst) (hp : inst.poolEnabled = true) :
    ∃ stale w₁ r w', Discarded S instanceId stale w w₁ ∧
      Acquires S inst (S.monotonic w.log + max 0 (inst.poolAcquireTimeoutSec : ℚ)) w₁ r w' ∧
      acquireConnection S instanceId none w = (r.map (fun c ↦ (c, true)), w') ∧
      (∀ rounds, (w.pools instanceId).available.length + 2 ≤ rounds → acquireLoop S inst
        (S.monotonic w.log + max 0 (inst.poolAcquireTimeoutSec : ℚ)) rounds w = (r, w')) ∧
      probes w'.log ≤ probes w.log + (w.pools instanceId).available.length := by
  obtain rfl := lookup_id hl
  obtain ⟨stale, w₁, r, w', hstale, hr, hloop⟩ := acquireLoop_acquires S inst
    (S.monotonic w.log + max 0 (inst.poolAcquireTimeoutSec : ℚ)) _ w rfl
  refine ⟨stale, w₁, r, w', hstale, hr, ?_, hloop, ?_⟩
  · rw [acquireConnection, hl]
    simp only [hp, Option.isNone_none, Bool.and_true, if_true]
    rw [Act.bind_of_ok (m := Act.read id) rfl]
    simp only [id]
    rw [Act.bind_pure_apply, hloop _ le_rfl]
  · have hprobes := hr.probes_le
    rw [hstale.discards.probes_eq] at hprobes
    rw [hstale.available, List.length_append]
    omega

theorem acquireConnection_exact_lossy : ∃ stale w₁ r w',
    Discarded lossySite "primary".toList stale { pools := fun _ ↦ { available := [1, 2] }, next := 3 } w₁ ∧
      Acquires lossySite Pool.smallInstance
        (lossySite.monotonic [] + max 0 (Pool.smallInstance.poolAcquireTimeoutSec : ℚ)) w₁ r w' ∧
      acquireConnection lossySite "primary".toList none { pools := fun _ ↦ { available := [1, 2] }, next := 3 } =
        (r.map (fun c ↦ (c, true)), w') ∧ probes w'.log ≤ 2 := by
  obtain ⟨stale, w₁, r, w', hstale, hr, hrun, -, hprobes⟩ := acquireConnection_exact lossySite
    { pools := fun _ ↦ { available := [1, 2] }, next := 3 } (show lossySite.lookup "primary".toList = some _ from rfl) rfl
  exact ⟨stale, w₁, r, w', hstale, hr, hrun, hprobes⟩

end McpSqlServer.ConnectionManager

import McpSqlServer.ConnectionManager.Upkeep
import McpSqlServer.Pool.Shutdown

namespace McpSqlServer.ConnectionManager

open Library Library.Text Library.Python Library.Transition Library.Ownership
open Pool (Conn PoolState)

variable {α : Type} {S : Site} {w w₀ : World} {instanceId : Str} {c : Conn} {E : Exc → World → Prop}
  {inst : SqlInstanceConfig} {databaseOverride : Option Str}

def Event.isEntered : Event → Bool
  | .entered _ _ => true
  | _ => false

def Event.outcome : Event → Option (Except Exc Value)
  | .attempted r => some r
  | _ => none

def attempts (events : List Event) : List (Except Exc Value) := events.filterMap Event.outcome

def bodyRuns (events : List Event) : ℕ := events.countP Event.isEntered

def Event.isQuiet (e : Event) : Bool := !e.isEntered && e.outcome.isNone

section Quiet

def Undisturbed (p : List Event → Prop) : Prop := ∀ log e, e.isQuiet = true → p log → p (log ++ [e])

variable {p : List Event → Prop} {m : ManagerM α}

theorem Undisturbed.append (hp : Undisturbed p) (calls : List DriverCall) {log : List Event} (h : p log) :
    p (log ++ calls.map .call) := by
  induction calls generalizing log with
  | nil => rwa [List.map_nil, List.append_nil]
  | cons d calls ih =>
    rw [List.map_cons, List.append_cons]
    exact ih (hp log _ rfl h)

theorem Undisturbed.onlyCalled (hp : Undisturbed p) {w' : World} (hw : p w.log) (h : OnlyCalled w w') : p w'.log := by
  obtain ⟨calls, rfl⟩ := h
  exact hp.append calls hw

theorem DrivesOnly.log (hm : DrivesOnly m) (hp : Undisturbed p) : Invariant (fun w ↦ p w.log) m :=
  (hm.keeps (fun _ _ hw h ↦ hp.onlyCalled hw h)).mono (fun _ h ↦ h) (fun _ _ h ↦ h) (fun _ _ h ↦ h.2)

theorem record_log (hp : Undisturbed p) {e : Event} (he : e.isQuiet = true) :
    Invariant (fun w ↦ p w.log) (record e) := Invariant.modify (fun w h ↦ hp w.log e he h)

theorem Undisturbed.maintained (hp : Undisturbed p) : Maintained p := by
  intro log e he
  apply hp log e
  cases e with
  | call d => rfl
  | waited seconds => rfl
  | _ => cases he

end Quiet

/-- Since an earlier state the attempts have ended so, and at most so many blocks were run. -/
def Traced (w₀ : World) (outcomes : List (Except Exc Value)) (runs : ℕ) (log : List Event) : Prop :=
  ∃ events, log = w₀.log ++ events ∧ attempts events = outcomes ∧ bodyRuns events ≤ runs

namespace Traced

variable {outcomes : List (Except Exc Value)} {runs : ℕ} {log : List Event}

theorem init (w : World) : Traced w [] 0 w.log := ⟨[], (List.append_nil _).symm, rfl, le_rfl⟩

theorem mono {runs' : ℕ} (h : Traced w₀ outcomes runs log) (hr : runs ≤ runs') : Traced w₀ outcomes runs' log := by
  obtain ⟨events, he, ho, hn⟩ := h
  exact ⟨events, he, ho, hn.trans hr⟩

theorem append (h : Traced w₀ outcomes runs log) (e : Event) :
    Traced w₀ (outcomes ++ e.outcome.toList) (runs + if e.isEntered then 1 else 0) (log ++ [e]) := by
  obtain ⟨events, rfl, ho, hn⟩ := h
  refine ⟨events ++ [e], List.append_assoc .., ?_, ?_⟩
  · rw [attempts, List.filterMap_append, ← attempts, ho]
    cases he : e.outcome <;> simp [he]
  · rw [bodyRuns, List.countP_append, ← bodyRuns, List.countP_singleton]
    exact Nat.add_le_add_right hn _

theorem entered (h : Traced w₀ outcomes runs log) (c : Conn) (pooled : Bool) :
    Traced w₀ outcomes (runs + 1) (log ++ [.entered c pooled]) := by
  simpa [Event.outcome, Event.isEntered] using h.append (.entered c pooled)

theorem attempted (h : Traced w₀ outcomes runs log) (r : Except Exc Value) :
    Traced w₀ (outcomes ++ [r]) runs (log ++ [.attempted r]) := h.append (.attempted r)

theorem undisturbed : Undisturbed (Traced w₀ outcomes runs) := by
  intro log e he h
  have ha := h.append e
  simp only [Event.isQuiet, Bool.and_eq_true, Bool.not_eq_true', Option.isNone_iff_eq_none] at he
  simpa only [he.1, he.2, Option.toList_none, List.append_nil, Bool.false_eq_true, if_false, Nat.add_zero] using ha

end Traced

section Retries

variable {outcomes : List (Except Exc Value)} {runs : ℕ}

theorem connect_traced {block : Conn → ManagerM α} (hb : ∀ c, DrivesOn c (block c)) :
    Triple (fun w ↦ Traced w₀ outcomes runs w.log) (connect S instanceId databaseOverride block)
      (fun _ w ↦ Traced w₀ outcomes (runs + 1) w.log) (fun _ w ↦ Traced w₀ outcomes (runs + 1) w.log) := by
  have hquiet : Undisturbed (Traced w₀ outcomes (runs + 1)) := Traced.undisturbed
  have hacquire : Triple (fun w ↦ Traced w₀ outcomes runs w.log) (acquireConnection S instanceId databaseOverride)
      (fun _ w ↦ (∃ inst, S.lookup instanceId = some inst) ∧ Traced w₀ outcomes runs w.log)
      (fun _ w ↦ Traced w₀ outcomes (runs + 1) w.log) :=
    (acquireConnection_known Traced.undisturbed.maintained).mono (fun _ h ↦ h) (fun _ _ h ↦ h)
      (fun _ _ h ↦ h.mono (Nat.le_succ _))
  refine Triple.bind hacquire (fun ⟨c, pooled⟩ ↦ Triple.extract (fun ⟨inst, hl⟩ ↦ ?_))
  refine Triple.modify_bind (I := fun w ↦ Traced w₀ outcomes (runs + 1) w.log) (fun _ h ↦ h.entered c pooled) ?_
  refine Invariant.bind (.catching ((hb c).drivesOnly.log hquiet) (fun e ↦ ?_)) (fun a ↦ ?_)
  · refine .bind (record_log hquiet rfl) (fun _ ↦ ?_)
    exact .bind (releaseConnection_maintained (hquiet.maintained.on c) hl pooled _) (fun _ ↦ .raise e)
  · refine .bind (record_log hquiet rfl) (fun _ ↦ ?_)
    exact .bind (releaseConnection_maintained (hquiet.maintained.on c) hl pooled _) (fun _ ↦ .pure a)

variable [UnicodeData]

/-- The attempts of a read since an earlier state: all but the last have failed with an
error that is safe to retry, each has run the body at most once, and the last has ended so. -/
structure Retried (w₀ : World) (bound : ℕ) (r : Except Exc Value) (log : List Event) (failures : List Exc) : Prop where
  bounded : failures.length < bound
  transient : ∀ e ∈ failures, isTransientReadError e = true
  traced : Traced w₀ (failures.map .error ++ [r]) (failures.length + 1) log

omit [UnicodeData] in
theorem attempt_traced {operation : Conn → ManagerM Value} (ho : ∀ c, DrivesOn c (operation c)) :
    Triple (fun w ↦ Traced w₀ outcomes runs w.log) (do
        let v ← connect S instanceId databaseOverride operation
        record (.attempted (.ok v))
        pure v)
      (fun v w ↦ Traced w₀ (outcomes ++ [.ok v]) (runs + 1) w.log) (fun _ w ↦ Traced w₀ outcomes (runs + 1) w.log) := by
  refine Triple.bind (connect_traced ho) (fun v ↦ ?_)
  exact Triple.modify_bind (I := fun w ↦ Traced w₀ (outcomes ++ [.ok v]) (runs + 1) w.log)
    (fun _ h ↦ h.attempted (.ok v)) (Triple.pure (fun _ h ↦ h))

theorem readAttempts_retried {operation : Conn → ManagerM Value} (ho : ∀ c, DrivesOn c (operation c)) (n : ℕ)
    (failures : List Exc) (hf : ∀ e ∈ failures, isTransientReadError e = true) :
    Triple (fun w ↦ Traced w₀ (failures.map .error) failures.length w.log)
      (readAttempts S instanceId databaseOverride operation (n + 1))
      (fun v w ↦ ∃ failures', Retried w₀ (failures.length + n + 1) (.ok v) w.log failures')
      (fun e w ↦ ∃ failures', Retried w₀ (failures.length + n + 1) (.error e) w.log failures') := by
  induction n generalizing failures with
  | zero =>
    refine Triple.catching ((attempt_traced ho).mono (fun _ h ↦ h)
      (fun _ _ h ↦ ⟨failures, Nat.lt_succ_self _, hf, h⟩) (fun _ _ h ↦ h)) (fun e ↦ ?_)
    refine Triple.modify_bind (I := fun w ↦ Traced w₀ (failures.map .error ++ [.error e]) (failures.length + 1) w.log)
      (fun _ h ↦ h.attempted (.error e)) ?_
    simp only [ne_eq, not_true_eq_false, decide_false, Bool.and_false, Bool.false_and, Bool.false_eq_true, if_false]
    exact Triple.raise (fun w h ↦ ⟨failures, Nat.lt_succ_self _, hf, h⟩)
  | succ n ih =>
    have hlt : failures.length < failures.length + (n + 1) + 1 := by omega
    refine Triple.catching ((attempt_traced ho).mono (fun _ h ↦ h)
      (fun _ _ h ↦ ⟨failures, hlt, hf, h⟩) (fun _ _ h ↦ h)) (fun e ↦ ?_)
    refine Triple.modify_bind (I := fun w ↦ Traced w₀ (failures.map .error ++ [.error e]) (failures.length + 1) w.log)
      (fun _ h ↦ h.attempted (.error e)) ?_
    split
    · rename_i he
      have hf' : ∀ f ∈ failures ++ [e], isTransientReadError f = true := by
        intro f hm
        rcases List.mem_append.mp hm with hm | hm
        · exact hf f hm
        · rw [List.mem_singleton.mp hm]
          exact (Bool.and_eq_true _ _ |>.mp he).2
      have hretry := ih (failures ++ [e]) hf'
      rw [List.map_append, List.map_cons, List.map_nil, List.length_append, List.length_singleton,
        Nat.add_right_comm failures.length 1 n] at hretry
      exact Triple.modify_bind (fun w h ↦ Traced.undisturbed w.log _ rfl h) hretry
    · exact Triple.raise (fun w h ↦ ⟨failures, hlt, hf, h⟩)

theorem runReadOperation_retried {operation : Conn → ManagerM Value} (ho : ∀ c, DrivesOn c (operation c)) (w : World) :
    ∃ failures, Retried w readRetryAttempts (runReadOperation S instanceId databaseOverride operation w).1
      (runReadOperation S instanceId databaseOverride operation w).2.log failures := by
  have h : Ends (fun v w' ↦ ∃ failures, Retried w readRetryAttempts (.ok v) w'.log failures)
      (fun e w' ↦ ∃ failures, Retried w readRetryAttempts (.error e) w'.log failures)
      (runReadOperation S instanceId databaseOverride operation w) :=
    readAttempts_retried ho 1 [] (fun _ h ↦ absurd h List.not_mem_nil) w (Traced.init w)
  rcases hr : runReadOperation S instanceId databaseOverride operation w with ⟨r, w'⟩
  rw [hr] at h
  cases r with
  | ok v => exact h
  | error e => exact h

end Retries

def Operation.isRead : Operation → Bool
  | .executeProc _ _ _ | .healthcheckInstance => false
  | _ => true

section Operations

variable [UnicodeData]

def Operation.refusal : Operation → Option Exc
  | .listObjects _ objectType _ =>
    if (objectTypeMap.lookup (strip (lower objectType))).isSome then none else some unknownObjectType
  | _ => none

omit [UnicodeData] in
def Operation.report (S : Site) : Operation → Value → Value
  | .explainQuery _ _ => S.planSummary
  | _ => id

/-- A read was refused before any attempt, or its body ran at most twice, the second time
after an error that is safe to retry, and it ended like its last attempt. -/
def RetriesOnce (S : Site) (op : Operation) (r : Except Exc Value) (events : List Event) : Prop :=
  (∃ e, op.refusal = some e ∧ r = .error e ∧ events = []) ∨
  ∃ (failures : List Exc) (last : Except Exc Value), attempts events = failures.map .error ++ [last] ∧
    failures.length ≤ 1 ∧ (∀ e ∈ failures, isTransientReadError e = true) ∧
    bodyRuns events ≤ failures.length + 1 ∧ r = last.map (op.report S)

theorem retriesOnce_of_retried {op : Operation} {last r : Except Exc Value} {log : List Event}
    (h : ∃ failures, Retried w readRetryAttempts last log failures) (hr : r = last.map (op.report S)) :
    ∃ events, log = w.log ++ events ∧ RetriesOnce S op r events := by
  obtain ⟨failures, hb, ht, events, he, ho, hn⟩ := h
  exact ⟨events, he, .inr ⟨failures, last, ho, Nat.le_of_lt_succ hb, ht, hn, hr⟩⟩

theorem perform_retriesOnce {op : Operation} (hop : op.isRead = true) (w : World) :
    ∃ events, (op.perform S instanceId w).2.log = w.log ++ events ∧
      RetriesOnce S op (op.perform S instanceId w).1 events := by
  cases op with
  | executeRead sql maxRows =>
    exact retriesOnce_of_retried (runReadOperation_retried (executeReadOp_drivesOn sql maxRows) w)
      (congrFun Except.map_id _).symm
  | executeReadInDatabase name sql maxRows =>
    exact retriesOnce_of_retried (runReadOperation_retried (executeReadInDatabaseOp_drivesOn sql maxRows) w)
      (congrFun Except.map_id _).symm
  | fetchSingleRowInDatabase name sql =>
    exact retriesOnce_of_retried (runReadOperation_retried (fetchSingleRowOp_drivesOn sql) w) (congrFun Except.map_id _).symm
  | listObjects name objectType maxRows =>
    show ∃ events, (ConnectionManager.listObjects S instanceId name objectType maxRows w).2.log = _ ∧
      RetriesOnce S _ (ConnectionManager.listObjects S instanceId name objectType maxRows w).1 _
    unfold ConnectionManager.listObjects
    cases hl : objectTypeMap.lookup (strip (lower objectType)) with
    | some typeCode =>
      exact retriesOnce_of_retried (runReadOperation_retried (listObjectsOp_drivesOn maxRows typeCode) w)
        (congrFun Except.map_id _).symm
    | none =>
      refine ⟨[], (List.append_nil _).symm, .inl ⟨unknownObjectType, ?_, rfl, rfl⟩⟩
      simp only [Operation.refusal, hl, Option.isSome_none, Bool.false_eq_true, if_false]
  | explainQuery name sql =>
    show ∃ events, (ConnectionManager.explainQuery S instanceId name sql w).2.log = _ ∧
      RetriesOnce S _ (ConnectionManager.explainQuery S instanceId name sql w).1 _
    unfold ConnectionManager.explainQuery
    rw [Act.bind_pure_apply]
    exact retriesOnce_of_retried (runReadOperation_retried (explainQueryOp_drivesOn sql) w) rfl
  | executeProc | healthcheckInstance => cases hop

omit [UnicodeData] in
theorem Balanced.perm (h : Balanced w₀ instanceId 0 w) (i : Str) : (w.pools i).inUse.Perm (w₀.pools i).inUse := by
  by_cases hi : i = instanceId
  · subst hi
    exact Multiset.coe_eq_coe.mp (h.inUse.trans (add_zero _))
  · rw [h.others i hi]

omit [UnicodeData] in
theorem tidy_of_reachable {Tid : Type} [Fintype Tid] [DecidableEq Tid] {s : Pool.State Tid}
    (h : Reachable (Pool.step inst) (fun _ _ ↦ True) {} s) : Tidy s.shared.next s.shared.pool := by
  have hle : held s.shared.pool ≤ s.held :=
    add_le_add le_rfl ((Pool.ledger_of_reachable h).inUse_le.trans (total_mono _ _ Pool.Thread.borrowed_le_owned))
  have hsep := Pool.separate_of_reachable h
  exact ⟨Multiset.nodup_of_le hle hsep.nodup, fun c hc ↦ hsep.lt_next c (Multiset.mem_of_le hle hc)⟩

/-- From any pool that the manager reaches, whatever the driver raises: an operation gives
back what it borrowed, a pooled connection on which its body failed is rolled back, removed
and closed, and a read is retried at most once. -/
theorem operation_balanced (S : Site) (op : Operation) (instanceId : Str) {Tid : Type} [Fintype Tid] [DecidableEq Tid]
    {s : Pool.State Tid} (hs : Reachable (Pool.step inst) (fun _ _ ↦ True) {} s) {w w' : World} {r : Except Exc Value}
    (hpool : w.pools instanceId = s.shared.pool) (hnext : s.shared.next ≤ w.next)
    (hw : op.perform S instanceId w = (r, w')) :
    (∀ i, (w'.pools i).inUse.Perm (w.pools i).inUse) ∧
    ∃ events, w'.log = w.log ++ events ∧
      (∀ c e, .left c true (some e) ∈ events →
        [.left c true (some e), .call (.rollback c), .call (.close c)] <:+: events ∧
        c ∉ (w'.pools instanceId).inUse ∧ c ∉ (w'.pools instanceId).available) ∧
      (op.isRead = true → RetriesOnce S op r events) := by
  have htidy : Tidy w.next (w.pools instanceId) := hpool ▸ (tidy_of_reachable hs).of_le le_rfl hnext
  have hbalanced : Balanced w instanceId 0 w' := by
    have h : Ends (fun _ ↦ Balanced w instanceId 0) (fun _ ↦ Balanced w instanceId 0) (op.perform S instanceId w) :=
      op.perform_balanced w (.init htidy)
    rw [hw] at h
    exact h.snd (fun _ _ h ↦ h) (fun _ _ h ↦ h)
  obtain ⟨events, he, hd⟩ := hbalanced.disposed
  refine ⟨hbalanced.perm, events, he, fun c e hm ↦ ?_, fun hop ↦ ?_⟩
  · obtain ⟨hi, -, hnot⟩ := hd c e hm
    rw [held, Multiset.mem_add, not_or] at hnot
    exact ⟨hi, hnot.2, hnot.1⟩
  · obtain ⟨events', he', hr⟩ : ∃ events', (op.perform S instanceId w).2.log = w.log ++ events' ∧
        RetriesOnce S op (op.perform S instanceId w).1 events' := perform_retriesOnce hop w
    rw [hw, he] at he'
    rw [hw, ← List.append_cancel_left he'] at hr
    exact hr

end Operations

def transportError : Exc where
  kind := .other
  className := "OperationalError".toList
  args := ["08S01".toList, "TCP Provider: Error code 0x2714".toList]
  text := "TCP Provider: Error code 0x2714".toList

def Event.seconds : Event → ℚ
  | .waited seconds | .slept seconds => seconds
  | _ => 0

def lossyAnswer (log : List Event) : Except Exc Reply :=
  match log.getLast? with
  | some (.call (.execute _ _ _)) => .error transportError
  | _ => .ok {}

def lossySite : Site where
  config := [Pool.smallInstance]
  answer := lossyAnswer
  monotonic log := log.foldl (fun t e ↦ t + e.seconds) 0
  time _ := 0
  timestamp _ := []
  planSummary := id
  answer_onlyExceptions log := by
    unfold lossyAnswer
    split
    · exact .error rfl
    · exact .ok _
  monotonic_waited log seconds := by
    rw [List.foldl_append]
    exact le_rfl

theorem operation_balanced_lossy :
    let _ := asciiData
    ∃ s : Pool.State (Fin 2), s.shared.pool.available = [0] ∧
      ∀ r w', (Operation.executeRead "SELECT 42".toList 1).perform lossySite "primary".toList
        { pools := fun _ ↦ s.shared.pool, next := s.shared.next } = (r, w') →
        (∀ i, (w'.pools i).inUse.Perm s.shared.pool.inUse) ∧
        ∃ events, w'.log = events ∧ RetriesOnce lossySite (.executeRead "SELECT 42".toList 1) r events := by
  intro U
  have hrun : (run (Pool.step Pool.smallInstance) {}
      (Pool.freshBlock (0 : Fin 2) Pool.reader [.move 0 .execute])).map (fun s ↦ s.shared.pool.available) =
      some [0] := by decide
  obtain ⟨s, hr, ha⟩ := Option.map_eq_some_iff.mp hrun
  refine ⟨s, ha, fun r w' hw ↦ ?_⟩
  obtain ⟨hperm, events, he, -, hread⟩ := operation_balanced lossySite (.executeRead "SELECT 42".toList 1)
    "primary".toList (Reachable.of_run_forall .init (fun _ _ _ ↦ trivial) hr) rfl le_rfl hw
  exact ⟨hperm, events, he, hread rfl⟩

end McpSqlServer.ConnectionManager

import McpSqlServer.ConnectionManager.Balance

namespace McpSqlServer.ConnectionManager

open Library Library.Text Library.Python
open Pool (Conn PoolState)

variable {α : Type} {S : Site} {instanceId : Str} {c : Conn} {E : Exc → World → Prop} {inst : SqlInstanceConfig}
  {databaseOverride : Option Str} {p : List Event → Prop}

/-- What acquiring and releasing a connection does: driver calls other than commits, and waits. -/
def Event.isUpkeep : Event → Bool
  | .call (.commit _) => false
  | .call _ => true
  | .waited _ => true
  | _ => false

/-- An assertion about the events so far that acquiring and releasing leave alone. -/
def Maintained (p : List Event → Prop) : Prop := ∀ log e, e.isUpkeep = true → p log → p (log ++ [e])

def MaintainedOn (c : Conn) (p : List Event → Prop) : Prop :=
  ∀ log d, d.conn = some c → (Event.call d).isUpkeep = true → p log → p (log ++ [.call d])

theorem Maintained.on (hp : Maintained p) (c : Conn) : MaintainedOn c p := fun log _ _ hd ↦ hp log _ hd

theorem ask_maintained (hp : MaintainedOn c p) {d : DriverCall} (hc : d.conn = some c)
    (hd : (Event.call d).isUpkeep = true) :
    Triple (fun w ↦ p w.log) (ask S d) (fun _ w ↦ p w.log) (fun e w ↦ e.caught = true ∧ p w.log) :=
  ask_spec (fun w h ↦ hp w.log d hc hd h)

theorem suppress_maintained (hp : MaintainedOn c p) {d : DriverCall} (hc : d.conn = some c)
    (hd : (Event.call d).isUpkeep = true) :
    Triple (fun w ↦ p w.log) (suppress (ask S d)) (fun _ w ↦ p w.log) E :=
  suppress_spec (ask_maintained hp hc hd)

theorem isConnectionUsable_maintained (hp : MaintainedOn c p) :
    Triple (fun w ↦ p w.log) (isConnectionUsable S c) (fun _ w ↦ p w.log) E := by
  apply succeeds_spec
  refine .bind (ask_maintained hp rfl rfl) (fun _ ↦ .bind (ask_maintained hp rfl rfl) (fun _ ↦ ?_))
  exact ask_maintained hp rfl rfl

theorem updatePool_maintained (f : PoolState → PoolState) :
    Triple (fun w ↦ p w.log) (updatePool instanceId f) (fun _ w ↦ p w.log) E := Triple.modify (fun _ h ↦ h)

theorem connectNew_maintained (hp : Maintained p) :
    Invariant (fun w ↦ p w.log) (connectNew S inst databaseOverride) := by
  refine .bind (ask_invariant (fun w h ↦ hp w.log _ rfl h)) (fun _ ↦ .bind (.read _) (fun c ↦ .bind ?_ (fun _ ↦ .pure c)))
  exact Invariant.modify (fun _ h ↦ h)

theorem acquireLoop_maintained (hp : Maintained p) (deadline : ℚ) (rounds : ℕ) :
    Invariant (fun w ↦ p w.log) (acquireLoop S inst deadline rounds) := by
  induction rounds with
  | zero => exact Invariant.raise _
  | succ rounds ih =>
    refine .bind (.read id) (fun v ↦ ?_)
    split
    · refine .bind (updatePool_maintained _) (fun _ ↦ .bind (isConnectionUsable_maintained (hp.on _)) (fun usable ↦ ?_))
      split
      · exact Invariant.pure _
      · exact .bind (updatePool_maintained _) (fun _ ↦ .bind (suppress_maintained (hp.on _) rfl rfl) (fun _ ↦ ih))
    · exact .bind (connectNew_maintained hp) (fun _ ↦ .bind (updatePool_maintained _) (fun _ ↦ .pure _))
    · dsimp only
      split
      · exact Invariant.raise _
      · exact .bind (Invariant.modify (fun w h ↦ hp w.log _ rfl h)) (fun _ ↦ ih)

theorem acquireConnection_maintained (hp : Maintained p) :
    Invariant (fun w ↦ p w.log) (acquireConnection S instanceId databaseOverride) := by
  unfold acquireConnection
  split
  · exact Invariant.raise _
  · split
    · exact .bind (.read id) (fun _ ↦ .bind (acquireLoop_maintained hp _ _) (fun _ ↦ .pure _))
    · exact .bind (connectNew_maintained hp) (fun _ ↦ .pure _)

theorem returnConnection_maintained (hp : MaintainedOn c p) (shouldDiscard autocommitOk : Bool) :
    Triple (fun w ↦ p w.log) (returnConnection S inst c shouldDiscard autocommitOk) (fun _ w ↦ p w.log) E := by
  refine .read_bind (fun w h ↦ .modify_bind (I := fun w ↦ p w.log) (fun w' hw ↦ hw ▸ h) ?_)
  split
  · exact suppress_maintained hp rfl rfl
  · exact Triple.pure (fun _ h ↦ h)

theorem releaseConnection_maintained (hp : MaintainedOn c p) (hl : S.lookup instanceId = some inst) (pooled hadError : Bool) :
    Triple (fun w ↦ p w.log) (releaseConnection S instanceId c pooled hadError) (fun _ w ↦ p w.log) E := by
  refine .bind (R := fun _ w ↦ p w.log) ?_ (fun _ ↦ ?_)
  · split
    · exact suppress_maintained hp rfl rfl
    · exact Triple.pure (fun _ h ↦ h)
  · split
    · rw [hl]
      refine .bind (R := fun _ w ↦ p w.log) ?_ (fun usable ↦ .bind (R := fun _ w ↦ p w.log) ?_ (fun ok ↦ ?_))
      · split
        · exact Triple.pure (fun _ h ↦ h)
        · exact isConnectionUsable_maintained hp
      · split
        · exact succeeds_spec (ask_maintained hp rfl rfl)
        · exact Triple.pure (fun _ h ↦ h)
      · exact returnConnection_maintained hp _ ok
    · exact suppress_maintained hp rfl rfl

theorem acquireConnection_lookup {w w' : World} {r : Conn × Bool}
    (h : acquireConnection S instanceId databaseOverride w = (.ok r, w')) : ∃ inst, S.lookup instanceId = some inst := by
  cases hl : S.lookup instanceId with
  | some inst => exact ⟨inst, rfl⟩
  | none =>
    rw [acquireConnection, hl] at h
    cases h

theorem acquireConnection_known (hp : Maintained p) :
    Triple (fun w ↦ p w.log) (acquireConnection S instanceId databaseOverride)
      (fun _ w ↦ (∃ inst, S.lookup instanceId = some inst) ∧ p w.log) (fun _ w ↦ p w.log) := by
  intro w hw
  have h : Ends _ _ (acquireConnection S instanceId databaseOverride w) := acquireConnection_maintained hp w hw
  rcases hr : acquireConnection S instanceId databaseOverride w with ⟨r, w'⟩
  rw [hr] at h
  cases r with
  | ok r => exact ⟨acquireConnection_lookup hr, h⟩
  | error e => exact h

theorem releaseConnection_ok (hp : MaintainedOn c p) (hl : S.lookup instanceId = some inst) (pooled hadError : Bool)
    {w : World} (hw : p w.log) :
    ∃ w', releaseConnection S instanceId c pooled hadError w = (.ok (), w') ∧ p w'.log := by
  have h := releaseConnection_maintained (E := fun _ _ ↦ False) (c := c) hp hl pooled hadError w hw
  rcases hr : releaseConnection S instanceId c pooled hadError w with ⟨r, w'⟩
  rw [hr] at h
  cases r with
  | ok u => exact ⟨w', rfl, h⟩
  | error e => exact h.elim

def failureOf (r : Except Exc α) : Option Exc := match r with
  | .ok _ => none
  | .error e => some e

/-- A `connect` ends as its block does, behind the release of the connection. -/
theorem connect_eq_release {block : Conn → ManagerM α} {pooled : Bool} {w w₀ w₁ : World} {r : Except Exc α}
    (ha : acquireConnection S instanceId databaseOverride w = (.ok (c, pooled), w₀))
    (hb : block c (w₀.record (.entered c pooled)) = (r, w₁)) :
    connect S instanceId databaseOverride block w = (r, (releaseConnection S instanceId c pooled
      ((failureOf r).any Exc.caught) (w₁.record (.left c pooled (failureOf r)))).2) := by
  obtain ⟨inst, hl⟩ := acquireConnection_lookup ha
  have hentered : record (.entered c pooled) w₀ = (.ok (), w₀.record (.entered c pooled)) := rfl
  have hrecord (failure : Option Exc) : record (.left c pooled failure) w₁ = (.ok (), w₁.record (.left c pooled failure)) :=
    rfl
  have hrelease (failure : Option Exc) (hadError : Bool) :
      releaseConnection S instanceId c pooled hadError (w₁.record (.left c pooled failure)) =
        (.ok (), (releaseConnection S instanceId c pooled hadError (w₁.record (.left c pooled failure))).2) := by
    obtain ⟨w', hr, -⟩ := releaseConnection_ok (c := c) (p := fun _ ↦ True) (fun _ _ _ _ h ↦ h) hl pooled hadError
      (w := w₁.record (.left c pooled failure)) trivial
    rw [hr]
  rw [connect, Act.bind_of_ok ha]
  dsimp only
  rw [Act.bind_of_ok hentered]
  cases r with
  | ok a =>
    rw [Act.bind_of_ok (Act.catching_of_ok hb), Act.bind_of_ok (hrecord none), Act.bind_of_ok (hrelease none false)]
    rfl
  | error e =>
    have hhandler : Act.catching (block c) (fun e ↦ do
        record (.left c pooled (some e))
        releaseConnection S instanceId c pooled e.caught
        Act.raise e) (w₀.record (.entered c pooled)) =
          (.error e, (releaseConnection S instanceId c pooled e.caught (w₁.record (.left c pooled (some e)))).2) := by
      rw [Act.catching_of_error hb, Act.bind_of_ok (hrecord (some e)), Act.bind_of_ok (hrelease (some e) e.caught)]
      rfl
    exact Act.bind_of_error hhandler _

/-- What upkeep leaves alone a `connect` leaves alone behind its block. -/
theorem connect_of_block {block : Conn → ManagerM α} {pooled : Bool} {w w₀ w₁ : World} {r : Except Exc α}
    (hp : MaintainedOn c p) (ha : acquireConnection S instanceId databaseOverride w = (.ok (c, pooled), w₀))
    (hb : block c (w₀.record (.entered c pooled)) = (r, w₁)) (hleft : ∀ failure, p (w₁.log ++ [.left c pooled failure])) :
    ∃ w', connect S instanceId databaseOverride block w = (r, w') ∧ p w'.log := by
  obtain ⟨inst, hl⟩ := acquireConnection_lookup ha
  refine ⟨_, connect_eq_release ha hb, ?_⟩
  obtain ⟨w', hr, hw'⟩ := releaseConnection_ok (c := c) hp hl pooled ((failureOf r).any Exc.caught)
    (w := w₁.record (.left c pooled (failureOf r))) (hleft (failureOf r))
  rw [hr]
  exact hw'

end McpSqlServer.ConnectionManager

import McpSqlServer.Pool.Threads

namespace McpSqlServer.Pool

open Library.Text

/-- What a move can do, by cases: the relational form of `localStep`. -/
inductive Moves (inst : SqlInstanceConfig) (sh : Shared) : Thread → Move → Outcome → Prop
  | begin (call : Call) (phase : Phase)
      (hp : phase = if call.usePool inst then .acquiring else .connecting false) :
      Moves inst sh .idle (.begin call) ⟨sh, .active call phase, false⟩
  | reuse {call : Call} {timedOut : Bool} {rest : List Conn} {c : Conn}
      (ha : sh.pool.available = rest ++ [c]) :
      Moves inst sh (.active call .acquiring) (.acquire timedOut)
        ⟨{ sh with pool := { sh.pool with available := rest, inUse := sh.pool.inUse ++ [c],
                                          reusedTotal := sh.pool.reusedTotal + 1 } },
          .active call (.probing c), false⟩
  | createNew {call : Call} {timedOut : Bool} (ha : sh.pool.available = [])
      (hs : sh.pool.size < inst.poolCap) :
      Moves inst sh (.active call .acquiring) (.acquire timedOut) ⟨sh, .active call (.connecting true), false⟩
  | timeout {call : Call} (ha : sh.pool.available = []) (hs : inst.poolCap ≤ sh.pool.size) :
      Moves inst sh (.active call .acquiring) (.acquire true) ⟨sh, .idle, false⟩
  | wait {call : Call} (ha : sh.pool.available = []) (hs : inst.poolCap ≤ sh.pool.size) :
      Moves inst sh (.active call .acquiring) (.acquire false) ⟨sh, .active call (.waiting false), false⟩
  | wake {call : Call} {n : Bool} :
      Moves inst sh (.active call (.waiting n)) .wake ⟨sh, .active call .acquiring, false⟩
  | connectFailed {call : Call} {p : Bool} :
      Moves inst sh (.active call (.connecting p)) (.connect false) ⟨sh, .idle, false⟩
  | connectPooled {call : Call} :
      Moves inst sh (.active call (.connecting true)) (.connect true)
        ⟨sh.openNew, .active call (.registering sh.next), false⟩
  | connectUnpooled {call : Call} :
      Moves inst sh (.active call (.connecting false)) (.connect true)
        ⟨sh.openNew, .active call (.running sh.next false 0 false), false⟩
  | register {call : Call} {c : Conn} :
      Moves inst sh (.active call (.registering c)) .register
        ⟨{ sh with pool := sh.pool.registerCreated c }, .active call (.running c true 0 false), false⟩
  | probeOk {call : Call} {c : Conn} (hu : sh.usable c) :
      Moves inst sh (.active call (.probing c)) (.probe true)
        ⟨sh.execute c .probe, .active call (.running c true 0 false), false⟩
  | probeFailed {call : Call} {c : Conn} :
      Moves inst sh (.active call (.probing c)) (.probe false) ⟨sh, .active call (.discarding c), false⟩
  | discard {call : Call} {c : Conn} :
      Moves inst sh (.active call (.discarding c)) .discard
        ⟨{ sh with pool := sh.pool.discardStale c }, .active call (.closingStale c), true⟩
  | closeStale {call : Call} {c : Conn} :
      Moves inst sh (.active call (.closingStale c)) .closeStale
        ⟨sh.close c, .active call .acquiring, false⟩
  | execute {call : Call} {p committed : Bool} {c : Conn} {done : ℕ} {sql : Str}
      (hs : call.op.statements[done]? = some sql) (hu : sh.usable c) :
      Moves inst sh (.active call (.running c p done committed)) .execute
        ⟨sh.execute c (.body sql), .active call (.running c p (done + 1) committed), false⟩
  | commitOk {call : Call} {p : Bool} {c : Conn} {done : ℕ} (hc : call.op.commits)
      (hd : done = call.op.statements.length) (hu : sh.usable c) :
      Moves inst sh (.active call (.running c p done false)) (.commit true)
        ⟨sh.commit c, .active call (.running c p done true), false⟩
  | commitFailed {call : Call} {p : Bool} {c : Conn} {done : ℕ} (hc : call.op.commits)
      (hd : done = call.op.statements.length) :
      Moves inst sh (.active call (.running c p done false)) (.commit false)
        ⟨sh, .active call (.rollingBack c p), false⟩
  | finishOk {call : Call} {p committed : Bool} {c : Conn} {done : ℕ} (hc : committed = call.op.commits)
      (hd : done = call.op.statements.length) :
      Moves inst sh (.active call (.running c p done committed)) (.finish true)
        ⟨sh, .active call (if p then .checking c else .closing c), false⟩
  | finishFailed {call : Call} {p committed : Bool} {c : Conn} {done : ℕ} :
      Moves inst sh (.active call (.running c p done committed)) (.finish false)
        ⟨sh, .active call (.rollingBack c p), false⟩
  | rollbackOk {call : Call} {p : Bool} {c : Conn} (hu : sh.usable c) :
      Moves inst sh (.active call (.rollingBack c p)) (.rollback true)
        ⟨sh.rollback c, .active call (if p then .releasing c true else .closing c), false⟩
  | rollbackFailed {call : Call} {p : Bool} {c : Conn} :
      Moves inst sh (.active call (.rollingBack c p)) (.rollback false)
        ⟨sh, .active call (if p then .releasing c true else .closing c), false⟩
  | checkOk {call : Call} {c : Conn} (hu : sh.usable c) :
      Moves inst sh (.active call (.checking c)) (.check true)
        ⟨sh.execute c .probe, .active call (.releasing c false), false⟩
  | checkFailed {call : Call} {c : Conn} :
      Moves inst sh (.active call (.checking c)) (.check false)
        ⟨sh, .active call (.releasing c true), false⟩
  | releaseAvailable {call : Call} {c : Conn}
      (hu : sh.usable c) (hl : sh.pool.available.length < inst.poolCap) :
      Moves inst sh (.active call (.releasing c false)) (.release true)
        ⟨{ sh with pool := { sh.pool.removeInUse c with available := sh.pool.available ++ [c] } },
          .idle, true⟩
  | releaseDiscard {call : Call} {shouldDiscard autocommitOk : Bool} {c : Conn} (hu : autocommitOk → sh.usable c)
      (hl : shouldDiscard = false → autocommitOk = true → inst.poolCap ≤ sh.pool.available.length) :
      Moves inst sh (.active call (.releasing c shouldDiscard)) (.release autocommitOk)
        ⟨{ sh with pool := sh.pool.discardStale c }, .active call (.closing c), true⟩
  | close {call : Call} {c : Conn} :
      Moves inst sh (.active call (.closing c)) .close ⟨sh.close c, .idle, false⟩

theorem running_moves {inst : SqlInstanceConfig} {sh : Shared} {call : Call} {c : Conn} {p committed : Bool}
    {done : ℕ} {m : Move} {o : Outcome}
    (h : localStep inst sh (.active call (.running c p done committed)) m = some o) :
    Moves inst sh (.active call (.running c p done committed)) m o := by
  cases m with
  | execute =>
    cases hs : call.op.statements[done]? with
    | none => simp only [localStep, hs, reduceCtorEq] at h
    | some sql =>
      simp only [localStep, hs, Option.ite_none_right_eq_some, Option.some.injEq] at h
      exact h.2 ▸ .execute hs h.1
  | commit ok =>
    cases committed with
    | true => cases h
    | false =>
      obtain ⟨⟨hc, hd⟩, h⟩ := Option.ite_none_right_eq_some.mp h
      cases ok with
      | false => cases h; exact .commitFailed hc hd
      | true =>
        obtain ⟨hu, h⟩ := Option.ite_none_right_eq_some.mp h
        cases h; exact .commitOk hc hd hu
  | finish ok =>
    cases ok with
    | false => cases h; exact .finishFailed
    | true =>
      obtain ⟨⟨hc, hd⟩, h⟩ := Option.ite_none_right_eq_some.mp h
      cases h; exact .finishOk hc hd
  | _ => cases committed <;> cases h

theorem releasing_moves {inst : SqlInstanceConfig} {sh : Shared} {call : Call} {c : Conn}
    {shouldDiscard autocommitOk : Bool} {o : Outcome}
    (h : localStep inst sh (.active call (.releasing c shouldDiscard)) (.release autocommitOk) = some o) :
    Moves inst sh (.active call (.releasing c shouldDiscard)) (.release autocommitOk) o := by
  simp only [localStep, Option.ite_none_left_eq_some, Bool.and_eq_true, Bool.not_eq_true', not_and,
    Bool.not_eq_false] at h
  obtain ⟨hu, h⟩ := h
  rcases sh.pool.release_cases inst.poolCap c shouldDiscard autocommitOk with
    ⟨rfl, rfl, hl, he⟩ | ⟨hl, he⟩
  · simp only [he, Option.some.injEq] at h
    exact h ▸ .releaseAvailable (hu rfl) hl
  · simp only [he, Option.some.injEq] at h
    exact h ▸ .releaseDiscard hu hl

theorem moves_of_localStep {inst : SqlInstanceConfig} {sh : Shared} {th : Thread} {m : Move} {o : Outcome}
    (h : localStep inst sh th m = some o) : Moves inst sh th m o := by
  cases th with
  | idle =>
    cases m with
    | begin call => cases h; exact .begin call _ rfl
    | _ => cases h
  | active call phase =>
    cases phase with
    | acquiring =>
      cases m with
      | acquire timedOut =>
        rcases sh.pool.acquire_cases inst.poolCap with ⟨rest, c, ha, he⟩ | ⟨ha, hs, he⟩ | ⟨ha, hs, he⟩
        · simp only [localStep, he, Option.some.injEq] at h
          exact h ▸ .reuse ha
        · simp only [localStep, he, Option.some.injEq] at h
          exact h ▸ .createNew ha hs
        · cases timedOut with
          | true =>
            simp only [localStep, he, if_true, Option.some.injEq] at h
            exact h ▸ .timeout ha hs
          | false =>
            simp only [localStep, he, Bool.false_eq_true, if_false, Option.some.injEq] at h
            exact h ▸ .wait ha hs
      | _ => cases h
    | waiting n => cases m with
      | wake => cases h; exact .wake
      | _ => cases h
    | connecting p => cases m with
      | connect ok => cases ok with
        | false => cases p <;> (cases h; exact .connectFailed)
        | true => cases p with
          | false => cases h; exact .connectUnpooled
          | true => cases h; exact .connectPooled
      | _ => cases p <;> cases h
    | registering c => cases m with
      | register => cases h; exact .register
      | _ => cases h
    | probing c => cases m with
      | probe ok => cases ok with
        | false => cases h; exact .probeFailed
        | true =>
          obtain ⟨hu, h⟩ := Option.ite_none_right_eq_some.mp h
          cases h; exact .probeOk hu
      | _ => cases h
    | discarding c => cases m with
      | discard => cases h; exact .discard
      | _ => cases h
    | closingStale c => cases m with
      | closeStale => cases h; exact .closeStale
      | _ => cases h
    | running c p done committed => exact running_moves h
    | rollingBack c p => cases m with
      | rollback ok => cases ok with
        | false => cases h; exact .rollbackFailed
        | true =>
          obtain ⟨hu, h⟩ := Option.ite_none_right_eq_some.mp h
          cases h; exact .rollbackOk hu
      | _ => cases h
    | checking c => cases m with
      | check ok => cases ok with
        | false => cases h; exact .checkFailed
        | true =>
          obtain ⟨hu, h⟩ := Option.ite_none_right_eq_some.mp h
          cases h; exact .checkOk hu
      | _ => cases h
    | releasing c shouldDiscard => cases m with
      | release autocommitOk => exact releasing_moves h
      | _ => cases h
    | closing c => cases m with
      | close => cases h; exact .close
      | _ => cases h

theorem localStep_of_moves {inst : SqlInstanceConfig} {sh : Shared} {th : Thread} {m : Move} {o : Outcome}
    (h : Moves inst sh th m o) : localStep inst sh th m = some o := by
  cases h with
  | begin call phase hp => rw [hp]; rfl
  | reuse ha => simp only [localStep, PoolState.acquire, ha, List.getLast?_concat, List.dropLast_concat]
  | createNew ha hs => simp only [localStep, PoolState.acquire, ha, List.getLast?_nil, if_pos hs]
  | timeout ha hs | wait ha hs =>
    simp [localStep, PoolState.acquire, ha, Nat.not_lt.mpr hs]
  | @connectFailed _ p => cases p <;> rfl
  | @commitFailed _ _ _ _ hc hd => exact if_pos ⟨hc, hd⟩
  | @commitOk _ _ _ _ hc hd hu => simp only [localStep, hc, hd, hu, and_self, if_true]
  | execute hs hu => simp only [localStep, hs, hu, if_true]
  | @finishOk _ _ committed _ _ hc hd => cases committed <;> exact if_pos ⟨hc, hd⟩
  | @finishFailed _ _ committed => cases committed <;> rfl
  | probeOk hu | rollbackOk hu | checkOk hu => exact if_pos hu
  | @releaseAvailable _ c hu hl => simp [localStep, PoolState.release, PoolState.removeInUse, hu, hl]
  | @releaseDiscard call shouldDiscard autocommitOk c hu hl =>
    have hguard : (autocommitOk && !sh.usable c) = false := by
      cases autocommitOk with
      | false => rfl
      | true => rw [hu rfl]; rfl
    have hrelease : sh.pool.release inst.poolCap c shouldDiscard autocommitOk = (true, sh.pool.discardStale c) := by
      rcases sh.pool.release_cases inst.poolCap c shouldDiscard autocommitOk with ⟨hd, ha, hlt, -⟩ | ⟨-, he⟩
      · exact absurd (hl hd ha) (Nat.not_le.mpr hlt)
      · exact he
    simp only [localStep, hguard, Bool.false_eq_true, if_false, hrelease]
  | _ => rfl

theorem Shared.foldl_close_next (cs : List Conn) (sh : Shared) : (cs.foldl close sh).next = sh.next := by
  induction cs generalizing sh with
  | nil => rfl
  | cons c cs ih => exact ih (sh.close c)

theorem Shared.foldl_close_conn (cs : List Conn) (sh : Shared) (c : Conn) :
    (cs.foldl close sh).conn c =
      if c ∈ cs then { sh.conn c with uncommitted := [], closed := true } else sh.conn c := by
  induction cs generalizing sh with
  | nil => rfl
  | cons d cs ih =>
    rw [List.foldl_cons, ih]
    by_cases hcd : c = d
    · subst hcd
      simp [close]
    · rw [close, setConn_of_ne hcd]
      simp [hcd]

theorem Shared.closeAll_conn (sh : Shared) (c : Conn) :
    sh.closeAll.conn c = if c ∈ sh.pool.available ++ sh.pool.inUse then
      { sh.conn c with uncommitted := [], closed := true } else sh.conn c :=
  foldl_close_conn _ sh c

theorem Shared.closeAll_next (sh : Shared) : sh.closeAll.next = sh.next := foldl_close_next _ sh

theorem Shared.closeAll_available (sh : Shared) : sh.closeAll.pool.available = [] := rfl

theorem Thread.keeps {p : Thread → Prop} (hp : ∀ th, p th → p th.notify) {th th' : Thread}
    (h : th' = th ∨ th' = th.notify) (hth : p th) : p th' := by
  rcases h with rfl | rfl
  · exact hth
  · exact hp th hth

theorem Thread.notify_congr {α : Type*} {f : Thread → α} (hf : ∀ th, f th.notify = f th) {th th' : Thread}
    (h : th' = th ∨ th' = th.notify) : f th' = f th := by
  rcases h with rfl | rfl
  · rfl
  · exact hf th

section System

variable {Tid : Type} [DecidableEq Tid] {s s' : State Tid} {t : Tid} {o : Outcome}

theorem after_thread_self : (s.after t o).thread t = o.thread := by
  simp only [State.after, Function.update_self]

theorem after_thread_of_ne {u : Tid} (h : u ≠ t) :
    (s.after t o).thread u = s.thread u ∨ (s.after t o).thread u = (s.thread u).notify := by
  unfold State.after
  cases o.notifyAll with
  | false => exact .inl (Function.update_of_ne h _ _)
  | true => exact .inr (Function.update_of_ne h _ _)

variable [Fintype Tid] {inst : SqlInstanceConfig} {m : Move}

theorem step_move_iff : step inst s (.move t m) = some s' ↔
    ∃ o, Moves inst s.shared (s.thread t) m o ∧ ((m.needsLock || o.thread.holdsLock) → s.lockFree t) ∧ s' = s.after t o := by
  unfold step
  constructor
  · intro h
    cases ho : localStep inst s.shared (s.thread t) m with
    | none => simp only [ho, reduceCtorEq] at h
    | some o =>
      simp only [ho, Option.ite_none_right_eq_some, Option.some.injEq] at h
      exact ⟨o, moves_of_localStep ho, h.1, h.2.symm⟩
  · rintro ⟨o, hm, hlock, rfl⟩
    simp only [localStep_of_moves hm]
    exact if_pos hlock

theorem step_move (h : step inst s (.move t m) = some s') :
    ∃ o, Moves inst s.shared (s.thread t) m o ∧ s' = s.after t o := by
  obtain ⟨o, hm, -, he⟩ := step_move_iff.mp h
  exact ⟨o, hm, he⟩

theorem step_closeAllPools (h : step inst s .closeAllPools = some s') :
    s' = { shared := s.shared.closeAll, thread := fun u ↦ (s.thread u).notify } := by
  unfold step at h
  exact ((Option.ite_none_right_eq_some.mp h).2 |> Option.some.inj).symm

end System

end McpSqlServer.Pool

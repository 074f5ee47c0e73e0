import McpSqlServer.ConnectionManager.Upkeep

namespace McpSqlServer.ConnectionManager

open Library Library.Text Library.Python
open Pool (Conn PoolState)

variable {S : Site} {instanceId procName : Str} {params : List Value} {databaseOverride : Option Str} {c : Conn}
  {start log : List Event} {w w₁ : World}

def Committed (S : Site) (start log : List Event) : Prop :=
  ∃ pre c, start ++ pre ++ [.call (.commit c)] <+: log ∧ ∃ r, S.answer (start ++ pre ++ [.call (.commit c)]) = .ok r

section Committed

theorem Committed.append (h : Committed S start log) (e : Event) : Committed S start (log ++ [e]) := by
  obtain ⟨pre, c, hlog, hr⟩ := h
  exact ⟨pre, c, hlog.trans (List.prefix_append log [e]), hr⟩

theorem not_committed_self : ¬ Committed S log log := by
  intro ⟨pre, c, hlog, _⟩
  have hlen := hlog.length_le
  simp only [List.length_append, List.length_singleton] at hlen
  omega

theorem committed_append_iff (h : ¬ Committed S start log) {e : Event} (hs : start <+: log) :
    Committed S start (log ++ [e]) ↔ (∃ c, e = .call (.commit c)) ∧ ∃ r, S.answer (log ++ [e]) = .ok r := by
  constructor
  · intro ⟨pre, c, hlog, hr⟩
    rcases List.prefix_concat_iff.mp hlog with heq | hlog
    · obtain ⟨hpre, he⟩ := List.append_inj' heq rfl
      rw [heq] at hr
      exact ⟨⟨c, (List.singleton_inj.mp he).symm⟩, hr⟩
    · exact absurd ⟨pre, c, hlog, hr⟩ h
  · intro ⟨⟨c, he⟩, hr⟩
    obtain ⟨pre, rfl⟩ := hs
    subst he
    exact ⟨pre, c, List.prefix_refl _, hr⟩

def Uncommitted (S : Site) (start log : List Event) : Prop := start <+: log ∧ ¬ Committed S start log

theorem Uncommitted.append (h : Uncommitted S start log) {e : Event}
    (he : ∀ c, e = .call (.commit c) → ∃ x, S.answer (log ++ [e]) = .error x) : Uncommitted S start (log ++ [e]) := by
  refine ⟨h.1.trans (List.prefix_append log [e]), fun hc ↦ ?_⟩
  obtain ⟨⟨c, hcommit⟩, r, hr⟩ := (committed_append_iff h.2 h.1).mp hc
  obtain ⟨x, hx⟩ := he c hcommit
  rw [hx] at hr
  cases hr

theorem uncommitted_maintained : Maintained (Uncommitted S start) := by
  intro log e he h
  apply h.append
  rintro c rfl
  cases he

theorem committed_maintained : Maintained (Committed S start) := fun _ e _ h ↦ h.append e

end Committed

theorem ask_apply (S : Site) (d : DriverCall) (w : World) :
    ask S d w = (S.answer (w.log ++ [.call d]), w.record (.call d)) := rfl

theorem ask_answered {d : DriverCall} {P : World → Prop} {Q : Reply → World → Prop} {E : Exc → World → Prop}
    (hQ : ∀ w r, P w → S.answer (w.log ++ [.call d]) = .ok r → Q r (w.record (.call d)))
    (hE : ∀ w e, P w → S.answer (w.log ++ [.call d]) = .error e → E e (w.record (.call d))) :
    Triple P (ask S d) Q E := by
  intro w hw
  rw [ask_apply]
  cases hr : S.answer (w.log ++ [.call d]) with
  | ok r => exact hQ w r hw hr
  | error e => exact hE w e hw hr

variable [UnicodeData]

/-- `execute_proc` up to its commit: whether there is a result set, its columns and its rows. -/
def commitProc (S : Site) (procName : Str) (params : List Value) (c : Conn) :
    ManagerM (Bool × List Str × List Row) := do
  let _ ← ask S (.cursor c)
  let _ ← ask S (.execute c (execStatement procName params.length) params)
  let described ← ask S (.description c)
  let hasResultSet := !(described.description.getD []).isEmpty
  let (columns, rows) ← (if hasResultSet then do
      let columns ← columnNames S c
      let reply ← ask S (.fetchall c)
      pure (columns, toRows columns reply.rows)
    else pure ([], []))
  let _ ← ask S (.commit c)
  pure (hasResultSet, columns, rows)

omit [UnicodeData] in
def procResult (procName : Str) (d : Bool × List Str × List Row) (rowcount : ℤ) : Value :=
  .dict [("status".toList, .str "ok".toList), ("procedure".toList, .str procName),
    ("rowcount".toList, .int rowcount), ("has_result_set".toList, .bool d.1),
    ("columns".toList, .list (d.2.1.map .str)), ("rows".toList, ofRows d.2.2)]

theorem executeProcOp_eq (S : Site) (procName : Str) (params : List Value) (c : Conn) :
    executeProcOp S procName params c = (do
      let d ← commitProc S procName params c
      let counted ← ask S (.rowcount c)
      pure (procResult procName d counted.rowcount)) := by
  simp only [executeProcOp, commitProc, Act.bind_assoc, Act.pure_bind]
  rfl

/-- From `w` the manager gets to `w₁`, right behind the commit of the procedure on `c`. -/
def AtCommit (S : Site) (instanceId procName : Str) (params : List Value) (databaseOverride : Option Str) (w : World)
    (c : Conn) (d : Bool × List Str × List Row) (w₁ : World) : Prop :=
  ∃ pooled w₀, acquireConnection S instanceId databaseOverride w = (.ok (c, pooled), w₀) ∧
    commitProc S procName params c (w₀.record (.entered c pooled)) = (.ok d, w₁)

section Block

variable {d : Bool × List Str × List Row}

omit [UnicodeData] in
theorem ask_uncommitted {e : DriverCall} (he : ∀ c, e ≠ .commit c) :
    Invariant (fun w ↦ Uncommitted S start w.log) (ask S e) := by
  refine ask_invariant (fun w h ↦ h.append (fun c hc ↦ ?_))
  exact absurd (Event.call.inj hc) (he c)

omit [UnicodeData] in
theorem commit_spec : Triple (fun w ↦ Uncommitted S start w.log) (ask S (.commit c))
    (fun _ w ↦ Committed S start w.log) (fun _ w ↦ Uncommitted S start w.log) := by
  apply ask_answered
  · intro w r h hr
    exact (committed_append_iff h.2 h.1).mpr ⟨⟨c, rfl⟩, r, hr⟩
  · intro w e h hr
    exact h.append (fun _ _ ↦ ⟨e, hr⟩)

theorem commitProc_spec : Triple (fun w ↦ Uncommitted S start w.log) (commitProc S procName params c)
    (fun _ w ↦ Committed S start w.log) (fun _ w ↦ Uncommitted S start w.log) := by
  have hcolumns : Invariant (fun w ↦ Uncommitted S start w.log) (columnNames S c) :=
    .bind (ask_uncommitted (by simp)) (fun _ ↦ Invariant.ofExcept _)
  refine .bind (ask_uncommitted (by simp)) (fun _ ↦ .bind (ask_uncommitted (by simp)) (fun _ ↦ ?_))
  refine .bind (ask_uncommitted (by simp)) (fun described ↦ ?_)
  refine .bind (R := fun _ w ↦ Uncommitted S start w.log) ?_ (fun data ↦ ?_)
  · split
    · exact .bind hcolumns (fun columns ↦ .bind (ask_uncommitted (by simp)) (fun _ ↦ Invariant.pure _))
    · exact Invariant.pure _
  · exact .bind commit_spec (fun _ ↦ .pure (fun _ h ↦ h))

omit [UnicodeData] in
theorem acquireConnection_uncommitted {r : Except Exc (Conn × Bool)} {w₀ : World}
    (ha : acquireConnection S instanceId databaseOverride w = (r, w₀)) : Uncommitted S w.log w₀.log := by
  have hacquires : Invariant (fun w' ↦ Uncommitted S w.log w'.log) (acquireConnection S instanceId databaseOverride) :=
    acquireConnection_maintained uncommitted_maintained
  have hacquire := hacquires w ⟨List.prefix_refl _, not_committed_self⟩
  rw [ha] at hacquire
  exact hacquire.snd (fun _ _ h ↦ h) (fun _ _ h ↦ h)

theorem commitProc_entered {pooled : Bool} {w₀ : World}
    (ha : acquireConnection S instanceId databaseOverride w = (.ok (c, pooled), w₀)) :
    Ends (fun _ w' ↦ Committed S w.log w'.log) (fun _ w' ↦ Uncommitted S w.log w'.log)
      (commitProc S procName params c (w₀.record (.entered c pooled))) :=
  commitProc_spec _ ((acquireConnection_uncommitted ha).append (fun _ h ↦ by cases h))

theorem executeProc_of_not_atCommit
    (h : ∀ c d w₁, ¬ AtCommit S instanceId procName params databaseOverride w c d w₁) :
    ¬ Committed S w.log (executeProc S instanceId procName params databaseOverride w).2.log ∧
      ∃ e, (executeProc S instanceId procName params databaseOverride w).1 = .error e := by
  rcases ha : acquireConnection S instanceId databaseOverride w with ⟨r, w₀⟩
  cases r with
  | error e =>
    have hrun : executeProc S instanceId procName params databaseOverride w = (.error e, w₀) := Act.bind_of_error ha _
    rw [hrun]
    exact ⟨(acquireConnection_uncommitted ha).2, e, rfl⟩
  | ok r =>
    obtain ⟨c, pooled⟩ := r
    have hspec : Ends _ _ (commitProc S procName params c (w₀.record (.entered c pooled))) := commitProc_entered ha
    rcases hb : commitProc S procName params c (w₀.record (.entered c pooled)) with ⟨r, w₁⟩
    rw [hb] at hspec
    cases r with
    | ok d => exact absurd ⟨pooled, w₀, ha, hb⟩ (h c d w₁)
    | error e =>
      have hblock : executeProcOp S procName params c (w₀.record (.entered c pooled)) = (.error e, w₁) := by
        rw [executeProcOp_eq]
        exact Act.bind_of_error hb _
      obtain ⟨w', hrun, hw'⟩ := connect_of_block (uncommitted_maintained.on c) ha hblock
        (fun failure ↦ hspec.append (fun _ h ↦ by cases h))
      rw [executeProc, hrun]
      exact ⟨hw'.2, e, rfl⟩

theorem AtCommit.executeProc_eq
    (h : AtCommit S instanceId procName params databaseOverride w c d w₁) :
    Committed S w.log (executeProc S instanceId procName params databaseOverride w).2.log ∧
      (executeProc S instanceId procName params databaseOverride w).1 =
        (S.answer (w₁.log ++ [.call (.rowcount c)])).map (fun r ↦ procResult procName d r.rowcount) := by
  obtain ⟨pooled, w₀, ha, hb⟩ := h
  have hcommitted : Ends _ _ (commitProc S procName params c (w₀.record (.entered c pooled))) := commitProc_entered ha
  rw [hb] at hcommitted
  have hblock : executeProcOp S procName params c (w₀.record (.entered c pooled)) =
      ((S.answer (w₁.log ++ [.call (.rowcount c)])).map (fun r ↦ procResult procName d r.rowcount),
        w₁.record (.call (.rowcount c))) := by
    rw [executeProcOp_eq, Act.bind_of_ok hb]
    exact Act.bind_pure_apply (ask S (.rowcount c)) (fun r ↦ procResult procName d r.rowcount) w₁
  obtain ⟨w', hrun, hw'⟩ := connect_of_block (committed_maintained.on c) ha hblock
    (fun failure ↦ (Committed.append hcommitted (.call (.rowcount c))).append _)
  rw [executeProc, hrun]
  exact ⟨hw', rfl⟩

end Block

end McpSqlServer.ConnectionManager

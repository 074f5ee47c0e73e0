import McpSqlServer.Library.DirectedCycle
import McpSqlServer.Library.Python.Exc
import McpSqlServer.Library.Python.Set
import McpSqlServer.Tools.HeadBlockers
import Mathlib.Data.List.Sort

namespace McpSqlServer

open Library Library.Text Library.Python

def isPositive : Value → Except Exc Bool
  | .int n => .ok (0 < n)
  | .bool b => .ok b
  | _ => .error (typeError "'>' not supported between these types".toList)

/-- The sets `blocking_ids` and `blocked_ids` of `fetch_sessions_dashboard_data`; only the sorted
difference is read. -/
structure LockIds where
  blocking : List ℤ := []
  blocked : List ℤ := []

def addId [UnicodeData] (v : Value) (ids : List ℤ) : List ℤ :=
  match pyInt v with
  | some n => ids.insert n
  | none => ids

def noteSession [UnicodeData] (sessionId : Value) (blocked : List ℤ) : List ℤ :=
  match sessionId with
  | .none => blocked
  | v => addId v blocked

def noteLockRow [UnicodeData] (ids : LockIds) (row : Row) : Except Exc LockIds :=
  let blocked := noteSession (row.get "session_id".toList) ids.blocked
  match row.get "blocking_session_id".toList with
  | .none => .ok { ids with blocked := blocked }
  | v => (isPositive v).bind (fun positive ↦
    .ok { blocking := if positive then addId v ids.blocking else ids.blocking, blocked := blocked })

/-- The `head_blockers` of `fetch_sessions_dashboard_data`, before the cut to 25. -/
def fetchHeadBlockers [UnicodeData] (lockRows : List Row) : Except Exc (List ℤ) :=
  (lockRows.foldlM noteLockRow {}).bind (fun ids ↦
    let sorted := (ids.blocking.filter (fun s ↦ s ∉ ids.blocked)).mergeSort (fun s t ↦ decide (s ≤ t))
    .ok (sorted.foldl (fun heads s ↦ if s ∈ heads then heads else heads ++ [s]) []))

def WaitsFor (rows : List Row) (s t : ℤ) : Prop :=
  ∃ row ∈ rows, Row.waiting row = some s ∧ Row.blocker row = some t ∧ 0 < t ∧ t ≠ s

def Listed (rows : List Row) (s : ℤ) : Prop := ∃ row ∈ rows, Row.waiting row = some s

def Unentangled (rows : List Row) (s : ℤ) : Prop :=
  ∀ t, Relation.ReflTransGen (WaitsFor rows) s t → ¬ Relation.TransGen (WaitsFor rows) t t

/-- Every blocked session from which no cycle is reached has a chain of blockers to a head, and
every head blocks another session and is not blocked by another one. -/
structure ExplainsBlocks (rows : List Row) (heads : List ℤ) : Prop where
  chain : ∀ s, BlockedByAnother rows s → Unentangled rows s → ∃ t, Relation.TransGen (WaitsFor rows) s t ∧ t ∈ heads
  blocks : ∀ t ∈ heads, ∃ s, WaitsFor rows s t
  unblocked : ∀ t ∈ heads, ¬ BlockedByAnother rows t

theorem blockedByAnother_iff {rows : List Row} {s : ℤ} : BlockedByAnother rows s ↔ ∃ t, WaitsFor rows s t := by
  constructor
  · rintro ⟨row, hr, hw, t, hb, hpos, hne⟩
    exact ⟨t, row, hr, hw, hb, hpos, hne⟩
  · rintro ⟨t, row, hr, hw, hb, hpos, hne⟩
    exact ⟨row, hr, hw, t, hb, hpos, hne⟩

section Loop

variable [UnicodeData] {rows : List Row} {row : Row} {ids : LockIds}

theorem noteSession_gains (hs : Row.IntegerOrNull row "session_id".toList) (blocked : List ℤ) :
    Gains (fun s ↦ Row.waiting row = some s) blocked (noteSession (row.get "session_id".toList) blocked) := by
  rcases hs with hs | ⟨n, hs⟩
  · simp only [Row.waiting, Row.number, hs]
    exact (Gains.refl _).congr (fun s ↦ by simp)
  · simp only [Row.waiting, Row.number, hs]
    exact (Gains.insert n _).congr (fun s ↦ by rw [Option.some.injEq, eq_comm])

theorem noteLockRow_spec (hs : Row.IntegerOrNull row "session_id".toList)
    (hb : Row.IntegerOrNull row "blocking_session_id".toList) (ids : LockIds) :
    ∃ ids', noteLockRow ids row = .ok ids' ∧
      Gains (fun t ↦ 0 < t ∧ Row.blocker row = some t) ids.blocking ids'.blocking ∧
      Gains (fun s ↦ Row.waiting row = some s) ids.blocked ids'.blocked := by
  have hgains := noteSession_gains hs ids.blocked
  unfold noteLockRow
  rcases hb with hb | ⟨n, hb⟩
  · simp only [Row.blocker, Row.number, hb]
    exact ⟨_, rfl, (Gains.refl _).congr (fun s ↦ by simp), hgains⟩
  · simp only [Row.blocker, Row.number, hb]
    refine ⟨_, rfl, ?_, hgains⟩
    by_cases hn : 0 < n
    · simp only [hn, decide_true, if_true]
      refine (Gains.insert n _).congr (fun s ↦ ?_)
      constructor
      · rintro rfl
        exact ⟨hn, rfl⟩
      · exact fun h ↦ (Option.some.inj h.2).symm
    · simp only [hn, decide_false, Bool.false_eq_true, if_false]
      refine (Gains.refl _).congr (fun s ↦ iff_of_false id ?_)
      rintro ⟨hs, he⟩
      exact hn (Option.some.inj he ▸ hs)

theorem foldlM_noteLockRow (h : ∀ row ∈ rows, Row.IntegerOrNull row "session_id".toList ∧
    Row.IntegerOrNull row "blocking_session_id".toList) (ids : LockIds) :
    ∃ ids', rows.foldlM noteLockRow ids = .ok ids' ∧
      Gains (fun t ↦ 0 < t ∧ ∃ row ∈ rows, Row.blocker row = some t) ids.blocking ids'.blocking ∧
      Gains (Listed rows) ids.blocked ids'.blocked := by
  induction rows generalizing ids with
  | nil => exact ⟨ids, rfl, (Gains.refl _).congr (fun t ↦ by simp), (Gains.refl _).congr (fun s ↦ by simp [Listed])⟩
  | cons row rows ih =>
    obtain ⟨hs, hb⟩ := h row List.mem_cons_self
    obtain ⟨ids₁, hrun₁, hblocking₁, hblocked₁⟩ := noteLockRow_spec hs hb ids
    obtain ⟨ids₂, hrun₂, hblocking₂, hblocked₂⟩ := ih (fun r hr ↦ h r (List.mem_cons_of_mem _ hr)) ids₁
    refine ⟨ids₂, ?_, (hblocking₁.trans hblocking₂).congr (fun t ↦ ?_), (hblocked₁.trans hblocked₂).congr (fun s ↦ ?_)⟩
    · rw [List.foldlM_cons, hrun₁]
      exact hrun₂
    · simp only [List.mem_cons, exists_eq_or_imp]
      rw [← and_or_left]
    · simp only [Listed, List.mem_cons, exists_eq_or_imp]

omit [UnicodeData] in
theorem foldl_append_new (l heads : List ℤ) (h : (heads ++ l).Nodup) :
    l.foldl (fun heads s ↦ if s ∈ heads then heads else heads ++ [s]) heads = heads ++ l := by
  induction l generalizing heads with
  | nil => exact (List.append_nil heads).symm
  | cons s l ih =>
    have hs : s ∉ heads := fun hm ↦ (List.nodup_append.mp h).2.2 s hm s List.mem_cons_self rfl
    rw [List.append_cons] at h
    rw [List.foldl_cons, if_neg hs, ih _ h, List.append_assoc, List.singleton_append]

theorem fetchHeadBlockers_spec (h : ∀ row ∈ rows, Row.IntegerOrNull row "session_id".toList ∧
    Row.IntegerOrNull row "blocking_session_id".toList) :
    ∃ heads, fetchHeadBlockers rows = .ok heads ∧ heads.Pairwise (· < ·) ∧
      ∀ t, t ∈ heads ↔ (0 < t ∧ ∃ row ∈ rows, Row.blocker row = some t) ∧ ¬ Listed rows t := by
  obtain ⟨ids, hrun, hblocking, hblocked⟩ := foldlM_noteLockRow h {}
  have hnodup : (ids.blocking.filter (fun s ↦ s ∉ ids.blocked)).Nodup := (hblocking.nodup List.nodup_nil).filter _
  have hperm := List.mergeSort_perm (ids.blocking.filter (fun s ↦ s ∉ ids.blocked)) (fun s t ↦ decide (s ≤ t))
  refine ⟨_, ?_, pairwise_lt_mergeSort hnodup, fun t ↦ ?_⟩
  · rw [fetchHeadBlockers, hrun]
    exact congrArg Except.ok (foldl_append_new _ [] (hperm.nodup_iff.mpr hnodup))
  · rw [hperm.mem_iff, List.mem_filter, decide_eq_true_iff, hblocking.mem, hblocked.mem]
    simp

end Loop

structure Explainable (rows : List Row) : Prop where
  blocker : ∀ s, BlockedByAnother rows s → Unentangled rows s →
    ∃ t, WaitsFor rows s t ∧ (¬ Listed rows t ∨ BlockedByAnother rows t)
  blocks : ∀ row ∈ rows, ∀ t, Row.blocker row = some t → 0 < t → ¬ Listed rows t → Blocks rows t

section Heads

variable {rows : List Row} {heads : List ℤ} {s t : ℤ}

theorem Listed.of_blockedByAnother (h : BlockedByAnother rows s) : Listed rows s := by
  obtain ⟨row, hr, hw, -⟩ := h
  exact ⟨row, hr, hw⟩

def AreHeads (rows : List Row) (heads : List ℤ) : Prop :=
  ∀ t, t ∈ heads ↔ (0 < t ∧ ∃ row ∈ rows, Row.blocker row = some t) ∧ ¬ Listed rows t

theorem AreHeads.mem_of_waitsFor (h : AreHeads rows heads) (hw : WaitsFor rows s t) :
    t ∈ heads ↔ ¬ Listed rows t := by
  obtain ⟨row, hr, -, hb, hpos, -⟩ := hw
  exact (h t).trans (and_iff_right ⟨hpos, row, hr, hb⟩)

theorem AreHeads.waitsFor_iff (h : AreHeads rows heads) (ht : t ∈ heads) : (∃ s, WaitsFor rows s t) ↔ Blocks rows t := by
  constructor
  · rintro ⟨s, row, hr, hw, hb, -, -⟩
    exact ⟨row, hr, hb, s, hw⟩
  · rintro ⟨row, hr, hb, s, hw⟩
    refine ⟨s, row, hr, hw, hb, ((h t).mp ht).1.1, ?_⟩
    rintro rfl
    exact ((h t).mp ht).2 ⟨row, hr, hw⟩

theorem AreHeads.exists_chain (h : AreHeads rows heads) (hrows : Explainable rows) (hs : BlockedByAnother rows s)
    (hu : Unentangled rows s) : ∃ t, Relation.TransGen (WaitsFor rows) s t ∧ t ∈ heads := by
  have hnodes : ∀ a b, WaitsFor rows a b → b ∈ rows.filterMap Row.blocker := by
    rintro a b ⟨row, hr, -, hb, -⟩
    exact List.mem_filterMap.mpr ⟨row, hr, hb⟩
  refine exists_end (P := BlockedByAnother rows) hnodes hu (fun b hb hblocked ↦ ?_) hs
  have hub : Unentangled rows b := fun c hc ↦ hu c (hb.trans hc)
  obtain ⟨c, hbc, hc⟩ := hrows.blocker b hblocked hub
  refine ⟨c, hbc, ?_⟩
  rcases hc with hc | hc
  · exact .inr ((h.mem_of_waitsFor hbc).mpr hc)
  · exact .inl hc

theorem AreHeads.explainsBlocks_iff (h : AreHeads rows heads) : ExplainsBlocks rows heads ↔ Explainable rows := by
  constructor
  · intro he
    constructor
    · intro s hs hu
      obtain ⟨t, hst, ht⟩ := he.chain s hs hu
      obtain ⟨b, hsb, hbt⟩ := Relation.TransGen.head'_iff.mp hst
      refine ⟨b, hsb, ?_⟩
      rcases Relation.ReflTransGen.cases_head hbt with rfl | ⟨c, hbc, -⟩
      · exact .inl ((h b).mp ht).2
      · exact .inr (blockedByAnother_iff.mpr ⟨c, hbc⟩)
    · intro row hr t hb hpos hlisted
      have ht : t ∈ heads := (h t).mpr ⟨⟨hpos, row, hr, hb⟩, hlisted⟩
      exact (h.waitsFor_iff ht).mp (he.blocks t ht)
  · intro hrows
    constructor
    · exact fun s hs hu ↦ h.exists_chain hrows hs hu
    · intro t ht
      obtain ⟨⟨hpos, row, hr, hb⟩, hlisted⟩ := (h t).mp ht
      exact (h.waitsFor_iff ht).mpr (hrows.blocks row hr t hb hpos hlisted)
    · exact fun t ht hb ↦ ((h t).mp ht).2 (.of_blockedByAnother hb)

end Heads

/-- The heads that the app computes explain every block exactly when each session that waits for
others has a blocker that no row lists or that waits for another session itself, and each blocker
that no row lists blocks a session with a number. -/
theorem fetchHeadBlockers_explain_iff [UnicodeData] (rows : List Row)
    (h : ∀ row ∈ rows, Row.IntegerOrNull row "session_id".toList ∧
      Row.IntegerOrNull row "blocking_session_id".toList) :
    ∃ heads, fetchHeadBlockers rows = .ok heads ∧ (ExplainsBlocks rows heads ↔ Explainable rows) := by
  obtain ⟨heads, hrun, -, hheads⟩ := fetchHeadBlockers_spec h
  exact ⟨heads, hrun, AreHeads.explainsBlocks_iff hheads⟩

theorem fetchHeadBlockers_explain_iff_chain :
    let _ := asciiData
    ∃ heads, fetchHeadBlockers chainRows = .ok heads ∧ (ExplainsBlocks chainRows heads ↔ Explainable chainRows) := by
  intro U
  apply fetchHeadBlockers_explain_iff
  intro row hr
  simp only [chainRows, List.mem_cons, List.not_mem_nil, or_false] at hr
  rcases hr with rfl | rfl
  · exact ⟨.inr ⟨52, rfl⟩, .inr ⟨51, rfl⟩⟩
  · exact ⟨.inr ⟨51, rfl⟩, .inr ⟨50, rfl⟩⟩

/-- Session 51 runs in parallel and waits for its own tasks; 52 waits for it. -/
def parallelRows : List Row := [lockRow 51 51, lockRow 52 51]

theorem fetchHeadBlockers_miss_parallel :
    let _ := asciiData
    fetchHeadBlockers parallelRows = .ok [] ∧ BlockedByAnother parallelRows 52 ∧ Unentangled parallelRows 52 ∧
      ¬ ExplainsBlocks parallelRows [] := by
  intro U
  have hwaits : WaitsFor parallelRows 52 51 :=
    ⟨lockRow 52 51, List.mem_cons_of_mem _ List.mem_cons_self, rfl, rfl, by decide, by decide⟩
  have hedge : ∀ s t, WaitsFor parallelRows s t → s = 52 ∧ t = 51 := by
    rintro s t ⟨row, hr, hw, hb, -, hne⟩
    simp only [parallelRows, List.mem_cons, List.not_mem_nil, or_false] at hr
    rcases hr with rfl | rfl
    · exact absurd ((Option.some.inj hb).symm.trans (Option.some.inj hw)) hne
    · exact ⟨(Option.some.inj hw).symm, (Option.some.inj hb).symm⟩
  have hblocked : BlockedByAnother parallelRows 52 := blockedByAnother_iff.mpr ⟨51, hwaits⟩
  have hunentangled : Unentangled parallelRows 52 := by
    intro t _ hcycle
    obtain ⟨b, htb, -⟩ := Relation.TransGen.head'_iff.mp hcycle
    obtain ⟨c, -, hct⟩ := Relation.TransGen.tail'_iff.mp hcycle
    have h52 := (hedge t b htb).1
    have h51 := (hedge c t hct).2
    omega
  refine ⟨by decide +kernel, hblocked, hunentangled, fun h ↦ ?_⟩
  obtain ⟨t, -, ht⟩ := h.chain 52 hblocked hunentangled
  exact absurd ht List.not_mem_nil

end McpSqlServer

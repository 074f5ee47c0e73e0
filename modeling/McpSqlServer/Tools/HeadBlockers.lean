import McpSqlServer.Library.Python.Value
import Mathlib.Data.List.Induction
import Mathlib.Data.List.Nodup

namespace McpSqlServer

open Library.Text Library.Python

/-- `int(v)`; `none` stands for the `TypeError` and the `ValueError`. -/
def pyInt [UnicodeData] : Value → Option ℤ
  | .int n => some n
  | .bool b => some (if b then 1 else 0)
  | .str s => parseInt s
  | _ => none

def addBlocker [UnicodeData] (headBlockers : List ℤ) (row : Row) : List ℤ :=
  match row.get "blocking_session_id".toList with
  | .none => headBlockers
  | blocker =>
    match pyInt blocker with
    | none => headBlockers
    | some blockerId =>
      if 0 < blockerId ∧ blockerId ∉ headBlockers then headBlockers ++ [blockerId] else headBlockers

def sessionsDashboardHeadBlockers [UnicodeData] (lockRows : List Row) : List ℤ := lockRows.foldl addBlocker []

/-- The `head_blockers` of `_refresh_dashboard_html`, by the same loop. -/
def refreshDashboardHeadBlockers [UnicodeData] (lockRows : List Row) : List ℤ := lockRows.foldl addBlocker []

def Row.number (row : Row) (column : Str) : Option ℤ :=
  match row.get column with
  | .int n => some n
  | _ => none

def Row.IntegerOrNull (row : Row) (column : Str) : Prop :=
  row.get column = .none ∨ ∃ n, row.get column = .int n

def Row.waiting (row : Row) : Option ℤ := Row.number row "session_id".toList

def Row.blocker (row : Row) : Option ℤ := Row.number row "blocking_session_id".toList

def Blocks (rows : List Row) (s : ℤ) : Prop := ∃ row ∈ rows, Row.blocker row = some s ∧ ∃ t, Row.waiting row = some t

def BlockedByAnother (rows : List Row) (s : ℤ) : Prop :=
  ∃ row ∈ rows, Row.waiting row = some s ∧ ∃ t, Row.blocker row = some t ∧ 0 < t ∧ t ≠ s

def IsRoot (rows : List Row) (s : ℤ) : Prop := 0 < s ∧ Blocks rows s ∧ ¬ BlockedByAnother rows s

/-- The list names each root once and nothing else. -/
structure ListsRoots (rows : List Row) (heads : List ℤ) : Prop where
  nodup : heads.Nodup
  mem_iff : ∀ s, s ∈ heads ↔ IsRoot rows s

section Loop

variable [UnicodeData] {rows : List Row} {row : Row} {heads : List ℤ} {s : ℤ}

theorem addBlocker_eq (h : Row.IntegerOrNull row "blocking_session_id".toList) (heads : List ℤ) :
    addBlocker heads row = heads ∧ (∀ s, Row.blocker row = some s → 0 < s → s ∈ heads) ∨
      ∃ s, Row.blocker row = some s ∧ 0 < s ∧ s ∉ heads ∧ addBlocker heads row = heads ++ [s] := by
  unfold addBlocker Row.blocker Row.number
  rcases h with h | ⟨n, h⟩
  · rw [h]
    exact .inl ⟨rfl, fun s hs ↦ nomatch hs⟩
  · simp only [h, pyInt]
    split
    · rename_i hn
      exact .inr ⟨n, rfl, hn.1, hn.2, rfl⟩
    · rename_i hn
      refine .inl ⟨rfl, fun s hs hpos ↦ ?_⟩
      obtain rfl := Option.some.inj hs
      by_contra hmem
      exact hn ⟨hpos, hmem⟩

/-- The loop collects every positive blocker once. -/
theorem loop_collects (h : ∀ row ∈ rows, Row.IntegerOrNull row "blocking_session_id".toList) :
    (rows.foldl addBlocker []).Nodup ∧
      ∀ s, s ∈ rows.foldl addBlocker [] ↔ 0 < s ∧ ∃ row ∈ rows, Row.blocker row = some s := by
  induction rows using List.reverseRecOn with
  | nil => exact ⟨List.nodup_nil, fun s ↦ iff_of_false List.not_mem_nil (by simp)⟩
  | append_singleton rows row ih =>
    obtain ⟨hnodup, hmem⟩ := ih (fun row' hr ↦ h row' (List.mem_append_left _ hr))
    have hrow := h row (List.mem_append_right _ (List.mem_singleton_self row))
    have hex : ∀ s, (∃ r ∈ rows ++ [row], Row.blocker r = some s) ↔
        (∃ r ∈ rows, Row.blocker r = some s) ∨ Row.blocker row = some s := by
      intro s
      simp only [List.mem_append, List.mem_singleton, or_and_right, exists_or, exists_eq_left]
    rw [List.foldl_concat]
    rcases addBlocker_eq hrow (rows.foldl addBlocker []) with ⟨heq, hin⟩ | ⟨t, ht, hpos, hout, heq⟩
    · rw [heq]
      refine ⟨hnodup, fun s ↦ ?_⟩
      rw [hex, hmem]
      constructor
      · intro hs
        exact ⟨hs.1, .inl hs.2⟩
      · rintro ⟨hs, hb | hb⟩
        · exact ⟨hs, hb⟩
        · exact (hmem s).mp (hin s hb hs)
    · rw [heq]
      constructor
      · refine List.nodup_append.mpr ⟨hnodup, List.nodup_singleton t, fun a ha b hb hab ↦ ?_⟩
        rw [hab, List.mem_singleton.mp hb] at ha
        exact hout ha
      · intro s
        rw [hex, List.mem_append, List.mem_singleton, hmem]
        constructor
        · rintro (hs | rfl)
          · exact ⟨hs.1, .inl hs.2⟩
          · exact ⟨hpos, .inr ht⟩
        · rintro ⟨hs, hb | hb⟩
          · exact .inl ⟨hs, hb⟩
          · exact .inr (Option.some.inj (hb.symm.trans ht))

theorem loop_listsRoots_iff (h : ∀ row ∈ rows, Row.IntegerOrNull row "blocking_session_id".toList) :
    ListsRoots rows (rows.foldl addBlocker []) ↔
      ∀ s, 0 < s → (∃ row ∈ rows, Row.blocker row = some s) → Blocks rows s ∧ ¬ BlockedByAnother rows s := by
  obtain ⟨hnodup, hmem⟩ := loop_collects h
  constructor
  · intro hroots s hs hb
    exact ((hroots.mem_iff s).mp ((hmem s).mpr ⟨hs, hb⟩)).2
  · intro hcond
    refine ⟨hnodup, fun s ↦ ?_⟩
    rw [hmem]
    constructor
    · intro hs
      exact ⟨hs.1, hcond s hs.1 hs.2⟩
    · intro hs
      obtain ⟨row, hr, hb, -⟩ := hs.2.1
      exact ⟨hs.1, row, hr, hb⟩

end Loop

/-- Both dashboards list the roots exactly where no blocker is itself blocked by another
session, and each blocks a session that has a number. -/
theorem headBlockers_roots_iff [UnicodeData] (rows : List Row)
    (h : ∀ row ∈ rows, Row.IntegerOrNull row "blocking_session_id".toList) :
    (ListsRoots rows (sessionsDashboardHeadBlockers rows) ∧ ListsRoots rows (refreshDashboardHeadBlockers rows)) ↔
      ∀ s, 0 < s → (∃ row ∈ rows, Row.blocker row = some s) → Blocks rows s ∧ ¬ BlockedByAnother rows s := by
  have hloop := loop_listsRoots_iff h
  unfold sessionsDashboardHeadBlockers refreshDashboardHeadBlockers
  rw [and_self]
  exact hloop

def lockRow (sessionId blockingSessionId : ℤ) : Row :=
  [("session_id".toList, .int sessionId), ("blocking_session_id".toList, .int blockingSessionId)]

def chainRows : List Row := [lockRow 52 51, lockRow 51 50]

theorem headBlockers_name_intermediate :
    let _ := asciiData
    sessionsDashboardHeadBlockers chainRows = [51, 50] ∧ refreshDashboardHeadBlockers chainRows = [51, 50] ∧
      BlockedByAnother chainRows 51 := by
  refine ⟨by decide, by decide, lockRow 51 50, by simp [chainRows], rfl, 50, rfl, by decide, by decide⟩

def forestRows : List Row := [lockRow 61 60, lockRow 71 70, lockRow 60 0, lockRow 62 60, lockRow 72 70]

theorem headBlockers_roots_iff_forest :
    let _ := asciiData
    sessionsDashboardHeadBlockers forestRows = [60, 70] ∧
      ListsRoots forestRows (sessionsDashboardHeadBlockers forestRows) ∧
      ListsRoots forestRows (refreshDashboardHeadBlockers forestRows) := by
  let _ := asciiData
  have hrow : ∀ row ∈ forestRows, Row.IntegerOrNull row "blocking_session_id".toList := by
    intro row hr
    simp only [forestRows, List.mem_cons, List.not_mem_nil, or_false] at hr
    rcases hr with rfl | rfl | rfl | rfl | rfl <;> exact .inr ⟨_, rfl⟩
  have hroots : ∀ row ∈ forestRows, Row.waiting row ≠ some 70 ∧ (Row.waiting row = some 60 → Row.blocker row = some 0) := by
    decide
  have hblockers : ∀ row ∈ forestRows, Row.blocker row ∈ [some 60, some 70, some 0] := by decide
  refine ⟨by decide, (headBlockers_roots_iff forestRows hrow).mpr ?_⟩
  rintro s hs ⟨row, hr, hb⟩
  have hsome := hblockers row hr
  simp only [hb, List.mem_cons, Option.some.injEq, List.not_mem_nil, or_false] at hsome
  rcases hsome with rfl | rfl | rfl
  · refine ⟨⟨lockRow 61 60, by simp [forestRows], rfl, 61, rfl⟩, ?_⟩
    rintro ⟨row, hr, hw, t, ht, hpos, -⟩
    rw [(hroots row hr).2 hw] at ht
    rw [← Option.some.inj ht] at hpos
    exact Int.lt_irrefl 0 hpos
  · refine ⟨⟨lockRow 71 70, by simp [forestRows], rfl, 71, rfl⟩, ?_⟩
    rintro ⟨row, hr, hw, -⟩
    exact (hroots row hr).1 hw
  · exact absurd hs (Int.lt_irrefl 0)

end McpSqlServer

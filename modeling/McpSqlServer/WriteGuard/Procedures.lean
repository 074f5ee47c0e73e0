import McpSqlServer.Config
import McpSqlServer.WriteGuard
import McpSqlServer.ConnectionManager.Statements
import McpSqlServer.Library.Sql.Name

namespace McpSqlServer

open Library.Text Library.Python Library.Sql

theorem caseless_dot : Caseless '.' := by decide

theorem caseless_of_dropped {c : Char} (h : (c ≠ '[' && c ≠ ']') = false) : Caseless c := by
  simp only [Bool.and_eq_false_iff, decide_eq_false_iff_not, not_not] at h
  rcases h with rfl | rfl <;> decide

theorem dottedParts_dot {s w : Str} (h : w ∈ dottedParts s) : '.' ∉ w :=
  notMem_of_mem_splitOn (List.mem_filter.mp h).1

def joinParts (mode defaultSchema : Str) : List Str → Str
  | [] => []
  | [part] => if mode = "default_schema_expand".toList then defaultSchema ++ '.' :: part else part
  | last :: schema :: _ => schema ++ '.' :: last

/-- Names of one normal form share the parts that both normal forms speak about. -/
theorem mem_of_joinParts_eq {mode ds : Str} {es ps : List Str} (he : ∀ w ∈ es, '.' ∉ w)
    (hp : ∀ w ∈ ps, '.' ∉ w) (h : joinParts mode ds es = joinParts mode ds ps) :
    ∀ w ∈ ps.take (min 2 es.length), w ∈ es := by
  match es, ps with
  | [], _ =>
    rw [List.length_nil, Nat.min_zero, List.take_zero]
    exact fun w hw ↦ absurd hw List.not_mem_nil
  | _ :: _, [] =>
    rw [List.take_nil]
    exact fun w hw ↦ absurd hw List.not_mem_nil
  | e :: f :: es, p :: q :: ps =>
    obtain ⟨hfq, hep⟩ := append_sep_inj (he e (by simp)) (hp p (by simp)) h
    simp [hep, hfq]
  | [e], p :: ps =>
    have hep : e = p := by
      rw [List.forall_mem_singleton] at he
      have hpd := hp p List.mem_cons_self
      cases ps with
      | nil =>
        by_cases hm : mode = "default_schema_expand".toList
        · simp only [joinParts, if_pos hm] at h
          exact (append_sep_inj he hpd h).2
        · simpa only [joinParts, if_neg hm] using h
      | cons q ps =>
        by_cases hm : mode = "default_schema_expand".toList
        · simp only [joinParts, if_pos hm] at h
          exact (append_sep_inj he hpd h).2
        · simp only [joinParts, if_neg hm] at h
          exact absurd (h ▸ List.mem_append_right q List.mem_cons_self) he
    simp [hep]
  | e :: f :: es, [p] =>
    have hep : e = p := by
      have hed := he e List.mem_cons_self
      rw [List.forall_mem_singleton] at hp
      by_cases hm : mode = "default_schema_expand".toList
      · simp only [joinParts, if_pos hm] at h
        exact (append_sep_inj hed hp h).2
      · simp only [joinParts, if_neg hm] at h
        exact absurd (h ▸ List.mem_append_right f List.mem_cons_self) hp
    simp [hep]

section UnicodeData

variable [UnicodeData]

/-- The text that the allowlist check reads a name from, before lower case. -/
def bareName (name : Str) : Str := dropBrackets (strip name)

def loweredParts (name : Str) : List Str := dottedParts (dropBrackets (lower (strip name)))

def writtenParts (name : Str) : List Str := dottedParts (bareName name)

theorem writtenParts_image (name : Str) :
    List.Forall₂ LowerImage (writtenParts name) (loweredParts name) :=
  LowerImage.filter_nonempty
    (((lower_image (strip name)).filter (fun _ ↦ caseless_of_dropped)).splitOn caseless_dot)

def pieces (name : Str) : List Str := (bareName name).splitOn '.'

def FromEntry (entry w : Str) : Prop := ∃ v ∈ pieces entry, SameUpToCase v w

/-- A statement text that executes one procedure, whose name is made of identifiers and
pieces of the allowlist entry, and does nothing else. -/
def SingleExec (entry : Str) (params : ℕ) (text : Str) : Prop :=
  ∃ name, text = execStatement name params ∧ ∀ w ∈ pieces name, RegularIdentifier w ∨ FromEntry entry w

def comparedParts (entry : Str) : ℕ := min 2 (writtenParts entry).length

/-- The parts left of those that are compared with the entry are identifiers or stand in
the entry, and a part is left out between dots only if the entry leaves one out. -/
def IdentifierQualifier (entry procName : Str) : Prop :=
  ([] ∈ pieces procName → [] ∈ pieces entry) ∧
    ∀ w ∈ (writtenParts procName).reverse.drop (comparedParts entry), RegularIdentifier w ∨ FromEntry entry w

theorem mem_pieces_of_mem_writtenParts {name w : Str} (h : w ∈ writtenParts name) : w ∈ pieces name :=
  (List.mem_filter.mp h).1

theorem mem_writtenParts {name w : Str} (h : w ∈ pieces name) (hw : w ≠ []) : w ∈ writtenParts name :=
  List.mem_filter.mpr ⟨h, by rwa [Bool.not_eq_true', List.isEmpty_eq_false_iff]⟩

theorem fromEntry_nil {entry : Str} : FromEntry entry [] ↔ [] ∈ pieces entry := by
  constructor
  · rintro ⟨v, hv, t, hvt, ht⟩
    have htn : t = [] := ht.eq_nil_iff.mpr rfl
    exact (hvt.eq_nil_iff.mp htn) ▸ hv
  · exact fun h ↦ ⟨[], h, [], .nil, .nil⟩

/-- The compared parts of a request come from the entry that it matches. -/
theorem fromEntry_of_normalize_eq {mode ds entry procName : Str}
    (h : normalizeProcName entry mode ds = normalizeProcName procName mode ds) :
    ∀ w ∈ (writtenParts procName).reverse.take (comparedParts entry), FromEntry entry w := by
  intro w hw
  have hp := List.forall₂_reverse_iff.mpr (writtenParts_image procName)
  have he := writtenParts_image entry
  have hlen : (writtenParts entry).length = (loweredParts entry).reverse.length := by
    rw [he.length_eq, List.length_reverse]
  obtain ⟨t, ht, hwt⟩ := exists_mem_of_forall₂ (List.forall₂_take (comparedParts entry) hp) hw
  rw [comparedParts, hlen] at ht
  have hte : t ∈ (loweredParts entry).reverse :=
    mem_of_joinParts_eq (fun v hv ↦ dottedParts_dot (List.mem_reverse.mp hv))
      (fun v hv ↦ dottedParts_dot (List.mem_reverse.mp hv)) h t ht
  have hf : List.Forall₂ (fun t v ↦ LowerImage v t) (loweredParts entry) (writtenParts entry) := he.flip
  obtain ⟨v, hv, hvt⟩ := exists_mem_of_forall₂ hf (List.mem_reverse.mp hte)
  exact ⟨v, mem_pieces_of_mem_writtenParts hv, t, hvt, hwt⟩

theorem pieces_ok_iff {mode ds entry procName : Str}
    (h : normalizeProcName entry mode ds = normalizeProcName procName mode ds) :
    (∀ w ∈ pieces procName, RegularIdentifier w ∨ FromEntry entry w) ↔ IdentifierQualifier entry procName := by
  constructor
  · intro hall
    refine ⟨fun hn ↦ ?_, fun w hw ↦ ?_⟩
    · rcases hall [] hn with ⟨c, s, hc, _⟩ | hf
      · cases hc
      · exact fromEntry_nil.mp hf
    · exact hall w (mem_pieces_of_mem_writtenParts (List.mem_reverse.mp (List.mem_of_mem_drop hw)))
  · rintro ⟨hn, hq⟩ w hw
    by_cases hwn : w = []
    · subst hwn
      exact .inr (fromEntry_nil.mpr (hn hw))
    · have hwr : w ∈ (writtenParts procName).reverse := List.mem_reverse.mpr (mem_writtenParts hw hwn)
      rw [← List.take_append_drop (comparedParts entry) (writtenParts procName).reverse, List.mem_append] at hwr
      rcases hwr with hwr | hwr
      · exact .inr (fromEntry_of_normalize_eq h w hwr)
      · exact hq w hwr

theorem singleExec_iff {entry procName : Str} {params : ℕ} :
    SingleExec entry params (execStatement procName params) ↔
      ∀ w ∈ pieces procName, RegularIdentifier w ∨ FromEntry entry w := by
  constructor
  · rintro ⟨name, he, hw⟩
    have hs : pieces name = pieces procName := by
      rw [pieces, pieces, bareName, bareName, strip_eq_of_execStatement_eq he]
    exact hs ▸ hw
  · exact fun h ↦ ⟨procName, rfl, h⟩

/-- An accepted request is executed as one procedure call exactly when some entry that it
matches leaves nothing but identifiers to its unchecked qualifiers. -/
theorem validateProcedure_singleExec_iff (policy : RuntimePolicy) (toolName procName : Str) (params : ℕ) :
    (validateProcedure policy toolName procName = .ok () →
      ∃ e ∈ policy.procedureEntries toolName, policy.normalize e = policy.normalize procName ∧
        SingleExec e params (execStatement procName params)) ↔
    (validateProcedure policy toolName procName = .ok () →
      ∃ e ∈ policy.procedureEntries toolName, policy.normalize e = policy.normalize procName ∧
        IdentifierQualifier e procName) := by
  refine imp_congr_right (fun _ ↦ exists_congr (fun e ↦ and_congr_right (fun _ ↦ and_congr_right (fun hn ↦ ?_))))
  rw [singleExec_iff]
  exact pieces_ok_iff hn

end UnicodeData

theorem validateProcedure_accepts_batch :
    ¬ ∀ [UnicodeData] (policy : RuntimePolicy) (toolName procName : Str) (params : ℕ),
      validateProcedure policy toolName procName = .ok () →
      ∃ e ∈ policy.procedureEntries toolName, policy.normalize e = policy.normalize procName ∧
        SingleExec e params (execStatement procName params) := by
  intro h
  let _ := asciiData
  let batch : Str := "dbo.x; DROP TABLE dbo.T; EXEC a.dbo.usp_RunApprovedMaintenance".toList
  let piece : Str := "x; DROP TABLE dbo".toList
  have hpiece : piece ∈ pieces batch := by decide
  obtain ⟨e, he, _, hs⟩ := h shippedPolicy primaryExecProc batch 0 (by decide)
  have hnot : ∀ e ∈ shippedPolicy.procedureEntries primaryExecProc, ∀ v ∈ pieces e,
      'Σ' ∉ v ∧ v.flatMap lowerChar ≠ piece.flatMap lowerChar := by decide
  rcases singleExec_iff.mp hs piece hpiece with ⟨c, s, hc, _, hd⟩ | ⟨v, hv, hsame⟩
  · have hsemi : ';' ∈ s := by
      rw [← (List.cons.inj hc).2]
      decide
    exact absurd (hd ';' hsemi) (by decide)
  · exact (hnot e he v hv).2 (hsame.flatMap_eq (hnot e he v hv).1 (by decide))

end McpSqlServer

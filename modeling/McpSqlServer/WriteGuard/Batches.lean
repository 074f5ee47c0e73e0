import McpSqlServer.Config
import McpSqlServer.Library.Text.Strip
import McpSqlServer.WriteGuard

namespace McpSqlServer

open Library.Text Library.Python Library.Sql

theorem dropBlockComments_of_free {s : Str} (h : hasPair '/' '*' s = false) : dropBlockComments false s = s := by
  induction s with
  | nil => rfl
  | cons c s ih =>
    obtain ⟨hc, hs⟩ := hasPair_cons_false h
    cases s with
    | nil => rfl
    | cons d s =>
      have hne : ¬ (c = '/' ∧ d = '*' ∧ hasPair '*' '/' s) := fun hcd ↦ hc ⟨hcd.1, congrArg some hcd.2.1⟩
      rw [dropBlockComments, if_neg Bool.false_ne_true, if_neg hne, ih hs]

theorem dropLineComments_of_free {s : Str} (h : hasPair '-' '-' s = false) : dropLineComments false s = s := by
  induction s with
  | nil => rfl
  | cons c s ih =>
    obtain ⟨hc, hs⟩ := hasPair_cons_false h
    cases s with
    | nil => rfl
    | cons d s =>
      have hne : ¬ (c = '-' ∧ d = '-') := fun hcd ↦ hc ⟨hcd.1, congrArg some hcd.2⟩
      rw [dropLineComments, if_neg hne, ih hs]

theorem semicolon_notMem_of_mem_writeVerbs : ∀ v ∈ writeVerbs, ';' ∉ v := by decide

theorem nil_notMem_writeVerbs : [] ∉ writeVerbs := by decide

section UnicodeData

variable [UnicodeData] {policy : RuntimePolicy} {toolName : Str} {s s₁ s₂ : Str}

theorem firstVerb_of_free (h : CommentFree s) : firstVerb s = upper (firstToken s) := by
  rw [firstVerb, dropBlockComments_of_free h.2, dropLineComments_of_free h.1, firstToken_strip]

def LeadingVerb (s rest : Str) : Prop := ∃ w, TokenSplit s w rest ∧ upper w ∈ writeVerbs

def StartsWithVerb (s : Str) : Prop := ∃ rest, LeadingVerb s rest

def VerbThenSpace (s : Str) : Prop := ∃ rest, LeadingVerb s rest ∧ rest ≠ []

theorem ne_nil_of_upper_mem {w : Str} (h : upper w ∈ writeVerbs) : w ≠ [] := by
  rintro rfl
  exact nil_notMem_writeVerbs h

theorem startsWithVerb_iff : StartsWithVerb s ↔ upper (firstToken s) ∈ writeVerbs := by
  constructor
  · rintro ⟨rest, w, hw, hv⟩
    rwa [hw.firstToken_eq (ne_nil_of_upper_mem hv)]
  · intro h
    rcases exists_tokenSplit s with hs | ⟨w, rest, hw, hne⟩
    · rw [firstToken_of_blank hs] at h
      exact absurd h nil_notMem_writeVerbs
    · rw [hw.firstToken_eq hne] at h
      exact ⟨rest, w, hw, h⟩

theorem batch_leadingVerb (s₁ s₂ : Str) :
    upper (firstToken (s₁ ++ ';' :: s₂)) ∈ writeVerbs ↔ VerbThenSpace s₁ := by
  have hsplit : ∀ {w rest}, TokenSplit s₁ w rest → rest ≠ [] →
      TokenSplit (s₁ ++ ';' :: s₂) w (rest ++ ';' :: s₂) := by
    rintro w rest ⟨⟨lead, hs, hl⟩, hw, hr⟩ hne
    obtain ⟨d, rest, rfl⟩ := List.exists_cons_of_ne_nil hne
    refine ⟨⟨lead, ?_, hl⟩, hw, hr⟩
    rw [hs, List.append_assoc, List.append_assoc]
  have hjoined : ∀ {lead w : Str}, s₁ = lead ++ w → Blank lead → (∀ c ∈ w, isSpace c = false) →
      ';' ∈ firstToken (s₁ ++ ';' :: s₂) := by
    intro lead w hs hl hw
    have hsemi : isSpace ';' = false := rfl
    have hne : ∀ c ∈ w ++ [';'], (!isSpace c) = true := by
      intro c hc
      rcases List.mem_append.mp hc with hc | hc
      · rw [hw c hc]; rfl
      · rw [List.mem_singleton.mp hc]; rfl
    have hlstrip : lstrip (w ++ ';' :: s₂) = w ++ ';' :: s₂ := by
      cases w with
      | nil => exact lstrip_cons_of_not_isSpace hsemi s₂
      | cons c w => exact lstrip_cons_of_not_isSpace (hw c List.mem_cons_self) _
    rw [hs, List.append_assoc, firstToken, lstrip_append_of_blank hl, hlstrip, ← List.singleton_append,
      ← List.append_assoc, List.takeWhile_append_of_pos hne]
    exact List.mem_append_left _ (List.mem_append_right _ (List.mem_singleton_self _))
  have hnot : ';' ∈ firstToken (s₁ ++ ';' :: s₂) → upper (firstToken (s₁ ++ ';' :: s₂)) ∉ writeVerbs := by
    intro hm hv
    refine semicolon_notMem_of_mem_writeVerbs _ hv (List.mem_flatMap.mpr ⟨';', hm, ?_⟩)
    exact List.mem_singleton_self _
  constructor
  · intro h
    rcases exists_tokenSplit s₁ with hs | ⟨w, rest, hw, hne⟩
    · exact absurd h (hnot (hjoined (List.append_nil s₁).symm hs (fun c hc ↦ absurd hc List.not_mem_nil)))
    · by_cases hr : rest = []
      · obtain ⟨lead, hs, hl⟩ := hw.eq
        rw [hr, List.append_nil] at hs
        exact absurd h (hnot (hjoined hs hl hw.word))
      · rw [(hsplit hw hr).firstToken_eq hne] at h
        exact ⟨rest, ⟨w, hw, h⟩, hr⟩
  · rintro ⟨rest, ⟨w, hw, hv⟩, hr⟩
    rwa [(hsplit hw hr).firstToken_eq (ne_nil_of_upper_mem hv)]

theorem separates_blockedVerbs : Separates blockedVerbs ';' := ⟨rfl, by decide, by decide⟩

theorem separates_xpCmdshell : Separates ["xp_cmdshell".toList] ';' := ⟨rfl, by decide, by decide⟩

theorem denied_batch (hp : policy.blockedSqlPatterns = [] ∨ policy.blockedSqlPatterns = shippedPatterns) :
    Denied policy (s₁ ++ ';' :: s₂) ↔ Denied policy s₁ ∨ Denied policy s₂ := by
  unfold Denied
  rcases hp with hp | hp
  · rw [hp]
    simp only [List.any_nil, Bool.false_eq_true, or_self]
  · rw [hp, shippedPatterns]
    simp only [List.any_cons, List.any_nil, Bool.or_false, separates_blockedVerbs.searchWords_append,
      separates_xpCmdshell.searchWords_append, Bool.or_eq_true]
    exact or_or_or_comm

/-- A batch is judged like its two statements exactly when the denylist already stops one of
them, when a space follows the write verb of the first, or when neither starts with one. -/
theorem enforce_batch_iff (policy : RuntimePolicy) (toolName s₁ s₂ : Str)
    (hmode : policy.writeModeDefault = "deny".toList) (htool : toolName ∉ policy.allowedWriteTools)
    (hp : policy.blockedSqlPatterns = [] ∨ policy.blockedSqlPatterns = shippedPatterns)
    (h₁ : CommentFree s₁) (h₂ : CommentFree s₂) :
    (enforce policy toolName (s₁ ++ ';' :: s₂) ≠ .ok () ↔
      enforce policy toolName s₁ ≠ .ok () ∨ enforce policy toolName s₂ ≠ .ok ()) ↔
    Denied policy s₁ ∨ Denied policy s₂ ∨ VerbThenSpace s₁ ∨ (¬ StartsWithVerb s₁ ∧ ¬ StartsWithVerb s₂) := by
  have hverb : VerbThenSpace s₁ → StartsWithVerb s₁ := fun ⟨rest, h, _⟩ ↦ ⟨rest, h⟩
  rw [enforce_ne_ok hmode htool, enforce_ne_ok hmode htool, enforce_ne_ok hmode htool, denied_batch hp,
    firstVerb_of_free (h₁.append_cons (by decide) h₂), firstVerb_of_free h₁, firstVerb_of_free h₂, batch_leadingVerb,
    ← startsWithVerb_iff, ← startsWithVerb_iff]
  grind

end UnicodeData

def selectTool : Str := "db_1_sql2019_select".toList

theorem enforce_batch_iff_exec_first :
    let _ := asciiData
    (enforce shippedPolicy selectTool ("EXEC dbo.p".toList ++ ';' :: "SELECT 1".toList) ≠ .ok () ↔
      enforce shippedPolicy selectTool "EXEC dbo.p".toList ≠ .ok () ∨
        enforce shippedPolicy selectTool "SELECT 1".toList ≠ .ok ()) := by
  intro U
  have hverb : VerbThenSpace "EXEC dbo.p".toList :=
    ⟨" dbo.p".toList, ⟨"EXEC".toList, ⟨⟨[], rfl, by decide⟩, by decide, by decide⟩, by decide⟩, by decide⟩
  exact (enforce_batch_iff shippedPolicy selectTool "EXEC dbo.p".toList "SELECT 1".toList rfl (by decide) (.inr rfl)
    (by decide) (by decide)).mpr (.inr (.inr (.inl hverb)))

theorem enforce_misses_second_statement :
    ¬ ∀ [UnicodeData] (policy : RuntimePolicy) (toolName s₁ s₂ : Str), policy.writeModeDefault = "deny".toList →
      toolName ∉ policy.allowedWriteTools →
      policy.blockedSqlPatterns = [] ∨ policy.blockedSqlPatterns = shippedPatterns →
      CommentFree s₁ → CommentFree s₂ →
      (enforce policy toolName (s₁ ++ ';' :: s₂) ≠ .ok () ↔
        enforce policy toolName s₁ ≠ .ok () ∨ enforce policy toolName s₂ ≠ .ok ()) := by
  intro h
  let _ := asciiData
  have hb := h shippedPolicy selectTool "SELECT 1".toList "EXEC dbo.p".toList rfl (by decide) (.inr rfl)
    (by decide) (by decide)
  have hsecond : enforce shippedPolicy selectTool "EXEC dbo.p".toList ≠ .ok () := by decide
  have hbatch : enforce shippedPolicy selectTool ("SELECT 1".toList ++ ';' :: "EXEC dbo.p".toList) = .ok () := by
    decide
  exact hb.mpr (.inr hsecond) hbatch

end McpSqlServer

import McpSqlServer.WriteGuard.WriteDetection

namespace McpSqlServer

open Library.Text Library.Python Library.Sql

def Cased (verb v : Str) : Prop := v.map Char.toUpper = verb

theorem isUpper_of_mem_writeVerbs : ∀ v ∈ writeVerbs, ∀ c ∈ v, c.isUpper = true := by decide

theorem eq_or_execute_of_prefix : ∀ v ∈ writeVerbs, ∀ w ∈ writeVerbs, v.isPrefixOf w = true →
    w = v ∨ (v = "EXEC".toList ∧ w = v ++ "UTE".toList) := by decide

theorem append_mem_writeVerbs_iff {v t : Str} (hv : v ∈ writeVerbs) :
    v ++ t ∈ writeVerbs ↔ t = [] ∨ (v = "EXEC".toList ∧ t = "UTE".toList) := by
  constructor
  · intro h
    have hprefix : v.isPrefixOf (v ++ t) = true := List.isPrefixOf_iff_prefix.mpr (List.prefix_append v t)
    rcases eq_or_execute_of_prefix v hv _ h hprefix with heq | ⟨hexec, heq⟩
    · exact .inl (List.append_right_eq_self.mp heq)
    · exact .inr ⟨hexec, List.append_cancel_left heq⟩
  · rintro (rfl | ⟨rfl, rfl⟩)
    · rwa [List.append_nil]
    · decide

section Letters

variable {verb v : Str} {c : Char}

theorem Cased.isAlpha (h : Cased verb v) (hverb : verb ∈ writeVerbs) (hc : c ∈ v) : c.isAlpha = true := by
  apply isAlpha_of_isUpper_toUpper
  apply isUpper_of_mem_writeVerbs verb hverb
  rw [← h]
  exact List.mem_map_of_mem hc

theorem Cased.commentFree (h : Cased verb v) (hverb : verb ∈ writeVerbs) : ∀ c ∈ v, c ≠ '/' ∧ c ≠ '-' := by
  intro c hc
  have ha := h.isAlpha hverb hc
  constructor
  · rintro rfl
    cases ha
  · rintro rfl
    cases ha

variable [UnicodeData]

theorem Cased.upper_eq (h : Cased verb v) (hverb : verb ∈ writeVerbs) : upper v = verb := by
  have hchar : ∀ c ∈ v, upperChar c = [c.toUpper] :=
    fun c hc ↦ if_pos (isAscii_of_isAlpha (h.isAlpha hverb hc))
  rw [upper, List.flatMap_congr hchar, ← List.map_eq_flatMap]
  exact h

theorem upper_eq_nil {s : Str} : upper s = [] ↔ s = [] := by
  cases s with
  | nil => exact iff_of_true rfl rfl
  | cons c s =>
    refine iff_of_false (fun h ↦ ?_) (List.cons_ne_nil c s)
    have hc : upperChar c = [] := List.flatMap_eq_nil_iff.mp h c List.mem_cons_self
    rw [upperChar] at hc
    split at hc
    · cases hc
    · exact UnicodeData.upper_ne_nil c hc

end Letters

section Verdict

variable [UnicodeData] {policy : RuntimePolicy} {toolName verb v r : Str}

omit [UnicodeData] in
theorem Cased.ne_nil (h : Cased verb v) (hverb : verb ∈ writeVerbs) : v ≠ [] := by
  intro hnil
  rw [hnil] at h
  have hempty : verb = [] := h.symm
  rw [hempty] at hverb
  exact nil_notMem_writeVerbs hverb

theorem firstVerb_append (h : Cased verb v) (hverb : verb ∈ writeVerbs) (r : Str) :
    firstVerb (v ++ r) = verb ++ upper ((dropComments r).takeWhile (fun c ↦ !isSpace c)) := by
  have hdrop : dropLineComments false (dropBlockComments false (v ++ r)) = v ++ dropComments r :=
    dropComments_append (h.commentFree hverb) r
  rw [firstVerb, firstToken_strip, hdrop,
    firstToken_append (h.ne_nil hverb) (fun c hc ↦ isSpace_of_isAlpha (h.isAlpha hverb hc))]
  have happend (t : Str) : upper (v ++ t) = upper v ++ upper t := List.flatMap_append
  rw [happend, h.upper_eq hverb]

theorem takeWhile_eq_nil_iff {s : Str} :
    s.takeWhile (fun c ↦ !isSpace c) = [] ↔ ∀ c ∈ s.head?, isSpace c = true := by
  cases s with
  | nil => exact iff_of_true rfl (fun c hc ↦ nomatch hc)
  | cons c s =>
    rw [List.takeWhile_cons]
    cases hc : isSpace c with
    | true =>
      refine iff_of_true rfl (fun d hd ↦ ?_)
      rw [← Option.some.inj hd]
      exact hc
    | false =>
      refine iff_of_false (List.cons_ne_nil _ _) (fun h ↦ ?_)
      have hd := h c rfl
      rw [hc] at hd
      cases hd

theorem enforce_raises_iff (hmode : policy.writeModeDefault = "deny".toList) (hp : policy.blockedSqlPatterns = [])
    (htool : toolName ∉ policy.allowedWriteTools) (s : Str) :
    (∃ message, enforce policy toolName s = .error (permissionError message)) ↔ firstVerb s ∈ writeVerbs := by
  unfold enforce
  rw [hp, List.any_nil, if_neg Bool.false_ne_true]
  by_cases hv : firstVerb s ∈ writeVerbs
  · rw [if_pos ⟨hmode, hv, htool⟩]
    exact iff_of_true ⟨_, rfl⟩ hv
  · rw [if_neg (fun h ↦ hv h.2.1)]
    refine iff_of_false (fun h ↦ ?_) hv
    obtain ⟨message, h⟩ := h
    cases h

/-- A write verb in front of a text is refused exactly when white space or the end follows it
once the comments are gone, or when the text completes `EXEC` to `EXECUTE`. -/
theorem enforce_verb_iff (policy : RuntimePolicy) (toolName verb v r : Str)
    (hmode : policy.writeModeDefault = "deny".toList) (hp : policy.blockedSqlPatterns = [])
    (htool : toolName ∉ policy.allowedWriteTools) (hverb : verb ∈ writeVerbs) (hv : Cased verb v) :
    (∃ message, enforce policy toolName (v ++ r) = .error (permissionError message)) ↔
      (∀ c ∈ (dropComments r).head?, isSpace c = true) ∨
      (verb = "EXEC".toList ∧ upper ((dropComments r).takeWhile (fun c ↦ !isSpace c)) = "UTE".toList) := by
  rw [enforce_raises_iff hmode hp htool, firstVerb_append hv hverb, append_mem_writeVerbs_iff hverb, upper_eq_nil,
    takeWhile_eq_nil_iff]

end Verdict

theorem enforce_verb_iff_execute :
    let _ := asciiData
    ∃ message, enforce undeniedPolicy selectTool ("Execute".toList ++ " dbo.usp_RunApprovedMaintenance".toList) =
      .error (permissionError message) := by
  intro _
  apply (enforce_verb_iff undeniedPolicy selectTool "EXECUTE".toList "Execute".toList _ rfl rfl (by decide) (by decide)
    (by unfold Cased; decide)).mpr
  exact .inl (by decide)

theorem enforce_misses_parenthesis :
    ¬ ∀ [UnicodeData] (policy : RuntimePolicy) (toolName verb v r : Str), policy.writeModeDefault = "deny".toList →
      policy.blockedSqlPatterns = [] → toolName ∉ policy.allowedWriteTools → verb ∈ writeVerbs → Cased verb v →
      (∀ c ∈ r.head?, isIdentChar c = false) →
      ∃ message, enforce policy toolName (v ++ r) = .error (permissionError message) := by
  intro h
  let _ := asciiData
  obtain ⟨message, hs⟩ := h undeniedPolicy selectTool "EXEC".toList "EXEC".toList "('DROP TABLE dbo.T')".toList rfl rfl
    (by decide) (by decide) (by unfold Cased; decide) (by decide)
  have hok : enforce undeniedPolicy selectTool ("EXEC".toList ++ "('DROP TABLE dbo.T')".toList) = .ok () := by decide
  rw [hok] at hs
  cases hs

end McpSqlServer

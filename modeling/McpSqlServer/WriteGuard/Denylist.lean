import McpSqlServer.Library.Sql.Tokens
import McpSqlServer.Library.Text.WordRuns
import McpSqlServer.WriteGuard.WriteDetection

namespace McpSqlServer

open Library.Text Library.Python Library.Sql

def deniedWords : List Str := blockedVerbs ++ ["xp_cmdshell".toList]

theorem deniedWords_lower : ∀ w ∈ deniedWords, w ≠ [] ∧ ∀ p ∈ w, p.isLower = true ∨ p = '_' := by decide

section Letters

variable {w run s : Str} {p c : Char}

theorem matchesLetter_of_isAscii (h : isAscii c = true) : matchesLetter p c = true ↔ c.toLower = p := by
  have hne : ∀ d : Char, isAscii d = false → c ≠ d := by
    rintro d hd rfl
    rw [h] at hd
    cases hd
  have hsmall : c.toNat ≠ 8490 := by
    rw [isAscii, decide_eq_true_iff] at h
    omega
  rw [matchesLetter, decide_eq_false (hne 'İ' rfl), decide_eq_false (hne 'ı' rfl), decide_eq_false (hne 'ſ' rfl),
    decide_eq_false hsmall]
  simp

theorem forall₂_matchesLetter_iff (h : ∀ c ∈ run, isAscii c = true) :
    List.Forall₂ (fun p c ↦ matchesLetter p c = true) w run ↔ run.map Char.toLower = w := by
  induction run generalizing w with
  | nil =>
    rw [List.forall₂_nil_right_iff, List.map_nil]
    exact eq_comm
  | cons c run ih =>
    have ih : ∀ w : Str, _ ↔ run.map Char.toLower = w := fun w ↦ ih (fun d hd ↦ h d (List.mem_cons_of_mem c hd))
    rw [List.forall₂_cons_right_iff, List.map_cons]
    constructor
    · rintro ⟨p, w, hp, hw, rfl⟩
      rw [(ih w).mp hw, (matchesLetter_of_isAscii (h c List.mem_cons_self)).mp hp]
    · rintro rfl
      exact ⟨_, _, (matchesLetter_of_isAscii (h c List.mem_cons_self)).mpr rfl, (ih _).mpr rfl, rfl⟩

theorem eq_underscore_of_toLower (h : c.toLower = '_') : c = '_' := by
  cases hu : c.isUpper with
  | true =>
    have hl := isLower_toLower hu
    rw [h] at hl
    cases hl
  | false => rwa [toLower_of_not_isUpper hu] at h

variable [UnicodeData]

theorem isWord_of_matchesLetter (hp : p.isLower = true ∨ p = '_') (hc : isAscii c = true)
    (h : matchesLetter p c = true) : isWord c = true := by
  have hlower := (matchesLetter_of_isAscii hc).mp h
  rcases hp with hp | rfl
  · exact isWord_of_isLower_toLower (hlower ▸ hp)
  · rw [eq_underscore_of_toLower hlower]
    rfl

theorem searchWords_denied_iff {words : List Str} (hwords : ∀ w ∈ words, w ∈ deniedWords)
    (hs : ∀ c ∈ s, isAscii c = true) : searchWords words s = true ↔
      ∃ u run v, s = u ++ (run ++ v) ∧ WordRun u run v ∧ run.map Char.toLower ∈ words := by
  have hne : ∀ w ∈ words, w ≠ [] := fun w hw ↦ (deniedWords_lower w (hwords w hw)).1
  rw [searchWords_iff hne (fun w hw p hp c hc ↦
    isWord_of_matchesLetter ((deniedWords_lower w (hwords w hw)).2 p hp) (hs c hc))]
  refine exists_congr (fun u ↦ exists_congr (fun run ↦ exists_congr (fun v ↦ and_congr_right (fun he ↦
    and_congr_right (fun _ ↦ ?_)))))
  have hrun : ∀ c ∈ run, isAscii c = true := fun c hc ↦
    hs c (he ▸ List.mem_append_right u (List.mem_append_left v hc))
  constructor
  · rintro ⟨w, hw, hf⟩
    rw [(forall₂_matchesLetter_iff hrun).mp hf]
    exact hw
  · intro h
    exact ⟨_, h, (forall₂_matchesLetter_iff hrun).mpr rfl⟩

end Letters

section UnicodeData

variable [UnicodeData] {policy : RuntimePolicy} {toolName s : Str}

theorem enforce_eq_denied_iff : enforce policy toolName s = .error (permissionError "SQL blocked by denylist policy".toList) ↔
    Denied policy s := by
  unfold enforce Denied
  split
  · rename_i hd
    exact iff_of_true rfl hd
  · rename_i hd
    refine iff_of_false (fun h ↦ ?_) hd
    split at h
    · simp [permissionError, Exc.ofMessage] at h
    · cases h

/-- The shipped denylist refuses an ASCII text exactly when one of its words, the longest rows
of letters, digits and underscores, is listed, in any letter case. -/
theorem enforce_denylist_iff (policy : RuntimePolicy) (toolName s : Str)
    (hp : policy.blockedSqlPatterns = shippedPatterns) (hs : ∀ c ∈ s, isAscii c = true) :
    enforce policy toolName s = .error (permissionError "SQL blocked by denylist policy".toList) ↔
      ∃ u run v, s = u ++ (run ++ v) ∧ WordRun u run v ∧ run.map Char.toLower ∈ deniedWords := by
  have hverbs : ∀ w ∈ blockedVerbs, w ∈ deniedWords := fun w hw ↦ List.mem_append_left _ hw
  have hshell : ∀ w ∈ ["xp_cmdshell".toList], w ∈ deniedWords := fun w hw ↦ List.mem_append_right _ hw
  rw [enforce_eq_denied_iff, denied_iff_hasDeniedWord hp, HasDeniedWord, searchWords_denied_iff hverbs hs,
    searchWords_denied_iff hshell hs]
  constructor
  · rintro (⟨u, run, v, he, hrun, hmem⟩ | ⟨u, run, v, he, hrun, hmem⟩)
    · exact ⟨u, run, v, he, hrun, hverbs _ hmem⟩
    · exact ⟨u, run, v, he, hrun, hshell _ hmem⟩
  · rintro ⟨u, run, v, he, hrun, hmem⟩
    rcases List.mem_append.mp hmem with hmem | hmem
    · exact .inl ⟨u, run, v, he, hrun, hmem⟩
    · exact .inr ⟨u, run, v, he, hrun, hmem⟩

end UnicodeData

theorem enforce_denylist_iff_grant :
    let _ := asciiData
    enforce shippedPolicy primaryExecProc "SELECT GrantID;GRANT".toList =
        .error (permissionError "SQL blocked by denylist policy".toList) ↔
      ∃ u run v, "SELECT GrantID;GRANT".toList = u ++ (run ++ v) ∧ WordRun u run v ∧
        run.map Char.toLower ∈ deniedWords := by
  intro U
  exact enforce_denylist_iff shippedPolicy primaryExecProc "SELECT GrantID;GRANT".toList rfl (by decide)

end McpSqlServer

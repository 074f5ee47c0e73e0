import McpSqlServer.Library.Python.Value

namespace McpSqlServer.Library.Python

open Text

theorem intText_natCast (n : ℕ) : intText n = Nat.toDigits 10 n := by
  show (Nat.repr n).toList = _
  exact Nat.toList_repr

theorem intText_inj {m n : ℕ} (h : intText m = intText n) : m = n := by
  rw [intText_natCast, intText_natCast] at h
  have hv := congrArg (fun l ↦ Nat.ofDigitChars 10 l 0) h
  simpa only [Nat.ofDigitChars_ten_toDigits] using hv

theorem intText_eq (n : ℤ) : intText n = (if decide (n < 0) then ['-'] else []) ++ Nat.toDigits 10 n.natAbs := by
  cases n with
  | ofNat m =>
    show (Nat.repr m).toList = _
    simp
  | negSucc m =>
    show ("-" ++ Nat.repr (m + 1)).toList = _
    simp [Int.negSucc_lt_zero]

theorem intText_injective {m n : ℤ} (h : intText m = intText n) : m = n := by
  have hminus : ∀ k : ℤ, '-' ∉ Nat.toDigits 10 k.natAbs := by
    intro k hmem
    exact absurd (Nat.isDigit_of_mem_toDigits (by omega) (by omega) hmem) (by decide)
  have hsign : ∀ k : ℤ, '-' ∈ intText k ↔ k < 0 := by
    intro k
    rw [intText_eq, List.mem_append, or_iff_left (hminus k)]
    by_cases hk : k < 0
    · simp [hk]
    · simp [hk]
  have hiff : m < 0 ↔ n < 0 := by rw [← hsign m, h, hsign n]
  have habs : m.natAbs = n.natAbs := by
    rw [intText_eq, intText_eq, decide_eq_decide.mpr hiff] at h
    have hv := congrArg (fun l ↦ Nat.ofDigitChars 10 l 0) (List.append_cancel_left h)
    simpa only [Nat.ofDigitChars_ten_toDigits] using hv
  omega

theorem mem_intText {n : ℤ} {c : Char} (h : c ∈ intText n) : c = '-' ∨ c.isDigit = true := by
  have hd : c ∈ Nat.toDigits 10 n.natAbs → c.isDigit = true := Nat.isDigit_of_mem_toDigits (by omega) (by omega)
  rw [intText_eq, List.mem_append] at h
  split at h
  · exact h.imp List.mem_singleton.mp hd
  · exact .inr (h.elim (fun h ↦ absurd h List.not_mem_nil) hd)

theorem notMem_intText {c : Char} (hs : c ≠ '-') (hd : c.isDigit = false) (n : ℤ) : c ∉ intText n := by
  intro h
  rcases mem_intText h with h | h
  · exact hs h
  · rw [hd] at h
    cases h

theorem length_intText_le_iff {n k : ℕ} (hk : 0 < k) : (intText n).length ≤ k ↔ n < Nat.pow 10 k := by
  rw [intText_natCast]
  exact Nat.length_toDigits_le_iff (by omega) hk

theorem isDigit_of_mem_intText {n : ℕ} {c : Char} (h : c ∈ intText n) : c.isDigit = true := by
  rw [intText_natCast] at h
  exact Nat.isDigit_of_mem_toDigits (by omega) (by omega) h

theorem intText_ne_nil (n : ℕ) : intText n ≠ [] := by
  rw [intText_natCast]
  exact Nat.toDigits_ne_nil

theorem isAscii_of_isDigit {c : Char} (h : c.isDigit = true) : isAscii c = true := by
  have hr : 48 ≤ c.toNat ∧ c.toNat ≤ 57 := Char.isDigit_iff_toNat.mp h
  rw [isAscii, decide_eq_true_iff]
  omega

variable [UnicodeData]

theorem isSpace_of_isDigit {c : Char} (h : c.isDigit = true) : isSpace c = false := by
  have hr : 48 ≤ c.toNat ∧ c.toNat ≤ 57 := Char.isDigit_iff_toNat.mp h
  rw [isSpace, if_pos (isAscii_of_isDigit h)]
  simp
  omega

theorem digitsValue_intText (n : ℕ) : digitsValue (intText n) = n := by
  have hfold : ∀ (l : Str) (m : ℕ), (∀ c ∈ l, c.isDigit = true) →
      l.foldl (fun n c ↦ 10 * n + decimalValue c) m = Nat.ofDigitChars 10 l m := by
    intro l
    induction l with
    | nil => exact fun m _ ↦ Nat.ofDigitChars_nil.symm
    | cons c l ih =>
      intro m hl
      have hc : decimalValue c = c.toNat - '0'.toNat := by
        rw [decimalValue, if_pos (isAscii_of_isDigit (hl c List.mem_cons_self))]
        rfl
      rw [List.foldl_cons, ih _ (fun d hd ↦ hl d (List.mem_cons_of_mem c hd)), Nat.ofDigitChars_cons, hc]
  rw [digitsValue, hfold _ _ (fun c hc ↦ isDigit_of_mem_intText hc), intText_natCast, Nat.ofDigitChars_ten_toDigits]

theorem all_isDecimal_intText (n : ℕ) : (intText n).all isDecimal = true := by
  refine List.all_eq_true.mpr (fun c hc ↦ ?_)
  have hd := isDigit_of_mem_intText hc
  rw [isDecimal, if_pos (isAscii_of_isDigit hd), hd]

theorem all_isDigit_intText (n : ℕ) : (intText n).all isDigit = true := by
  refine List.all_eq_true.mpr (fun c hc ↦ ?_)
  have hd := isDigit_of_mem_intText hc
  rw [isDigit, if_pos (isAscii_of_isDigit hd), hd]

theorem intOfDigits_eq_some_iff {s : Str} {n : ℕ} : intOfDigits s = some n ↔
    s ≠ [] ∧ s.all isDecimal = true ∧ s.length ≤ 4300 ∧ digitsValue s = n := by
  rw [intOfDigits]
  split
  · rename_i h
    rw [Option.some_inj]
    exact ⟨fun hn ↦ ⟨h.1, h.2.1, h.2.2, hn⟩, fun hn ↦ hn.2.2.2⟩
  · rename_i h
    exact iff_of_false (fun hn ↦ by cases hn) (fun hn ↦ h ⟨hn.1, hn.2.1, hn.2.2.1⟩)

theorem intOfDigits_intText {n : ℕ} (h : (intText n).length ≤ 4300) : intOfDigits (intText n) = some n := by
  exact intOfDigits_eq_some_iff.mpr ⟨intText_ne_nil n, all_isDecimal_intText n, h, digitsValue_intText n⟩

end McpSqlServer.Library.Python

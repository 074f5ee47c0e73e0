import McpSqlServer.Library.Python.IntText

namespace McpSqlServer.Library.Python

open Text

variable [UnicodeData]

theorem intSpace_of_not_isSpace {c : Char} (h : isSpace c = false) : intSpace c = false := by
  rw [intSpace, h, Bool.false_and]

theorem dropWhile_intSpace {s : Str} (h : ∀ c ∈ s, isSpace c = false) : s.dropWhile intSpace = s := by
  cases s with
  | nil => rfl
  | cons c s =>
    have hc := intSpace_of_not_isSpace (h c List.mem_cons_self)
    exact List.dropWhile_cons_of_neg (by rw [hc]; exact Bool.false_ne_true)

theorem intStrip_of_forall {s : Str} (h : ∀ c ∈ s, isSpace c = false) : intStrip s = s := by
  have hr : ∀ c ∈ s.reverse, isSpace c = false := fun c hc ↦ h c (List.mem_reverse.mp hc)
  rw [intStrip, dropWhile_intSpace h, dropWhile_intSpace hr, List.reverse_reverse]

theorem isSpace_of_mem_intText {n : ℤ} {c : Char} (h : c ∈ intText n) : isSpace c = false := by
  rcases mem_intText h with rfl | h
  · rfl
  · exact isSpace_of_isDigit h

def groupedDigits (s : Str) : Option ℕ :=
  if (s.splitOn '_').all (fun w ↦ !w.isEmpty) then intOfDigits (s.filter (fun c ↦ c ≠ '_')) else none

omit [UnicodeData] in
theorem map_cast (o : Option ℕ) (f : ℤ → ℤ) : Option.map f (do let m ← o; pure (m : ℤ)) = o.map (fun m : ℕ ↦ f m) := by
  cases o <;> rfl

theorem parseInt_minus {s t : Str} (h : intStrip s = '-' :: t) :
    parseInt s = (groupedDigits t).map (fun m : ℕ ↦ -(m : ℤ)) := by
  rw [parseInt, h]
  exact map_cast (groupedDigits t) (fun n ↦ -n)

theorem parseInt_plus {s t : Str} (h : intStrip s = '+' :: t) :
    parseInt s = (groupedDigits t).map (fun m : ℕ ↦ (m : ℤ)) := by
  rw [parseInt, h]
  exact map_cast (groupedDigits t) (fun n ↦ n)

theorem parseInt_unsigned {s : Str} (h : ∀ c ∈ (intStrip s).head?, c ≠ '-' ∧ c ≠ '+') :
    parseInt s = (groupedDigits (intStrip s)).map (fun m : ℕ ↦ (m : ℤ)) := by
  rw [parseInt]
  split
  · rename_i t ht
    rw [ht] at h
    exact absurd rfl (h '-' rfl).1
  · rename_i t ht
    rw [ht] at h
    exact absurd rfl (h '+' rfl).2
  · exact map_cast (groupedDigits (intStrip s)) (fun n ↦ n)

theorem exists_digits_of_parseInt {s : Str} {n : ℤ} (h : parseInt s = some n) :
    ∃ t, groupedDigits t = some n.natAbs := by
  have hread {t : Str} {f : ℕ → ℤ} (hf : ∀ m, (f m).natAbs = m) (h : (groupedDigits t).map f = some n) :
      groupedDigits t = some n.natAbs := by
    obtain ⟨m, hm, rfl⟩ := Option.map_eq_some_iff.mp h
    rw [hm, hf]
  by_cases hminus : (intStrip s).head? = some '-'
  · rw [parseInt_minus (List.cons_head?_tail hminus).symm] at h
    exact ⟨_, hread (fun m ↦ by omega) h⟩
  · by_cases hplus : (intStrip s).head? = some '+'
    · rw [parseInt_plus (List.cons_head?_tail hplus).symm] at h
      exact ⟨_, hread (fun m ↦ by omega) h⟩
    · have hsign : ∀ c ∈ (intStrip s).head?, c ≠ '-' ∧ c ≠ '+' := by
        refine fun c hc ↦ ⟨?_, ?_⟩
        · rintro rfl
          exact hminus hc
        · rintro rfl
          exact hplus hc
      rw [parseInt_unsigned hsign] at h
      exact ⟨_, hread (fun m ↦ by omega) h⟩

theorem groupedDigits_intText {n : ℕ} (h : (intText n).length ≤ 4300) : groupedDigits (intText n) = some n := by
  have hmem : '_' ∉ intText n := notMem_intText (by decide) (by decide) n
  have hgroup : ((intText n).splitOn '_').all (fun w ↦ !w.isEmpty) = true := by
    rw [List.splitOn_eq_singleton hmem]
    simpa using intText_ne_nil n
  have hfilter : (intText n).filter (fun c ↦ c ≠ '_') = intText n := by
    refine List.filter_eq_self.mpr (fun c hc ↦ ?_)
    have hne : c ≠ '_' := fun h ↦ hmem (h ▸ hc)
    simpa using hne
  rw [groupedDigits, if_pos hgroup, hfilter, intOfDigits_intText h]

theorem parseInt_intText {n : ℤ} (h : (intText n.natAbs).length ≤ 4300) : parseInt (intText n) = some n := by
  have hstrip : intStrip (intText n) = intText n := intStrip_of_forall (fun c ↦ isSpace_of_mem_intText)
  by_cases hn : n < 0
  · have htext : intText n = '-' :: intText n.natAbs := by
      rw [intText_eq, decide_eq_true hn, intText_natCast]
      rfl
    rw [parseInt_minus (hstrip.trans htext), groupedDigits_intText h, Option.map_some, Option.some_inj]
    omega
  · have htext : intText n = intText n.natAbs := congrArg intText (by omega)
    have hhead : ∀ c ∈ (intStrip (intText n)).head?, c ≠ '-' ∧ c ≠ '+' := by
      intro c hc
      rw [hstrip, htext] at hc
      have hdigit := isDigit_of_mem_intText (List.mem_of_mem_head? hc)
      constructor
      · rintro rfl
        cases hdigit
      · rintro rfl
        cases hdigit
    rw [parseInt_unsigned hhead, hstrip, htext, groupedDigits_intText h, Option.map_some, Option.some_inj]
    omega

theorem digitsValue_lt {s : Str} (h : ∀ c ∈ s, decimalValue c ≤ 9) : digitsValue s < Nat.pow 10 s.length := by
  have hfold : ∀ (l : Str) (m k : ℕ), (∀ c ∈ l, decimalValue c ≤ 9) → m < Nat.pow 10 k →
      l.foldl (fun n c ↦ 10 * n + decimalValue c) m < Nat.pow 10 (k + l.length) := by
    intro l
    induction l with
    | nil => exact fun m k _ hm ↦ hm
    | cons c l ih =>
      intro m k hl hm
      have hstep : 10 * m + decimalValue c < Nat.pow 10 (k + 1) := by
        have hc := hl c List.mem_cons_self
        have hpow : Nat.pow 10 (k + 1) = 10 * Nat.pow 10 k := Nat.pow_succ'
        omega
      have h := ih _ (k + 1) (fun d hd ↦ hl d (List.mem_cons_of_mem c hd)) hstep
      rwa [Nat.add_right_comm, Nat.add_assoc] at h
  have h := hfold s 0 0 h Nat.one_pos
  rwa [Nat.zero_add] at h

theorem length_of_parseInt (hdecimal : ∀ c, isDecimal c = true → decimalValue c ≤ 9) {s : Str} {n : ℤ}
    (h : parseInt s = some n) : (intText n.natAbs).length ≤ 4300 := by
  obtain ⟨t, ht⟩ := exists_digits_of_parseInt h
  rw [groupedDigits] at ht
  split at ht
  · obtain ⟨-, hall, hlength, hvalue⟩ := intOfDigits_eq_some_iff.mp ht
    have hlt := digitsValue_lt (fun c hc ↦ hdecimal c (List.all_eq_true.mp hall c hc))
    rw [hvalue] at hlt
    have hle := length_intText_le_iff (n := n.natAbs) (List.length_pos_of_ne_nil (intOfDigits_eq_some_iff.mp ht).1)
    exact Nat.le_trans (hle.mpr hlt) hlength
  · cases ht

end McpSqlServer.Library.Python

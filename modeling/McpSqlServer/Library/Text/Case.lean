import McpSqlServer.Library.Text.Str
import Mathlib.Data.List.Forall2

namespace McpSqlServer.Library.Text

theorem toLower_of_not_isUpper {c : Char} (h : c.isUpper = false) : c.toLower = c := by
  have hn : ¬ (c.val ≥ 'A'.val ∧ c.val ≤ 'Z'.val) := of_decide_eq_false h
  exact dif_neg hn

theorem isLower_toLower {c : Char} (h : c.isUpper = true) : c.toLower.isLower = true := by
  have hA : 'A'.val.toNat = 65 := rfl
  have hZ : 'Z'.val.toNat = 90 := rfl
  have ha : 'a'.val.toNat = 97 := rfl
  have hz : 'z'.val.toNat = 122 := rfl
  have hd : ('a'.val - 'A'.val).toNat = 32 := rfl
  have hu : c.val ≥ 'A'.val ∧ c.val ≤ 'Z'.val := of_decide_eq_true h
  have hl : c.toLower.val = c.val + ('a'.val - 'A'.val) := by
    delta Char.toLower
    rw [dif_pos hu]
  delta Char.isLower
  rw [hl]
  simp only [ge_iff_le, UInt32.le_iff_toNat_le, hA, hZ] at hu
  simp only [ge_iff_le, UInt32.le_iff_toNat_le, Bool.and_eq_true, decide_eq_true_eq, UInt32.toNat_add, ha, hz,
    hd]
  omega

theorem isAscii_of_isAlpha {c : Char} (h : c.isAlpha = true) : isAscii c = true := by
  have hz : 'z'.val.toNat = 122 := rfl
  have hZ : 'Z'.val.toNat = 90 := rfl
  delta Char.isAlpha Char.isUpper Char.isLower at h
  simp only [Bool.or_eq_true, Bool.and_eq_true, decide_eq_true_eq, ge_iff_le, UInt32.le_iff_toNat_le, hz, hZ] at h
  have hc : c.toNat = c.val.toNat := rfl
  simp only [isAscii, decide_eq_true_eq, hc]
  omega

def Caseless (c : Char) : Prop := isAscii c = true ∧ c.isAlpha = false

instance (c : Char) : Decidable (Caseless c) := inferInstanceAs (Decidable (_ ∧ _))

theorem Caseless.not_isUpper {c : Char} (h : Caseless c) : c.isUpper = false := by
  have ha : (c.isUpper || c.isLower) = false := h.2
  exact (Bool.or_eq_false_iff.mp ha).1

variable [UnicodeData] {c d : Char} {s t f : Str}

def lowerForms (c : Char) : List Str := if c = 'Σ' then [['σ'], ['ς']] else [lowerChar c]

/-- `t` is `s` in lower case, each capital sigma taking either of its forms. -/
inductive LowerImage : Str → Str → Prop
  | nil : LowerImage [] []
  | cons {c : Char} {s t f : Str} (hf : f ∈ lowerForms c) (ht : LowerImage s t) : LowerImage (c :: s) (f ++ t)

theorem lowerAfter_image (before s : Str) : LowerImage s (lowerAfter before s) := by
  induction s generalizing before with
  | nil => exact .nil
  | cons c s ih =>
    rw [lowerAfter]
    refine .cons ?_ (ih _)
    unfold lowerForms
    split
    · cases finalSigma before s
      · exact List.mem_cons_self
      · exact List.mem_cons_of_mem _ List.mem_cons_self
    · exact List.mem_singleton_self _

theorem lower_image (s : Str) : LowerImage s (lower s) := lowerAfter_image [] s

theorem lowerForms_of_ne (h : c ≠ 'Σ') : lowerForms c = [lowerChar c] := if_neg h

theorem lowerForms_ne_nil (hf : f ∈ lowerForms c) : f ≠ [] := by
  unfold lowerForms at hf
  split at hf
  · simp only [List.mem_cons, List.not_mem_nil, or_false] at hf
    rcases hf with rfl | rfl <;> exact List.cons_ne_nil _ _
  · rw [List.mem_singleton.mp hf]
    unfold lowerChar
    split
    · exact List.cons_ne_nil _ _
    · exact UnicodeData.lower_ne_nil c

theorem LowerImage.append {s' t' : Str} (h : LowerImage s t) (h' : LowerImage s' t') :
    LowerImage (s ++ s') (t ++ t') := by
  induction h with
  | nil => exact h'
  | cons hf _ ih =>
    rw [List.append_assoc]
    exact .cons hf ih

def SameUpToCase (s s' : Str) : Prop := ∃ t, LowerImage s t ∧ LowerImage s' t

theorem LowerImage.eq_nil_iff (h : LowerImage s t) : t = [] ↔ s = [] := by
  cases h with
  | nil => exact Iff.rfl
  | cons hf _ =>
    refine ⟨fun he ↦ ?_, fun he ↦ absurd he (List.cons_ne_nil _ _)⟩
    exact absurd (List.append_eq_nil_iff.mp he).1 (lowerForms_ne_nil hf)

theorem LowerImage.eq_flatMap (h : LowerImage s t) (hs : 'Σ' ∉ s) : t = s.flatMap lowerChar := by
  induction h with
  | nil => rfl
  | cons hf _ ih =>
    rw [List.mem_cons, not_or] at hs
    rw [lowerForms_of_ne (Ne.symm hs.1)] at hf
    rw [List.mem_singleton.mp hf, ih hs.2, List.flatMap_cons]

theorem SameUpToCase.flatMap_eq {s' : Str} (h : SameUpToCase s s') (hs : 'Σ' ∉ s) (hs' : 'Σ' ∉ s') :
    s.flatMap lowerChar = s'.flatMap lowerChar := by
  obtain ⟨t, ht, ht'⟩ := h
  rw [← ht.eq_flatMap hs, ht'.eq_flatMap hs']

theorem Caseless.lowerChar (h : Caseless c) : lowerChar c = [c] := by
  rw [Text.lowerChar, if_pos h.1, toLower_of_not_isUpper h.not_isUpper]

theorem Caseless.lowerForms (h : Caseless c) : lowerForms c = [[c]] := by
  have hne : c ≠ 'Σ' := by
    rintro rfl
    exact absurd h.1 (by decide)
  rw [lowerForms_of_ne hne, h.lowerChar]

theorem Caseless.of_mem_lowerForms (h : Caseless d) (hf : f ∈ Text.lowerForms c) (hd : d ∈ f) : c = d := by
  unfold Text.lowerForms at hf
  split at hf
  · have hs : isAscii d = true := h.1
    simp only [List.mem_cons, List.not_mem_nil, or_false] at hf
    rcases hf with rfl | rfl <;> (rw [List.mem_singleton.mp hd] at hs; exact absurd hs (by decide))
  · rw [List.mem_singleton.mp hf, Text.lowerChar] at hd
    split at hd
    · cases hu : c.isUpper with
      | false => rw [List.mem_singleton.mp hd, toLower_of_not_isUpper hu]
      | true =>
        have hl : d.isAlpha = true := by
          rw [List.mem_singleton.mp hd]
          exact Bool.or_eq_true_iff.mpr (.inr (isLower_toLower hu))
        rw [h.2] at hl
        cases hl
    · rename_i hc
      have hl := UnicodeData.isAlpha_of_mem_lower c d (Bool.eq_false_iff.mpr hc) hd h.1
      rw [h.2] at hl
      cases hl

section SameLetters

def SameLetters (s t : Str) : Prop := List.Forall₂ (fun c d ↦ c.toLower = d.toLower) s t

omit [UnicodeData] in
theorem eq_or_isAlpha_of_toLower_eq (h : c.toLower = d.toLower) : c = d ∨ (c.isAlpha = true ∧ d.isAlpha = true) := by
  have halpha : ∀ e : Char, e.isUpper = true ∨ e.isLower = true → e.isAlpha = true := fun e he ↦ Bool.or_eq_true_iff.mpr he
  cases hc : c.isUpper with
  | true =>
    cases hd : d.isUpper with
    | true => exact .inr ⟨halpha c (.inl hc), halpha d (.inl hd)⟩
    | false =>
      have hlow := isLower_toLower hc
      rw [h, toLower_of_not_isUpper hd] at hlow
      exact .inr ⟨halpha c (.inl hc), halpha d (.inr hlow)⟩
  | false =>
    cases hd : d.isUpper with
    | true =>
      have hlow := isLower_toLower hd
      rw [← h, toLower_of_not_isUpper hc] at hlow
      exact .inr ⟨halpha c (.inr hlow), halpha d (.inl hd)⟩
    | false =>
      rw [toLower_of_not_isUpper hc, toLower_of_not_isUpper hd] at h
      exact .inl h

theorem lowerChar_congr (h : c.toLower = d.toLower) : lowerChar c = lowerChar d := by
  rcases eq_or_isAlpha_of_toLower_eq h with rfl | ⟨hc, hd⟩
  · rfl
  · rw [lowerChar, lowerChar, if_pos (isAscii_of_isAlpha hc), if_pos (isAscii_of_isAlpha hd), h]

theorem cased_congr (h : c.toLower = d.toLower) : cased c = cased d := by
  rcases eq_or_isAlpha_of_toLower_eq h with rfl | ⟨hc, hd⟩
  · rfl
  · rw [cased, cased, if_pos (isAscii_of_isAlpha hc), if_pos (isAscii_of_isAlpha hd), hc, hd]

theorem caseIgnorable_of_isAlpha (h : c.isAlpha = true) : caseIgnorable c = false := by
  have hne : ∀ d : Char, d.isAlpha = false → ¬ c = d := by
    rintro d hd rfl
    rw [h] at hd
    cases hd
  have hnat : ∀ d : Char, d.isAlpha = false → ¬ c.toNat = d.toNat := fun d hd he ↦ hne d hd (Char.toNat_inj.mp he)
  rw [caseIgnorable, if_pos (isAscii_of_isAlpha h)]
  have hquote : ¬ c.toNat = 39 := hnat '\'' rfl
  have hgrave : ¬ c.toNat = 96 := hnat (Char.ofNat 96) rfl
  simp only [hquote, hne '.' rfl, hne ':' rfl, hne '^' rfl, hgrave, decide_false, Bool.or_false]

theorem caseIgnorable_congr (h : c.toLower = d.toLower) : caseIgnorable c = caseIgnorable d := by
  rcases eq_or_isAlpha_of_toLower_eq h with rfl | ⟨hc, hd⟩
  · rfl
  · rw [caseIgnorable_of_isAlpha hc, caseIgnorable_of_isAlpha hd]

theorem firstCased_congr (h : SameLetters s t) :
    (s.dropWhile caseIgnorable).head?.any cased = (t.dropWhile caseIgnorable).head?.any cased := by
  induction h with
  | nil => rfl
  | @cons c d s t hcd _ ih =>
    rw [List.dropWhile_cons, List.dropWhile_cons, caseIgnorable_congr hcd]
    split
    · exact ih
    · exact cased_congr hcd

theorem lowerAfter_congr {before before' : Str} (h : SameLetters s t) (hb : SameLetters before before') :
    lowerAfter before s = lowerAfter before' t := by
  induction h generalizing before before' with
  | nil => rfl
  | @cons c d s t hcd hst ih =>
    have hsigma : c = 'Σ' ↔ d = 'Σ' := by
      rcases eq_or_isAlpha_of_toLower_eq hcd with rfl | ⟨hc, hd⟩
      · rfl
      · refine iff_of_false ?_ ?_
        · rintro rfl
          cases hc
        · rintro rfl
          cases hd
    rw [lowerAfter, lowerAfter, ih (.cons hcd hb), finalSigma, finalSigma, firstCased_congr hb, firstCased_congr hst,
      lowerChar_congr hcd]
    simp only [hsigma]

theorem lower_congr (h : SameLetters s t) : lower s = lower t := lowerAfter_congr h .nil

end SameLetters

end McpSqlServer.Library.Text

import Mathlib.Data.List.Basic

namespace McpSqlServer.Library

variable {α : Type} {p : α → Bool}

theorem filter_take_append_drop (p : α → Bool) (l : List α) (n : ℕ) :
    (l.take n).filter p ++ (l.drop n).filter p = l.filter p := by
  rw [← List.filter_append, List.take_append_drop]

theorem filter_drop_eq_nil_iff {l : List α} {n : ℕ} :
    (l.drop n).filter p = [] ↔ ∀ a ∈ l.drop n, p a = false := by
  simp

theorem filter_take_eq {l : List α} {n : ℕ} (h : ∀ a ∈ l.drop n, p a = false) : (l.take n).filter p = l.filter p := by
  rw [← filter_take_append_drop p l n, filter_drop_eq_nil_iff.mpr h, List.append_nil]

/-- A cut before a filter keeps as much as a cut after it exactly if nothing that passes the filter
is cut, or all that is left passes it. -/
theorem length_filter_take_iff (p : α → Bool) (l : List α) (n : ℕ) :
    ((l.take n).filter p).length = min (l.filter p).length n ↔
      (∀ a ∈ l.drop n, p a = false) ∨ ∀ a ∈ l.take n, p a = true := by
  have hsum : ((l.take n).filter p).length + ((l.drop n).filter p).length = (l.filter p).length := by
    rw [← List.length_append, filter_take_append_drop]
  have hle : ((l.take n).filter p).length ≤ (l.take n).length := List.length_filter_le _ _
  have htake : (l.take n).length = min n l.length := List.length_take
  have hdrop : ((l.drop n).filter p).length ≤ (l.drop n).length := List.length_filter_le _ _
  have hlen : (l.drop n).length = l.length - n := List.length_drop
  rw [← filter_drop_eq_nil_iff, ← List.length_filter_eq_length_iff, List.eq_nil_iff_length_eq_zero]
  omega

theorem filter_class_eq {q : α → Bool} {l : List α} (h : ∀ a ∈ l, p a = true ∨ q a = true) :
    l.filter (fun a ↦ !p a && q a) = l.filter (fun a ↦ !p a) := by
  apply List.filter_congr
  intro a ha
  rcases h a ha with hp | hq
  · rw [hp, Bool.not_true, Bool.false_and]
  · rw [hq, Bool.and_true]

theorem length_classes (p q : α → Bool) (l : List α) :
    (l.filter p ++ l.filter (fun a ↦ !p a && q a)).length + (l.filter (fun a ↦ !p a && !q a)).length =
      l.length := by
  induction l with
  | nil => rfl
  | cons a l ih =>
    rw [List.length_append] at ih ⊢
    cases hp : p a <;> cases hq : q a <;> simp [hp, hq] <;> omega

/-- What passes a filter is split into two classes without a loss exactly if the cut in front of the filter loses
nothing of it and all that is left is in a class. -/
theorem classes_of_cut_perm_iff (p q r : α → Bool) (l : List α) (n : ℕ) :
    (((l.take n).filter r).filter p ++ ((l.take n).filter r).filter (fun a ↦ !p a && q a)).Perm (l.filter r) ↔
      (∀ a ∈ l.drop n, r a = false) ∧ ∀ a ∈ (l.take n).filter r, p a = true ∨ q a = true := by
  have hsplit := filter_take_append_drop r l n
  constructor
  · intro h
    have hlen := h.length_eq
    have hsum := length_classes p q ((l.take n).filter r)
    rw [← hsplit, @List.length_append _ ((l.take n).filter r)] at hlen
    have hdrop : ((l.drop n).filter r).length = 0 := by omega
    have hrest : ((l.take n).filter r).filter (fun a ↦ !p a && !q a) = [] :=
      List.eq_nil_of_length_eq_zero (by omega)
    refine ⟨filter_drop_eq_nil_iff.mp (List.eq_nil_of_length_eq_zero hdrop), fun a ha ↦ ?_⟩
    have hnot := List.filter_eq_nil_iff.mp hrest a ha
    by_cases hp : p a = true
    · exact .inl hp
    · exact .inr (by simpa [hp] using hnot)
  · rintro ⟨hdrop, hclass⟩
    rw [filter_class_eq hclass, filter_take_eq hdrop]
    exact List.filter_append_perm p _

end McpSqlServer.Library

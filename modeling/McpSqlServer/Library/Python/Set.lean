import Mathlib.Data.List.Nodup
import Mathlib.Order.Lattice

namespace McpSqlServer.Library.Python

variable {α β : Type} {p q : α → Prop} {s t u : List α}

/-- The order in which the sets of a run are iterated over; it may be any. -/
structure SetOrder (α : Type) where
  iterate : List α → List α
  perm : ∀ s, (iterate s).Perm s

theorem SetOrder.mem_iterate (order : SetOrder α) {a : α} : a ∈ order.iterate s ↔ a ∈ s := (order.perm s).mem_iff

/-- A set, as a list without repetitions, has gained the elements that satisfy a predicate. -/
structure Gains (p : α → Prop) (s t : List α) : Prop where
  mem : ∀ a, a ∈ t ↔ a ∈ s ∨ p a
  nodup : s.Nodup → t.Nodup

namespace Gains

theorem refl (s : List α) : Gains (fun _ ↦ False) s s := ⟨fun _ ↦ (or_iff_left id).symm, id⟩

theorem trans (h : Gains p s t) (h' : Gains q t u) : Gains (fun a ↦ p a ∨ q a) s u := by
  refine ⟨fun a ↦ ?_, fun hs ↦ h'.nodup (h.nodup hs)⟩
  rw [h'.mem, h.mem, or_assoc]

theorem congr (h : Gains p s t) (hpq : ∀ a, p a ↔ q a) : Gains q s t := by
  refine ⟨fun a ↦ ?_, h.nodup⟩
  rw [h.mem, hpq]

theorem insert [BEq α] [LawfulBEq α] (a : α) (s : List α) : Gains (fun b ↦ b = a) s (s.insert a) := by
  refine ⟨fun b ↦ ?_, fun hs ↦ hs.insert⟩
  rw [List.mem_insert_iff, or_comm]

theorem foldlM {f : List α → β → Option (List α)} {p : β → α → Prop} {l : List β}
    (h : ∀ b ∈ l, ∀ s, ∃ t, f s b = some t ∧ Gains (p b) s t) (s : List α) :
    ∃ t, l.foldlM f s = some t ∧ Gains (fun a ↦ ∃ b ∈ l, p b a) s t := by
  induction l generalizing s with
  | nil => exact ⟨s, rfl, (refl s).congr (fun a ↦ by simp)⟩
  | cons b l ih =>
    obtain ⟨t, ht, hb⟩ := h b List.mem_cons_self s
    obtain ⟨u, hu, hl⟩ := ih (fun c hc ↦ h c (List.mem_cons_of_mem b hc)) t
    refine ⟨u, ?_, (hb.trans hl).congr (fun a ↦ by simp)⟩
    rw [List.foldlM_cons, ht]
    exact hu

theorem foldl {f : List α → β → List α} {p : β → α → Prop} (h : ∀ b s, Gains (p b) s (f s b)) (l : List β)
    (s : List α) : Gains (fun a ↦ ∃ b ∈ l, p b a) s (l.foldl f s) := by
  induction l generalizing s with
  | nil => exact (refl s).congr (fun a ↦ by simp)
  | cons b l ih => exact ((h b s).trans (ih (f s b))).congr (fun a ↦ by simp)

end Gains

theorem foldlM_eq_some {f g : List α → β → Option (List α)} (h : ∀ s b t, f s b = some t → g s b = some t) {l : List β}
    (hl : l.foldlM f s = some t) : l.foldlM g s = some t := by
  induction l generalizing s with
  | nil => exact hl
  | cons b l ih =>
    rw [List.foldlM_cons] at hl ⊢
    obtain ⟨u, hu, hl⟩ := Option.bind_eq_some_iff.mp hl
    rw [h s b u hu]
    exact ih hl

theorem pairwise_lt_mergeSort {α : Type} [LinearOrder α] {s : List α} (h : s.Nodup) :
    (s.mergeSort (fun a b ↦ decide (a ≤ b))).Pairwise (· < ·) := by
  have hle : (s.mergeSort (fun a b ↦ decide (a ≤ b))).Pairwise (fun a b ↦ decide (a ≤ b) = true) := by
    apply List.pairwise_mergeSort
    · intro a b c hab hbc
      exact decide_eq_true ((of_decide_eq_true hab).trans (of_decide_eq_true hbc))
    · intro a b
      rw [Bool.or_eq_true, decide_eq_true_iff, decide_eq_true_iff]
      exact le_total a b
  have hne : (s.mergeSort (fun a b ↦ decide (a ≤ b))).Pairwise (fun a b ↦ a ≠ b) := (List.mergeSort_perm s _).nodup_iff.mpr h
  exact (hle.and hne).imp (fun h ↦ lt_of_le_of_ne (of_decide_eq_true h.1) h.2)

end McpSqlServer.Library.Python

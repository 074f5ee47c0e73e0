import Mathlib.Data.Fintype.Card
import Mathlib.Data.Finset.Card

namespace McpSqlServer.Library

variable {σ ε α : Type} {cond : σ → Prop} {body : σ → Except ε σ}

/-- `while cond: body` ends from `s` in a state or in an exception of the body. -/
inductive WhileEnds (cond : σ → Prop) (body : σ → Except ε σ) : σ → Except ε σ → Prop
  | exit {s : σ} : ¬ cond s → WhileEnds cond body s (.ok s)
  | raise {s : σ} {e : ε} : cond s → body s = .error e → WhileEnds cond body s (.error e)
  | round {s t : σ} {r : Except ε σ} : cond s → body s = .ok t → WhileEnds cond body t r → WhileEnds cond body s r

/-- A loop that goes through a row of states ends at the first one that does not meet its condition. -/
theorem whileEnds_of_row {states : ℕ → σ} {k : ℕ} (hbody : ∀ i < k, body (states i) = .ok (states (i + 1)))
    (hcond : ∀ i < k, cond (states i)) (hend : ¬ cond (states k)) : WhileEnds cond body (states 0) (.ok (states k)) := by
  induction k generalizing states with
  | zero => exact .exit hend
  | succ k ih =>
    have hrest := @ih (fun i ↦ states (i + 1)) (fun i hi ↦ hbody (i + 1) (by omega))
      (fun i hi ↦ hcond (i + 1) (by omega)) hend
    exact .round (hcond 0 k.succ_pos) (hbody 0 k.succ_pos) hrest

/-- Of a row of different values one of the first `l.length + 1` is not in `l`. -/
theorem exists_first_notMem [DecidableEq α] {f : ℕ → α} (hf : Function.Injective f) (l : List α) :
    ∃ k, k ≤ l.length ∧ f k ∉ l ∧ ∀ i < k, f i ∈ l := by
  have hout : ∃ k, k ≤ l.length ∧ f k ∉ l := by
    by_contra hall
    have hsub : (Finset.range (l.length + 1)).image f ⊆ l.toFinset := by
      intro a ha
      obtain ⟨i, hi, rfl⟩ := Finset.mem_image.mp ha
      have hi := Finset.mem_range.mp hi
      exact List.mem_toFinset.mpr (not_not.mp (fun h ↦ hall ⟨i, by omega, h⟩))
    have hcard := Finset.card_le_card hsub
    rw [Finset.card_image_of_injective _ hf, Finset.card_range] at hcard
    have hl := List.toFinset_card_le l
    omega
  obtain ⟨k, hk, hfk⟩ := hout
  have hex : ∃ k, f k ∉ l := ⟨k, hfk⟩
  exact ⟨Nat.find hex, (Nat.find_min' hex hfk).trans hk, Nat.find_spec hex, fun i hi ↦ not_not.mp (Nat.find_min hex hi)⟩

end McpSqlServer.Library

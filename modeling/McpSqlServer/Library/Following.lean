import Mathlib.Data.Set.Finite.Basic
import Mathlib.Data.Set.Finite.List

namespace McpSqlServer.Library

variable {α : Type} {step : α → Option α} {a c : α} {seen : List α} {k l m : ℕ}

def follow (step : α → Option α) (a : α) : ℕ → Option α
  | 0 => some a
  | n + 1 => (follow step a n).bind step

def GoesOn (step : α → Option α) (a : α) (m : ℕ) : Prop :=
  ∃ c, follow step a m = some c ∧ (step c).isSome = true ∧ ∀ j < m, follow step a j ≠ some c

/-- The map can be followed for exactly `k` steps before it is left or a place repeats. -/
def FollowsFor (step : α → Option α) (a : α) (k : ℕ) : Prop := (∀ m < k, GoesOn step a m) ∧ ¬ GoesOn step a k

theorem FollowsFor.unique (hk : FollowsFor step a k) (hl : FollowsFor step a l) : k = l := by
  rcases Nat.lt_trichotomy k l with h | h | h
  · exact absurd (hl.1 k h) hk.2
  · exact h
  · exact absurd (hk.1 l h) hl.2

def Seen (step : α → Option α) (a : α) (m : ℕ) (seen : List α) : Prop :=
  ∀ c, c ∈ seen ↔ ∃ j < m, follow step a j = some c

namespace Seen

theorem zero (step : α → Option α) (a : α) : Seen step a 0 [] :=
  fun _ ↦ iff_of_false List.not_mem_nil (fun ⟨_, hj, _⟩ ↦ Nat.not_lt_zero _ hj)

theorem cons (h : Seen step a m seen) (hc : follow step a m = some c) : Seen step a (m + 1) (c :: seen) := by
  intro b
  rw [List.mem_cons, h b]
  constructor
  · rintro (rfl | ⟨j, hj, hb⟩)
    · exact ⟨m, Nat.lt_succ_self m, hc⟩
    · exact ⟨j, Nat.lt_succ_of_lt hj, hb⟩
  · rintro ⟨j, hj, hb⟩
    rcases Nat.lt_succ_iff_lt_or_eq.mp hj with hj | rfl
    · exact .inr ⟨j, hj, hb⟩
    · exact .inl (Option.some.inj (hb.symm.trans hc))

end Seen

end McpSqlServer.Library

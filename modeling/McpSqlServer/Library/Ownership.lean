import Mathlib.Algebra.BigOperators.Fin
import Mathlib.Algebra.Order.BigOperators.Group.Finset
import Mathlib.Algebra.Order.Group.Multiset
import Mathlib.Data.Multiset.UnionInter

namespace McpSqlServer.Library.Ownership

open scoped BigOperators

variable {ι κ M : Type*} [Fintype ι]

/-- What a finite family of processes owns together, `f` being what one process
owns in its current local state. -/
def total [AddCommMonoid M] (f : κ → M) (p : ι → κ) : M := ∑ i, f (p i)

section AddCommMonoid

variable [AddCommMonoid M] (f : κ → M) (p : ι → κ)

theorem total_update [DecidableEq ι] (i : ι) (x : κ) :
    total f (Function.update p i x) + f (p i) = total f p + f x := by
  have hu : (fun j ↦ f (Function.update p i x j)) = Function.update (fun j ↦ f (p j)) i (f x) :=
    Function.comp_update f p i x
  have hs := Finset.sum_update_of_mem (Finset.mem_univ i) (fun j ↦ f (p j)) (f x)
  have he := Finset.add_sum_erase Finset.univ (fun j ↦ f (p j)) (Finset.mem_univ i)
  rw [Finset.sdiff_singleton_eq_erase] at hs
  rw [total, hu, hs, total, ← he]
  ac_rfl

theorem total_congr {q : ι → κ} (h : ∀ i, f (q i) = f (p i)) : total f q = total f p :=
  Finset.sum_congr rfl (fun i _ ↦ h i)

theorem total_eq_zero (h : ∀ i, f (p i) = 0) : total f p = 0 :=
  Finset.sum_eq_zero (fun i _ ↦ h i)

end AddCommMonoid

section Multiset

variable {R : Type*} (f : κ → Multiset R) (p : ι → κ)

theorem le_total (i : ι) : f (p i) ≤ total f p :=
  Finset.single_le_sum (f := fun j ↦ f (p j)) (fun _ _ ↦ Multiset.zero_le _) (Finset.mem_univ i)

theorem add_le_total [DecidableEq ι] {i j : ι} (h : i ≠ j) : f (p i) + f (p j) ≤ total f p := by
  rw [← Finset.sum_pair (f := fun k ↦ f (p k)) h]
  exact Finset.sum_le_sum_of_subset (Finset.subset_univ _)

theorem total_mono {g : κ → Multiset R} (h : ∀ x, f x ≤ g x) : total f p ≤ total g p :=
  Finset.sum_le_sum (fun i _ ↦ h (p i))

/-- Two processes never own the same resource when the total is duplicate-free. -/
theorem disjoint_of_nodup [DecidableEq ι] (h : (total f p).Nodup) {i j : ι} (hij : i ≠ j) {r : R}
    (hi : r ∈ f (p i)) : r ∉ f (p j) := by
  have hn : (f (p i) + f (p j)).Nodup := Multiset.nodup_of_le (add_le_total f p hij) h
  exact Multiset.disjoint_left.mp (Multiset.nodup_add.mp hn).2.2 hi

end Multiset

end McpSqlServer.Library.Ownership

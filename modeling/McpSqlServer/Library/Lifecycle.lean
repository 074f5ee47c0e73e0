import Mathlib.Algebra.BigOperators.Group.Finset.Piecewise
import Mathlib.Algebra.Order.BigOperators.Group.Finset
import Mathlib.Algebra.Order.Group.Multiset
import Mathlib.Data.Multiset.Range

namespace McpSqlServer.Library

open scoped BigOperators

/-- How the events of a log bear on resources: which one an event is about, and whether it
ends the life of that one. -/
structure Usage (ε ρ : Type*) where
  about : ε → Option ρ
  ends : ε → Bool

namespace Usage

variable {ε ρ : Type*} (U : Usage ε ρ) {log : List ε} {e : ε} {r : ρ}

def ended (log : List ε) : List ρ := (log.filter U.ends).filterMap U.about

def Respects (log : List ε) : Prop := log.Pairwise (fun d e ↦ U.ends d = true → ∀ r ∈ U.about d, r ∉ U.about e)

variable {U}

theorem mem_ended : r ∈ U.ended log ↔ ∃ d ∈ log, U.ends d = true ∧ r ∈ U.about d := by
  simp only [ended, List.mem_filterMap, List.mem_filter, Option.mem_def, and_assoc]

theorem ended_concat_of_not (h : U.ends e = false) : U.ended (log ++ [e]) = U.ended log := by
  rw [ended, List.filter_append, List.filter_cons_of_neg (by rw [h]; exact Bool.false_ne_true), List.filter_nil,
    List.append_nil, ended]

theorem ended_concat (h : U.ends e = true) (hr : U.about e = some r) : U.ended (log ++ [e]) = U.ended log ++ [r] := by
  rw [ended, List.filter_append, List.filter_cons_of_pos h, List.filter_nil, List.filterMap_append,
    List.filterMap_cons_some hr, List.filterMap_nil, ended]

theorem respects_concat : U.Respects (log ++ [e]) ↔ U.Respects log ∧ ∀ r ∈ U.about e, r ∉ U.ended log := by
  rw [Respects, List.pairwise_append]
  refine and_congr_right (fun _ ↦ ?_)
  simp only [List.pairwise_singleton, List.mem_singleton, forall_eq, true_and, mem_ended]
  constructor
  · rintro h r hr ⟨d, hd, hends, hrd⟩
    exact h d hd hends r hrd hr
  · intro h d hd hends r hrd hr
    exact h r hr ⟨d, hd, hends, hrd⟩

end Usage

section Census

variable {ι : Type*} {places : Finset ι} {filed : ι → Multiset ℕ} {free ended : Multiset ℕ}
  {opened : ℕ} {i : ι} {c : ℕ}

/-- Of the resources with the numbers below `opened`, each one is once among those that have
ended, those that are free, and those that are filed in a place. -/
structure Census (places : Finset ι) (filed : ι → Multiset ℕ) (free ended : Multiset ℕ) (opened : ℕ) : Prop where
  total : ended + free + ∑ i ∈ places, filed i = Multiset.range opened
  elsewhere : ∀ i ∉ places, filed i = 0

theorem sum_filed_update [DecidableEq ι] (hi : i ∈ places) (filed : ι → Multiset ℕ) (held : Multiset ℕ) :
    ∑ j ∈ places, Function.update filed i held j + filed i = ∑ j ∈ places, filed j + held := by
  rw [Finset.sum_update_of_mem hi, Finset.sdiff_singleton_eq_erase, ← Finset.add_sum_erase places filed hi]
  ac_rfl

namespace Census

theorem initial (places : Finset ι) : Census places (fun _ ↦ 0) 0 0 0 :=
  ⟨by rw [Finset.sum_const_zero]; rfl, fun _ _ ↦ rfl⟩

/-- The next resource is free at first. -/
theorem opening (h : Census places filed free ended opened) :
    Census places filed ({opened} + free) ended (opened + 1) where
  total := by
    rw [Multiset.range_succ, ← Multiset.singleton_add, ← h.total]
    ac_rfl
  elsewhere := h.elsewhere

/-- The life of a free resource ends. -/
theorem ending (h : Census places filed ({c} + free) ended opened) : Census places filed free (ended + {c}) opened where
  total := by
    rw [← h.total]
    ac_rfl
  elsewhere := h.elsewhere

/-- Resources move between a place and those that are free. -/
theorem filing [DecidableEq ι] (h : Census places filed free ended opened) (hi : i ∈ places) {held free' : Multiset ℕ}
    (heq : held + free' = filed i + free) : Census places (Function.update filed i held) free' ended opened where
  total := by
    refine add_right_cancel (b := filed i) ?_
    calc ended + free' + ∑ j ∈ places, Function.update filed i held j + filed i
        = ended + free' + (∑ j ∈ places, filed j + held) := by rw [add_assoc, sum_filed_update hi]
      _ = ended + ∑ j ∈ places, filed j + (held + free') := by ac_rfl
      _ = ended + free + ∑ j ∈ places, filed j + filed i := by
        rw [heq]
        ac_rfl
      _ = Multiset.range opened + filed i := by rw [h.total]
  elsewhere j hj := by
    rw [Function.update_of_ne (ne_of_mem_of_not_mem hi hj).symm]
    exact h.elsewhere j hj

theorem nodup (h : Census places filed free ended opened) : (ended + free + ∑ i ∈ places, filed i).Nodup :=
  h.total ▸ Multiset.nodup_range opened

theorem mem_places (h : Census places filed free ended opened) (hc : c ∈ filed i) : i ∈ places := by
  by_contra hi
  rw [h.elsewhere i hi] at hc
  exact Multiset.notMem_zero c hc

theorem not_ended_of_free (h : Census places filed free ended opened) (hc : c ∈ free) : c ∉ ended := fun he ↦
  Multiset.disjoint_left.mp (Multiset.nodup_add.mp (Multiset.nodup_add.mp h.nodup).1).2.2 he hc

theorem not_ended_of_filed (h : Census places filed free ended opened) (hc : c ∈ filed i) : c ∉ ended := by
  intro he
  refine Multiset.disjoint_left.mp (Multiset.nodup_add.mp h.nodup).2.2 (Multiset.mem_add.mpr (.inl he)) ?_
  exact Multiset.mem_sum.mpr ⟨i, h.mem_places hc, hc⟩

theorem count_eq_one (h : Census places filed free ended opened) (hc : c < opened) :
    ended.count c + free.count c + ∑ i ∈ places, (filed i).count c = 1 := by
  have hcount := congrArg (Multiset.count c) h.total
  rw [Multiset.count_add, Multiset.count_add, Multiset.count_sum'] at hcount
  rw [hcount]
  exact Multiset.count_eq_one_of_mem (Multiset.nodup_range opened) (Multiset.mem_range.mpr hc)

theorem place_unique (h : Census places filed free ended opened) {j : ι} (hi : c ∈ filed i) (hj : c ∈ filed j) :
    i = j := by
  classical
  by_contra hij
  have hle : filed i + filed j ≤ ∑ i ∈ places, filed i := by
    rw [← Finset.sum_pair (f := filed) hij]
    refine Finset.sum_le_sum_of_subset (Finset.insert_subset (h.mem_places hi) ?_)
    exact Finset.singleton_subset_iff.mpr (h.mem_places hj)
  have hnodup := Multiset.nodup_of_le hle (Multiset.nodup_add.mp h.nodup).2.1
  exact Multiset.disjoint_left.mp (Multiset.nodup_add.mp hnodup).2.2 hi hj

/-- With none free, each resource has ended once, or has not ended and is filed in one place. -/
theorem settled (h : Census places filed 0 ended opened) (hc : c < opened) :
    (ended.count c = 1 ∧ ∀ i, c ∉ filed i) ∨ (ended.count c = 0 ∧ ∃! i, c ∈ filed i) := by
  have hcount := h.count_eq_one hc
  rw [Multiset.count_zero, Nat.add_zero] at hcount
  by_cases hi : ∃ i, c ∈ filed i
  · obtain ⟨i, hi⟩ := hi
    exact .inr ⟨Multiset.count_eq_zero.mpr (h.not_ended_of_filed hi), i, hi, fun j hj ↦ h.place_unique hj hi⟩
  · have hnone := not_exists.mp hi
    rw [Finset.sum_eq_zero (fun i _ ↦ Multiset.count_eq_zero.mpr (hnone i)), Nat.add_zero] at hcount
    exact .inl ⟨hcount, hnone⟩

end Census

end Census

end McpSqlServer.Library

import Mathlib.Data.List.Basic
import Mathlib.Logic.Function.Basic

namespace McpSqlServer.Library

variable {K V : Type*}

/-- What sessions have done and not committed, over what is durable. -/
structure Ledger (K V : Type*) where
  durable : List V := []
  pending : K → List V := fun _ ↦ []

namespace Ledger

variable [DecidableEq K] (l : Ledger K V) (c d : K) (v : V)

def execute : Ledger K V := { l with pending := Function.update l.pending c (l.pending c ++ [v]) }

def commit : Ledger K V where
  durable := l.durable ++ l.pending c
  pending := Function.update l.pending c []

def discard : Ledger K V := { l with pending := Function.update l.pending c [] }

variable {l c d v} {u : V}

@[simp] theorem pending_execute_self : (l.execute c v).pending c = l.pending c ++ [v] := Function.update_self ..

theorem pending_execute_of_ne (hd : d ≠ c) : (l.execute c v).pending d = l.pending d := Function.update_of_ne hd _ _

theorem mem_pending_execute (h : v ∈ (l.execute c u).pending d) : v ∈ l.pending d ∨ (d = c ∧ v = u) := by
  by_cases hd : d = c
  · subst hd
    rw [pending_execute_self] at h
    rcases List.mem_append.mp h with h | h
    · exact .inl h
    · exact .inr ⟨rfl, List.mem_singleton.mp h⟩
  · rw [pending_execute_of_ne hd] at h
    exact .inl h

theorem mem_pending_execute_self : v ∈ (l.execute c v).pending c := by
  rw [pending_execute_self]
  exact List.mem_append_right _ (List.mem_singleton_self v)

theorem mem_pending_of_emptied (h : v ∈ Function.update l.pending c [] d) : v ∈ l.pending d := by
  by_cases hd : d = c
  · subst hd
    rw [Function.update_self] at h
    exact absurd h List.not_mem_nil
  · rwa [Function.update_of_ne hd] at h

structure Holds (p : V → Prop) (l : Ledger K V) : Prop where
  durable : ∀ v ∈ l.durable, p v
  pending : ∀ c, ∀ v ∈ l.pending c, p v

namespace Holds

variable {p q : V → Prop}

omit [DecidableEq K] in
theorem mono (h : l.Holds p) (hpq : ∀ v, p v → q v) : l.Holds q :=
  ⟨fun v hv ↦ hpq v (h.durable v hv), fun c v hv ↦ hpq v (h.pending c v hv)⟩

theorem execute (h : l.Holds p) (hv : p v) : (l.execute c v).Holds p := by
  refine ⟨h.durable, fun d u hu ↦ ?_⟩
  rcases mem_pending_execute hu with hu | ⟨-, rfl⟩
  · exact h.pending d u hu
  · exact hv

theorem commit (h : l.Holds p) : (l.commit c).Holds p := by
  refine ⟨fun v hv ↦ ?_, fun d v hv ↦ h.pending d v (mem_pending_of_emptied hv)⟩
  rcases List.mem_append.mp hv with hv | hv
  · exact h.durable v hv
  · exact h.pending c v hv

theorem discard (h : l.Holds p) : (l.discard c).Holds p :=
  ⟨h.durable, fun d v hv ↦ h.pending d v (mem_pending_of_emptied hv)⟩

end Holds

/-- The work is not durable, and only a commit of `c` can make it so. -/
structure Confined (l : Ledger K V) (c : K) (v : V) : Prop where
  notDurable : v ∉ l.durable
  elsewhere : ∀ d, d ≠ c → v ∉ l.pending d

namespace Confined

omit [DecidableEq K] in
theorem of_holds {p : V → Prop} (h : l.Holds p) (hv : ¬ p v) : l.Confined c v :=
  ⟨fun hm ↦ hv (h.durable v hm), fun d _ hm ↦ hv (h.pending d v hm)⟩

theorem execute_own (h : l.Confined c v) : (l.execute c u).Confined c v := by
  refine ⟨h.notDurable, fun d hd ↦ ?_⟩
  rw [pending_execute_of_ne hd]
  exact h.elsewhere d hd

theorem execute (h : l.Confined c v) (hu : v ≠ u) (d : K) : (l.execute d u).Confined c v :=
  ⟨h.notDurable, fun e he hm ↦ (mem_pending_execute hm).elim (h.elsewhere e he) (fun hm ↦ hu hm.2)⟩

theorem commit (h : l.Confined c v) (hd : d ≠ c) : (l.commit d).Confined c v := by
  refine ⟨fun hm ↦ ?_, fun e he hm ↦ h.elsewhere e he (mem_pending_of_emptied hm)⟩
  rcases List.mem_append.mp hm with hm | hm
  · exact h.notDurable hm
  · exact h.elsewhere d hd hm

theorem discard (h : l.Confined c v) (d : K) : (l.discard d).Confined c v :=
  ⟨h.notDurable, fun e he hm ↦ h.elsewhere e he (mem_pending_of_emptied hm)⟩

end Confined

end Ledger

end McpSqlServer.Library

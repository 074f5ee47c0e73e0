import McpSqlServer.Models
import Mathlib.Algebra.Order.Group.Multiset

namespace McpSqlServer.Pool

abbrev Conn := ℕ

structure PoolState where
  available : List Conn := []
  inUse : List Conn := []
  createdTotal : ℕ := 0
  reusedTotal : ℕ := 0
  discardedTotal : ℕ := 0
  deriving DecidableEq

inductive Acquired
  | reuse (c : Conn)
  | createNew
  | full
  deriving DecidableEq

namespace PoolState

def size (s : PoolState) : ℕ := s.available.length + s.inUse.length

/-- The first critical section of `_acquire_connection`: take the connection released
last, or decide to create one while the pool is below its cap. -/
def acquire (cap : ℕ) (s : PoolState) : Acquired × PoolState :=
  match s.available.getLast? with
  | some c =>
    (.reuse c, { s with available := s.available.dropLast, inUse := s.inUse ++ [c],
                        reusedTotal := s.reusedTotal + 1 })
  | none => (if s.size < cap then .createNew else .full, s)

def removeInUse (c : Conn) (s : PoolState) : PoolState := { s with inUse := s.inUse.erase c }

def countDiscarded (s : PoolState) : PoolState := { s with discardedTotal := s.discardedTotal + 1 }

def discardStale (c : Conn) (s : PoolState) : PoolState := (s.removeInUse c).countDiscarded

def registerCreated (c : Conn) (s : PoolState) : PoolState :=
  { s with inUse := s.inUse ++ [c], createdTotal := s.createdTotal + 1 }

/-- The critical section of `_release_connection`; the flag is `close_now`. -/
def release (cap : ℕ) (c : Conn) (shouldDiscard autocommitOk : Bool) (s : PoolState) : Bool × PoolState :=
  let s := s.removeInUse c
  if shouldDiscard then (true, s.countDiscarded)
  else if !autocommitOk then (true, s.countDiscarded)
  else if s.available.length < cap then (false, { s with available := s.available ++ [c] })
  else (true, s.countDiscarded)

/-- The list changes of `close_all_pools`; the first component is `to_close`. -/
def clear (s : PoolState) : List Conn × PoolState :=
  (s.available ++ s.inUse, { s with available := [], inUse := [] })

variable (cap : ℕ) (c : Conn) (s : PoolState)

theorem acquire_cases :
    (∃ rest c, s.available = rest ++ [c] ∧
      s.acquire cap = (.reuse c, { s with available := rest, inUse := s.inUse ++ [c],
                                          reusedTotal := s.reusedTotal + 1 })) ∨
    (s.available = [] ∧ s.size < cap ∧ s.acquire cap = (.createNew, s)) ∨
    (s.available = [] ∧ cap ≤ s.size ∧ s.acquire cap = (.full, s)) := by
  rcases List.eq_nil_or_concat s.available with h | ⟨rest, c, h⟩
  · rcases Nat.lt_or_ge s.size cap with hs | hs
    · exact .inr (.inl ⟨h, hs, by simp [acquire, h, hs]⟩)
    · exact .inr (.inr ⟨h, hs, by simp [acquire, h, Nat.not_lt.mpr hs]⟩)
  · rw [List.concat_eq_append] at h
    exact .inl ⟨rest, c, h, by simp [acquire, h]⟩

/-- A released connection goes back to `available` only from a block that ended well, when
resetting autocommit worked and there is room; in every other case it is counted as
discarded and closed. -/
theorem release_cases (shouldDiscard autocommitOk : Bool) :
    (shouldDiscard = false ∧ autocommitOk = true ∧ s.available.length < cap ∧
      s.release cap c shouldDiscard autocommitOk =
        (false, { s.removeInUse c with available := s.available ++ [c] })) ∨
    ((shouldDiscard = false → autocommitOk = true → cap ≤ s.available.length) ∧
      s.release cap c shouldDiscard autocommitOk = (true, s.discardStale c)) := by
  by_cases h : shouldDiscard = false ∧ autocommitOk = true ∧ s.available.length < cap
  · obtain ⟨hd, ha, hl⟩ := h
    exact .inl ⟨hd, ha, hl, by simp [release, removeInUse, hd, ha, hl]⟩
  · refine .inr ⟨fun hd ha ↦ Nat.not_lt.mp (fun hl ↦ h ⟨hd, ha, hl⟩), ?_⟩
    unfold release discardStale
    cases shouldDiscard with
    | true => rfl
    | false =>
      cases autocommitOk with
      | false => rfl
      | true =>
        have hl : ¬ (s.removeInUse c).available.length < cap := fun hl ↦ h ⟨rfl, rfl, hl⟩
        simp only [Bool.false_eq_true, Bool.not_true, if_false, if_neg hl]

theorem coe_inUse_removeInUse (h : c ∈ s.inUse) :
    ((s.removeInUse c).inUse : Multiset Conn) + {c} = s.inUse := by
  rw [removeInUse, ← Multiset.coe_erase, add_comm, Multiset.singleton_add]
  exact Multiset.cons_erase (Multiset.mem_coe.mpr h)

theorem size_removeInUse (h : c ∈ s.inUse) : (s.removeInUse c).size + 1 = s.size := by
  have hl := List.length_erase_add_one h
  simp only [size, removeInUse]
  omega

end PoolState

end McpSqlServer.Pool

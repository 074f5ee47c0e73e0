import Mathlib.Data.List.Basic
import Mathlib.Order.Lattice

namespace McpSqlServer.Library.ExpiringMap

variable {K V W T : Type*} [DecidableEq K]

section Answers

variable (key : V → K)

def latest (writes : List V) (k : K) : Option V := (writes.filter (fun v ↦ key v = k)).getLast?

theorem latest_concat (writes : List V) (v : V) (k : K) :
    latest key (writes ++ [v]) k = if key v = k then some v else latest key writes k := by
  rw [latest, List.filter_append]
  by_cases h : key v = k
  · rw [if_pos h, List.filter_cons_of_pos (by simpa using h), List.filter_nil, List.getLast?_append,
      List.getLast?_singleton, Option.some_or]
  · rw [if_neg h, List.filter_cons_of_neg (by simpa using h), List.filter_nil, List.append_nil, latest]

theorem latest_congr {writes others : List V} {k : K}
    (h : writes.filter (fun v ↦ key v = k) = others.filter (fun v ↦ key v = k)) :
    latest key writes k = latest key others k := by
  rw [latest, h, latest]

variable [LinearOrder T] (expiry : V → T)

/-- What a map answers whose entries expire: the value last written, while it lives. -/
def answer (writes : List V) (now : T) (k : K) : Option V := (latest key writes k).filter (fun v ↦ now < expiry v)

end Answers

section Stores

variable [LinearOrder T] {key : V → K} {view : V → W} {expiry : W → T} {writes : List V} {look : K → Option W}
  {now later : T} {k : K} {v : V}

/-- A store holds a view of what was written and has not expired; what it holds beside that has expired. -/
def Tracks (key : V → K) (view : V → W) (expiry : W → T) (writes : List V) (now : T) (look : K → Option W) : Prop :=
  ∀ later, now ≤ later → ∀ k, (look k).filter (fun w ↦ later < expiry w) =
    (answer key (expiry ∘ view) writes later k).map view

namespace Tracks

theorem nil (now : T) : Tracks key view expiry [] now (fun _ ↦ none) := fun _ _ _ ↦ rfl

theorem mono (h : Tracks key view expiry writes now look) (hn : now ≤ later) :
    Tracks key view expiry writes later look := fun t ht ↦ h t (hn.trans ht)

/-- A store may drop at any time what has expired by then. -/
theorem purge (h : Tracks key view expiry writes now look) :
    Tracks key view expiry writes now (fun k ↦ (look k).filter (fun w ↦ now < expiry w)) := by
  intro later hl k
  rw [← h later hl k, Option.filter_filter]
  apply congrArg (fun p ↦ (look k).filter p)
  funext w
  by_cases hw : later < expiry w
  · simp [hw, hl.trans_lt hw]
  · simp [hw]

theorem write (h : Tracks key view expiry writes now look) (v : V) :
    Tracks key view expiry (writes ++ [v]) now (fun k ↦ if k = key v then some (view v) else look k) := by
  intro later hl k
  show (if k = key v then some (view v) else look k).filter _ = _
  rw [answer, latest_concat]
  by_cases hk : key v = k
  · subst hk
    rw [if_pos rfl, if_pos rfl, Option.filter_some, Option.filter_some]
    by_cases hv : later < expiry (view v)
    · simp [hv]
    · simp [hv]
  · rw [if_neg (Ne.symm hk), if_neg hk]
    exact h later hl k

theorem lookup_purge (h : Tracks key view expiry writes now look) (k : K) :
    (look k).filter (fun w ↦ now < expiry w) = (answer key (expiry ∘ view) writes now k).map view :=
  h now le_rfl k

end Tracks

end Stores

end McpSqlServer.Library.ExpiringMap

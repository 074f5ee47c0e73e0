import McpSqlServer.AuditLog
import McpSqlServer.Library.Python.Dict
import Mathlib.Algebra.GroupWithZero.Nat

namespace McpSqlServer

open Library.Text Library.Python

def allowDecision : Str := "allow".toList

def denyDecision : Str := "deny".toList

def unknownDecision : Str := "unknown".toList

def isOther (decision : Str) : Bool := decide (decision ≠ allowDecision) && decide (decision ≠ denyDecision)

def columnOf (decision : Str) : Str :=
  if decision ∈ [allowDecision, denyDecision, unknownDecision] then decision else unknownDecision

def tallies (decisions : List Str) : Dict ℕ :=
  [(allowDecision, decisions.count allowDecision), (denyDecision, decisions.count denyDecision),
    (unknownDecision, decisions.countP isOther)]

def tableSum (measure : Dict ℕ → ℕ) (table : Dict (Dict ℕ)) : ℕ := (table.map (fun row ↦ measure row.2)).sum

def rowTotal (counts : Dict ℕ) : ℕ := (counts.map Prod.snd).sum

def rowDenied (counts : Dict ℕ) : ℕ := (counts.lookup denyDecision).getD 0

/-- The row of each key has the tallies of the decisions that came with the key, and there are
no other rows. -/
structure Tallied (entries : List (Str × Str)) (table : Dict (Dict ℕ)) : Prop where
  lookup : ∀ key, table.lookup key =
    if key ∈ entries.map Prod.fst then some (tallies ((entries.filter (·.1 = key)).map Prod.snd)) else none
  total : tableSum rowTotal table = entries.length
  denied : tableSum rowDenied table = (entries.map Prod.snd).count denyDecision

section Tables

variable {entries : List (Str × Str)} {table : Dict (Dict ℕ)} {measure : Dict ℕ → ℕ} {key decision : Str}
  {decisions : List Str}

theorem tallies_concat (decisions : List Str) (decision : Str) :
    (decision = allowDecision ∧ tallies (decisions ++ [decision]) = [(allowDecision, decisions.count allowDecision + 1),
      (denyDecision, decisions.count denyDecision), (unknownDecision, decisions.countP isOther)]) ∨
    (decision = denyDecision ∧ tallies (decisions ++ [decision]) = [(allowDecision, decisions.count allowDecision),
      (denyDecision, decisions.count denyDecision + 1), (unknownDecision, decisions.countP isOther)]) ∨
    (decision ≠ allowDecision ∧ decision ≠ denyDecision ∧
      tallies (decisions ++ [decision]) = [(allowDecision, decisions.count allowDecision),
        (denyDecision, decisions.count denyDecision), (unknownDecision, decisions.countP isOther + 1)]) := by
  have hcount : ∀ d : Str, (decisions ++ [decision]).count d = decisions.count d + if decision = d then 1 else 0 := by
    intro d
    rw [List.count_append, List.count_singleton]
    simp only [beq_iff_eq]
  have hother : (decisions ++ [decision]).countP isOther =
      decisions.countP isOther + if isOther decision = true then 1 else 0 := by
    rw [List.countP_append, List.countP_singleton]
  have hne : allowDecision ≠ denyDecision := by decide
  rw [tallies, hcount, hcount, hother]
  by_cases hallow : decision = allowDecision
  · subst hallow
    exact .inl ⟨rfl, by rw [if_pos rfl, if_neg hne]; rfl⟩
  · by_cases hdeny : decision = denyDecision
    · subst hdeny
      exact .inr (.inl ⟨rfl, by rw [if_neg hallow, if_pos rfl]; rfl⟩)
    · have ho : isOther decision = true := by rw [isOther, decide_eq_true hallow, decide_eq_true hdeny]; rfl
      exact .inr (.inr ⟨hallow, hdeny, by rw [if_neg hallow, if_neg hdeny, if_pos ho]; rfl⟩)

theorem rowTotal_tallies (decisions : List Str) : rowTotal (tallies decisions) = decisions.length := by
  induction decisions using List.reverseRecOn with
  | nil => rfl
  | append_singleton decisions d ih =>
    simp only [rowTotal, tallies, List.map_cons, List.map_nil, List.sum_cons, List.sum_nil] at ih
    rw [List.length_append, List.length_singleton]
    rcases tallies_concat decisions d with ⟨-, h⟩ | ⟨-, h⟩ | ⟨-, -, h⟩
    all_goals
      rw [h]
      simp only [rowTotal, List.map_cons, List.map_nil, List.sum_cons, List.sum_nil]
      omega

theorem rowDenied_tallies (decisions : List Str) : rowDenied (tallies decisions) = decisions.count denyDecision := rfl

theorem lookup_tallies_isSome (decisions : List Str) (decision : Str) :
    ((tallies decisions).lookup decision).isSome = true ↔
      decision ∈ [allowDecision, denyDecision, unknownDecision] := by
  rw [Option.isSome_iff_exists, ← mem_keys_iff]
  rfl

theorem bump_tallies (decisions : List Str) (decision : Str) :
    setItem (columnOf decision) (((tallies decisions).lookup (columnOf decision)).getD 0 + 1) (tallies decisions) =
      tallies (decisions ++ [decision]) := by
  rcases tallies_concat decisions decision with ⟨rfl, h⟩ | ⟨rfl, h⟩ | ⟨hallow, hdeny, h⟩
  · rw [h]
    rfl
  · rw [h]
    rfl
  · have hcolumn : columnOf decision = unknownDecision := by
      rw [columnOf]
      split
      · rename_i hmem
        simpa [hallow, hdeny] using hmem
      · rfl
    rw [h, hcolumn]
    rfl

theorem tally_of_tallies (h : (table.lookup key).getD (tallies []) = tallies decisions) :
    tally key decision table = setItem key (tallies (decisions ++ [decision])) (setDefault key noCounts table) := by
  have hcounts : ((setDefault key noCounts table).lookup key).getD [] = tallies decisions := by
    rw [lookup_setDefault, if_pos rfl, Option.getD_some]
    exact h
  simp only [tally, hcounts, lookup_tallies_isSome]
  exact congrArg (setItem key · _) (bump_tallies decisions decision)

theorem tableSum_setItem (measure : Dict ℕ → ℕ) (key : Str) (counts : Dict ℕ) (table : Dict (Dict ℕ)) :
    tableSum measure (setItem key counts table) + ((table.lookup key).map measure).getD 0 =
      tableSum measure table + measure counts := by
  induction table with
  | nil =>
    simp [tableSum, setItem]
  | cons row table ih =>
    obtain ⟨k, c⟩ := row
    rw [setItem, lookup_cons_eq]
    by_cases hk : k = key
    · simp only [hk, if_true, tableSum, List.map_cons, List.sum_cons, Option.map_some, Option.getD_some]
      omega
    · simp only [hk, Ne.symm hk, if_false, tableSum, List.map_cons, List.sum_cons] at ih ⊢
      omega

theorem tableSum_setDefault (h : measure noCounts = 0) (key : Str) (table : Dict (Dict ℕ)) :
    tableSum measure (setDefault key noCounts table) = tableSum measure table := by
  rw [setDefault]
  split
  · rfl
  · simp [tableSum, h]

theorem Tallied.nil : Tallied [] [] where
  lookup _ := rfl
  total := rfl
  denied := rfl

theorem Tallied.tally (h : Tallied entries table) (key decision : Str) :
    Tallied (entries ++ [(key, decision)]) (tally key decision table) := by
  let decisions : List Str := (entries.filter (·.1 = key)).map Prod.snd
  have hrow : (table.lookup key).getD (tallies []) = tallies decisions := by
    rw [h.lookup]
    split
    · rfl
    · rename_i hkey
      have hnone : entries.filter (·.1 = key) = [] := by
        refine List.filter_eq_nil_iff.mpr (fun entry hentry he ↦ hkey ?_)
        exact List.mem_map.mpr ⟨entry, hentry, of_decide_eq_true he⟩
      rw [Option.getD_none, show decisions = [] from congrArg (List.map Prod.snd) hnone]
  have hmeasure : ∀ measure : Dict ℕ → ℕ, measure noCounts = 0 →
      tableSum measure (McpSqlServer.tally key decision table) + measure (tallies decisions) =
        tableSum measure table + measure (tallies (decisions ++ [decision])) := by
    intro measure hzero
    have hsum := tableSum_setItem measure key (tallies (decisions ++ [decision])) (setDefault key noCounts table)
    rw [lookup_setDefault, if_pos rfl, tableSum_setDefault hzero] at hsum
    rw [tally_of_tallies hrow, ← hsum, ← hrow]
    rfl
  constructor
  · intro k
    rw [tally_of_tallies hrow, lookup_setItem, lookup_setDefault, List.map_append, List.filter_append]
    by_cases hk : k = key
    · subst hk
      simp [decisions]
    · have hmem : k ∈ entries.map Prod.fst ++ [key] ↔ k ∈ entries.map Prod.fst := by
        rw [List.mem_append, List.mem_singleton, or_iff_left hk]
      have hfilter : [(key, decision)].filter (·.1 = k) = [] := by simp [Ne.symm hk]
      rw [if_neg hk, if_neg hk, hfilter, List.append_nil, h.lookup k]
      simp only [List.map_cons, List.map_nil, hmem]
  · have htotal := hmeasure rowTotal rfl
    rw [rowTotal_tallies, rowTotal_tallies, h.total, List.length_append, List.length_singleton] at htotal
    rw [List.length_append, List.length_singleton]
    omega
  · have hdenied := hmeasure rowDenied rfl
    rw [rowDenied_tallies, rowDenied_tallies, h.denied, List.count_append] at hdenied
    rw [List.map_append, List.count_append]
    exact Nat.add_right_cancel (hdenied.trans (by rw [Nat.add_left_comm, Nat.add_comm]; rfl))

end Tables

section Summary

variable [UnicodeData] {R : Reader} {es : List (Stamp × LogEvent)} {file : Option Str} {text : Str}

end Summary

end McpSqlServer

import McpSqlServer.Library.Python.Value
import Mathlib.Data.Finset.Card
import Mathlib.Data.List.Nodup

namespace McpSqlServer.Library.Python

open Text

variable {α β : Type} {d : Dict α} {k key : Str} {a : α}

def Dict.keys (d : Dict α) : List Str := d.map Prod.fst

def Dict.Unique (d : Dict α) : Prop := d.keys.Nodup

theorem lookup_eq_none_iff_notMem : d.lookup k = none ↔ k ∉ Dict.keys d := by
  induction d with
  | nil => exact iff_of_true rfl List.not_mem_nil
  | cons e d ih =>
    obtain ⟨k', b⟩ := e
    rw [lookup_cons_eq, Dict.keys, List.map_cons, List.mem_cons, not_or]
    by_cases h : k = k'
    · rw [if_pos h]
      exact iff_of_false (fun hn ↦ nomatch hn) (fun hn ↦ hn.1 h)
    · rw [if_neg h]
      exact ih.trans (and_iff_right h).symm

theorem keys_zip_sublist (l : List Str) (row : List α) : (Dict.keys (l.zip row)).Sublist l := by
  induction l generalizing row with
  | nil => exact List.Sublist.refl []
  | cons k l ih =>
    cases row with
    | nil => exact List.nil_sublist _
    | cons a row => exact (ih row).cons_cons k

theorem mem_keys_iff : k ∈ Dict.keys d ↔ ∃ a, d.lookup k = some a := by
  rw [← Option.ne_none_iff_exists', ne_eq, lookup_eq_none_iff_notMem, not_not]

theorem keys_setItem (key : Str) (a : α) (d : Dict α) :
    Dict.keys (setItem key a d) = if key ∈ Dict.keys d then Dict.keys d else Dict.keys d ++ [key] := by
  induction d with
  | nil => rfl
  | cons e d ih =>
    obtain ⟨k', b⟩ := e
    rw [setItem]
    by_cases h : k' = key
    · have hmem : key ∈ Dict.keys ((k', b) :: d) := List.mem_cons.mpr (.inl h.symm)
      rw [if_pos h, if_pos hmem]
      rfl
    · have hmem : key ∈ Dict.keys ((k', b) :: d) ↔ key ∈ Dict.keys d :=
        List.mem_cons.trans (or_iff_right (Ne.symm h))
      rw [if_neg h]
      simp only [hmem]
      show k' :: Dict.keys (setItem key a d) = _
      rw [ih]
      split
      · rfl
      · rfl

theorem Dict.Unique.setItem (h : Dict.Unique d) (key : Str) (a : α) : Dict.Unique (setItem key a d) := by
  rw [Dict.Unique, keys_setItem]
  split
  · exact h
  · rename_i hk
    refine List.nodup_append.mpr ⟨h, List.nodup_singleton key, fun k hk' l hl hkl ↦ ?_⟩
    rw [hkl, List.mem_singleton.mp hl] at hk'
    exact hk hk'

theorem length_setItem (key : Str) (a : α) (d : Dict α) :
    (setItem key a d).length = if key ∈ Dict.keys d then d.length else d.length + 1 := by
  have h := congrArg List.length (keys_setItem key a d)
  rw [Dict.keys, List.length_map] at h
  rw [h]
  split
  · exact List.length_map Prod.fst
  · rw [List.length_append, Dict.keys, List.length_map]
    rfl

theorem Dict.Unique.filter (h : Dict.Unique d) (p : Str × α → Bool) : Dict.Unique (d.filter p) :=
  h.sublist (List.filter_sublist.map Prod.fst)

theorem Dict.Unique.lookup_filter (h : Dict.Unique d) (p : Str × α → Bool) (k : Str) :
    (d.filter p).lookup k = (d.lookup k).filter (fun a ↦ p (k, a)) := by
  induction d with
  | nil => rfl
  | cons e d ih =>
    obtain ⟨k', b⟩ := e
    obtain ⟨hk', hd⟩ := List.nodup_cons.mp h
    have ih := ih hd
    by_cases hk : k = k'
    · subst hk
      have hnone : (d.filter p).lookup k = none :=
        lookup_eq_none_iff_notMem.mpr (fun hm ↦ hk' ((List.filter_sublist.map Prod.fst).subset hm))
      rw [lookup_cons_eq, if_pos rfl, List.filter_cons, Option.filter_some]
      split
      · rw [lookup_cons_eq, if_pos rfl]
      · exact hnone
    · rw [lookup_cons_eq, if_neg hk, List.filter_cons]
      split
      · rw [lookup_cons_eq, if_neg hk, ih]
      · exact ih

theorem lookup_mapValues (f : α → β) (d : Dict α) (k : Str) :
    (d.map (fun e ↦ (e.1, f e.2))).lookup k = (d.lookup k).map f := by
  induction d with
  | nil => rfl
  | cons e d ih =>
    rw [List.map_cons, lookup_cons_eq, lookup_cons_eq, ih]
    split
    · rfl
    · rfl

theorem keys_mapValues (f : α → β) (d : Dict α) : Dict.keys (d.map (fun e ↦ (e.1, f e.2))) = Dict.keys d := by
  rw [Dict.keys, List.map_map]
  rfl

theorem keys_setDefault (key : Str) (a : α) (d : Dict α) :
    Dict.keys (setDefault key a d) = if key ∈ Dict.keys d then Dict.keys d else Dict.keys d ++ [key] := by
  have hk : (d.lookup key).isSome = true ↔ key ∈ Dict.keys d := by
    rw [mem_keys_iff, Option.isSome_iff_exists]
  unfold setDefault
  simp only [hk]
  split
  · rfl
  · exact List.map_append

theorem Dict.Unique.setDefault (h : Dict.Unique d) (key : Str) (a : α) : Dict.Unique (setDefault key a d) := by
  have hs := h.setItem key a
  rwa [Dict.Unique, keys_setItem, ← keys_setDefault key a d] at hs

theorem lookup_setDefault (key k : Str) (a : α) (d : Dict α) :
    (setDefault key a d).lookup k = if k = key then some ((d.lookup key).getD a) else d.lookup k := by
  unfold setDefault
  cases hd : d.lookup key with
  | some b =>
    rw [if_pos Option.isSome_some, Option.getD_some]
    split
    · rename_i hk
      rw [hk, hd]
    · rfl
  | none =>
    rw [if_neg (by simp), Option.getD_none, List.lookup_append]
    split
    · rename_i hk
      rw [hk, hd, lookup_cons_eq, if_pos rfl]
      rfl
    · rename_i hk
      rw [lookup_cons_eq, if_neg hk, List.lookup_nil, Option.or_none]

theorem Dict.Unique.card_keys (h : Dict.Unique d) : (Dict.keys d).toFinset.card = d.length := by
  rw [List.toFinset_card_of_nodup h, Dict.keys, List.length_map]

theorem setItem_of_notMem (h : k ∉ Dict.keys d) :
    setItem k a d = d ++ [(k, a)] := by
  induction d with
  | nil => rfl
  | cons e d ih =>
    simp only [Dict.keys, List.map_cons, List.mem_cons, not_or] at h
    rw [setItem, if_neg (Ne.symm h.1), ih h.2, List.cons_append]

theorem setItem_setItem (key : Str) (a b : α) (d : Dict α) : setItem key b (setItem key a d) = setItem key b d := by
  induction d with
  | nil => exact if_pos rfl
  | cons e d ih =>
    obtain ⟨k, c⟩ := e
    by_cases h : k = key
    · simp only [setItem, if_pos h]
    · simp only [setItem, if_neg h, ih]

theorem setItem_eq_iff (b : α) {a a' : α} {d' : Dict α} :
    setItem key a d = setItem key a' d' ↔ a = a' ∧ setItem key b d = setItem key b d' := by
  constructor
  · intro h
    refine ⟨?_, ?_⟩
    · have hlookup := congrArg (List.lookup key) h
      rwa [lookup_setItem, lookup_setItem, if_pos rfl, if_pos rfl, Option.some.injEq] at hlookup
    · rw [← setItem_setItem key a b d, ← setItem_setItem key a' b d', h]
  · rintro ⟨rfl, h⟩
    rw [← setItem_setItem key b a d, ← setItem_setItem key b a d', h]

theorem foldl_setItem {d' : Dict α} (h : Dict.Unique (d ++ d')) :
    d'.foldl (fun d e ↦ setItem e.1 e.2 d) d = d ++ d' := by
  induction d' generalizing d with
  | nil => exact (List.append_nil d).symm
  | cons e d' ih =>
    have hkey : e.1 ∉ Dict.keys d := by
      intro hmem
      simp only [Dict.Unique, Dict.keys, List.map_append, List.map_cons, List.nodup_append] at h
      exact h.2.2 _ hmem _ List.mem_cons_self rfl
    rw [List.foldl_cons, setItem_of_notMem hkey, ih (by simpa using h), List.append_assoc, List.singleton_append]

def dictOf (pairs : List (Str × α)) : Dict α := pairs.foldl (fun d e ↦ setItem e.1 e.2 d) []

theorem dictOf_eq (h : Dict.Unique d) : dictOf d = d := foldl_setItem (d := []) h

theorem Dict.Unique.lookup_of_mem (h : Dict.Unique d) (hm : (k, a) ∈ d) : d.lookup k = some a := by
  induction d with
  | nil => exact absurd hm List.not_mem_nil
  | cons e d ih =>
    obtain ⟨k', b⟩ := e
    obtain ⟨hk, hd⟩ := List.nodup_cons.mp h
    rw [lookup_cons_eq]
    rcases List.mem_cons.mp hm with he | hm
    · cases he
      exact if_pos rfl
    · have hne : k ≠ k' := fun he ↦ hk (List.mem_map.mpr ⟨(k, a), hm, he⟩)
      rw [if_neg hne]
      exact ih hd hm

end McpSqlServer.Library.Python

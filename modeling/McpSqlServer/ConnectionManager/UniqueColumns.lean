import McpSqlServer.ConnectionManager.ColumnNames
import McpSqlServer.Library.Loop
import McpSqlServer.Library.Python.Dict
import McpSqlServer.Library.Python.IntText
import Mathlib.Data.List.Count
import Mathlib.Tactic.Ring

namespace McpSqlServer.ConnectionManager

open Library Library.Text Library.Python

def sysMaxsize : ℕ := 9223372036854775807

structure PyList (α : Type) where
  items : List α
  length_le : items.length ≤ sysMaxsize

def numbered (base : Str) (n : ℕ) : Str := base ++ '_' :: intText n

def rawName [UnicodeData] (idx : ℕ) (value : Option Str) : Str :=
  let stripped := (value.map strip).getD []
  if stripped.isEmpty then "col_".toList ++ intText idx else stripped

def rawNames [UnicodeData] (idx : ℕ) : List (Option Str) → List Str
  | [] => []
  | value :: rawColumns => rawName idx value :: rawNames (idx + 1) rawColumns

def Proper [UnicodeData] (name : Str) : Prop := name ≠ [] ∧ strip name = name

def firstName (before : List Str) (name : Str) : Str :=
  if 1 < before.count name + 1 then numbered name (before.count name + 1) else name

variable [UnicodeData] {base name : Str} {n : ℕ} {before finalNames : List Str} {seen : Dict ℕ}

section Names

omit [UnicodeData] in
theorem cutLastUnderscore_numbered (base : Str) (n : ℕ) : cutLastUnderscore (numbered base n) = (base, intText n) := by
  have hne : ∀ c ∈ (intText n).reverse, decide (c ≠ '_') = true := by
    intro c hc
    refine decide_eq_true (fun he ↦ notMem_intText (c := '_') (by decide) (by decide) n ?_)
    rw [← he]
    exact List.mem_reverse.mp hc
  have hsuffix : ((numbered base n).reverse.takeWhile (fun c ↦ c ≠ '_')).reverse = intText n := by
    rw [numbered, List.reverse_append, List.reverse_cons, List.append_assoc, List.takeWhile_append_of_pos hne,
      List.singleton_append, List.takeWhile_cons_of_neg (by decide), List.append_nil, List.reverse_reverse]
  have hlen : (numbered base n).length - (intText n).length - 1 = base.length := by
    rw [numbered, List.length_append, List.length_cons]
    omega
  rw [cutLastUnderscore, hsuffix, hlen, numbered, List.take_left]

theorem successorText_intText (h : (intText (n + 1 : ℕ)).length ≤ maxIntDigits) :
    successorText (intText n) = .ok (intText (n + 1 : ℕ)) := by
  have hlt := (length_intText_le_iff (by decide)).mp h
  have hn : (intText n).length ≤ maxIntDigits := (length_intText_le_iff (by decide)).mpr (Nat.lt_of_succ_lt hlt)
  rw [successorText, if_pos (all_isDecimal_intText n), intOfDigits_intText hn]
  exact if_pos h

theorem nextName_numbered (base : Str) (h : (intText (n + 1 : ℕ)).length ≤ maxIntDigits) :
    nextName (numbered base n) = .ok (numbered base (n + 1)) := by
  have hmem : '_' ∈ numbered base n := List.mem_append_right base List.mem_cons_self
  rw [nextName, cutLastUnderscore_numbered]
  dsimp only
  rw [if_pos ⟨hmem, intText_ne_nil n, all_isDigit_intText n⟩, successorText_intText h]
  rfl

omit [UnicodeData] in
theorem numbered_injective (base : Str) : Function.Injective (numbered base) := by
  intro m n h
  exact intText_inj (List.cons.inj (List.append_cancel_left h)).2

theorem unusedName_of_row {names : ℕ → Str} {k rounds : ℕ} (hn : ∀ i < k, nextName (names i) = .ok (names (i + 1)))
    (hin : ∀ i < k, names i ∈ finalNames) (hout : names k ∉ finalNames) (hr : k < rounds) :
    unusedName finalNames rounds (names 0) = .ok (names k) := by
  induction k generalizing names rounds with
  | zero =>
    cases rounds with
    | zero => rfl
    | succ rounds => exact if_neg hout
  | succ k ih =>
    cases rounds with
    | zero => exact absurd hr (Nat.not_lt_zero _)
    | succ rounds =>
      rw [unusedName, if_pos (hin 0 k.succ_pos), hn 0 k.succ_pos]
      exact @ih (fun i ↦ names (i + 1)) _ (fun i hi ↦ hn (i + 1) (by omega)) (fun i hi ↦ hin (i + 1) (by omega))
        hout (by omega)

/-- Behind `first` the loop finds the name `fresh`, which is new. -/
structure Finds (finalNames : List Str) (first fresh : Str) : Prop where
  eq : unusedName finalNames (finalNames.length + 1) first = .ok fresh
  ends : WhileEnds (fun name ↦ name ∈ finalNames) nextName first (.ok fresh)
  unused : fresh ∉ finalNames

theorem finds_self (h : name ∉ finalNames) : Finds finalNames name name where
  eq := if_neg h
  ends := .exit h
  unused := h

/-- From a numbered name the loop counts on, through at most all names there are. -/
theorem finds_numbered (base : Str) (h : (intText (n + finalNames.length + 1 : ℕ)).length ≤ maxIntDigits) :
    ∃ m, Finds finalNames (numbered base n) (numbered base m) ∧ n ≤ m ∧ m ≤ n + finalNames.length := by
  have hinj : Function.Injective (fun i ↦ numbered base (n + i)) :=
    fun i j hij ↦ Nat.add_left_cancel (numbered_injective base hij)
  obtain ⟨k, hk, hout, hin⟩ := exists_first_notMem hinj finalNames
  have hnext : ∀ i < k, nextName (numbered base (n + i)) = .ok (numbered base (n + (i + 1))) := by
    intro i hi
    apply nextName_numbered
    have hlt := (length_intText_le_iff (by decide)).mp h
    exact (length_intText_le_iff (by decide)).mpr (Nat.lt_of_le_of_lt (by omega) hlt)
  exact ⟨n + k, ⟨unusedName_of_row hnext hin hout (by omega), whileEnds_of_row hnext hin hout, hout⟩, by omega, by omega⟩

end Names

section Proper

omit [UnicodeData] in
theorem getLast?_append_intText (s : Str) (n : ℕ) : ∃ c, (s ++ intText n).getLast? = some c ∧ c.isDigit = true := by
  rw [List.getLast?_append_of_ne_nil s (intText_ne_nil n), List.getLast?_eq_some_getLast (intText_ne_nil n)]
  exact ⟨_, rfl, isDigit_of_mem_intText (List.getLast_mem (intText_ne_nil n))⟩

theorem proper_append_intText {c : Char} (hc : isSpace c = false) (s : Str) (n : ℕ) : Proper (c :: s ++ intText n) := by
  refine ⟨List.cons_ne_nil _ _, strip_eq_self_iff.mpr ⟨fun d hd ↦ ?_, fun d hd ↦ ?_⟩⟩
  · cases Option.mem_def.mp hd
    exact hc
  · obtain ⟨e, he, hdigit⟩ := getLast?_append_intText (c :: s) n
    rw [he] at hd
    cases hd
    exact isSpace_of_isDigit hdigit

theorem Proper.numbered (h : Proper base) (n : ℕ) : Proper (numbered base n) := by
  obtain ⟨c, s, rfl⟩ := List.exists_cons_of_ne_nil h.1
  have hc := (strip_eq_self_iff.mp h.2).1 c rfl
  have hp := proper_append_intText hc (s ++ ['_']) n
  rwa [List.cons_append, List.append_assoc] at hp

theorem rawName_proper (idx : ℕ) (value : Option Str) : Proper (rawName idx value) := by
  unfold rawName
  dsimp only
  split
  · exact proper_append_intText (c := 'c') rfl "ol_".toList idx
  · rename_i hne
    refine ⟨fun h ↦ hne (List.isEmpty_iff.mpr h), ?_⟩
    cases value with
    | none => rfl
    | some s => exact strip_strip s

theorem Proper.rawName_eq (h : Proper name) (idx : ℕ) : rawName idx (some name) = name := by
  have hs : ((some name).map strip).getD [] = name := h.2
  rw [rawName, hs]
  exact if_neg (fun he ↦ h.1 (List.isEmpty_iff.mp he))

end Proper

/-- What the columns taken so far leave behind: `before` are their names before they were made
unique, `finalNames` the names they got. -/
structure Progress (before finalNames : List Str) (seen : Dict ℕ) : Prop where
  counts : ∀ name, (seen.lookup name).getD 0 = before.count name
  length : finalNames.length = before.length
  proper : ∀ name ∈ before, Proper name
  nodup : finalNames.Nodup
  origin : ∀ name ∈ finalNames, name ∈ before ∨
    ∃ base n, base ∈ before ∧ name = numbered base n ∧ n ≤ (before.length + 1) * (before.length + 1)
  loops : ∀ i fresh, finalNames[i]? = some fresh → ∃ name, before[i]? = some name ∧
    WhileEnds (fun name ↦ name ∈ finalNames.take i) nextName (firstName (before.take i) name) (.ok fresh)

section Progress

theorem Progress.proper_finalNames (h : Progress before finalNames seen) : ∀ name ∈ finalNames, Proper name := by
  intro name hname
  rcases h.origin name hname with hb | ⟨base, n, hb, rfl, -⟩
  · exact h.proper name hb
  · exact (h.proper base hb).numbered n

theorem Progress.finds (h : Progress before finalNames seen) (hlen : before.length < sysMaxsize) (name : Str) :
    ∃ fresh, Finds finalNames (firstName before name) fresh ∧ (fresh = name ∨
      ∃ base n, base ∈ name :: before ∧ fresh = numbered base n ∧ n ≤ (before.length + 2) * (before.length + 2)) := by
  have hsquare : (before.length + 2) * (before.length + 2) ≤ (sysMaxsize + 1) * (sysMaxsize + 1) :=
    Nat.mul_le_mul (by omega) (by omega)
  have hcount : ∀ base n, base ∈ name :: before → n + before.length ≤ (before.length + 2) * (before.length + 2) →
      ∃ fresh, Finds finalNames (numbered base n) fresh ∧ (fresh = name ∨
        ∃ base n, base ∈ name :: before ∧ fresh = numbered base n ∧ n ≤ (before.length + 2) * (before.length + 2)) := by
    intro base n hbase hn
    have hdigits : (intText (n + finalNames.length + 1 : ℕ)).length ≤ maxIntDigits := by
      have hk : n + finalNames.length + 1 < 10 ^ 40 := by
        rw [h.length]
        have hmax : (sysMaxsize + 1) * (sysMaxsize + 1) + 1 < 10 ^ 40 := by decide
        omega
      exact ((@length_intText_le_iff _ 40 (by omega)).mpr hk).trans (by decide)
    obtain ⟨m, hm, -, hle⟩ := finds_numbered base hdigits
    rw [h.length] at hle
    exact ⟨_, hm, .inr ⟨base, m, hbase, rfl, by omega⟩⟩
  have hsq : (before.length + 2) * (before.length + 2) =
      (before.length + 1) * (before.length + 1) + 2 * before.length + 3 := by ring
  rw [firstName]
  split
  · have hle := List.count_le_length (a := name) (l := before)
    exact hcount name _ List.mem_cons_self (by omega)
  · rename_i hzero
    have hnew : name ∉ before := List.count_eq_zero.mp (by omega)
    by_cases hmem : name ∈ finalNames
    · rcases h.origin name hmem with hb | ⟨base, n, hb, rfl, hn⟩
      · exact absurd hb hnew
      · exact hcount base n (List.mem_cons_of_mem _ hb) (by omega)
    · exact ⟨name, finds_self hmem, .inl rfl⟩

theorem Progress.next (h : Progress before finalNames seen) (hlen : before.length < sysMaxsize) (hname : Proper name) :
    ∃ fresh, unusedName finalNames (finalNames.length + 1) (firstName before name) = .ok fresh ∧
      Progress (before ++ [name]) (finalNames ++ [fresh]) (setItem name (before.count name + 1) seen) := by
  obtain ⟨fresh, hfinds, horigin⟩ := h.finds hlen name
  have hmem : ∀ a, a ∈ name :: before → a ∈ before ++ [name] := by
    intro a ha
    exact List.mem_append.mpr ((List.mem_cons.mp ha).symm.imp_right List.mem_singleton.mpr)
  refine ⟨fresh, hfinds.eq, ?_, ?_, ?_, ?_, ?_, ?_⟩
  · intro a
    rw [lookup_setItem, List.count_append, List.count_singleton]
    by_cases ha : a = name
    · rw [if_pos ha, ha]
      simp
    · rw [if_neg ha, h.counts a]
      simp [Ne.symm ha]
  · rw [List.length_append, List.length_append, h.length]
    rfl
  · intro a ha
    rcases List.mem_append.mp ha with ha | ha
    · exact h.proper a ha
    · rw [List.mem_singleton.mp ha]
      exact hname
  · refine List.nodup_append.mpr ⟨h.nodup, List.nodup_singleton _, fun a ha b hb hab ↦ ?_⟩
    rw [hab, List.mem_singleton.mp hb] at ha
    exact hfinds.unused ha
  · intro a ha
    rw [List.length_append, List.length_singleton]
    rcases List.mem_append.mp ha with ha | ha
    · rcases h.origin a ha with hb | ⟨base, n, hb, hn, hle⟩
      · exact .inl (List.mem_append_left _ hb)
      · exact .inr ⟨base, n, List.mem_append_left _ hb, hn, hle.trans (Nat.mul_le_mul (by omega) (by omega))⟩
    · rw [List.mem_singleton.mp ha]
      rcases horigin with he | ⟨base, n, hb, hn, hle⟩
      · exact .inl (he ▸ hmem name List.mem_cons_self)
      · exact .inr ⟨base, n, hmem base hb, hn, hle⟩
  · intro i a ha
    rcases Nat.lt_trichotomy i finalNames.length with hi | hi | hi
    · rw [List.getElem?_append_left hi] at ha
      obtain ⟨b, hb, hloop⟩ := h.loops i a ha
      have hib : i < before.length := h.length ▸ hi
      refine ⟨b, by rw [List.getElem?_append_left hib, hb], ?_⟩
      rw [List.take_append_of_le_length hi.le, List.take_append_of_le_length hib.le]
      exact hloop
    · subst hi
      rw [List.getElem?_concat_length] at ha
      cases ha
      refine ⟨name, by rw [h.length, List.getElem?_concat_length], ?_⟩
      rw [List.take_left, h.length, List.take_left]
      exact hfinds.ends
    · rw [List.getElem?_eq_none (by rw [List.length_append, List.length_singleton]; omega)] at ha
      cases ha

theorem normalizeFrom_cons (h : Progress before finalNames seen) (idx : ℕ) (value : Option Str)
    (rawColumns : List (Option Str)) : normalizeFrom idx seen finalNames (value :: rawColumns) =
      (unusedName finalNames (finalNames.length + 1) (firstName before (rawName idx value))).bind (fun fresh ↦
        normalizeFrom (idx + 1) (setItem (rawName idx value) (before.count (rawName idx value) + 1) seen)
          (finalNames ++ [fresh]) rawColumns) := by
  rw [normalizeFrom, ← rawName, h.counts]
  rfl

theorem Progress.run {idx : ℕ} {rawColumns : List (Option Str)} (h : Progress before finalNames seen)
    (hlen : before.length + rawColumns.length ≤ sysMaxsize) :
    ∃ columns seen', normalizeFrom idx seen finalNames rawColumns = .ok columns ∧
      Progress (before ++ rawNames idx rawColumns) columns seen' := by
  induction rawColumns generalizing idx before finalNames seen with
  | nil =>
    refine ⟨finalNames, seen, rfl, ?_⟩
    rwa [rawNames, List.append_nil]
  | cons value rawColumns ih =>
    rw [List.length_cons] at hlen
    obtain ⟨fresh, hfresh, hnext⟩ := h.next (by omega) (rawName_proper idx value)
    have hrest : (before ++ [rawName idx value]).length + rawColumns.length ≤ sysMaxsize := by
      rw [List.length_append, List.length_singleton]
      omega
    obtain ⟨columns, seen', hrun, hp⟩ := @ih _ _ _ (idx + 1) hnext hrest
    rw [List.append_assoc] at hp
    refine ⟨columns, seen', ?_, hp⟩
    rw [normalizeFrom_cons h, hfresh]
    exact hrun

theorem progress_nil : Progress [] [] [] where
  counts _ := rfl
  length := rfl
  proper _ h := absurd h List.not_mem_nil
  nodup := List.nodup_nil
  origin _ h := absurd h List.not_mem_nil
  loops _ _ h := nomatch h

theorem length_rawNames (idx : ℕ) (rawColumns : List (Option Str)) :
    (rawNames idx rawColumns).length = rawColumns.length := by
  induction rawColumns generalizing idx with
  | nil => rfl
  | cons value rawColumns ih => exact congrArg Nat.succ (ih (idx + 1))

theorem normalizeFrom_unique {l : List Str} (idx : ℕ) (hp : ∀ name ∈ l, Proper name)
    (hnodup : (finalNames ++ l).Nodup) (hseen : ∀ name ∈ l, seen.lookup name = none) :
    normalizeFrom idx seen finalNames (l.map some) = .ok (finalNames ++ l) := by
  induction l generalizing idx seen finalNames with
  | nil => exact congrArg Except.ok (List.append_nil _).symm
  | cons name l ih =>
    have hnew : name ∉ finalNames := by
      intro hm
      exact (List.nodup_append.mp hnodup).2.2 _ hm _ List.mem_cons_self rfl
    have hl : name ∉ l := (List.nodup_cons.mp (List.nodup_append.mp hnodup).2.1).1
    rw [List.append_cons] at hnodup
    have hrest : ∀ a ∈ l, (setItem name 1 seen).lookup a = none := by
      intro a ha
      rw [lookup_setItem, if_neg (ne_of_mem_of_not_mem ha hl)]
      exact hseen a (List.mem_cons_of_mem _ ha)
    have hname := (hp name List.mem_cons_self).rawName_eq idx
    have hzero := hseen name List.mem_cons_self
    have hfirst : unusedName finalNames (finalNames.length + 1)
        (if 1 < (none : Option ℕ).getD 0 + 1 then name ++ '_' :: intText ((none : Option ℕ).getD 0 + 1 : ℕ)
          else name) = .ok name := (finds_self hnew).eq
    rw [List.map_cons, normalizeFrom, ← rawName, hname, hzero, hfirst, List.append_cons]
    exact ih (idx + 1) (fun a ha ↦ hp a (List.mem_cons_of_mem _ ha)) hnodup hrest

theorem normalizeColumnNames_unique {l : List Str} (hp : ∀ name ∈ l, Proper name) (hnodup : l.Nodup) :
    normalizeColumnNames (l.map some) = .ok l :=
  normalizeFrom_unique 1 hp hnodup (fun _ _ ↦ rfl)

end Progress

/-- The names of the columns of a result: each is found by a loop that ends, they are as many as
the columns, not empty and different, names that are so already stay, and a row becomes a
dictionary with all its cells. -/
theorem normalizeColumnNames_exact (rawColumns : PyList (Option Str)) :
    ∃ columns, normalizeColumnNames rawColumns.items = .ok columns ∧
      (∀ i fresh, columns[i]? = some fresh → ∃ name, (rawNames 1 rawColumns.items)[i]? = some name ∧
        WhileEnds (fun name ↦ name ∈ columns.take i) nextName
          (firstName ((rawNames 1 rawColumns.items).take i) name) (.ok fresh)) ∧
      columns.length = rawColumns.items.length ∧ (∀ name ∈ columns, name ≠ []) ∧ columns.Nodup ∧
      normalizeColumnNames (columns.map some) = .ok columns ∧
      (∀ l : List Str, l.Nodup → (∀ name ∈ l, name ≠ [] ∧ strip name = name) →
        normalizeColumnNames (l.map some) = .ok l) ∧
      ∀ (α : Type) (row : List α) (i : ℕ) (name : Str) (cell : α), columns[i]? = some name → row[i]? = some cell →
        (dictOf (columns.zip row)).lookup name = some cell := by
  obtain ⟨columns, seen, hrun, hp⟩ := @Progress.run _ _ _ _ 1 rawColumns.items progress_nil
    (by rw [List.length_nil, Nat.zero_add]; exact rawColumns.length_le)
  refine ⟨columns, hrun, hp.loops, hp.length.trans (length_rawNames 1 _),
    fun name hname ↦ (hp.proper_finalNames name hname).1, hp.nodup,
    normalizeColumnNames_unique hp.proper_finalNames hp.nodup,
    fun l hl hproper ↦ normalizeColumnNames_unique hproper hl, ?_⟩
  intro α row i name cell hname hcell
  have hunique : Dict.Unique (columns.zip row) := hp.nodup.sublist (keys_zip_sublist columns row)
  rw [dictOf_eq hunique]
  apply hunique.lookup_of_mem
  exact List.mem_of_getElem? (List.getElem?_zip_eq_some.mpr ⟨hname, hcell⟩)

end McpSqlServer.ConnectionManager

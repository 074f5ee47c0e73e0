import McpSqlServer.Library.Text.Case

namespace McpSqlServer.Library.Text

theorem exists_mem_of_forall₂ {α β : Type*} {R : α → β → Prop} {xs : List α} {ys : List β}
    (h : List.Forall₂ R xs ys) {x : α} (hx : x ∈ xs) : ∃ y ∈ ys, R x y := by
  induction h with
  | nil => exact absurd hx List.not_mem_nil
  | cons hr _ ih =>
    rcases List.mem_cons.mp hx with rfl | hx
    · exact ⟨_, List.mem_cons_self, hr⟩
    · obtain ⟨y, hy, hxy⟩ := ih hx
      exact ⟨y, List.mem_cons_of_mem _ hy, hxy⟩

section Split

variable {c sep : Char} {s t f : Str}

theorem splitOn_cons_self (s : Str) : (sep :: s).splitOn sep = [] :: s.splitOn sep := by
  rw [List.splitOn_cons_eq_if_modifyHead, if_pos (beq_self_eq_true sep)]

theorem splitOn_cons_of_ne (h : c ≠ sep) (s : Str) :
    (c :: s).splitOn sep = (s.splitOn sep).modifyHead (List.cons c) := by
  rw [List.splitOn_cons_eq_if_modifyHead, if_neg (by simpa only [beq_iff_eq] using h)]

theorem splitOn_append_of_notMem (h : sep ∉ f) (s : Str) :
    (f ++ s).splitOn sep = (s.splitOn sep).modifyHead (f ++ ·) := by
  induction f with
  | nil =>
    rw [List.nil_append]
    cases s.splitOn sep <;> rfl
  | cons c f ih =>
    rw [List.mem_cons, not_or] at h
    rw [List.cons_append, splitOn_cons_of_ne (Ne.symm h.1), ih h.2]
    cases s.splitOn sep <;> rfl

theorem exists_mem_splitOn {x : Char} : (∃ w ∈ s.splitOn sep, x ∈ w) ↔ x ∈ s ∧ x ≠ sep := by
  induction s with
  | nil =>
    rw [List.splitOn_nil]
    simp only [List.mem_singleton, exists_eq_left, List.not_mem_nil, false_and]
  | cons c s ih =>
    by_cases hc : c = sep
    · subst hc
      rw [splitOn_cons_self, List.mem_cons]
      simp only [List.mem_cons, exists_eq_or_imp, List.not_mem_nil, false_or, ih]
      exact ⟨fun h ↦ ⟨.inr h.1, h.2⟩, fun h ↦ ⟨h.1.resolve_left h.2, h.2⟩⟩
    · rw [splitOn_cons_of_ne hc]
      cases hs : s.splitOn sep with
      | nil => exact absurd hs (List.splitOn_ne_nil _ _)
      | cons v ws =>
        rw [hs] at ih
        simp only [List.modifyHead_cons, List.mem_cons, exists_eq_or_imp] at ih ⊢
        rw [or_assoc, ih]
        constructor
        · rintro (rfl | h)
          · exact ⟨.inl rfl, hc⟩
          · exact ⟨.inr h.1, h.2⟩
        · rintro ⟨rfl | h, hx⟩
          · exact .inl rfl
          · exact .inr ⟨h, hx⟩

theorem notMem_of_mem_splitOn {w : Str} (h : w ∈ s.splitOn sep) : sep ∉ w :=
  fun hs ↦ (exists_mem_splitOn.mp ⟨w, h, hs⟩).2 rfl

theorem intercalate_append_last (ys l u : Str) (ls : List Str) :
    ys.intercalate (ls ++ [l ++ u]) = ys.intercalate (ls ++ [l]) ++ u := by
  induction ls with
  | nil => rw [List.nil_append, List.nil_append, List.intercalate_singleton, List.intercalate_singleton]
  | cons v ls ih =>
    rw [List.cons_append, List.cons_append, List.intercalate_cons_of_ne_nil (by simp),
      List.intercalate_cons_of_ne_nil (by simp), ih]
    simp only [List.append_assoc]

theorem splitOn_append_last {last : Str} {segments : List Str} (h : sep ∉ f) (hs : s.splitOn sep = segments ++ [last]) :
    (s ++ f).splitOn sep = segments ++ [last ++ f] := by
  have hjoin : s = [sep].intercalate (segments ++ [last]) := by rw [← hs, List.intercalate_splitOn]
  rw [hjoin, ← intercalate_append_last]
  refine List.splitOn_intercalate sep ?_ (by simp)
  intro l hl
  rcases List.mem_append.mp hl with hl | hl
  · exact notMem_of_mem_splitOn (hs ▸ List.mem_append_left _ hl)
  · rw [List.mem_singleton.mp hl, List.mem_append, not_or]
    exact ⟨notMem_of_mem_splitOn (hs ▸ List.mem_append_right _ (List.mem_singleton_self _)), h⟩

theorem append_sep_inj {a b u v : Str} (ha : sep ∉ a) (hb : sep ∉ b) (h : u ++ sep :: a = v ++ sep :: b) :
    u = v ∧ a = b := by
  have key : ∀ {a b w : Str}, sep ∉ a → sep :: a = w ++ sep :: b → w = [] ∧ a = b := by
    intro a b w ha h
    cases w with
    | nil => exact ⟨rfl, (List.cons.inj h).2⟩
    | cons d w =>
      refine absurd ?_ ha
      rw [(List.cons.inj h).2]
      exact List.mem_append_right _ List.mem_cons_self
  rcases List.append_eq_append_iff.mp h with ⟨w, hv, hw⟩ | ⟨w, hu, hw⟩
  · obtain ⟨rfl, hab⟩ := key ha hw
    exact ⟨(hv.trans (List.append_nil u)).symm, hab⟩
  · obtain ⟨rfl, hab⟩ := key hb hw
    exact ⟨hu.trans (List.append_nil v), hab.symm⟩

end Split

section Case

variable [UnicodeData] {s t : Str} {sep : Char}

theorem LowerImage.filter (h : LowerImage s t) {keep : Char → Bool}
    (hk : ∀ c, keep c = false → Caseless c) : LowerImage (s.filter keep) (t.filter keep) := by
  induction h with
  | nil => exact .nil
  | @cons c s t f hf _ ih =>
    rw [List.filter_append]
    cases hc : keep c with
    | false =>
      rw [(hk c hc).lowerForms, List.mem_singleton] at hf
      subst hf
      simpa only [List.filter_cons, hc, Bool.false_eq_true, if_false, List.filter_nil, List.nil_append] using ih
    | true =>
      have hkept : f.filter keep = f := by
        refine List.filter_eq_self.mpr (fun d hd ↦ ?_)
        by_contra hd'
        have hd' : keep d = false := Bool.eq_false_iff.mpr hd'
        rw [(hk d hd').of_mem_lowerForms hf hd, hd'] at hc
        cases hc
      rw [List.filter_cons, if_pos hc, hkept]
      exact .cons hf ih

theorem LowerImage.splitOn (h : LowerImage s t) (hs : Caseless sep) :
    List.Forall₂ LowerImage (s.splitOn sep) (t.splitOn sep) := by
  induction h with
  | nil => exact .cons .nil .nil
  | @cons c s t f hf _ ih =>
    by_cases hc : c = sep
    · subst hc
      rw [hs.lowerForms, List.mem_singleton] at hf
      subst hf
      rw [List.singleton_append, splitOn_cons_self, splitOn_cons_self]
      exact .cons .nil ih
    · have hn : sep ∉ f := fun hd ↦ hc (hs.of_mem_lowerForms hf hd)
      rw [splitOn_cons_of_ne hc, splitOn_append_of_notMem hn]
      generalize s.splitOn sep = ss, t.splitOn sep = ts at ih
      cases ih with
      | nil => exact .nil
      | cons hw hr => exact .cons (.cons hf hw) hr

theorem LowerImage.filter_nonempty {ss ts : List Str} (h : List.Forall₂ LowerImage ss ts) :
    List.Forall₂ LowerImage (ss.filter (fun w ↦ !w.isEmpty)) (ts.filter (fun w ↦ !w.isEmpty)) := by
  induction h with
  | nil => exact .nil
  | @cons s t ss ts hst _ ih =>
    cases s with
    | nil =>
      rw [hst.eq_nil_iff.mpr rfl]
      exact ih
    | cons c s =>
      have ht : t ≠ [] := fun he ↦ absurd (hst.eq_nil_iff.mp he) (List.cons_ne_nil _ _)
      obtain ⟨d, t, rfl⟩ := List.exists_cons_of_ne_nil ht
      exact .cons hst ih

end Case

section Outline

variable {α : Type*} {mark : α → Bool} {s t : List α}

end Outline

section Lines

/-- The line ends of a file that is read as text. -/
def universalNewlines : Str → Str
  | [] => []
  | '\r' :: '\n' :: s => '\n' :: universalNewlines s
  | '\r' :: s => '\n' :: universalNewlines s
  | c :: s => c :: universalNewlines s

def lines : Str → List Str
  | [] => []
  | c :: s =>
    if c = '\n' then [c] :: lines s
    else match lines s with
      | [] => [[c]]
      | l :: ls => (c :: l) :: ls

variable {s t : Str}

theorem universalNewlines_of_notMem (h : '\r' ∉ s) : universalNewlines s = s := by
  induction s with
  | nil => rfl
  | cons c s ih =>
    rw [List.mem_cons, not_or] at h
    rw [universalNewlines, ih h.2]
    · intro s' hc
      exact absurd hc.symm h.1
    · intro hc
      exact absurd hc.symm h.1

theorem lines_append (h : '\n' ∉ t) (s : Str) : lines (t ++ '\n' :: s) = (t ++ ['\n']) :: lines s := by
  induction t with
  | nil => simp [lines]
  | cons c t ih =>
    rw [List.mem_cons, not_or] at h
    rw [List.cons_append, lines, if_neg (Ne.symm h.1), ih h.2]
    rfl

end Lines

end McpSqlServer.Library.Text

import McpSqlServer.Library.Text.Case
import Mathlib.Data.List.TakeWhile

namespace McpSqlServer.Library.Text

variable [UnicodeData] {c : Char} {s t : Str}

theorem isSpace_of_isAlpha (h : c.isAlpha = true) : isSpace c = false := by
  have hc : c.toNat = c.val.toNat := rfl
  have ha : 'a'.val.toNat = 97 := rfl
  have hA : 'A'.val.toNat = 65 := rfl
  have hascii := isAscii_of_isAlpha h
  delta Char.isAlpha Char.isUpper Char.isLower at h
  simp only [Bool.or_eq_true, Bool.and_eq_true, decide_eq_true_eq, ge_iff_le, UInt32.le_iff_toNat_le, ha, hA] at h
  rw [isSpace, if_pos hascii, hc, Bool.or_eq_false_iff, Bool.and_eq_false_iff, Bool.and_eq_false_iff,
    decide_eq_false_iff_not, decide_eq_false_iff_not, decide_eq_false_iff_not, decide_eq_false_iff_not]
  omega

def Blank (s : Str) : Prop := ∀ c ∈ s, isSpace c = true

instance (s : Str) : Decidable (Blank s) := inferInstanceAs (Decidable (∀ c ∈ s, _))

theorem lstrip_append_of_blank (h : Blank s) (t : Str) : lstrip (s ++ t) = lstrip t := by
  induction s with
  | nil => rfl
  | cons c s ih =>
    rw [lstrip, List.cons_append, List.dropWhile_cons_of_pos (h c List.mem_cons_self)]
    exact ih (fun d hd ↦ h d (List.mem_cons_of_mem _ hd))

theorem lstrip_cons_of_not_isSpace (h : isSpace c = false) (s : Str) : lstrip (c :: s) = c :: s :=
  List.dropWhile_cons_of_neg (by rw [h]; exact Bool.false_ne_true)

theorem lstrip_of_blank (h : Blank s) : lstrip s = [] := by
  have he := lstrip_append_of_blank h []
  rwa [List.append_nil] at he

theorem rstrip_append_of_blank (h : Blank t) (s : Str) : rstrip (s ++ t) = rstrip s := by
  have hr : Blank t.reverse := fun c hc ↦ h c (List.mem_reverse.mp hc)
  rw [rstrip, List.reverse_append]
  exact congrArg List.reverse (lstrip_append_of_blank hr s.reverse)

theorem rstrip_of_blank (h : Blank s) : rstrip s = [] := rstrip_append_of_blank h []

theorem blank_or_first (s : Str) :
    Blank s ∨ ∃ u c v, s = u ++ c :: v ∧ Blank u ∧ isSpace c = false := by
  induction s with
  | nil => exact .inl (fun c hc ↦ absurd hc List.not_mem_nil)
  | cons c s ih =>
    cases hc : isSpace c with
    | false => exact .inr ⟨[], c, s, rfl, fun d hd ↦ absurd hd List.not_mem_nil, hc⟩
    | true =>
      rcases ih with hs | ⟨u, d, v, rfl, hu, hd⟩
      · exact .inl (List.forall_mem_cons.mpr ⟨hc, hs⟩)
      · exact .inr ⟨c :: u, d, v, rfl, List.forall_mem_cons.mpr ⟨hc, hu⟩, hd⟩

theorem rstrip_append_cons (h : isSpace c = false) (s t : Str) :
    rstrip (s ++ c :: t) = s ++ c :: rstrip t := by
  have hd : ((s ++ c :: t).reverse).dropWhile isSpace = t.reverse.dropWhile isSpace ++ (c :: s.reverse) := by
    rw [List.reverse_append, List.reverse_cons, List.append_assoc, List.singleton_append]
    induction t.reverse with
    | nil => exact lstrip_cons_of_not_isSpace h s.reverse
    | cons d l ih =>
      cases hd : isSpace d with
      | true =>
        rw [List.cons_append, List.dropWhile_cons_of_pos hd, List.dropWhile_cons_of_pos hd]
        exact ih
      | false =>
        rw [List.cons_append, List.dropWhile_cons_of_neg (by simp [hd]), List.dropWhile_cons_of_neg (by simp [hd]),
          List.cons_append]
  rw [rstrip, hd, List.reverse_append, List.reverse_cons, List.reverse_reverse, List.append_assoc,
    List.singleton_append]
  rfl

theorem rstrip_concat (h : isSpace c = false) (s : Str) : rstrip (s ++ [c]) = s ++ [c] :=
  rstrip_append_cons h s []

theorem strip_eq_lstrip_rstrip (s : Str) : strip s = lstrip (rstrip s) := by
  rcases blank_or_first s with hs | ⟨u, c, v, rfl, hu, hc⟩
  · rw [strip, lstrip_of_blank hs, rstrip_of_blank hs]
    rfl
  · rw [strip, lstrip_append_of_blank hu, lstrip_cons_of_not_isSpace hc, rstrip_append_cons hc u v,
      lstrip_append_of_blank hu, lstrip_cons_of_not_isSpace hc]
    exact rstrip_append_cons hc [] v

theorem strip_of_blank (h : Blank s) : strip s = [] := by
  rw [strip, lstrip_of_blank h]
  rfl

theorem rstrip_append_suffix (s : Str) : ∃ t, Blank t ∧ s = rstrip s ++ t := by
  refine ⟨(s.reverse.takeWhile isSpace).reverse, fun c hc ↦ ?_, ?_⟩
  · exact List.mem_takeWhile_imp (List.mem_reverse.mp hc)
  · rw [rstrip, ← List.reverse_append, List.takeWhile_append_dropWhile, List.reverse_reverse]

theorem lstrip_eq_self_iff : lstrip s = s ↔ ∀ c ∈ s.head?, isSpace c = false := by
  cases s with
  | nil => simp [lstrip]
  | cons c s =>
    cases hc : isSpace c with
    | false => simp [lstrip_cons_of_not_isSpace hc, hc]
    | true =>
      have hshort : (lstrip (c :: s)).length < (c :: s).length := by
        rw [lstrip, List.dropWhile_cons_of_pos hc, List.length_cons]
        exact Nat.lt_succ_of_le (List.dropWhile_sublist isSpace).length_le
      refine iff_of_false (fun h ↦ ?_) (fun h ↦ ?_)
      · rw [h] at hshort
        exact Nat.lt_irrefl _ hshort
      · rw [h c rfl] at hc
        cases hc

theorem rstrip_eq_self_iff : rstrip s = s ↔ ∀ c ∈ s.getLast?, isSpace c = false := by
  rw [← List.head?_reverse, ← lstrip_eq_self_iff]
  constructor
  · intro h
    rw [← List.reverse_inj, List.reverse_reverse]
    exact h
  · intro h
    rw [rstrip]
    exact (congrArg List.reverse h).trans (List.reverse_reverse s)

theorem strip_eq_self_iff :
    strip s = s ↔ (∀ c ∈ s.head?, isSpace c = false) ∧ ∀ c ∈ s.getLast?, isSpace c = false := by
  rw [← lstrip_eq_self_iff, ← rstrip_eq_self_iff]
  constructor
  · intro h
    have hl : s.length ≤ (lstrip s).length := by
      have hle : (strip s).length ≤ (lstrip s).length := by
        obtain ⟨t, -, ht⟩ := rstrip_append_suffix (lstrip s)
        have hlen := congrArg List.length ht
        rw [List.length_append] at hlen
        rw [strip]
        omega
      rwa [h] at hle
    have heq : lstrip s = s := (List.dropWhile_suffix isSpace).eq_of_length_le hl
    rw [strip, heq] at h
    exact ⟨heq, h⟩
  · intro ⟨hl, hr⟩
    rw [strip, hl, hr]

theorem strip_strip (s : Str) : strip (strip s) = strip s := by
  refine strip_eq_self_iff.mpr ⟨fun c hc ↦ ?_, fun c hc ↦ ?_⟩
  · rw [strip_eq_lstrip_rstrip] at hc
    have h := List.head?_dropWhile_not isSpace (rstrip s)
    rw [lstrip] at hc
    rw [Option.mem_def.mp hc] at h
    simpa using h
  · rw [strip, rstrip, List.getLast?_reverse] at hc
    have h := List.head?_dropWhile_not isSpace (lstrip s).reverse
    rw [Option.mem_def.mp hc] at h
    simpa using h

theorem strip_sublist (s : Str) : (strip s).Sublist s := by
  have hright : (rstrip (lstrip s)).Sublist (lstrip s) := by
    have h := (List.dropWhile_sublist (l := (lstrip s).reverse) isSpace).reverse
    rwa [List.reverse_reverse] at h
  exact hright.trans (List.dropWhile_sublist isSpace)

theorem firstToken_append_of_blank {u : Str} (hu : Blank u) (s : Str) : firstToken (u ++ s) = firstToken s := by
  rw [firstToken, lstrip_append_of_blank hu]
  rfl

theorem firstToken_append {w : Str} (hne : w ≠ []) (hw : ∀ c ∈ w, isSpace c = false) (t : Str) :
    firstToken (w ++ t) = w ++ t.takeWhile (fun c ↦ !isSpace c) := by
  obtain ⟨c, v, rfl⟩ := List.exists_cons_of_ne_nil hne
  rw [firstToken, List.cons_append, lstrip_cons_of_not_isSpace (hw c List.mem_cons_self), ← List.cons_append,
    List.takeWhile_append_of_pos]
  intro d hd
  rw [hw d hd]
  rfl

/-- The text is spaces, then `w` without spaces, then `rest`, which is empty or starts with
a space. -/
structure TokenSplit (s w rest : Str) : Prop where
  eq : ∃ lead, s = lead ++ (w ++ rest) ∧ Blank lead
  word : ∀ c ∈ w, isSpace c = false
  rest_head : ∀ c ∈ rest.head?, isSpace c = true

theorem TokenSplit.firstToken_eq {w rest : Str} (h : TokenSplit s w rest) (hw : w ≠ []) : firstToken s = w := by
  obtain ⟨lead, rfl, hl⟩ := h.eq
  rw [firstToken_append_of_blank hl, firstToken_append hw h.word]
  cases rest with
  | nil => exact List.append_nil _
  | cons d rest =>
    have hd := h.rest_head d rfl
    rw [List.takeWhile_cons_of_neg (by rw [hd]; exact Bool.false_ne_true), List.append_nil]

theorem exists_tokenSplit (s : Str) : Blank s ∨ ∃ w rest, TokenSplit s w rest ∧ w ≠ [] := by
  rcases blank_or_first s with hs | ⟨u, c, v, rfl, hu, hc⟩
  · exact .inl hs
  · refine .inr ⟨c :: v.takeWhile (fun d ↦ !isSpace d), v.dropWhile (fun d ↦ !isSpace d), ⟨⟨u, ?_, hu⟩, ?_, ?_⟩,
      List.cons_ne_nil _ _⟩
    · rw [List.cons_append, List.takeWhile_append_dropWhile]
    · refine List.forall_mem_cons.mpr ⟨hc, fun d hd ↦ ?_⟩
      simpa using List.mem_takeWhile_imp hd
    · intro d hd
      have hn := List.head?_dropWhile_not (fun d ↦ !isSpace d) v
      rw [Option.mem_def.mp hd] at hn
      simpa using hn

theorem firstToken_of_blank (h : Blank s) : firstToken s = [] := by
  rw [firstToken, lstrip_of_blank h]
  rfl

theorem firstToken_strip (s : Str) : firstToken (strip s) = firstToken s := by
  rcases blank_or_first s with hs | ⟨u, c, v, rfl, hu, hc⟩
  · rw [strip_of_blank hs, firstToken_of_blank hs]
    rfl
  · have hs : strip (u ++ c :: v) = c :: rstrip v := by
      rw [strip, lstrip_append_of_blank hu, lstrip_cons_of_not_isSpace hc]
      exact rstrip_append_cons hc [] v
    obtain ⟨t, ht, hv⟩ := rstrip_append_suffix v
    have htw : t.takeWhile (fun d ↦ !isSpace d) = [] := by
      cases t with
      | nil => rfl
      | cons d t => rw [List.takeWhile_cons_of_neg (by rw [ht d List.mem_cons_self]; exact Bool.false_ne_true)]
    rw [hs, firstToken, firstToken, lstrip_append_of_blank hu, lstrip_cons_of_not_isSpace hc,
      lstrip_cons_of_not_isSpace hc]
    have happ : ∀ x : Str, (x ++ t).takeWhile (fun d ↦ !isSpace d) = x.takeWhile (fun d ↦ !isSpace d) := by
      intro x
      rw [List.takeWhile_append, htw, List.append_nil]
      split
      · rename_i hlen
        exact ((List.takeWhile_prefix _).eq_of_length hlen).symm
      · rfl
    conv_rhs => rw [hv, ← List.cons_append, happ]

end McpSqlServer.Library.Text

import McpSqlServer.Library.Text.Str

namespace McpSqlServer.Library.Sql

open Text

def hasPair (a b : Char) : Str → Bool
  | [] => false
  | c :: s => (c = a && s.head? = some b) || hasPair a b s

def CommentFree (s : Str) : Prop := hasPair '-' '-' s = false ∧ hasPair '/' '*' s = false

instance (s : Str) : Decidable (CommentFree s) := inferInstanceAs (Decidable (_ ∧ _))

variable {a b c : Char} {s t : Str}

theorem hasPair_append_cons (ha : c ≠ a) (hb : c ≠ b) (s t : Str) :
    hasPair a b (s ++ c :: t) = (hasPair a b s || hasPair a b t) := by
  induction s with
  | nil => simp only [List.nil_append, hasPair, ha, decide_false, Bool.false_and, Bool.false_or]
  | cons d s ih =>
    have hh : ((s ++ c :: t).head? = some b) ↔ (s.head? = some b) := by
      cases s with
      | nil => simp only [List.nil_append, List.head?_cons, Option.some.injEq, hb, List.head?_nil, reduceCtorEq]
      | cons e s => exact Iff.rfl
    rw [List.cons_append, hasPair, hasPair, ih, Bool.or_assoc]
    simp only [hh]

theorem hasPair_cons_false (h : hasPair a b (c :: s) = false) :
    ¬ (c = a ∧ s.head? = some b) ∧ hasPair a b s = false := by
  rw [hasPair, Bool.or_eq_false_iff] at h
  refine ⟨fun hc ↦ ?_, h.2⟩
  rw [decide_eq_true hc.1, decide_eq_true hc.2] at h
  cases h.1

theorem hasPair_cons (hc : ¬ (c = a ∧ s.head? = some b)) (hs : hasPair a b s = false) : hasPair a b (c :: s) = false := by
  rw [hasPair, hs, Bool.or_false, Bool.and_eq_false_iff]
  by_cases ha : c = a
  · exact .inr (decide_eq_false (fun hb ↦ hc ⟨ha, hb⟩))
  · exact .inl (decide_eq_false ha)

theorem CommentFree.append_cons (hc : c ≠ '-' ∧ c ≠ '/' ∧ c ≠ '*') (hs : CommentFree s) (ht : CommentFree t) :
    CommentFree (s ++ c :: t) := by
  refine ⟨?_, ?_⟩
  · rw [hasPair_append_cons hc.1 hc.1, hs.1, ht.1]
    rfl
  · rw [hasPair_append_cons hc.2.1 hc.2.2, hs.2, ht.2]
    rfl

/-- Where a scan for comments is; `block n` is inside `n` further blocks. -/
inductive ScanMode
  | code
  | line
  | block (n : ℕ)

/-- Scans by the comment rules of T-SQL and puts one space for each comment: a line comment
runs up to the end of its line, and block comments nest. -/
def replaceFrom : ScanMode → Str → Str
  | _, [] => []
  | .line, c :: s => if c = '\n' then c :: replaceFrom .code s else replaceFrom .line s
  | .code, [c] => [c]
  | .code, c :: d :: s =>
    if c = '-' ∧ d = '-' then ' ' :: replaceFrom .line s
    else if c = '/' ∧ d = '*' then ' ' :: replaceFrom (.block 0) s
    else c :: replaceFrom .code (d :: s)
  | .block _, [_] => []
  | .block n, c :: d :: s =>
    if c = '*' ∧ d = '/' then match n with
      | 0 => replaceFrom .code s
      | n + 1 => replaceFrom (.block n) s
    else if c = '/' ∧ d = '*' then replaceFrom (.block (n + 1)) s
    else replaceFrom (.block n) (d :: s)

def replaceComments (s : Str) : Str := replaceFrom .code s

theorem hasPair_self (s t : Str) : hasPair a b (s ++ a :: b :: t) = true := by
  induction s with
  | nil => rw [List.nil_append, hasPair, List.head?_cons, decide_eq_true rfl, decide_eq_true rfl]; rfl
  | cons c s ih => rw [List.cons_append, hasPair, ih, Bool.or_true]

theorem replaceFrom_code_cons (hl : c ≠ '-') (hb : c ≠ '/') (s : Str) :
    replaceFrom .code (c :: s) = c :: replaceFrom .code s := by
  cases s with
  | nil => rfl
  | cons d s => rw [replaceFrom, if_neg (fun h ↦ hl h.1), if_neg (fun h ↦ hb h.1)]

theorem replaceFrom_code_append {w rest : Str} (h : CommentFree (w ++ rest.take 1)) :
    replaceFrom .code (w ++ rest) = w ++ replaceFrom .code rest := by
  induction w with
  | nil => rfl
  | cons c w ih =>
    obtain ⟨hl, hl'⟩ := hasPair_cons_false h.1
    obtain ⟨hb, hb'⟩ := hasPair_cons_false h.2
    have ih := ih ⟨hl', hb'⟩
    cases w with
    | nil =>
      cases rest with
      | nil => rfl
      | cons d rest =>
        have hld : ¬ (c = '-' ∧ d = '-') := fun hcd ↦ hl ⟨hcd.1, congrArg some hcd.2⟩
        have hbd : ¬ (c = '/' ∧ d = '*') := fun hcd ↦ hb ⟨hcd.1, congrArg some hcd.2⟩
        rw [List.singleton_append, replaceFrom, if_neg hld, if_neg hbd, List.singleton_append]
    | cons d w =>
      have hld : ¬ (c = '-' ∧ d = '-') := fun hcd ↦ hl ⟨hcd.1, congrArg some hcd.2⟩
      have hbd : ¬ (c = '/' ∧ d = '*') := fun hcd ↦ hb ⟨hcd.1, congrArg some hcd.2⟩
      rw [List.cons_append, List.cons_append, replaceFrom, if_neg hld, if_neg hbd, ← List.cons_append, ih]
      rfl

theorem head?_replaceFrom_code (c : Char) (s : Str) :
    (replaceFrom .code (c :: s)).head? = some c ∨ (replaceFrom .code (c :: s)).head? = some ' ' := by
  cases s with
  | nil => exact .inl rfl
  | cons d s =>
    rw [replaceFrom]
    split
    · exact .inr rfl
    · split
      · exact .inr rfl
      · exact .inl rfl

/-- No comment is left after the scan. -/
theorem replaceFrom_free : ∀ (mode : ScanMode) (s : Str), CommentFree (replaceFrom mode s)
  | .code, [] => ⟨rfl, rfl⟩
  | .line, [] => ⟨rfl, rfl⟩
  | .block _, [] => ⟨rfl, rfl⟩
  | .line, c :: s => by
    rw [replaceFrom]
    split
    · rename_i hc
      rw [hc]
      exact CommentFree.append_cons (s := []) (by decide) ⟨rfl, rfl⟩ (replaceFrom_free .code s)
    · exact replaceFrom_free .line s
  | .code, [c] => by
    have hn : ∀ a b, hasPair a b [c] = false := fun a b ↦ hasPair_cons (fun h ↦ nomatch h.2) rfl
    exact ⟨hn _ _, hn _ _⟩
  | .code, c :: d :: s => by
    have hspace : ∀ {t : Str}, CommentFree t → CommentFree (' ' :: t) :=
      fun ht ↦ CommentFree.append_cons (s := []) (by decide) ⟨rfl, rfl⟩ ht
    rw [replaceFrom]
    split
    · exact hspace (replaceFrom_free .line s)
    · rename_i hl
      split
      · exact hspace (replaceFrom_free (.block 0) s)
      · rename_i hb
        have ih := replaceFrom_free .code (d :: s)
        have hpair : ∀ {a b : Char}, b ≠ ' ' → ¬ (c = a ∧ d = b) →
            ¬ (c = a ∧ (replaceFrom .code (d :: s)).head? = some b) := by
          intro a b hsp hn h
          rcases head?_replaceFrom_code d s with hd | hd
          · exact hn ⟨h.1, Option.some.inj (hd.symm.trans h.2)⟩
          · exact hsp (Option.some.inj (h.2.symm.trans hd))
        exact ⟨hasPair_cons (hpair (by decide) hl) ih.1, hasPair_cons (hpair (by decide) hb) ih.2⟩
  | .block _, [_] => ⟨rfl, rfl⟩
  | .block n, c :: d :: s => by
    unfold replaceFrom
    split
    · cases n with
      | zero => exact replaceFrom_free .code s
      | succ n => exact replaceFrom_free (.block n) s
    · split
      · exact replaceFrom_free (.block (n + 1)) s
      · exact replaceFrom_free (.block n) (d :: s)

theorem replaceComments_free (s : Str) : CommentFree (replaceComments s) := replaceFrom_free .code s

theorem replaceFrom_line {body s : Str} (h : '\n' ∉ body) :
    replaceFrom .line (body ++ '\n' :: s) = '\n' :: replaceFrom .code s := by
  induction body with
  | nil => rw [List.nil_append, replaceFrom, if_pos rfl]
  | cons c body ih =>
    rw [List.mem_cons, not_or] at h
    rw [List.cons_append, replaceFrom, if_neg (Ne.symm h.1), ih h.2]

theorem replaceFrom_line_end {body : Str} (h : '\n' ∉ body) : replaceFrom .line body = [] := by
  induction body with
  | nil => rfl
  | cons c body ih =>
    rw [List.mem_cons, not_or] at h
    rw [replaceFrom, if_neg (Ne.symm h.1), ih h.2]

theorem replaceFrom_block {body s : Str} (hc : hasPair '*' '/' (body ++ ['*']) = false)
    (ho : hasPair '/' '*' (body ++ ['*']) = false) :
    replaceFrom (.block 0) (body ++ '*' :: '/' :: s) = replaceFrom .code s := by
  induction body with
  | nil => rw [List.nil_append, replaceFrom, if_pos ⟨rfl, rfl⟩]
  | cons c body ih =>
    obtain ⟨hc₁, hc₂⟩ := hasPair_cons_false hc
    obtain ⟨ho₁, ho₂⟩ := hasPair_cons_false ho
    have ih := ih hc₂ ho₂
    cases body with
    | nil =>
      have hnc : ¬ (c = '*' ∧ '*' = '/') := fun h ↦ absurd h.2 (by decide)
      have hno : ¬ (c = '/' ∧ '*' = '*') := fun h ↦ ho₁ ⟨h.1, rfl⟩
      rw [List.cons_append, List.nil_append, replaceFrom, if_neg hnc, if_neg hno]
      exact ih
    | cons d body =>
      have hnc : ¬ (c = '*' ∧ d = '/') := fun h ↦ hc₁ ⟨h.1, congrArg some h.2⟩
      have hno : ¬ (c = '/' ∧ d = '*') := fun h ↦ ho₁ ⟨h.1, congrArg some h.2⟩
      rw [List.cons_append, List.cons_append, replaceFrom, if_neg hnc, if_neg hno]
      exact ih

theorem replaceFrom_block_open : ∀ (n : ℕ) (body : Str), hasPair '*' '/' body = false →
    replaceFrom (.block n) body = []
  | _, [], _ => rfl
  | _, [_], _ => rfl
  | n, c :: d :: s, h => by
    obtain ⟨hc, hs⟩ := hasPair_cons_false h
    have hnc : ¬ (c = '*' ∧ d = '/') := fun hcd ↦ hc ⟨hcd.1, congrArg some hcd.2⟩
    unfold replaceFrom
    rw [if_neg hnc]
    split
    · exact replaceFrom_block_open (n + 1) s (hasPair_cons_false hs).2
    · exact replaceFrom_block_open n (d :: s) hs

end McpSqlServer.Library.Sql

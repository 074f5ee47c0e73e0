import McpSqlServer.Library.Sql.Comments
import McpSqlServer.Library.Text.Case
import McpSqlServer.Library.Text.Words

namespace McpSqlServer.Library.Sql

open Text

/-- A token of T-SQL. A number, a variable and a keyword without a role of its own are words. -/
inductive Tok
  | keyword (w : Str)
  | word (w : Str)
  | bracketed (body : Str)
  | quoted (body : Str)
  | literal (body : Str)
  | symbol (c : Char)

def doubled (q : Char) : Str → Bool
  | [] => true
  | [c] => c != q
  | c :: d :: s => if c = q then d == q && doubled q s else doubled q (d :: s)

variable [UnicodeData]

def isIdentChar (c : Char) : Bool := isWord c || c = '@' || c = '#' || c = '$'

/-- What may stand between two tokens: white space and whole comments. -/
inductive Gap : Str → Prop
  | nil : Gap []
  | space {c : Char} {s : Str} : isSpace c = true → isWord c = false → Gap s → Gap (c :: s)
  | line {body s : Str} : '\n' ∉ body → Gap s → Gap ('-' :: '-' :: (body ++ '\n' :: s))
  | block {body s : Str} :
      (∀ rest, replaceFrom (.block 0) (body ++ '*' :: '/' :: rest) = replaceFrom .code rest) →
      Gap s → Gap ('/' :: '*' :: (body ++ '*' :: '/' :: s))

/-- What may stand behind the last token: the text may end inside a line comment. -/
inductive Tail : Str → Prop
  | gap {s : Str} : Gap s → Tail s
  | lineEnd {gap body : Str} : Gap gap → '\n' ∉ body → Tail (gap ++ '-' :: '-' :: body)

inductive Spells : Tok → Str → Prop
  | keyword {w t : Str} : w ≠ [] → (∀ c ∈ w, c.isLower = true) → t.map Char.toLower = w → Spells (.keyword w) t
  | word {w : Str} : w ≠ [] → (∀ c ∈ w, isIdentChar c = true) → Spells (.word w) w
  | bracketed {body : Str} : doubled ']' body = true → Spells (.bracketed body) ('[' :: (body ++ [']']))
  | quoted {body : Str} : doubled '"' body = true → Spells (.quoted body) ('"' :: (body ++ ['"']))
  | literal {body : Str} : doubled '\'' body = true → Spells (.literal body) ('\'' :: (body ++ ['\'']))
  | symbol {c : Char} : isIdentChar c = false → isSpace c = false → c ∉ ['[', ']', '"', '\''] → Spells (.symbol c) [c]

def Splits (a b : Char) : Prop :=
  ¬ (isIdentChar a = true ∧ isIdentChar b = true) ∧ ¬ (a = '-' ∧ b = '-') ∧ ¬ (a = '/' ∧ b = '*') ∧
    ¬ (a = '\'' ∧ b = '\'') ∧ ¬ (a = '"' ∧ b = '"')

def Joins (s t : Str) : Prop := ∀ a ∈ s.getLast?, ∀ b ∈ t.head?, Splits a b

inductive Renders : List Tok → Str → Prop
  | last {tok : Tok} {t tail : Str} : Spells tok t → Tail tail → Joins t tail → Renders [tok] (t ++ tail)
  | cons {tok : Tok} {toks : List Tok} {t gap s : Str} : Spells tok t → Gap gap → Joins t (gap ++ s) →
      Renders toks s → Renders (tok :: toks) (t ++ (gap ++ s))

section Keywords

variable {words : List Str} {before last : Option Char} {tok : Tok} {toks : List Tok} {w t s gap rest : Str}

omit [UnicodeData] in
theorem isAlpha_of_isLower_toLower {c : Char} (h : c.toLower.isLower = true) : c.isAlpha = true := by
  cases hu : c.isUpper with
  | true => exact Bool.or_eq_true_iff.mpr (.inl hu)
  | false =>
    rw [toLower_of_not_isUpper hu] at h
    exact Bool.or_eq_true_iff.mpr (.inr h)

omit [UnicodeData] in
theorem isAlpha_of_isUpper_toUpper {c : Char} (h : c.toUpper.isUpper = true) : c.isAlpha = true := by
  cases hl : c.isLower with
  | true => exact Bool.or_eq_true_iff.mpr (.inr hl)
  | false =>
    have hn : ¬ ('a'.val ≤ c.val ∧ c.val ≤ 'z'.val) := by
      intro hc
      have ht : c.isLower = true := Bool.and_eq_true_iff.mpr ⟨decide_eq_true hc.1, decide_eq_true hc.2⟩
      rw [hl] at ht
      cases ht
    have hu : c.toUpper = c := dif_neg hn
    rw [hu] at h
    exact Bool.or_eq_true_iff.mpr (.inl h)

theorem isWord_of_isLower_toLower {c : Char} (h : c.toLower.isLower = true) : isWord c = true := by
  have ha := isAlpha_of_isLower_toLower h
  simp [isWord, isAscii_of_isAlpha ha, Char.isAlphanum, ha]

theorem Spells.ne_nil (h : Spells tok t) : t ≠ [] := by
  cases h with
  | keyword hne _ ht =>
    intro hn
    rw [hn] at ht
    exact hne ht.symm
  | word hne _ => exact hne
  | bracketed _ => simp
  | quoted _ => simp
  | literal _ => simp
  | symbol _ _ _ => simp

theorem Splits.not_isWord {a b : Char} (h : Splits a b) : ¬ (isWord a = true ∧ isWord b = true) := by
  intro hw
  apply h.1
  simp [isIdentChar, hw.1, hw.2]

omit [UnicodeData] in
theorem matchWord_spelled (h : t.map Char.toLower = w) (last : Option Char) (rest : Str) :
    matchWord last w (t ++ rest) = some (t.getLast?.or last, rest) := by
  induction t generalizing w last with
  | nil =>
    subst h
    cases rest <;> rfl
  | cons c t ih =>
    subst h
    have hm : matchesLetter c.toLower c = true := by simp [matchesLetter]
    have hlast : t.getLast?.or (some c) = (c :: t).getLast?.or last := by
      rw [List.getLast?_cons]
      cases t.getLast? <;> rfl
    rw [List.map_cons, List.cons_append, matchWord, if_pos hm, ih rfl, hlast]

theorem searchFrom_append (pre : Str) (h : searchFrom words (pre.getLast?.or before) s = true) :
    searchFrom words before (pre ++ s) = true := by
  induction pre generalizing before with
  | nil => exact h
  | cons c pre ih =>
    have hlast : pre.getLast?.or (some c) = (c :: pre).getLast?.or before := by
      rw [List.getLast?_cons]
      cases pre.getLast? <;> rfl
    rw [← hlast] at h
    rw [List.cons_append, searchFrom, ih h, Bool.or_true]

theorem searchFrom_of_wordHere (h : wordHere words before s = true) : searchFrom words before s = true := by
  cases s with
  | nil => exact h
  | cons c s => rw [searchFrom, h, Bool.true_or]

def Apart (a b : Option Char) : Prop := ∀ c ∈ a, ∀ d ∈ b, ¬ (isWord c = true ∧ isWord d = true)

theorem Joins.apart (h : Joins s t) : Apart s.getLast? t.head? := fun a ha b hb ↦ (h a ha b hb).not_isWord

theorem Apart.symm {a b : Option Char} (h : Apart a b) : Apart b a := fun c hc d hd hw ↦ h d hd c hc hw.symm

theorem Apart.boundary {a b : Option Char} (h : Apart a b) (hb : b.any isWord = true) : boundary a b = true := by
  obtain ⟨d, rfl, hd⟩ := (Option.any_eq_true _ b).mp hb
  have ha : a.any isWord = false := by
    cases a with
    | none => rfl
    | some c =>
      rw [Option.any_some, Bool.eq_false_iff]
      intro hc
      exact h c rfl d rfl ⟨hc, hd⟩
  rw [Text.boundary, ha, Option.any_some, hd]
  rfl

theorem Spells.isWord_of_mem (h : Spells (.keyword w) t) {c : Char} (hc : c ∈ t) : isWord c = true := by
  cases h with
  | keyword _ hl ht => exact isWord_of_isLower_toLower (hl _ (ht ▸ List.mem_map_of_mem hc))

theorem Spells.any_head? (h : Spells (.keyword w) t) (rest : Str) : (t ++ rest).head?.any isWord = true := by
  obtain ⟨c, t', rfl⟩ := List.exists_cons_of_ne_nil h.ne_nil
  exact h.isWord_of_mem List.mem_cons_self

theorem Spells.any_getLast? (h : Spells (.keyword w) t) : t.getLast?.any isWord = true := by
  rw [List.getLast?_eq_some_getLast h.ne_nil]
  exact h.isWord_of_mem (List.getLast_mem _)

theorem Spells.map_toLower (h : Spells (.keyword w) t) : t.map Char.toLower = w := by
  cases h with
  | keyword _ _ ht => exact ht

theorem wordHere_keyword (hk : Spells (.keyword w) t) (hw : w ∈ words) (hb : Apart before (t ++ rest).head?)
    (hr : Apart t.getLast? rest.head?) : wordHere words before (t ++ rest) = true := by
  have hlast : t.getLast?.or none = t.getLast? := Option.or_none
  have hend : boundary t.getLast? rest.head? = true := by
    have h := hr.symm.boundary hk.any_getLast?
    rwa [Text.boundary, bne_comm] at h
  have hmatch := matchWord_spelled hk.map_toLower none rest
  rw [wordHere, hb.boundary (hk.any_head? rest), Bool.true_and, List.any_eq_true]
  refine ⟨w, hw, ?_⟩
  rw [hmatch, hlast]
  exact hend

theorem not_isWord_getLast_append {z : Char} (hz : isWord z = false) (pre : Str)
    (hs : ∀ c ∈ s.getLast?, isWord c = false) : ∀ c ∈ (pre ++ z :: s).getLast?, isWord c = false := by
  intro c hc
  rw [List.getLast?_append, List.getLast?_cons, Option.some_or] at hc
  cases hlast : s.getLast? with
  | none =>
    rw [hlast] at hc
    rwa [← Option.some.inj hc]
  | some d =>
    rw [hlast] at hc
    exact hs c (hlast.trans hc)

theorem Gap.not_isWord_getLast (h : Gap gap) : ∀ c ∈ gap.getLast?, isWord c = false := by
  induction h with
  | nil =>
    intro c hc
    cases hc
  | space _ hc _ ih => exact not_isWord_getLast_append hc [] ih
  | @line body s _ _ ih => exact not_isWord_getLast_append rfl ('-' :: '-' :: body) ih
  | @block body s _ _ ih =>
    have hclose : '/' :: '*' :: (body ++ '*' :: '/' :: s) = ('/' :: '*' :: (body ++ ['*'])) ++ '/' :: s := by simp
    rw [hclose]
    exact not_isWord_getLast_append rfl _ ih

/-- A keyword of a statement stands in its text as a word of its own. -/
theorem Renders.searchFrom (h : Renders toks s) (hw : w ∈ words) (hk : Tok.keyword w ∈ toks)
    (hb : Apart before s.head?) : searchFrom words before s = true := by
  induction h generalizing before with
  | @last tok t tail hs _ hj =>
    have htok := List.mem_singleton.mp hk
    subst htok
    exact searchFrom_of_wordHere (wordHere_keyword hs hw hb hj.apart)
  | @cons tok toks t gap s hs hg hj _ ih =>
    rcases List.mem_cons.mp hk with htok | hk
    · subst htok
      exact searchFrom_of_wordHere (wordHere_keyword hs hw hb hj.apart)
    · have hnext : Apart ((t ++ gap).getLast?.or before) s.head? := by
        cases gap with
        | nil =>
          have hap : Apart t.getLast? s.head? := hj.apart
          have hd := List.getLast?_eq_some_getLast hs.ne_nil
          rwa [List.append_nil, hd, Option.some_or, ← hd]
        | cons g gap =>
          intro c hc d _ hcd
          have hlast : (t ++ g :: gap).getLast? = (g :: gap).getLast? := by
            rw [List.getLast?_append, List.getLast?_cons, Option.some_or]
          rw [hlast, List.getLast?_cons, Option.some_or] at hc
          rw [hg.not_isWord_getLast c (by rwa [List.getLast?_cons])] at hcd
          cases hcd.1
      rw [← List.append_assoc]
      exact searchFrom_append _ (ih hk hnext)

theorem Renders.searchWords {lead : Str} (hl : Gap lead) (h : Renders toks s) (hw : w ∈ words)
    (hk : Tok.keyword w ∈ toks) : searchWords words (lead ++ s) = true := by
  apply searchFrom_append
  apply h.searchFrom hw hk
  intro c hc d _ hcd
  rw [Option.or_none] at hc
  rw [hl.not_isWord_getLast c hc] at hcd
  cases hcd.1

theorem splits_space (a : Char) : Splits a ' ' := by
  have hs : isIdentChar ' ' = false := rfl
  simp [Splits, hs]

theorem Renders.single (hs : Spells tok t) : Renders [tok] t := by
  have h : Renders [tok] (t ++ []) := .last hs (.gap .nil) (fun _ _ b hb ↦ by cases hb)
  rwa [List.append_nil] at h

theorem Renders.blank (hs : Spells tok t) (h : Renders toks s) : Renders (tok :: toks) (t ++ ' ' :: s) := by
  refine .cons hs (.space rfl rfl .nil) ?_ h
  intro a _ b hb
  rw [← Option.some.inj hb]
  exact splits_space a

theorem Renders.exists_spells {tok : Tok} {toks : List Tok} (h : Renders (tok :: toks) s) :
    ∃ t rest, Spells tok t ∧ s = t ++ rest := by
  cases h with
  | last hs _ _ => exact ⟨_, _, hs, rfl⟩
  | cons hs _ _ _ => exact ⟨_, _, hs, rfl⟩

theorem Renders.exists_letter {c : Char} {w : Str} {toks : List Tok} (h : Renders (.keyword (c :: w) :: toks) s) :
    ∃ d rest, d.toLower = c ∧ s = d :: rest := by
  obtain ⟨t, rest, ht, rfl⟩ := h.exists_spells
  have hmap := ht.map_toLower
  cases t with
  | nil => cases hmap
  | cons d t => exact ⟨d, t ++ rest, List.head_eq_of_cons_eq hmap, rfl⟩

end Keywords

end McpSqlServer.Library.Sql

import McpSqlServer.Library.Text.Str

namespace McpSqlServer.Library.Text

/-- Whether a character matches the lower case letter `p` of a pattern under `re.IGNORECASE`,
which equates four further letters with ASCII ones. -/
def matchesLetter (p c : Char) : Bool :=
  c.toLower = p || (p = 'i' && (c = 'İ' || c = 'ı')) || (p = 's' && c = 'ſ') || (p = 'k' && c.toNat = 8490)

def matchWord (last : Option Char) : Str → Str → Option (Option Char × Str)
  | [], s => some (last, s)
  | _ :: _, [] => none
  | p :: w, c :: s => if matchesLetter p c then matchWord (some c) w s else none

variable [UnicodeData]

def boundary (before after : Option Char) : Bool := before.any isWord != after.any isWord

def wordHere (words : List Str) (before : Option Char) (s : Str) : Bool :=
  boundary before s.head? && words.any fun w ↦
    (matchWord none w s).any fun (last, rest) ↦ boundary last rest.head?

def searchFrom (words : List Str) (before : Option Char) : Str → Bool
  | [] => wordHere words before []
  | c :: s => wordHere words before (c :: s) || searchFrom words (some c) s

/-- `re.compile(r"(?i)\b(w1|w2|...)\b").search`, for words in lower case. -/
def searchWords (words : List Str) (s : Str) : Bool := searchFrom words none s

/-- A character that separates words and that no word of a pattern contains. -/
structure Separates (words : List Str) (sep : Char) : Prop where
  not_isWord : isWord sep = false
  ne_nil : ∀ w ∈ words, w ≠ []
  not_matches : ∀ w ∈ words, ∀ p ∈ w, matchesLetter p sep = false

section Separates

variable {words : List Str} {sep : Char} {before : Option Char} {s t w : Str}

omit [UnicodeData] in
theorem matchWord_append (hw : ∀ p ∈ w, matchesLetter p sep = false) (last : Option Char) (s t : Str) :
    matchWord last w (s ++ sep :: t) = (matchWord last w s).map (fun (l, r) ↦ (l, r ++ sep :: t)) := by
  induction w generalizing last s with
  | nil => cases s <;> rfl
  | cons p w ih =>
    cases s with
    | nil =>
      show (if matchesLetter p sep then matchWord (some sep) w t else none) = none
      rw [hw p List.mem_cons_self, if_neg Bool.false_ne_true]
    | cons c s =>
      rw [List.cons_append, matchWord, matchWord]
      cases matchesLetter p c with
      | false => rfl
      | true => exact ih (fun q hq ↦ hw q (List.mem_cons_of_mem _ hq)) (some c) s

theorem Separates.boundary_right (h : Separates words sep) (last : Option Char) (r t : Str) :
    boundary last (r ++ sep :: t).head? = boundary last r.head? := by
  cases r with
  | nil =>
    simp only [boundary, List.nil_append, List.head?_cons, List.head?_nil, Option.any_some, Option.any_none,
      h.not_isWord]
  | cons c r => rfl

theorem Separates.wordHere_nil (h : Separates words sep) : wordHere words before [] = false := by
  have hn : (words.any fun w ↦ (matchWord none w []).any fun (last, rest) ↦ boundary last rest.head?) = false := by
    refine List.any_eq_false.mpr (fun w hw ↦ ?_)
    obtain ⟨p, w, rfl⟩ := List.exists_cons_of_ne_nil (h.ne_nil w hw)
    exact Bool.false_ne_true
  rw [wordHere, hn, Bool.and_false]

theorem Separates.wordHere_sep (h : Separates words sep) (t : Str) : wordHere words before (sep :: t) = false := by
  have hn : (words.any fun w ↦ (matchWord none w (sep :: t)).any
      fun (last, rest) ↦ boundary last rest.head?) = false := by
    refine List.any_eq_false.mpr (fun w hw ↦ ?_)
    obtain ⟨p, w, rfl⟩ := List.exists_cons_of_ne_nil (h.ne_nil w hw)
    rw [matchWord, h.not_matches _ hw p List.mem_cons_self]
    exact Bool.false_ne_true
  rw [wordHere, hn, Bool.and_false]

theorem Separates.wordHere_append (h : Separates words sep) {c : Char} (s t : Str) :
    wordHere words before (c :: s ++ sep :: t) = wordHere words before (c :: s) := by
  unfold wordHere
  congr 1
  rw [Bool.eq_iff_iff, List.any_eq_true, List.any_eq_true]
  refine exists_congr (fun w ↦ and_congr_right (fun hw ↦ ?_))
  rw [matchWord_append (h.not_matches w hw)]
  cases matchWord none w (c :: s) with
  | none => exact Iff.rfl
  | some m =>
    obtain ⟨last, r⟩ := m
    show boundary last (r ++ sep :: t).head? = true ↔ boundary last r.head? = true
    rw [h.boundary_right]

theorem searchFrom_congr {before' : Option Char} (hb : before.any isWord = before'.any isWord) (s : Str) :
    searchFrom words before s = searchFrom words before' s := by
  have hw : ∀ s, wordHere words before s = wordHere words before' s := by
    intro s
    unfold wordHere boundary
    rw [hb]
  cases s with
  | nil => exact hw []
  | cons c s => rw [searchFrom, searchFrom, hw]

theorem Separates.searchFrom_append (h : Separates words sep) (before : Option Char) (s t : Str) :
    searchFrom words before (s ++ sep :: t) = (searchFrom words before s || searchWords words t) := by
  induction s generalizing before with
  | nil =>
    have hb : (some sep).any isWord = (none : Option Char).any isWord := h.not_isWord
    show (wordHere words before (sep :: t) || searchFrom words (some sep) t) =
      (wordHere words before [] || searchWords words t)
    rw [h.wordHere_sep, h.wordHere_nil, searchFrom_congr hb]
    rfl
  | cons c s ih =>
    rw [List.cons_append, searchFrom, ← List.cons_append, h.wordHere_append, ih, searchFrom, Bool.or_assoc]

/-- A search never matches across a separator. -/
theorem Separates.searchWords_append (h : Separates words sep) (s t : Str) :
    searchWords words (s ++ sep :: t) = (searchWords words s || searchWords words t) :=
  h.searchFrom_append none s t

end Separates

end McpSqlServer.Library.Text

import McpSqlServer.Library.Python.IntText
import McpSqlServer.Library.Text.Split
import McpSqlServer.Tools.InputValidation
import Mathlib.Data.List.TakeWhile

namespace McpSqlServer

open Library.Text Library.Python

structure ErrorNumber (message front digits rest : Str) : Prop where
  eq : message = front ++ '(' :: (digits ++ ')' :: rest)
  ne_nil : digits ≠ []
  digits : ∀ c ∈ digits, c.isDigit = true
  first : ∀ u es v, front = u ++ '(' :: (es ++ ')' :: v) → es ≠ [] → ¬ ∀ c ∈ es, c.isDigit = true

def isParen (c : Char) : Bool := c = '(' || c = ' '

section Trim

variable {w l r s : Str}

theorem dropWhile_isParen (hl : ∀ c ∈ l, isParen c = true) (hw : ∀ c ∈ w.head?, isParen c = false) :
    (l ++ w).dropWhile isParen = w := by
  rw [List.dropWhile_append_of_pos hl]
  cases w with
  | nil => rfl
  | cons c w => exact List.dropWhile_cons_of_neg (by rw [hw c rfl]; exact Bool.false_ne_true)

theorem stripParens_eq (hl : ∀ c ∈ l, isParen c = true) (hr : ∀ c ∈ r, isParen c = true) (hne : w ≠ [])
    (hw : ∀ c ∈ w, isParen c = false) : stripParens (l ++ (w ++ r)) = w := by
  have hhead : ∀ c ∈ (w ++ r).head?, isParen c = false := by
    obtain ⟨d, v, rfl⟩ := List.exists_cons_of_ne_nil hne
    intro c hc
    rw [List.cons_append, List.head?_cons, Option.mem_some_iff] at hc
    exact hw c (hc ▸ List.mem_cons_self)
  have hback : ∀ c ∈ w.reverse.head?, isParen c = false :=
    fun c hc ↦ hw c (List.mem_reverse.mp (List.mem_of_mem_head? hc))
  show (((l ++ (w ++ r)).dropWhile isParen).reverse.dropWhile isParen).reverse = w
  rw [dropWhile_isParen hl hhead, List.reverse_append,
    dropWhile_isParen (fun c hc ↦ hr c (List.mem_reverse.mp hc)) hback, List.reverse_reverse]

theorem eq_append_stripParens (s : Str) :
    ∃ l r, s = l ++ (stripParens s ++ r) ∧ (∀ c ∈ l, isParen c = true) ∧ ∀ c ∈ r, isParen c = true := by
  have htrim : ∀ t : Str, t = t.takeWhile isParen ++ t.dropWhile isParen :=
    fun t ↦ List.takeWhile_append_dropWhile.symm
  have hback := congrArg List.reverse (htrim (s.dropWhile isParen).reverse)
  rw [List.reverse_reverse, List.reverse_append] at hback
  refine ⟨s.takeWhile isParen, ((s.dropWhile isParen).reverse.takeWhile isParen).reverse, ?_, ?_, ?_⟩
  · calc s = s.takeWhile isParen ++ s.dropWhile isParen := htrim s
      _ = _ := congrArg (s.takeWhile isParen ++ ·) hback
  · exact fun c hc ↦ List.mem_takeWhile_imp hc
  · exact fun c hc ↦ List.mem_takeWhile_imp (List.mem_reverse.mp hc)

end Trim

section UnicodeData

variable [UnicodeData] {seg digits es m front rest : Str} {exc : Exc} {n : ℕ}

/-- A stretch between closing parentheses which is digits but for parentheses and blanks
around them. -/
def Bare (digits seg : Str) : Prop :=
  ∃ l r, seg = l ++ (digits ++ r) ∧ (∀ c ∈ l, isParen c = true) ∧ (∀ c ∈ r, isParen c = true) ∧
    digits ≠ [] ∧ ∀ c ∈ digits, isDigit c = true

def FirstBare (m digits : Str) : Prop :=
  ∃ before seg after, m.splitOn ')' = before ++ seg :: after ∧ Bare digits seg ∧ ∀ s ∈ before, ¬ ∃ es, Bare es s

/-- In the text in front of a number, no stretch is bare, and only parentheses and blanks
stand between the last closing parenthesis and the number. -/
def StandsAlone (front : Str) : Prop :=
  ∃ before own, front.splitOn ')' = before ++ [own] ∧ (∀ c ∈ own, isParen c = true) ∧
    ∀ s ∈ before, ¬ ∃ es, Bare es s

theorem isParen_of_isDigit {c : Char} (h : isDigit c = true) : isParen c = false := by
  rw [isParen, Bool.or_eq_false_iff, decide_eq_false_iff_not, decide_eq_false_iff_not]
  constructor
  · rintro rfl
    cases h
  · rintro rfl
    cases h

theorem bare_iff : Bare digits seg ↔
    stripParens seg = digits ∧ (!digits.isEmpty && digits.all isDigit) = true := by
  rw [Bool.and_eq_true, Bool.not_eq_true', List.isEmpty_eq_false_iff, List.all_eq_true]
  constructor
  · intro ⟨l, r, hseg, hl, hr, hne, hd⟩
    rw [hseg]
    exact ⟨stripParens_eq hl hr hne (fun c hc ↦ isParen_of_isDigit (hd c hc)), hne, hd⟩
  · rintro ⟨rfl, hne, hd⟩
    obtain ⟨l, r, hseg, hl, hr⟩ := eq_append_stripParens seg
    exact ⟨l, r, hseg, hl, hr, hne, hd⟩

theorem find?_eq_some_iff_firstBare :
    ((m.splitOn ')').map stripParens).find? (fun w ↦ !w.isEmpty && w.all isDigit) = some digits ↔
      FirstBare m digits := by
  rw [List.find?_map, Option.map_eq_some_iff]
  constructor
  · rintro ⟨seg, hfind, hseg⟩
    obtain ⟨hd, before, after, hsplit, hbefore⟩ := List.find?_eq_some_iff_append.mp hfind
    refine ⟨before, seg, after, hsplit, bare_iff.mpr ⟨hseg, hseg ▸ hd⟩, fun s hs ⟨es, hes⟩ ↦ ?_⟩
    obtain ⟨heq, hall⟩ := bare_iff.mp hes
    have hnot := hbefore s hs
    rw [Function.comp_apply, heq, hall] at hnot
    cases hnot
  · intro ⟨before, seg, after, hsplit, hbare, hbefore⟩
    obtain ⟨heq, hall⟩ := bare_iff.mp hbare
    refine ⟨seg, List.find?_eq_some_iff_append.mpr ⟨?_, before, after, hsplit, fun s hs ↦ ?_⟩, heq⟩
    · rw [Function.comp_apply, heq, hall]
    · rw [Bool.not_eq_true', Function.comp_apply, ← Bool.not_eq_true]
      exact fun h ↦ hbefore s hs ⟨_, bare_iff.mpr ⟨rfl, h⟩⟩

theorem FirstBare.unique {ds : Str} (hd : FirstBare m ds) (he : FirstBare m es) : ds = es :=
  Option.some.inj ((find?_eq_some_iff_firstBare.mpr hd).symm.trans (find?_eq_some_iff_firstBare.mpr he))

theorem StandsAlone.firstBare (h : StandsAlone front) (he : ErrorNumber m front digits rest) : FirstBare m digits := by
  obtain ⟨before, own, hsplit, hown, hbefore⟩ := h
  have hclose : ∀ u ∈ front.splitOn ')', ')' ∉ u := fun u hu ↦ notMem_of_mem_splitOn hu
  have hparen : ∀ c ∈ own ++ ['('], isParen c = true := by
    intro c hc
    rcases List.mem_append.mp hc with hc | hc
    · exact hown c hc
    · rw [List.mem_singleton.mp hc]
      rfl
  have hnot : ')' ∉ '(' :: digits := by
    intro hc
    rcases List.mem_cons.mp hc with hc | hc
    · cases hc
    · cases he.digits ')' hc
  refine ⟨before, own ++ '(' :: digits, rest.splitOn ')', ?_, ⟨own ++ ['('], [], ?_, hparen, ?_, he.ne_nil, ?_⟩, hbefore⟩
  · rw [he.eq, ← List.cons_append, ← List.append_assoc, List.splitOn_append_cons_self, splitOn_append_last hnot hsplit,
      List.append_assoc, List.singleton_append]
  · rw [List.append_nil, List.append_assoc, List.singleton_append]
  · exact fun c hc ↦ absurd hc List.not_mem_nil
  · intro c hc
    rw [isDigit, if_pos (isAscii_of_isDigit (he.digits c hc)), he.digits c hc]

theorem extractSqlError_number_iff {first second : Str} {others : List Str}
    (hargs : exc.args = first :: second :: others) :
    (∃ err, extractSqlError exc = some err ∧ err.sqlErrorNumber = some n) ↔
      strip first ≠ [] ∧ ∃ es, FirstBare (strip second) es ∧ intOfDigits es = some n := by
  rw [extractSqlError, hargs]
  dsimp only
  split
  · rename_i hempty
    refine iff_of_false ?_ (fun h ↦ h.1 hempty)
    rintro ⟨err, herr, -⟩
    cases herr
  · rename_i hstate
    split
    · rename_i hfind
      refine iff_of_false ?_ ?_
      · rintro ⟨err, herr, hnum⟩
        cases herr
        cases hnum
      · rintro ⟨-, es, hes, -⟩
        rw [find?_eq_some_iff_firstBare.mpr hes] at hfind
        cases hfind
    · rename_i token hfind
      have hfirst : FirstBare (strip second) token := find?_eq_some_iff_firstBare.mp hfind
      constructor
      · rintro ⟨err, herr, hnum⟩
        obtain ⟨k, hk, rfl⟩ := Option.map_eq_some_iff.mp herr
        cases hnum
        exact ⟨hstate, token, hfirst, hk⟩
      · rintro ⟨-, es, hes, hint⟩
        rw [hfirst.unique hes, hint]
        exact ⟨_, rfl, rfl⟩

/-- Whether an answer gives the number of the message: the number has to stand alone, or some
other bare stretch in front of it, or elsewhere, happens to be the same number. -/
theorem extractSqlError_finds_iff {first second : Str} {others : List Str} (hargs : exc.args = first :: second :: others)
    (he : ErrorNumber (strip second) front digits rest) :
    (∃ err, extractSqlError exc = some err ∧ err.sqlErrorNumber = some (digitsValue digits)) ↔
      strip first ≠ [] ∧
        (StandsAlone front ∧ digits.length ≤ 4300 ∨
          ¬ StandsAlone front ∧ ∃ es, FirstBare (strip second) es ∧ es.all isDecimal = true ∧ es.length ≤ 4300 ∧
            digitsValue es = digitsValue digits) := by
  rw [extractSqlError_number_iff hargs]
  refine and_congr_right (fun _ ↦ ?_)
  by_cases halone : StandsAlone front
  · have hfirst : FirstBare (strip second) digits := halone.firstBare he
    have hdec : digits.all isDecimal = true := by
      refine List.all_eq_true.mpr (fun c hc ↦ ?_)
      rw [isDecimal, if_pos (isAscii_of_isDigit (he.digits c hc)), he.digits c hc]
    constructor
    · rintro ⟨es, hes, hint⟩
      rw [← hfirst.unique hes, intOfDigits_eq_some_iff] at hint
      exact .inl ⟨halone, hint.2.2.1⟩
    · rintro (⟨-, hlen⟩ | ⟨hnot, -⟩)
      · exact ⟨digits, hfirst, intOfDigits_eq_some_iff.mpr ⟨he.ne_nil, hdec, hlen, rfl⟩⟩
      · exact absurd halone hnot
  · constructor
    · rintro ⟨es, hes, hint⟩
      obtain ⟨-, hdec, hlen, hval⟩ := intOfDigits_eq_some_iff.mp hint
      exact .inr ⟨halone, es, hes, hdec, hlen, hval⟩
    · rintro (⟨h, -⟩ | ⟨-, es, hes, hdec, hlen, hval⟩)
      · exact absurd h halone
      · obtain ⟨before, seg, after, -, ⟨-, -, -, -, -, hne, -⟩, -⟩ := id hes
        exact ⟨es, hes, intOfDigits_eq_some_iff.mpr ⟨hne, hdec, hlen, hval⟩⟩

end UnicodeData

def driverError (message : Str) : Exc where
  kind := .other
  className := "ProgrammingError".toList
  args := ["42S02".toList, message]
  text := "('42S02', '".toList ++ message ++ "')".toList

theorem extractSqlError_finds_leading : let _ := asciiData
    ∃ err, extractSqlError (driverError "(208) Invalid object".toList) = some err ∧
      err.sqlErrorNumber = some (digitsValue "208".toList) := by
  intro U
  have he : ErrorNumber (strip "(208) Invalid object".toList) [] "208".toList " Invalid object".toList :=
    ⟨by decide, by decide, by decide, fun u es v h ↦ by cases u <;> cases h⟩
  have halone : StandsAlone [] := ⟨[], [], rfl, by simp, by simp⟩
  exact (extractSqlError_finds_iff rfl he).mpr ⟨by decide, .inl ⟨halone, by decide⟩⟩

theorem extractSqlError_misses : let _ := asciiData
    ErrorNumber (strip "Invalid object (208)".toList) "Invalid object ".toList "208".toList [] ∧
      ¬ ∃ err, extractSqlError (driverError "Invalid object (208)".toList) = some err ∧
        err.sqlErrorNumber = some (digitsValue "208".toList) := by
  intro U
  have hfirst : '(' ∉ "Invalid object ".toList := by decide
  have hnone : (extractSqlError (driverError "Invalid object (208)".toList)).bind SqlError.sqlErrorNumber = none := by
    decide
  refine ⟨⟨by decide, by decide, by decide, fun u es v h ↦ ?_⟩, ?_⟩
  · exact absurd (h ▸ List.mem_append_right u List.mem_cons_self) hfirst
  · intro ⟨err, herr, hnum⟩
    rw [herr, Option.bind_some, hnum] at hnone
    cases hnone

end McpSqlServer

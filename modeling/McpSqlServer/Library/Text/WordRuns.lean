import McpSqlServer.Library.Text.Split
import McpSqlServer.Library.Text.Words

namespace McpSqlServer.Library.Text

variable [UnicodeData] {words : List Str} {s t w : Str} {before last : Option Char}

/-- Between `u` and `v` stands a longest row of word characters. -/
structure WordRun (u run v : Str) : Prop where
  ne_nil : run ≠ []
  isWord : ∀ c ∈ run, isWord c = true
  before : ∀ c ∈ u.getLast?, Text.isWord c = false
  after : ∀ c ∈ v.head?, Text.isWord c = false

section Search

omit [UnicodeData] in
theorem getLast?_cons_or (c : Char) (s : Str) (last : Option Char) :
    (c :: s).getLast?.or last = s.getLast?.or (some c) := by
  rw [List.getLast?_cons]
  cases s.getLast? with
  | none => rfl
  | some d => rfl

omit [UnicodeData] in
theorem matchWord_eq_some {l : Option Char} {r : Str} : matchWord last w s = some (l, r) ↔
    ∃ run, s = run ++ r ∧ List.Forall₂ (fun p c ↦ matchesLetter p c = true) w run ∧ l = run.getLast?.or last := by
  induction w generalizing last s with
  | nil =>
    rw [matchWord, Option.some.injEq, Prod.mk.injEq]
    constructor
    · rintro ⟨rfl, rfl⟩
      exact ⟨[], rfl, .nil, rfl⟩
    · rintro ⟨run, rfl, hrun, rfl⟩
      cases hrun
      exact ⟨rfl, rfl⟩
  | cons p w ih =>
    cases s with
    | nil =>
      rw [matchWord]
      refine iff_of_false (by simp) ?_
      rintro ⟨run, hs, hrun, -⟩
      cases hrun with
      | cons hp hw => cases hs
    | cons c s =>
      rw [matchWord]
      by_cases hc : matchesLetter p c = true
      · rw [if_pos hc, ih]
        constructor
        · rintro ⟨run, rfl, hrun, rfl⟩
          exact ⟨c :: run, rfl, .cons hc hrun, (getLast?_cons_or c run last).symm⟩
        · rintro ⟨run, hs, hrun, rfl⟩
          cases hrun with
          | @cons _ d _ run hp hw =>
            obtain ⟨rfl, rfl⟩ := List.cons.inj hs
            exact ⟨run, rfl, hw, getLast?_cons_or c run last⟩
      · rw [if_neg hc]
        refine iff_of_false (by simp) ?_
        rintro ⟨run, hs, hrun, -⟩
        cases hrun with
        | cons hp hw =>
          obtain ⟨rfl, -⟩ := List.cons.inj hs
          exact hc hp

theorem searchFrom_iff : searchFrom words before s = true ↔
    ∃ u t, s = u ++ t ∧ wordHere words (u.getLast?.or before) t = true := by
  induction s generalizing before with
  | nil =>
    constructor
    · intro h
      exact ⟨[], [], rfl, h⟩
    · rintro ⟨u, t, hs, h⟩
      obtain ⟨rfl, rfl⟩ := List.append_eq_nil_iff.mp hs.symm
      exact h
  | cons c s ih =>
    rw [searchFrom, Bool.or_eq_true, ih]
    constructor
    · rintro (h | ⟨u, t, rfl, h⟩)
      · exact ⟨[], c :: s, rfl, h⟩
      · exact ⟨c :: u, t, rfl, getLast?_cons_or c u before ▸ h⟩
    · rintro ⟨u, t, hs, h⟩
      cases u with
      | nil =>
        left
        rw [List.nil_append] at hs
        rw [hs]
        exact h
      | cons d u =>
        obtain ⟨rfl, rfl⟩ := List.cons.inj hs
        rw [getLast?_cons_or] at h
        exact .inr ⟨u, t, rfl, h⟩

theorem boundary_of_isWord {c : Char} (hc : isWord c = true) :
    boundary last (some c) = true ↔ ∀ d ∈ last, isWord d = false := by
  cases last with
  | none => exact iff_of_true (by rw [boundary, Option.any_none, Option.any_some, hc]; rfl) (fun d hd ↦ nomatch hd)
  | some d =>
    rw [boundary, Option.any_some, Option.any_some, hc, bne_iff_ne, ne_eq, Bool.not_eq_true]
    exact ⟨fun h e he ↦ Option.some.inj he ▸ h, fun h ↦ h d rfl⟩

theorem boundary_comm (last next : Option Char) : boundary last next = boundary next last := bne_comm

theorem searchWords_iff (hne : ∀ w ∈ words, w ≠ [])
    (hword : ∀ w ∈ words, ∀ p ∈ w, ∀ c ∈ s, matchesLetter p c = true → isWord c = true) :
    searchWords words s = true ↔ ∃ u run v, s = u ++ (run ++ v) ∧ WordRun u run v ∧
      ∃ w ∈ words, List.Forall₂ (fun p c ↦ matchesLetter p c = true) w run := by
  have hrun : ∀ u run v w, s = u ++ (run ++ v) → w ∈ words → List.Forall₂ (fun p c ↦ matchesLetter p c = true) w run →
      (boundary u.getLast? (run ++ v).head? = true ∧ boundary run.getLast? v.head? = true ↔ WordRun u run v) := by
    intro u run v w hs hw hmatch
    have hall : ∀ c ∈ run, isWord c = true := by
      intro c hc
      obtain ⟨p, hp, hpc⟩ := exists_mem_of_forall₂ hmatch.flip hc
      exact hword w hw p hp c (hs ▸ List.mem_append_right u (List.mem_append_left v hc)) hpc
    have hnil : run ≠ [] := fun hn ↦ hne w hw (List.forall₂_nil_right_iff.mp (hn ▸ hmatch))
    obtain ⟨c, rest, rfl⟩ := List.exists_cons_of_ne_nil hnil
    obtain ⟨d, hd⟩ := Option.ne_none_iff_exists'.mp (mt List.getLast?_eq_none_iff.mp hnil)
    have hdw : isWord d = true := hall d (List.mem_of_getLast? hd)
    rw [List.cons_append, List.head?_cons, boundary_of_isWord (hall c List.mem_cons_self), hd, boundary_comm,
      boundary_of_isWord hdw]
    exact ⟨fun h ↦ ⟨hnil, hall, h.1, h.2⟩, fun h ↦ ⟨h.before, h.after⟩⟩
  rw [searchWords, searchFrom_iff]
  constructor
  · rintro ⟨u, t, rfl, h⟩
    rw [Option.or_none, wordHere, Bool.and_eq_true, List.any_eq_true] at h
    obtain ⟨hbefore, w, hw, hmatch⟩ := h
    rw [Option.any_eq_true] at hmatch
    obtain ⟨m, hm, hafter⟩ := hmatch
    obtain ⟨l, r⟩ := m
    obtain ⟨run, rfl, hf, rfl⟩ := matchWord_eq_some.mp hm
    rw [Option.or_none] at hafter
    exact ⟨u, run, r, rfl, (hrun u run r w rfl hw hf).mp ⟨hbefore, hafter⟩, w, hw, hf⟩
  · rintro ⟨u, run, v, hs, hwr, w, hw, hf⟩
    obtain ⟨hbefore, hafter⟩ := (hrun u run v w hs hw hf).mpr hwr
    refine ⟨u, run ++ v, hs, ?_⟩
    rw [Option.or_none, wordHere, Bool.and_eq_true, List.any_eq_true]
    have hm : matchWord none w (run ++ v) = some (run.getLast?.or none, v) :=
      matchWord_eq_some.mpr ⟨run, rfl, hf, rfl⟩
    refine ⟨hbefore, w, hw, ?_⟩
    rw [hm, Option.any_some, Option.or_none]
    exact hafter

end Search

end McpSqlServer.Library.Text

import McpSqlServer.Library.Python.IntText
import McpSqlServer.Library.Text.Strip
import McpSqlServer.Tools.Dashboards

namespace McpSqlServer

open Library Library.Text Library.Python

def isIdChar (c : Char) : Bool := c.isAlphanum || c = '_' || c = '-'

/-- What the id of a page is to be: up to 255 letters, digits, hyphens and underscores. -/
structure RequestIdGrammar (s : Str) : Prop where
  ne_nil : s ≠ []
  length_le : s.length ≤ 255
  letters : ∀ c ∈ s, isIdChar c = true

def badRequestId : Exc := httpException "400".toList "Invalid request_id format".toList

/-- `not request_id or not re.match(…)`, with which both routes of a page begin. -/
def requestIdGuard (requestId : Str) : Except Exc Unit :=
  if requestId = [] ∨ requestIdMatches requestId = false then .error badRequestId else .ok ()

section Routes

variable {β : Type} [UnicodeData] (S : Site β)

def dashboardPage (requestId : Str) : ToolM β Str := do
  Act.ofExcept (requestIdGuard requestId)
  let entry ← getValidEntry S requestId
  Act.ofExcept (match entry with
    | none => .error (httpException "404".toList "dashboard_page_not_found_or_expired".toList)
    | some page => .ok page.html)

def refreshDashboardPage (requestId : Str) : ToolM β Str := do
  Act.ofExcept (requestIdGuard requestId)
  refreshDashboardHtml S requestId

end Routes

/-- The check of the page store and the one of the routes both accept a text exactly if it
is in the grammar. -/
structure ExactRequestId [UnicodeData] (s : Str) : Prop where
  store : validateRequestId s = .ok () ↔ RequestIdGrammar s
  routes : requestIdGuard s = .ok () ↔ RequestIdGrammar s

section Anchors

variable {s : Str}

theorem newline_notMem (h : RequestIdGrammar s) : '\n' ∉ s := by
  intro hmem
  exact absurd (h.letters '\n' hmem) (by decide)

theorem requestIdGrammar_iff :
    RequestIdGrammar s ↔ (!s.isEmpty && decide (s.length ≤ 255) && s.all isIdChar) = true := by
  rw [Bool.and_eq_true, Bool.and_eq_true, List.all_eq_true, decide_eq_true_iff, Bool.not_eq_true',
    List.isEmpty_eq_false_iff]
  constructor
  · exact fun h ↦ ⟨⟨h.ne_nil, h.length_le⟩, h.letters⟩
  · exact fun h ↦ ⟨h.1.1, h.1.2, h.2⟩

theorem requestIdMatches_iff :
    requestIdMatches s = true ↔ ∃ w, RequestIdGrammar w ∧ (s = w ∨ s = w ++ ['\n']) := by
  rw [requestIdMatches]
  split
  · rename_i hlast
    obtain ⟨u, rfl⟩ := List.getLast?_eq_some_iff.mp hlast
    rw [List.dropLast_concat]
    constructor
    · exact fun h ↦ ⟨u, requestIdGrammar_iff.mpr h, .inr rfl⟩
    · rintro ⟨w, hw, h | h⟩
      · exact absurd (h ▸ List.mem_append_right u (List.mem_singleton_self _)) (newline_notMem hw)
      · rw [List.append_cancel_right h]
        exact requestIdGrammar_iff.mp hw
  · rename_i hlast
    constructor
    · exact fun h ↦ ⟨s, requestIdGrammar_iff.mpr h, .inl rfl⟩
    · rintro ⟨w, hw, rfl | rfl⟩
      · exact requestIdGrammar_iff.mp hw
      · exact absurd List.getLast?_concat hlast

end Anchors

theorem requestIdGuard_iff (s : Str) : requestIdGuard s = .ok () ↔ requestIdMatches s = true := by
  rw [requestIdGuard]
  split
  · rename_i h
    refine iff_of_false (fun hok ↦ by cases hok) (fun hm ↦ ?_)
    rcases h with rfl | hf
    · cases hm
    · rw [hm] at hf
      cases hf
  · rename_i h
    refine iff_of_true rfl ?_
    rw [← Bool.not_eq_false]
    exact fun hf ↦ h (.inr hf)

section UnicodeData

variable [UnicodeData] {s : Str}

section Refused

variable {β : Type} (S : Site β)

omit [UnicodeData] in
theorem requestIdGuard_of_not_matches (h : requestIdMatches s = false) (w : World β) :
    (Act.ofExcept (requestIdGuard s) : ToolM β Unit) w = (.error badRequestId, w) := by
  rw [Act.ofExcept, requestIdGuard, if_pos (.inr h)]

theorem dashboardPage_of_not_matches (h : requestIdMatches s = false) (w : World β) :
    dashboardPage S s w = (.error badRequestId, w) :=
  Act.bind_of_error (requestIdGuard_of_not_matches h w) _

theorem refreshDashboardPage_of_not_matches (h : requestIdMatches s = false) (w : World β) :
    refreshDashboardPage S s w = (.error badRequestId, w) :=
  Act.bind_of_error (requestIdGuard_of_not_matches h w) _

end Refused

theorem isSpace_of_isIdChar {c : Char} (h : isIdChar c = true) : isSpace c = false := by
  rw [isIdChar, Bool.or_eq_true, Bool.or_eq_true, Char.isAlphanum, Bool.or_eq_true, decide_eq_true_iff,
    decide_eq_true_iff] at h
  rcases h with ((h | h) | rfl) | rfl
  · exact isSpace_of_isAlpha h
  · exact isSpace_of_isDigit h
  · rfl
  · rfl

theorem strip_ne_nil_of_matches (h : requestIdMatches s = true) : strip s ≠ [] := by
  obtain ⟨w, hw, hs⟩ := requestIdMatches_iff.mp h
  obtain ⟨c, v, rfl⟩ := List.exists_cons_of_ne_nil hw.ne_nil
  have hc : isSpace c = false := isSpace_of_isIdChar (hw.letters c List.mem_cons_self)
  have hstrip : ∀ t : Str, strip (c :: t) ≠ [] := by
    intro t
    have hl : lstrip (c :: t) = [] ++ c :: t := lstrip_cons_of_not_isSpace hc t
    rw [strip, hl, rstrip_append_cons hc]
    exact List.cons_ne_nil c _
  rcases hs with rfl | rfl
  · exact hstrip v
  · exact hstrip (v ++ ['\n'])

theorem validateRequestId_iff (s : Str) : validateRequestId s = .ok () ↔ requestIdMatches s = true := by
  rw [validateRequestId]
  split
  · rename_i hempty
    exact iff_of_false (fun hok ↦ by cases hok) (fun hm ↦ strip_ne_nil_of_matches hm hempty)
  · split
    · rename_i hm
      exact iff_of_true rfl hm
    · rename_i hm
      exact iff_of_false (fun hok ↦ by cases hok) hm

/-- The checks are exact but for an id with a newline at its end, which both let pass. -/
theorem exactRequestId_iff (s : Str) : ExactRequestId s ↔ ¬ ∃ w, RequestIdGrammar w ∧ s = w ++ ['\n'] := by
  constructor
  · intro h ⟨w, hw, hs⟩
    have hs' : RequestIdGrammar s :=
      h.store.mp ((validateRequestId_iff s).mpr (requestIdMatches_iff.mpr ⟨w, hw, .inr hs⟩))
    rw [hs] at hs'
    exact newline_notMem hs' (List.mem_append_right w (List.mem_singleton_self _))
  · intro h
    have hm : requestIdMatches s = true ↔ RequestIdGrammar s := by
      rw [requestIdMatches_iff]
      constructor
      · rintro ⟨w, hw, rfl | hs⟩
        · exact hw
        · exact absurd ⟨w, hw, hs⟩ h
      · exact fun hs ↦ ⟨s, hs, .inl rfl⟩
    exact ⟨(validateRequestId_iff s).trans hm, (requestIdGuard_iff s).trans hm⟩

end UnicodeData

theorem requestId_newline : let _ := asciiData
    validateRequestId "abc\n".toList = .ok () ∧ requestIdGuard "abc\n".toList = .ok () ∧
      ¬ RequestIdGrammar "abc\n".toList ∧ ¬ ExactRequestId "abc\n".toList := by
  intro U
  have hstore : validateRequestId "abc\n".toList = .ok () := (validateRequestId_iff _).mpr (by decide)
  have hguard : requestIdGuard "abc\n".toList = .ok () := (requestIdGuard_iff _).mpr (by decide)
  have hgrammar : ¬ RequestIdGrammar "abc\n".toList := fun h ↦ newline_notMem h (by decide)
  exact ⟨hstore, hguard, hgrammar, fun h ↦ hgrammar (h.store.mp hstore)⟩

end McpSqlServer

import McpSqlServer.Library.Text.Strip

namespace McpSqlServer

open Library.Text

def placeholders (n : ℕ) : Str := ", ".toList.intercalate (List.replicate n ['?'])

theorem placeholders_succ (n : ℕ) : ∃ s, placeholders (n + 1) = s ++ ['?'] := by
  induction n with
  | zero => exact ⟨[], rfl⟩
  | succ n ih =>
    obtain ⟨s, hs⟩ := ih
    refine ⟨"?, ".toList ++ s, ?_⟩
    rw [List.append_assoc, ← hs]
    rfl

variable [UnicodeData]

def execStatement (procName : Str) (params : ℕ) : Str :=
  strip ("EXEC ".toList ++ procName ++ [' '] ++ placeholders params)

theorem blank_space : Blank [' '] := fun c hc ↦ by
  rw [List.mem_singleton.mp hc]
  rfl

theorem execStatement_zero (procName : Str) : execStatement procName 0 = "EXEC".toList ++ rstrip (' ' :: procName) := by
  have hE : isSpace 'C' = false := rfl
  rw [execStatement, strip]
  have hl : lstrip ("EXEC ".toList ++ procName ++ [' '] ++ placeholders 0) =
      "EXE".toList ++ 'C' :: (' ' :: procName ++ [' ']) := by
    rw [show placeholders 0 = [] from rfl, List.append_nil]
    exact lstrip_cons_of_not_isSpace rfl _
  rw [hl, rstrip_append_cons hE, rstrip_append_of_blank blank_space]
  rfl

theorem execStatement_succ (procName : Str) (n : ℕ) :
    execStatement procName (n + 1) = "EXEC ".toList ++ procName ++ [' '] ++ placeholders (n + 1) := by
  obtain ⟨s, hs⟩ := placeholders_succ n
  have hl : lstrip ("EXEC ".toList ++ procName ++ [' '] ++ placeholders (n + 1)) =
      "EXEC ".toList ++ procName ++ [' '] ++ placeholders (n + 1) := lstrip_cons_of_not_isSpace rfl _
  rw [execStatement, strip, hl, hs, ← List.append_assoc]
  exact rstrip_concat rfl _

theorem strip_eq_of_execStatement_eq {p q : Str} {n : ℕ} (h : execStatement p n = execStatement q n) :
    strip p = strip q := by
  cases n with
  | zero =>
    rw [execStatement_zero, execStatement_zero] at h
    have hr : rstrip (' ' :: p) = rstrip (' ' :: q) := List.append_cancel_left h
    have hs : ∀ t : Str, strip t = lstrip (rstrip (' ' :: t)) := fun t ↦
      (congrArg rstrip (lstrip_append_of_blank blank_space t).symm).trans (strip_eq_lstrip_rstrip (' ' :: t))
    rw [hs, hs, hr]
  | succ n =>
    rw [execStatement_succ, execStatement_succ] at h
    have hp : p = q := by
      simpa only [List.append_assoc, List.append_cancel_left_eq, List.append_cancel_right_eq] using h
    rw [hp]

end McpSqlServer

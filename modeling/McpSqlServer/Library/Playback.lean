import Mathlib.Data.List.Basic

namespace McpSqlServer.Library

variable {ι ρ : Type}

/-- What an oracle that sees the history is asked in turn, and what it answers; some entries of the history ask
nothing. -/
abbrev Script (ι ρ : Type) := List (ι × Option ρ)

def Script.events (script : Script ι ρ) : List ι := script.map Prod.fst

@[simp] theorem Script.events_append (script script' : Script ι ρ) :
    Script.events (script ++ script') = script.events ++ Script.events script' := List.map_append

/-- Behind the history `log` the oracle gives the answers of the script. -/
def Plays (answer : List ι → ρ) : List ι → Script ι ρ → Prop
  | _, [] => True
  | log, (e, r) :: script => (∀ a ∈ r, answer (log ++ [e]) = a) ∧ Plays answer (log ++ [e]) script

variable {answer answer' : List ι → ρ} {log : List ι} {script script' : Script ι ρ}

theorem plays_append : Plays answer log (script ++ script') ↔
    Plays answer log script ∧ Plays answer (log ++ script.events) script' := by
  induction script generalizing log with
  | nil => simp [Plays, Script.events]
  | cons entry script ih =>
    obtain ⟨e, r⟩ := entry
    have hlog : log ++ Script.events ((e, r) :: script) = log ++ [e] ++ Script.events script := by simp [Script.events]
    simp only [List.cons_append, Plays, ih, and_assoc, hlog]

theorem Plays.congr (h : Plays answer log script) (ha : ∀ l, log.length < l.length → answer' l = answer l) :
    Plays answer' log script := by
  induction script generalizing log with
  | nil => trivial
  | cons entry script ih =>
    obtain ⟨e, r⟩ := entry
    refine ⟨fun a hr ↦ ?_, ih h.2 (fun l hl ↦ ha l ?_)⟩
    · rw [ha _ (by simp)]
      exact h.1 a hr
    · rw [List.length_append, List.length_singleton] at hl
      omega

/-- Every script is played by an oracle that agrees with a given one on what came before. -/
theorem exists_plays (answer : List ι → ρ) (log : List ι) (script : Script ι ρ) :
    ∃ answer', Plays answer' log script ∧ ∀ l, l.length ≤ log.length → answer' l = answer l := by
  classical
  induction script generalizing log with
  | nil => exact ⟨answer, trivial, fun _ _ ↦ rfl⟩
  | cons entry script ih =>
    obtain ⟨e, r⟩ := entry
    obtain ⟨next, hplays, hnext⟩ := ih (log ++ [e])
    have hlength : (log ++ [e]).length = log.length + 1 := by simp
    refine ⟨fun l ↦ if l = log ++ [e] then r.getD (next l) else next l, ⟨?_, ?_⟩, ?_⟩
    · intro a hr
      rw [Option.mem_def.mp hr]
      simp
    · refine hplays.congr (fun l hl ↦ if_neg ?_)
      rintro rfl
      exact Nat.lt_irrefl _ hl
    · intro l hl
      have hne : l ≠ log ++ [e] := by
        rintro rfl
        omega
      dsimp only
      rw [if_neg hne]
      exact hnext l (by omega)

end McpSqlServer.Library

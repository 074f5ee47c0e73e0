import McpSqlServer.WriteGuard.ObjectNames
import McpSqlServer.Library.Python.IntText
import McpSqlServer.Library.Sql.Tokens

namespace McpSqlServer

open Library.Text Library.Python Library.Sql

def PlainIdentifier (w : Str) : Prop := w ≠ [] ∧ ∀ c ∈ w, c.isAlphanum = true ∨ c ∈ "_@#$".toList

instance (w : Str) : Decidable (PlainIdentifier w) := inferInstanceAs (Decidable (w ≠ [] ∧ ∀ c ∈ w, _ ∨ _))

section

variable {c : Char} {w : Str}

theorem PlainIdentifier.plain (h : PlainIdentifier w) : Plain w := by
  intro c hc
  have hne : ∀ d : Char, d.isAlphanum = false → d ∉ "_@#$".toList → c ≠ d := by
    intro d hd hd' he
    rcases h.2 c hc with ha | ha
    · rw [he, hd] at ha
      cases ha
    · exact hd' (he ▸ ha)
  exact ⟨hne '.' (by decide) (by decide), hne '[' (by decide) (by decide), hne ']' (by decide) (by decide),
    hne 'Σ' (by decide) (by decide)⟩

end

section UnicodeData

variable [UnicodeData] {policy : RuntimePolicy} {toolName procName : Str} {m n : ObjectName}

end UnicodeData

end McpSqlServer

import McpSqlServer.Library.Text.Str
import Mathlib.Data.List.Forall2

namespace McpSqlServer.Library.Text

def escapeChar (c : Char) : Str :=
  if c = '&' then "&amp;".toList
  else if c = '<' then "&lt;".toList
  else if c = '>' then "&gt;".toList
  else if c = '"' then "&quot;".toList
  else if c = '\'' then "&#x27;".toList
  else [c]

def escapeHtml (s : Str) : Str := s.flatMap escapeChar

def isMarkup (c : Char) : Bool := c = '<' || c = '>' || c = '"' || c = '\''

def markup (s : Str) : Str := s.filter isMarkup

variable {s t : Str} {α β : Type}

@[simp] theorem markup_nil : markup [] = [] := rfl

@[simp] theorem markup_append (s t : Str) : markup (s ++ t) = markup s ++ markup t := List.filter_append s t

theorem markup_eq_nil_iff : markup s = [] ↔ ∀ c ∈ s, isMarkup c = false := by
  rw [markup, List.filter_eq_nil_iff]
  simp

theorem markup_escapeChar (c : Char) : markup (escapeChar c) = [] := by
  unfold escapeChar
  split
  · decide
  split
  · decide
  split
  · decide
  split
  · decide
  split
  · decide
  · rename_i hlt hgt hquot hapos
    simp [markup, isMarkup, hlt, hgt, hquot, hapos]

@[simp] theorem markup_escapeHtml (s : Str) : markup (escapeHtml s) = [] := by
  induction s with
  | nil => rfl
  | cons c s ih => rw [escapeHtml, List.flatMap_cons, markup_append, markup_escapeChar, List.nil_append]; exact ih

/-- Texts with the same markup, whatever stands between it. -/
def SameMarkup (s t : Str) : Prop := markup s = markup t

namespace SameMarkup

variable {s' t' : Str} {R : α → β → Prop} {f : α → Str} {g : β → Str} {l : List α} {m : List β}

theorem refl (s : Str) : SameMarkup s s := rfl

theorem of_nil (hs : markup s = []) (ht : markup t = []) : SameMarkup s t := hs.trans ht.symm

theorem append (h : SameMarkup s t) (h' : SameMarkup s' t') : SameMarkup (s ++ s') (t ++ t') := by
  unfold SameMarkup at h h' ⊢
  rw [markup_append, markup_append, h, h']

theorem text (h : SameMarkup s t) (w : Str) : SameMarkup (s ++ w) (t ++ w) := h.append (refl w)

theorem flatten (h : List.Forall₂ R l m) (hfg : ∀ a b, R a b → SameMarkup (f a) (g b)) :
    SameMarkup (l.map f).flatten (m.map g).flatten := by
  induction h with
  | nil => rfl
  | cons hab _ ih => exact (hfg _ _ hab).append ih

end SameMarkup

end McpSqlServer.Library.Text

import McpSqlServer.Library.Text.Split

namespace McpSqlServer.Library.Sql

open Text

variable [UnicodeData]

def identifierStart (c : Char) : Bool := isLetter c || c = '_' || c = '@' || c = '#'

def RegularIdentifier (w : Str) : Prop :=
  ∃ c s, w = c :: s ∧ identifierStart c ∧ ∀ d ∈ s, identifierStart d || isDecimal d || d = '$'

/-- One identifier of a multipart name, written plainly or in brackets. -/
structure NamePart where
  text : Str
  quoted : Bool
  ne_nil : text ≠ []
  regular : quoted = false → RegularIdentifier text

def NamePart.render (p : NamePart) : Str :=
  if p.quoted then '[' :: p.text.flatMap (fun c ↦ if c = ']' then [']', ']'] else [c]) ++ [']'] else p.text

/-- A name of one to four parts; a part can be missing only if all parts before it are. -/
structure ObjectName where
  server : Option NamePart := none
  database : Option NamePart := none
  schema : Option NamePart := none
  name : NamePart
  database_isSome : server.isSome → database.isSome := by simp
  schema_isSome : database.isSome → schema.isSome := by simp

namespace ObjectName

def qualifierParts (n : ObjectName) : List NamePart := n.server.toList ++ n.database.toList

def objectParts (n : ObjectName) : List NamePart := n.schema.toList ++ [n.name]

def parts (n : ObjectName) : List NamePart := n.qualifierParts ++ n.objectParts

def render (n : ObjectName) : Str := ['.'].intercalate (n.parts.map NamePart.render)

/-- The quadruple that a name stands for, compared without case; a missing server or
database is the connection's. -/
@[ext] structure Target where
  server : Option Str
  database : Option Str
  schema : Str
  name : Str
  deriving DecidableEq

def target (defaultSchema : Str) (n : ObjectName) : Target where
  server := n.server.map (fun p ↦ lower p.text)
  database := n.database.map (fun p ↦ lower p.text)
  schema := (n.schema.map (fun p ↦ lower p.text)).getD defaultSchema
  name := lower n.name.text

end ObjectName

def Plain (s : Str) : Prop := ∀ c ∈ s, c ≠ '.' ∧ c ≠ '[' ∧ c ≠ ']' ∧ c ≠ 'Σ'

instance (s : Str) : Decidable (Plain s) := inferInstanceAs (Decidable (∀ c ∈ s, _))

section Plain

variable {s : Str} (h : Plain s)

include h

end Plain

theorem lower_ne_nil {s : Str} (h : s ≠ []) : lower s ≠ [] := fun he ↦ h ((lower_image s).eq_nil_iff.mp he)

end McpSqlServer.Library.Sql

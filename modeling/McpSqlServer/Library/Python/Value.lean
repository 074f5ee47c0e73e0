import McpSqlServer.Library.Text.Str
import Mathlib.Data.Int.Notation

namespace McpSqlServer.Library.Python

open Text

/-- A Python object as tools pass it around; `object` is any other one, by its `str()`. -/
inductive Value
  | none
  | bool (b : Bool)
  | int (n : ℤ)
  | str (s : Str)
  | list (l : List Value)
  | dict (d : List (Str × Value))
  | object (text : Str)

/-- Whether the object with this `str()` is false: a zero among the floats and decimals, or no bytes. -/
def falsyText (text : Str) : Bool :=
  let mantissa := text.takeWhile (fun c ↦ c ≠ 'E')
  (mantissa.contains '0' && mantissa.all (fun c ↦ c = '-' || c = '0' || c = '.')) || text = "b''".toList

/-- `bool(v)`. -/
def Value.truthy : Value → Bool
  | .none => false
  | .bool b => b
  | .int n => n ≠ 0
  | .str s => !s.isEmpty
  | .list l => !l.isEmpty
  | .dict d => !d.isEmpty
  | .object text => !falsyText text

/-- A dictionary with string keys, in insertion order. -/
abbrev Dict (α : Type) := List (Str × α)

variable {α : Type}

def setItem (key : Str) (a : α) : Dict α → Dict α
  | [] => [(key, a)]
  | (k, b) :: d => if k = key then (k, a) :: d else (k, b) :: setItem key a d

theorem lookup_cons_eq (k k' : Str) (b : α) (d : Dict α) :
    ((k', b) :: d).lookup k = if k = k' then some b else d.lookup k := by
  by_cases h : k = k'
  · rw [if_pos h, List.lookup_cons, beq_iff_eq.mpr h]
  · rw [if_neg h, List.lookup_cons, beq_eq_false_iff_ne.mpr h]

theorem lookup_setItem (key k : Str) (a : α) (d : Dict α) :
    (setItem key a d).lookup k = if k = key then some a else d.lookup k := by
  induction d with
  | nil => exact lookup_cons_eq k key a []
  | cons entry d ih =>
    obtain ⟨k', b⟩ := entry
    by_cases hk : k' = key
    · rw [setItem, if_pos hk, lookup_cons_eq, lookup_cons_eq, hk]
      split
      · rfl
      · rfl
    · rw [setItem, if_neg hk, lookup_cons_eq, lookup_cons_eq, ih]
      by_cases hkk : k = k'
      · rw [if_pos hkk, if_neg (hkk ▸ hk), if_pos hkk]
      · rw [if_neg hkk, if_neg hkk]

def setDefault (key : Str) (a : α) (d : Dict α) : Dict α :=
  if (d.lookup key).isSome then d else d ++ [(key, a)]

abbrev Row := Dict Value

def Row.get (row : Row) (key : Str) : Value := (row.lookup key).getD .none

def ofRows (rows : List Row) : Value := .list (rows.map .dict)

def intText (n : ℤ) : Str := (toString n).toList

/-- `str(v)`; for lists and dictionaries it is given. It is not followed into the integers of more than 4300 digits,
for which `str` raises. -/
def pyStr (containerText : Value → Str) : Value → Str
  | .none => "None".toList
  | .bool true => "True".toList
  | .bool false => "False".toList
  | .int n => intText n
  | .str s => s
  | .object text => text
  | v => containerText v

end McpSqlServer.Library.Python

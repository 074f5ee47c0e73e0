import McpSqlServer.Library.Python.Exc
import McpSqlServer.Library.Python.Value
import McpSqlServer.Library.Text.Strip

namespace McpSqlServer.ConnectionManager

open Library.Text Library.Python

/-- `str.rsplit("_", 1)` of a text with an underscore. -/
def cutLastUnderscore (name : Str) : Str × Str :=
  let suffix := (name.reverse.takeWhile (fun c ↦ c ≠ '_')).reverse
  (name.take (name.length - suffix.length - 1), suffix)

/-- Integers of more digits are not converted to text or from text. -/
def maxIntDigits : ℕ := 4300

def tooManyDigits : Exc :=
  valueError "Exceeds the limit (4300 digits) for integer string conversion".toList

variable [UnicodeData]

def successorText (suffix : Str) : Except Exc Str :=
  if suffix.all isDecimal then
    match intOfDigits suffix with
    | some n => if (intText (n + 1)).length ≤ maxIntDigits then .ok (intText (n + 1)) else .error tooManyDigits
    | none => .error tooManyDigits
  else .error (valueError ("invalid literal for int() with base 10: '".toList ++ suffix ++ ['\'']))

/-- One round of the `while` loop of `_normalize_column_names`. -/
def nextName (name : Str) : Except Exc Str :=
  let (base, suffix) := cutLastUnderscore name
  if '_' ∈ name ∧ suffix ≠ [] ∧ suffix.all isDigit then
    (successorText suffix).bind (fun text ↦ .ok (base ++ '_' :: text))
  else .ok (name ++ "_1".toList)

def unusedName (finalNames : List Str) : ℕ → Str → Except Exc Str
  | 0, name => .ok name
  | rounds + 1, name =>
    if name ∈ finalNames then (nextName name).bind (unusedName finalNames rounds) else .ok name

def normalizeFrom (idx : ℕ) (seen : Dict ℕ) (finalNames : List Str) : List (Option Str) → Except Exc (List Str)
  | [] => .ok finalNames
  | value :: rawColumns =>
    let stripped := (value.map strip).getD []
    let name := if stripped.isEmpty then "col_".toList ++ intText idx else stripped
    let count := (seen.lookup name).getD 0 + 1
    let first := if 1 < count then name ++ '_' :: intText count else name
    (unusedName finalNames (finalNames.length + 1) first).bind (fun fresh ↦
      normalizeFrom (idx + 1) (setItem name count seen) (finalNames ++ [fresh]) rawColumns)

/-- `_normalize_column_names`. The names tried for one column are all different, so it takes
no more rounds than there are names before it. -/
def normalizeColumnNames (rawColumns : List (Option Str)) : Except Exc (List Str) :=
  normalizeFrom 1 [] [] rawColumns

theorem successorText_onlyExceptions (suffix : Str) : OnlyExceptions (successorText suffix) := by
  unfold successorText
  split
  · split
    · split
      · exact .ok _
      · exact .error rfl
    · exact .error rfl
  · exact .error rfl

theorem nextName_onlyExceptions (name : Str) : OnlyExceptions (nextName name) := by
  unfold nextName
  simp only
  split
  · exact (successorText_onlyExceptions _).bind (fun _ ↦ .ok _)
  · exact .ok _

theorem unusedName_onlyExceptions (finalNames : List Str) (rounds : ℕ) (name : Str) :
    OnlyExceptions (unusedName finalNames rounds name) := by
  induction rounds generalizing name with
  | zero => exact .ok name
  | succ rounds ih =>
    unfold unusedName
    split
    · exact (nextName_onlyExceptions name).bind ih
    · exact .ok name

theorem normalizeFrom_onlyExceptions (rawColumns : List (Option Str)) (idx : ℕ) (seen : Dict ℕ) (finalNames : List Str) :
    OnlyExceptions (normalizeFrom idx seen finalNames rawColumns) := by
  induction rawColumns generalizing idx seen finalNames with
  | nil => exact .ok finalNames
  | cons value rawColumns ih => exact (unusedName_onlyExceptions _ _ _).bind (fun fresh ↦ ih _ _ _)

theorem normalizeColumnNames_onlyExceptions (rawColumns : List (Option Str)) :
    OnlyExceptions (normalizeColumnNames rawColumns) := normalizeFrom_onlyExceptions rawColumns 1 [] []

example : let _ := asciiData
    normalizeColumnNames [some "x".toList, some "x_2".toList, none, some " x".toList] =
      .ok ["x".toList, "x_2".toList, "col_3".toList, "x_3".toList] := by decide

end McpSqlServer.ConnectionManager

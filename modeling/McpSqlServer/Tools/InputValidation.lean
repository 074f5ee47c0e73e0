import McpSqlServer.Library.Python.Exc
import McpSqlServer.Library.Python.Value
import McpSqlServer.Library.Sql.Comments

namespace McpSqlServer

open Library.Text Library.Python Library.Sql

variable [UnicodeData]

/-- The check shared by `validate_database_name` and `validate_identifier`. -/
def validateName (blank invalid : Str) (name : Str) : Except Exc Str :=
  let value := strip name
  if value = [] then .error (valueError blank)
  else if ';' ∈ value ∨ hasPair '-' '-' value then .error (valueError invalid)
  else .ok value

def validateDatabaseName (databaseName : Str) : Except Exc Str :=
  validateName "INVALID_INPUT: database_name is required".toList
    "INVALID_INPUT: database_name contains invalid characters".toList databaseName

def validateIdentifier (name fieldName : Str) : Except Exc Str :=
  validateName ("INVALID_INPUT: ".toList ++ fieldName ++ " cannot be blank".toList)
    ("INVALID_INPUT: ".toList ++ fieldName ++ " contains invalid characters".toList) name

theorem validateName_eq_ok {blank invalid name v : Str} : validateName blank invalid name = .ok v ↔
    v = strip name ∧ v ≠ [] ∧ ';' ∉ v ∧ hasPair '-' '-' v = false := by
  unfold validateName
  dsimp only
  split
  · rename_i hs
    refine iff_of_false (fun h ↦ nomatch h) (fun h ↦ h.2.1 (h.1.trans hs))
  · rename_i hs
    split
    · rename_i hi
      refine iff_of_false (fun h ↦ nomatch h) (fun ⟨hv, _, hsemi, hpair⟩ ↦ ?_)
      rw [← hv] at hi
      rcases hi with hi | hi
      · exact hsemi hi
      · rw [hpair] at hi
        cases hi
    · rename_i hi
      rw [not_or, Bool.not_eq_true] at hi
      constructor
      · intro h
        cases h
        exact ⟨rfl, hs, hi⟩
      · intro h
        rw [h.1]

omit [UnicodeData] in
def validatePositiveInt (value : ℤ) (fieldName : Str) (minimum maximum : ℤ) : Except Exc ℤ :=
  if value < minimum ∨ maximum < value then
    .error (valueError ("INVALID_INPUT: ".toList ++ fieldName ++ " must be between ".toList ++ intText minimum ++
      " and ".toList ++ intText maximum))
  else .ok value

omit [UnicodeData] in
theorem validatePositiveInt_ok {value n : ℤ} {fieldName : Str} {minimum maximum : ℤ}
    (h : validatePositiveInt value fieldName minimum maximum = .ok n) : minimum ≤ n ∧ n ≤ maximum := by
  unfold validatePositiveInt at h
  split at h
  · cases h
  · cases h
    omega

def validateViewMode (value : Str) : Except Exc Str :=
  let normalized := upper (strip value)
  if normalized ∈ ["FULL".toList, "COMPACT".toList] then .ok normalized
  else .error (valueError "INVALID_INPUT: view_mode must be FULL or COMPACT".toList)

/-- The optional `database_name` of a tool: an empty one leaves the pooled connection. -/
def optionalDatabase (databaseName : Str) : Except Exc (Option Str) :=
  if databaseName = [] then .ok none else (validateDatabaseName databaseName).map some

structure SqlError where
  code : Str
  sqlstate : Str
  sqlMessage : Str
  sqlErrorNumber : Option ℕ

def stripParens (token : Str) : Str :=
  let blank (c : Char) : Bool := c = '(' || c = ' '
  ((token.dropWhile blank).reverse.dropWhile blank).reverse

def extractSqlError (exc : Exc) : Option SqlError :=
  let (sqlstate, message) := match exc.args with
    | first :: second :: _ => (strip first, strip second)
    | [only] => ("HY000".toList, strip only)
    | [] => ([], exc.text)
  if sqlstate = [] then none
  else
    let sqlError (number : Option ℕ) : SqlError := ⟨"SQL_ERROR_".toList ++ sqlstate, sqlstate, message, number⟩
    match ((message.splitOn ')').map stripParens).find? (fun w ↦ !w.isEmpty && w.all isDigit) with
    | none => some (sqlError none)
    -- `int(token)` raises on digits that are not decimal, and the whole helper then returns `None`.
    | some token => (intOfDigits token).map (fun n ↦ sqlError (some n))

end McpSqlServer

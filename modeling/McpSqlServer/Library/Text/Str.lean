import Mathlib.Data.List.Forall2
import Mathlib.Data.List.Basic
import Mathlib.Data.Int.Basic

namespace McpSqlServer.Library.Text

abbrev Str := List Char

instance decidableMemStr (s : Str) (l : List Str) : Decidable (s ∈ l) := inferInstanceAs (Decidable (s ∈ l))

-- there are finitely many letters, and a search through all of them would decide these as well
instance decidableForallMemStr (p : Char → Prop) [DecidablePred p] (s : Str) : Decidable (∀ c ∈ s, p c) :=
  List.decidableBAll p s

instance decidableForallMemLetter (p : Char → Prop) [DecidablePred p] (c : Option Char) : Decidable (∀ d ∈ c, p d) :=
  Option.decidableForallMem c

def isAscii (c : Char) : Bool := c.toNat < 128

/-- The tables of the Unicode character database that string methods read. They are
consulted for code points outside ASCII only; the ASCII rows are fixed below. -/
class UnicodeData where
  isSpace : Char → Bool
  isLetter : Char → Bool
  isDecimal : Char → Bool
  isDigit : Char → Bool
  decimalValue : Char → ℕ
  isWord : Char → Bool
  cased : Char → Bool
  caseIgnorable : Char → Bool
  lower : Char → Str
  upper : Char → Str
  lower_ne_nil : ∀ c, lower c ≠ []
  upper_ne_nil : ∀ c, upper c ≠ []
  isAlpha_of_mem_lower : ∀ c d, isAscii c = false → d ∈ lower c → isAscii d = true → d.isAlpha = true
  isAlpha_of_mem_upper : ∀ c d, isAscii c = false → d ∈ upper c → isAscii d = true → d.isAlpha = true

@[reducible] def asciiData : UnicodeData where
  isSpace _ := false
  isLetter _ := false
  isDecimal _ := false
  isDigit _ := false
  decimalValue _ := 0
  isWord _ := false
  cased _ := false
  caseIgnorable _ := false
  lower c := [c]
  upper c := [c]
  lower_ne_nil _ := List.cons_ne_nil _ _
  upper_ne_nil _ := List.cons_ne_nil _ _
  isAlpha_of_mem_lower c d hc hd ha := by
    rw [List.mem_singleton.mp hd, hc] at ha
    cases ha
  isAlpha_of_mem_upper c d hc hd ha := by
    rw [List.mem_singleton.mp hd, hc] at ha
    cases ha

def occursIn (w : Str) : Str → Bool
  | [] => w.isEmpty
  | c :: s => w.isPrefixOf (c :: s) || occursIn w s

section

variable [U : UnicodeData]

def isSpace (c : Char) : Bool :=
  if isAscii c then (9 ≤ c.toNat && c.toNat ≤ 13) || (28 ≤ c.toNat && c.toNat ≤ 32) else U.isSpace c

def isWord (c : Char) : Bool := if isAscii c then c.isAlphanum || c = '_' else U.isWord c

def isLetter (c : Char) : Bool := if isAscii c then c.isAlpha else U.isLetter c

def isDecimal (c : Char) : Bool := if isAscii c then c.isDigit else U.isDecimal c

def isDigit (c : Char) : Bool := if isAscii c then c.isDigit else U.isDigit c

def decimalValue (c : Char) : ℕ := if isAscii c then c.toNat - 48 else U.decimalValue c

def digitsValue (s : Str) : ℕ := s.foldl (fun n c ↦ 10 * n + decimalValue c) 0

/-- `int(s)` of a row of digits fails when one is not decimal or when there are more than 4300. -/
def intOfDigits (s : Str) : Option ℕ :=
  if s ≠ [] ∧ s.all isDecimal ∧ s.length ≤ 4300 then some (digitsValue s) else none

def cased (c : Char) : Bool := if isAscii c then c.isAlpha else U.cased c

def caseIgnorable (c : Char) : Bool :=
  if isAscii c then c.toNat = 39 || c = '.' || c = ':' || c = '^' || c.toNat = 96 else U.caseIgnorable c

def lowerChar (c : Char) : Str := if isAscii c then [c.toLower] else U.lower c

def upperChar (c : Char) : Str := if isAscii c then [c.toUpper] else U.upper c

def upper (s : Str) : Str := s.flatMap upperChar

/-- The rule for a capital sigma at the end of a word; `before` is the text before it, last
character first. -/
def finalSigma (before after : Str) : Bool :=
  (before.dropWhile caseIgnorable).head?.any cased && !(after.dropWhile caseIgnorable).head?.any cased

def lowerAfter (before : Str) : Str → Str
  | [] => []
  | c :: s =>
    (if c = 'Σ' then if finalSigma before s then ['ς'] else ['σ'] else lowerChar c) ++ lowerAfter (c :: before) s

def lower (s : Str) : Str := lowerAfter [] s

def lstrip (s : Str) : Str := s.dropWhile isSpace

def rstrip (s : Str) : Str := (s.reverse.dropWhile isSpace).reverse

def strip (s : Str) : Str := rstrip (lstrip s)

/-- `s.split(None, 1)[0]` of a text, the empty string when there is no word. -/
def firstToken (s : Str) : Str := (lstrip s).takeWhile (fun c ↦ !isSpace c)

/-- The white space that `int` allows around a number: of the separators below the blank it knows none. -/
def intSpace (c : Char) : Bool := isSpace c && !(28 ≤ c.toNat && c.toNat ≤ 31)

def intStrip (s : Str) : Str := ((s.dropWhile intSpace).reverse.dropWhile intSpace).reverse

/-- `int(s)`: white space around it, a sign, and single underscores between the digits are allowed. -/
def parseInt (s : Str) : Option ℤ :=
  let natural (s : Str) : Option ℕ :=
    if (s.splitOn '_').all (fun w ↦ !w.isEmpty) then intOfDigits (s.filter (fun c ↦ c ≠ '_')) else none
  match intStrip s with
  | '-' :: s => (natural s).map (fun n ↦ -(n : ℤ))
  | '+' :: s => (natural s).map (fun n ↦ (n : ℤ))
  | s => (natural s).map (fun n ↦ (n : ℤ))

end

end McpSqlServer.Library.Text

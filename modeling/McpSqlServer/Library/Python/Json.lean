import McpSqlServer.Library.Python.Dict
import McpSqlServer.Library.Python.IntText
import McpSqlServer.Library.Text.Split

namespace McpSqlServer.Library.Python.Json

open Text

section Strings

def hex4 (n : ℕ) : Str := [4096, 256, 16, 1].map (fun m ↦ Nat.digitChar (n / m % 16))

/-- The numbers that `\u` escapes give for a character: two surrogates outside the basic plane. -/
def codeUnits (c : Char) : List ℕ :=
  if c.toNat < 0x10000 then [c.toNat]
  else [0xD800 + (c.toNat - 0x10000) / 0x400, 0xDC00 + (c.toNat - 0x10000) % 0x400]

/-- `ESCAPE_DCT`, by code points. -/
def escapes : List (Char × ℕ) := [('\\', 92), ('"', 34), ('b', 8), ('f', 12), ('n', 10), ('r', 13), ('t', 9)]

def escapeChar (c : Char) : Str :=
  match escapes.find? (fun e ↦ e.2 = c.toNat) with
  | some e => ['\\', e.1]
  | none =>
    if 32 ≤ c.toNat ∧ c.toNat ≤ 126 then [c]
    else (codeUnits c).flatMap (fun n ↦ '\\' :: 'u' :: hex4 n)

def quote (s : Str) : Str := '"' :: (s.flatMap escapeChar ++ ['"'])

def hexValue (c : Char) : Option ℕ :=
  if c.isDigit then some (c.toNat - 48)
  else if 'a' ≤ c ∧ c ≤ 'f' then some (c.toNat - 87)
  else if 'A' ≤ c ∧ c ≤ 'F' then some (c.toNat - 55)
  else none

def unhex : Str → Option ℕ
  | [a, b, c, d] => do
    let a ← hexValue a
    let b ← hexValue b
    let c ← hexValue c
    let d ← hexValue d
    pure (a * 4096 + b * 256 + c * 16 + d)
  | _ => none

/-- The numbers that the text up to the closing quote stands for, and the text behind it. -/
def scanUnits : Str → Option (List ℕ × Str)
  | [] => none
  | c :: s =>
    if c = '"' then some ([], s)
    else if c = '\\' then
      match s with
      | [] => none
      | e :: s =>
        if e = 'u' then
          match s with
          | x₁ :: x₂ :: x₃ :: x₄ :: s =>
            (unhex [x₁, x₂, x₃, x₄]).bind (fun n ↦ (scanUnits s).map (fun p ↦ (n :: p.1, p.2)))
          | _ => none
        else (('/', 47) :: escapes).lookup e |>.bind (fun n ↦ (scanUnits s).map (fun p ↦ (n :: p.1, p.2)))
    else if c.toNat < 32 then none
    else (scanUnits s).map (fun p ↦ (c.toNat :: p.1, p.2))

/-- Joins surrogate pairs. A lone surrogate is no character of a text here. -/
def ofUnits : List ℕ → Option Str
  | [] => some []
  | [n] => if 0xD800 ≤ n ∧ n < 0xE000 then none else some [Char.ofNat n]
  | n :: m :: l =>
    if 0xD800 ≤ n ∧ n < 0xDC00 then
      if 0xDC00 ≤ m ∧ m < 0xE000 then
        (ofUnits l).map (Char.ofNat (0x10000 + (n - 0xD800) * 0x400 + (m - 0xDC00)) :: ·)
      else none
    else if 0xDC00 ≤ n ∧ n < 0xE000 then none
    else (ofUnits (m :: l)).map (Char.ofNat n :: ·)

def scanString (s : Str) : Option (Str × Str) :=
  (scanUnits s).bind (fun p ↦ (ofUnits p.1).map (fun t ↦ (t, p.2)))

variable {s r : Str} {c : Char} {n : ℕ}

theorem hexValue_digitChar {d : ℕ} (h : d < 16) : hexValue (Nat.digitChar d) = some d := by
  have hall : ∀ d < 16, hexValue (Nat.digitChar d) = some d := by decide
  exact hall d h

theorem unhex_hex4 (h : n < 0x10000) : unhex (hex4 n) = some n := by
  simp only [hex4, List.map_cons, List.map_nil, unhex]
  rw [hexValue_digitChar (Nat.mod_lt _ (by omega)), hexValue_digitChar (Nat.mod_lt _ (by omega)),
    hexValue_digitChar (Nat.mod_lt _ (by omega)), hexValue_digitChar (Nat.mod_lt _ (by omega))]
  simp only [Option.bind_eq_bind, Option.bind_some, Option.pure_def, Option.some.injEq]
  omega

theorem scanUnits_quote (s : Str) : scanUnits ('"' :: s) = some ([], s) := by
  rw [scanUnits.eq_def]
  rfl

theorem scanUnits_plain (hq : c ≠ '"') (hb : c ≠ '\\') (hc : 32 ≤ c.toNat) (s : Str) :
    scanUnits (c :: s) = (scanUnits s).map (fun p ↦ (c.toNat :: p.1, p.2)) := by
  have hn : ¬ c.toNat < 32 := by omega
  rw [scanUnits.eq_def]
  simp only [if_neg hq, if_neg hb, if_neg hn]

theorem scanUnits_escape {e : Char} (he : (e, n) ∈ escapes) (s : Str) :
    scanUnits ('\\' :: e :: s) = (scanUnits s).map (fun p ↦ (n :: p.1, p.2)) := by
  have hall : ∀ p ∈ escapes, p.1 ≠ 'u' ∧ (('/', 47) :: escapes).lookup p.1 = some p.2 := by decide
  obtain ⟨hu, hl⟩ := hall _ he
  rw [scanUnits.eq_def]
  simp [hu, hl]

theorem scanUnits_unicode (h : n < 0x10000) (s : Str) :
    scanUnits ('\\' :: 'u' :: hex4 n ++ s) = (scanUnits s).map (fun p ↦ (n :: p.1, p.2)) := by
  rw [scanUnits.eq_def]
  show (unhex (hex4 n)).bind _ = _
  rw [unhex_hex4 h]
  rfl

theorem toNat_lt (c : Char) : c.toNat < 0xD800 ∨ 0xE000 ≤ c.toNat ∧ c.toNat < 0x110000 := by
  have h := c.valid
  simp only [UInt32.isValidChar, Nat.isValidChar] at h
  unfold Char.toNat
  omega

theorem scanUnits_codeUnits (c : Char) (s : Str) :
    scanUnits ((codeUnits c).flatMap (fun n ↦ '\\' :: 'u' :: hex4 n) ++ s) =
      (scanUnits s).map (fun p ↦ (codeUnits c ++ p.1, p.2)) := by
  have hc := toNat_lt c
  unfold codeUnits
  split
  · rename_i hlt
    rw [List.flatMap_singleton, scanUnits_unicode hlt]
    rfl
  · rw [List.flatMap_cons, List.flatMap_singleton, List.append_assoc, scanUnits_unicode (by omega),
      scanUnits_unicode (by omega), Option.map_map]
    rfl

theorem scanUnits_escapeChar (c : Char) (s : Str) :
    scanUnits (escapeChar c ++ s) = (scanUnits s).map (fun p ↦ (codeUnits c ++ p.1, p.2)) := by
  have hc := toNat_lt c
  unfold escapeChar
  split
  · rename_i e he
    have hmem := List.mem_of_find?_eq_some he
    have heq : e.2 = c.toNat := by simpa using List.find?_some he
    have hcode : codeUnits c = [e.2] := by
      have hsmall : ∀ e ∈ escapes, e.2 < 0x10000 := by decide
      have hlt := hsmall e hmem
      rw [codeUnits, if_pos (by omega), heq]
    rw [hcode]
    exact scanUnits_escape hmem s
  · rename_i hnone
    split
    · rename_i hplain
      have hq : ∀ e ∈ escapes, e.2 ≠ c.toNat := by simpa using hnone
      have hcode : codeUnits c = [c.toNat] := if_pos (by omega)
      rw [hcode]
      refine scanUnits_plain ?_ ?_ hplain.1 s
      · rintro rfl
        exact hq ('"', 34) (by decide) rfl
      · rintro rfl
        exact hq ('\\', 92) (by decide) rfl
    · exact scanUnits_codeUnits c s

theorem ofUnits_codeUnits (c : Char) (l : List ℕ) : ofUnits (codeUnits c ++ l) = (ofUnits l).map (c :: ·) := by
  have hc := toNat_lt c
  unfold codeUnits
  split
  · cases l with
    | nil =>
      have hn : ¬ (0xD800 ≤ c.toNat ∧ c.toNat < 0xE000) := by omega
      simp [ofUnits, hn]
    | cons m l =>
      have h₁ : ¬ (0xD800 ≤ c.toNat ∧ c.toNat < 0xDC00) := by omega
      have h₂ : ¬ (0xDC00 ≤ c.toNat ∧ c.toNat < 0xE000) := by omega
      simp only [List.cons_append, List.nil_append, ofUnits, if_neg h₁, if_neg h₂, Char.ofNat_toNat]
  · have h₁ : 0xD800 ≤ 0xD800 + (c.toNat - 0x10000) / 0x400 ∧ 0xD800 + (c.toNat - 0x10000) / 0x400 < 0xDC00 := by omega
    have h₂ : 0xDC00 ≤ 0xDC00 + (c.toNat - 0x10000) % 0x400 ∧ 0xDC00 + (c.toNat - 0x10000) % 0x400 < 0xE000 := by omega
    have hsum : 0x10000 + (0xD800 + (c.toNat - 0x10000) / 0x400 - 0xD800) * 0x400 +
        (0xDC00 + (c.toNat - 0x10000) % 0x400 - 0xDC00) = c.toNat := by omega
    rw [List.cons_append, List.cons_append, List.nil_append, ofUnits, if_pos h₁, if_pos h₂, hsum, Char.ofNat_toNat]

theorem scanString_escape (s r : Str) : scanString (s.flatMap escapeChar ++ '"' :: r) = some (s, r) := by
  have hunits : scanUnits (s.flatMap escapeChar ++ '"' :: r) = some (s.flatMap codeUnits, r) := by
    induction s with
    | nil => exact scanUnits_quote r
    | cons c s ih =>
      rw [List.flatMap_cons, List.append_assoc, scanUnits_escapeChar, ih, List.flatMap_cons]
      rfl
  have hof : ofUnits (s.flatMap codeUnits) = some s := by
    clear hunits
    induction s with
    | nil => rfl
    | cons c s ih =>
      rw [List.flatMap_cons, ofUnits_codeUnits, ih]
      rfl
  rw [scanString, hunits, Option.bind_some, hof]
  rfl

end Strings

section Numbers

/-- What a program does with the numbers that are no integers, by their text. -/
structure Hooks where
  parseFloat : Str → Value
  parseConstant : Str → Value

def digits (s : Str) : Str × Str := (s.takeWhile Char.isDigit, s.dropWhile Char.isDigit)

def scanInteger (s : Str) : Option (Str × Str) :=
  match s with
  | [] => none
  | c :: r => if c = '0' then some ([c], r) else if c.isDigit then some (digits s) else none

def scanFraction (s : Str) : Str × Str :=
  match s with
  | '.' :: r => if (digits r).1.isEmpty then ([], s) else ('.' :: (digits r).1, (digits r).2)
  | _ => ([], s)

def scanExponent (s : Str) : Str × Str :=
  match s with
  | c :: r =>
    let sign := r.takeWhile (fun c ↦ c = '+' ∨ c = '-') |>.take 1
    let ds := digits (r.drop sign.length)
    if (c = 'e' ∨ c = 'E') ∧ !ds.1.isEmpty then (c :: (sign ++ ds.1), ds.2) else ([], s)
  | [] => ([], s)

def maxStrDigits : ℕ := 4300

def ofDigits (negative : Bool) (ds : Str) : Option Value :=
  if ds.length ≤ maxStrDigits then
    let n : ℤ := Nat.ofDigitChars 10 ds 0
    some (.int (if negative then -n else n))
  else none

def scanNumber (H : Hooks) (s : Str) : Option (Value × Str) :=
  let negative := s.head? = some '-'
  (scanInteger (if negative then s.tail else s)).bind (fun p ↦
    let f := scanFraction p.2
    let e := scanExponent f.2
    if f.1 = [] ∧ e.1 = [] then (ofDigits negative p.1).map (fun v ↦ (v, p.2))
    else some (H.parseFloat ((if negative then ['-'] else []) ++ p.1 ++ f.1 ++ e.1), e.2))

def Stops (r : Str) : Prop := ∀ c ∈ r.head?, c.isDigit = false ∧ c ≠ '.' ∧ c ≠ 'e' ∧ c ≠ 'E'

variable {H : Hooks} {r : Str}

theorem digits_append {ds : Str} (hd : ∀ c ∈ ds, c.isDigit = true) (hr : Stops r) : digits (ds ++ r) = (ds, r) := by
  have hr' : r.takeWhile Char.isDigit = [] ∧ r.dropWhile Char.isDigit = r := by
    cases r with
    | nil => exact ⟨rfl, rfl⟩
    | cons c r => simp [(hr c rfl).1]
  rw [digits, List.takeWhile_append_of_pos hd, List.dropWhile_append_of_pos hd, hr'.1, hr'.2, List.append_nil]

theorem toDigits_head (n : ℕ) (h : 0 < n) : ∃ c ds, Nat.toDigits 10 n = c :: ds ∧ c ≠ '0' := by
  induction n using Nat.strongRecOn with
  | _ n ih =>
    by_cases hn : n < 10
    · refine ⟨n.digitChar, [], Nat.toDigits_of_lt_base hn, ?_⟩
      have hall : ∀ d < 10, 0 < d → Nat.digitChar d ≠ '0' := by decide
      exact hall n hn h
    · obtain ⟨c, ds, hd, hc⟩ := ih (n / 10) (by omega) (by omega)
      refine ⟨c, ds ++ [(n % 10).digitChar], ?_, hc⟩
      rw [Nat.toDigits_of_base_le (by omega) (by omega), hd]
      rfl

theorem scanInteger_toDigits (n : ℕ) (hr : Stops r) : scanInteger (Nat.toDigits 10 n ++ r) = some (Nat.toDigits 10 n, r) := by
  have hall : ∀ c ∈ Nat.toDigits 10 n, c.isDigit = true :=
    fun c hc ↦ Nat.isDigit_of_mem_toDigits (by omega) (by omega) hc
  rcases Nat.eq_zero_or_pos n with rfl | hn
  · rfl
  · obtain ⟨c, ds, hd, hc⟩ := toDigits_head n hn
    have hdigits := digits_append hall hr
    rw [hd] at hall hdigits ⊢
    rw [List.cons_append] at hdigits ⊢
    simp only [scanInteger, if_neg hc, hall c List.mem_cons_self, if_true, hdigits]

theorem scanFraction_of_stops (hr : Stops r) : scanFraction r = ([], r) := by
  unfold scanFraction
  split
  · exact absurd rfl (hr '.' rfl).2.1
  · rfl

theorem scanExponent_of_stops (hr : Stops r) : scanExponent r = ([], r) := by
  cases r with
  | nil => rfl
  | cons c r =>
    obtain ⟨-, -, he, hE⟩ := hr c rfl
    simp [scanExponent, he, hE]

theorem scanNumber_append {s : Str} {ds : Str} (hs : s.head? ≠ some '-') (hscan : scanInteger s = some (ds, r))
    (hr : Stops r) (negative : Bool) :
    scanNumber H ((if negative then ['-'] else []) ++ s) = (ofDigits negative ds).map (fun v ↦ (v, r)) := by
  cases negative with
  | true => simp [scanNumber, hscan, scanFraction_of_stops hr, scanExponent_of_stops hr]
  | false => simp [scanNumber, hs, hscan, scanFraction_of_stops hr, scanExponent_of_stops hr]

theorem scanNumber_intText (n : ℤ) (hlen : (Nat.toDigits 10 n.natAbs).length ≤ maxStrDigits) (hr : Stops r) :
    scanNumber H (intText n ++ r) = some (.int n, r) := by
  have hhead : (Nat.toDigits 10 n.natAbs ++ r).head? ≠ some '-' := by
    rcases Nat.eq_zero_or_pos n.natAbs with h | h
    · rw [h]
      simp
    · intro hminus
      have hmem : '-' ∈ Nat.toDigits 10 n.natAbs := by
        obtain ⟨c, ds, hd, -⟩ := toDigits_head n.natAbs h
        rw [hd] at hminus ⊢
        simp only [List.cons_append, List.head?_cons, Option.some.injEq] at hminus
        simp [hminus]
      have hdigit := Nat.isDigit_of_mem_toDigits (by omega) (by omega) hmem
      exact absurd hdigit (by decide)
  rw [intText_eq, List.append_assoc, scanNumber_append hhead (scanInteger_toDigits _ hr) hr, ofDigits, if_pos hlen,
    Nat.ofDigitChars_ten_toDigits]
  by_cases hn : n < 0
  · have hval : -(n.natAbs : ℤ) = n := by omega
    simp only [hn, decide_true, if_true, hval, Option.map_some]
  · have hval : (n.natAbs : ℤ) = n := by omega
    simp only [hn, decide_false, Bool.false_eq_true, if_false, hval, Option.map_some]

end Numbers

section Values

mutual

/-- `json.dumps` with compact separators; only `str`, `int`, `bool`, `None`, `list` and `dict` are dumped. -/
def dumps : Value → Option Str
  | .none => some "null".toList
  | .bool b => some (if b then "true".toList else "false".toList)
  | .int n => if (Nat.toDigits 10 n.natAbs).length ≤ maxStrDigits then some (intText n) else none
  | .str s => some (quote s)
  | .list l => (dumpsItems l).map (fun items ↦ '[' :: (List.intercalate [','] items ++ [']']))
  | .dict d => (dumpsEntries d).map (fun items ↦ '{' :: (List.intercalate [','] items ++ ['}']))
  | .object _ => none

def dumpsItems : List Value → Option (List Str)
  | [] => some []
  | v :: l => (dumps v).bind (fun t ↦ (dumpsItems l).map (t :: ·))

def dumpsEntries : List (Str × Value) → Option (List Str)
  | [] => some []
  | (k, v) :: d => (dumps v).bind (fun t ↦ (dumpsEntries d).map ((quote k ++ ':' :: t) :: ·))

end

def skip (s : Str) : Str := s.dropWhile (fun c ↦ c = ' ' ∨ c = '\t' ∨ c = '\n' ∨ c = '\r')

def literals (H : Hooks) : List (Str × Value) :=
  [("null".toList, .none), ("true".toList, .bool true), ("false".toList, .bool false),
    ("NaN".toList, H.parseConstant "NaN".toList), ("Infinity".toList, H.parseConstant "Infinity".toList),
    ("-Infinity".toList, H.parseConstant "-Infinity".toList)]

def scanLiteral (H : Hooks) (s : Str) : Option (Value × Str) :=
  (literals H).findSome? (fun e ↦ if e.1.isPrefixOf s then some (e.2, s.drop e.1.length) else none)

mutual

/-- One value and the text behind it. The number is a bound on the nesting of calls. -/
def scanOnce (H : Hooks) : ℕ → Str → Option (Value × Str)
  | 0, _ => none
  | _ + 1, [] => none
  | n + 1, c :: s =>
    if c = '"' then (scanString s).map (fun p ↦ (.str p.1, p.2))
    else if c = '{' then
      if (skip s).head? = some '}' then some (.dict [], (skip s).tail)
      else (scanEntries H n (skip s)).map (fun p ↦ (.dict (p.1.foldl (fun d e ↦ setItem e.1 e.2 d) []), p.2))
    else if c = '[' then
      if (skip s).head? = some ']' then some (.list [], (skip s).tail)
      else (scanItems H n (skip s)).map (fun p ↦ (.list p.1, p.2))
    else (scanLiteral H (c :: s)).or (scanNumber H (c :: s))

def scanItems (H : Hooks) : ℕ → Str → Option (List Value × Str)
  | 0, _ => none
  | n + 1, s => (scanOnce H n s).bind (fun p ↦
    match skip p.2 with
    | ']' :: s => some ([p.1], s)
    | ',' :: s => (scanItems H n (skip s)).map (fun q ↦ (p.1 :: q.1, q.2))
    | _ => none)

def scanEntries (H : Hooks) : ℕ → Str → Option (List (Str × Value) × Str)
  | 0, _ => none
  | n + 1, s =>
    if s.head? = some '"' then (scanString s.tail).bind (fun k ↦
      if (skip k.2).head? = some ':' then (scanOnce H n (skip (skip k.2).tail)).bind (fun p ↦
        match skip p.2 with
        | '}' :: s => some ([(k.1, p.1)], s)
        | ',' :: s => (scanEntries H n (skip s)).map (fun q ↦ ((k.1, p.1) :: q.1, q.2))
        | _ => none)
      else none)
    else none

end

/-- `json.loads`; every failure is a `ValueError`. -/
def loads (H : Hooks) (s : Str) : Option Value :=
  (scanOnce H s.length (skip s)).bind (fun p ↦ if skip p.2 = [] then some p.1 else none)

inductive WellFormed : Value → Prop
  | none : WellFormed .none
  | bool (b : Bool) : WellFormed (.bool b)
  | int (n : ℤ) : WellFormed (.int n)
  | str (s : Str) : WellFormed (.str s)
  | object (text : Str) : WellFormed (.object text)
  | list {l : List Value} : (∀ v ∈ l, WellFormed v) → WellFormed (.list l)
  | dict {d : List (Str × Value)} : Dict.Unique d → (∀ e ∈ d, WellFormed e.2) → WellFormed (.dict d)

variable {H : Hooks} {v : Value} {l : List Value} {d : List (Str × Value)} {s t r : Str} {items : List Str} {n : ℕ}

theorem dumpsItems_eq_some : dumpsItems l = some items ↔ List.Forall₂ (fun v t ↦ dumps v = some t) l items := by
  induction l generalizing items with
  | nil => simp [dumpsItems, eq_comm]
  | cons v l ih =>
    simp only [dumpsItems, Option.bind_eq_some_iff, Option.map_eq_some_iff, ih, List.forall₂_cons_left_iff]
    constructor
    · intro ⟨t, ht, items', h, heq⟩
      exact ⟨t, items', ht, h, heq.symm⟩
    · intro ⟨t, items', ht, h, heq⟩
      exact ⟨t, ht, items', h, heq.symm⟩

def Entry (e : Str × Value) (s : Str) : Prop := ∃ t, dumps e.2 = some t ∧ s = quote e.1 ++ ':' :: t

theorem dumpsEntries_eq_some : dumpsEntries d = some items ↔ List.Forall₂ Entry d items := by
  induction d generalizing items with
  | nil => simp [dumpsEntries, eq_comm]
  | cons e d ih =>
    obtain ⟨k, v⟩ := e
    simp only [dumpsEntries, Option.bind_eq_some_iff, Option.map_eq_some_iff, ih, List.forall₂_cons_left_iff, Entry]
    constructor
    · intro ⟨t, ht, items', h, heq⟩
      exact ⟨_, items', ⟨t, ht, rfl⟩, h, heq.symm⟩
    · intro ⟨_, items', ⟨t, ht, hs⟩, h, heq⟩
      exact ⟨t, ht, items', h, by rw [heq, hs]⟩

theorem join_cons (t u : Str) (items : List Str) :
    List.intercalate [','] (t :: u :: items) = t ++ ',' :: List.intercalate [','] (u :: items) := by
  simp [List.intercalate]

theorem join_singleton (t : Str) : List.intercalate [','] [t] = t := by
  simp [List.intercalate]

section Printed

def Printable (s : Str) : Prop := ∀ c ∈ s, 32 ≤ c.toNat ∧ c.toNat ≤ 126

theorem Printable.append (hs : Printable s) (ht : Printable t) : Printable (s ++ t) := by
  intro c hc
  rcases List.mem_append.mp hc with h | h
  · exact hs c h
  · exact ht c h

theorem Printable.cons {c : Char} (hc : 32 ≤ c.toNat ∧ c.toNat ≤ 126) (hs : Printable s) : Printable (c :: s) := by
  intro d hd
  rcases List.mem_cons.mp hd with h | h
  · exact h ▸ hc
  · exact hs d h

theorem printable_hex4 (n : ℕ) : Printable (hex4 n) := by
  intro c hc
  obtain ⟨m, -, rfl⟩ := List.mem_map.mp hc
  have hall : ∀ d < 16, 32 ≤ (Nat.digitChar d).toNat ∧ (Nat.digitChar d).toNat ≤ 126 := by decide
  exact hall _ (Nat.mod_lt _ (by omega))

theorem printable_escapeChar (c : Char) : Printable (escapeChar c) := by
  unfold escapeChar
  split
  · rename_i e he
    have hall : ∀ e ∈ escapes, 32 ≤ e.1.toNat ∧ e.1.toNat ≤ 126 := by decide
    exact .cons (by decide) (.cons (hall e (List.mem_of_find?_eq_some he)) (fun c h ↦ nomatch h))
  · split
    · rename_i hc
      exact .cons hc (fun c h ↦ nomatch h)
    · intro d hd
      obtain ⟨n, -, hn⟩ := List.mem_flatMap.mp hd
      exact (Printable.cons (by decide) (.cons (by decide) (printable_hex4 n))) d hn

theorem printable_quote (s : Str) : Printable (quote s) := by
  refine .cons (by decide) (.append ?_ (.cons (by decide) (fun c h ↦ nomatch h)))
  intro d hd
  obtain ⟨c, -, hc⟩ := List.mem_flatMap.mp hd
  exact printable_escapeChar c d hc

theorem printable_intText (n : ℤ) : Printable (intText n) := by
  intro c hc
  rcases mem_intText hc with rfl | h
  · decide
  · simp only [Char.isDigit, Bool.and_eq_true, decide_eq_true_eq] at h
    have h₁ : '0'.toNat ≤ c.toNat := h.1
    have h₂ : c.toNat ≤ '9'.toNat := h.2
    simp only [Char.reduceToNat] at h₁ h₂
    omega

theorem printable_join (h : ∀ t ∈ items, Printable t) : Printable (List.intercalate [','] items) := by
  induction items with
  | nil => exact fun c h ↦ nomatch h
  | cons t items ih =>
    cases items with
    | nil =>
      rw [join_singleton]
      exact h t List.mem_cons_self
    | cons u items =>
      rw [join_cons]
      exact (h t List.mem_cons_self).append (.cons (by decide) (ih (fun t' h' ↦ h t' (List.mem_cons_of_mem _ h'))))

theorem printable_dumps (hv : WellFormed v) (h : dumps v = some t) : Printable t := by
  induction hv generalizing t with
  | none =>
    rw [← Option.some.inj h]
    unfold Printable
    decide
  | bool b =>
    rw [← Option.some.inj h]
    unfold Printable
    cases b with
    | true => decide
    | false => decide
  | int n =>
    obtain ⟨-, ht⟩ := Option.ite_none_right_eq_some.mp h
    rw [← Option.some.inj ht]
    exact printable_intText n
  | str s =>
    rw [← Option.some.inj h]
    exact printable_quote s
  | object text => cases h
  | list hl ih =>
    obtain ⟨items, hitems, ht⟩ := Option.map_eq_some_iff.mp h
    rw [← ht]
    refine .cons (by decide) (.append (printable_join (fun t ht ↦ ?_)) (.cons (by decide) (fun c h ↦ nomatch h)))
    obtain ⟨v, hv, hvt⟩ := exists_mem_of_forall₂ (dumpsItems_eq_some.mp hitems).flip ht
    exact ih v hv hvt
  | dict hu hd ih =>
    obtain ⟨items, hitems, ht⟩ := Option.map_eq_some_iff.mp h
    rw [← ht]
    refine .cons (by decide) (.append (printable_join (fun t ht ↦ ?_)) (.cons (by decide) (fun c h ↦ nomatch h)))
    obtain ⟨e, he, u, hu, ht⟩ := exists_mem_of_forall₂ (dumpsEntries_eq_some.mp hitems).flip ht
    rw [ht]
    exact (printable_quote e.1).append (.cons (by decide) (ih e he hu))

end Printed

section RoundTrip

/-- The first character tells what kind of value a text is of; none of these is a space or closes a row. -/
def Opens (c : Char) : Prop := c ∉ [' ', '\t', '\n', '\r', ']', '}']

instance : DecidablePred Opens :=
  fun c ↦ inferInstanceAs (Decidable (c ∉ [' ', '\t', '\n', '\r', ']', '}']))

theorem dumps_opens (h : dumps v = some t) : ∃ c s, t = c :: s ∧ Opens c := by
  cases v with
  | none => exact ⟨'n', _, (Option.some.inj h).symm, by decide⟩
  | bool b =>
    cases b with
    | true => exact ⟨'t', _, (Option.some.inj h).symm, by decide⟩
    | false => exact ⟨'f', _, (Option.some.inj h).symm, by decide⟩
  | int n =>
    obtain ⟨-, ht⟩ := Option.ite_none_right_eq_some.mp h
    rw [← Option.some.inj ht, intText_eq]
    split
    · exact ⟨'-', _, rfl, by decide⟩
    · cases hd : Nat.toDigits 10 n.natAbs with
      | nil => exact absurd hd Nat.toDigits_ne_nil
      | cons c ds =>
        have hdigit : c.isDigit = true :=
          Nat.isDigit_of_mem_toDigits (b := 10) (n := n.natAbs) (by omega) (by omega) (by simp [hd])
        refine ⟨c, ds, rfl, fun hmem ↦ ?_⟩
        have hall : ∀ c ∈ [' ', '\t', '\n', '\r', ']', '}'], Char.isDigit c = false := by decide
        rw [hall c hmem] at hdigit
        cases hdigit
  | str s => exact ⟨'"', _, (Option.some.inj h).symm, by decide⟩
  | list l =>
    obtain ⟨items, -, ht⟩ := Option.map_eq_some_iff.mp h
    exact ⟨'[', _, ht.symm, by decide⟩
  | dict d =>
    obtain ⟨items, -, ht⟩ := Option.map_eq_some_iff.mp h
    exact ⟨'{', _, ht.symm, by decide⟩
  | object text => cases h

theorem skip_of_opens {c : Char} (hc : Opens c) (s : Str) : skip (c :: s) = c :: s := by
  simp only [Opens, List.mem_cons, List.not_mem_nil, or_false, not_or] at hc
  simp [skip, hc]

theorem skip_dumps (h : dumps v = some t) (r : Str) : skip (t ++ r) = t ++ r := by
  obtain ⟨c, s, ht, hc⟩ := dumps_opens h
  rw [ht]
  exact skip_of_opens hc (s ++ r)

/-- With enough calls the text of `v` is read as `v`, whatever comes behind it. -/
def Reads (H : Hooks) (v : Value) : Prop :=
  ∀ t r n, dumps v = some t → t.length ≤ n → Stops r → scanOnce H n (t ++ r) = some (v, r)

theorem stops_cons {c : Char} (hc : c ∈ [',', ']', '}']) (s : Str) : Stops (c :: s) := by
  have hall : ∀ c ∈ [',', ']', '}'], c.isDigit = false ∧ c ≠ '.' ∧ c ≠ 'e' ∧ c ≠ 'E' := by decide
  intro d hd
  rw [← Option.some.inj hd]
  exact hall c hc

theorem skip_cons {c : Char} (hc : c ∈ [',', ']', '}']) (s : Str) : skip (c :: s) = c :: s := by
  have hall : ∀ c ∈ [',', ']', '}'], decide (c = ' ' ∨ c = '\t' ∨ c = '\n' ∨ c = '\r') = false := by decide
  rw [skip, List.dropWhile_cons_of_neg (by simp only [hall c hc]; exact Bool.false_ne_true)]

theorem skip_join {c : Char} (hc : Opens c) (s : Str) (items : List Str) (r : Str) :
    skip (List.intercalate [','] ((c :: s) :: items) ++ r) = List.intercalate [','] ((c :: s) :: items) ++ r := by
  cases items with
  | nil =>
    rw [join_singleton]
    exact skip_of_opens hc (s ++ r)
  | cons u items =>
    rw [join_cons]
    exact skip_of_opens hc _

theorem scanItems_dumps (hl : List.Forall₂ (fun v t ↦ dumps v = some t) l items) (hne : l ≠ [])
    (hreads : ∀ v ∈ l, Reads H v) (hn : (List.intercalate [','] items).length + 1 ≤ n) (r : Str) :
    scanItems H n (List.intercalate [','] items ++ ']' :: r) = some (l, r) := by
  induction hl generalizing n with
  | nil => exact absurd rfl hne
  | @cons v t l items ht htail ih =>
    cases n with
    | zero => omega
    | succ n =>
      have hv := hreads v List.mem_cons_self
      cases htail with
      | nil =>
        rw [join_singleton] at hn ⊢
        rw [scanItems, hv t _ n ht (by omega) (stops_cons (by decide) r), Option.bind_some, skip_cons (by decide)]
        simp
      | @cons w u l items hu htail =>
        rw [join_cons] at hn ⊢
        simp only [List.length_append, List.length_cons] at hn
        have ih := ih (n := n) (List.cons_ne_nil _ _) (fun w hw ↦ hreads w (List.mem_cons_of_mem _ hw)) (by omega)
        rw [List.append_assoc, List.cons_append, scanItems,
          hv t _ n ht (by omega) (stops_cons (by decide) _), Option.bind_some, skip_cons (by decide)]
        obtain ⟨c, s, rfl, hc⟩ := dumps_opens hu
        simp only [skip_join hc, ih, Option.map_some]

theorem scanString_quote (s r : Str) : scanString ((quote s ++ r).tail) = some (s, r) := by
  simp [quote, scanString_escape]

theorem scanEntries_entry {e : Str × Value} (ht : dumps e.2 = some t) (hv : Reads H e.2) (hn : t.length ≤ n)
    (hr : Stops r) :
    scanEntries H (n + 1) (quote e.1 ++ ':' :: t ++ r) =
      match skip r with
      | '}' :: s => some ([e], s)
      | ',' :: s => (scanEntries H n (skip s)).map (fun q ↦ (e :: q.1, q.2))
      | _ => none := by
  have hhead (s : Str) : (quote e.1 ++ s).head? = some '"' := rfl
  have hcolon (s : Str) : skip (':' :: s) = ':' :: s := skip_of_opens (by decide) s
  rw [scanEntries, List.append_assoc, if_pos (hhead _), scanString_quote, Option.bind_some, List.cons_append, hcolon,
    List.head?_cons, if_pos rfl, List.tail_cons, skip_dumps ht, hv t r n ht hn hr, Option.bind_some]

theorem scanEntries_dumps (hl : List.Forall₂ Entry d items) (hne : d ≠ [])
    (hreads : ∀ e ∈ d, Reads H e.2) (hn : (List.intercalate [','] items).length + 1 ≤ n) (r : Str) :
    scanEntries H n (List.intercalate [','] items ++ '}' :: r) = some (d, r) := by
  induction hl generalizing n with
  | nil => exact absurd rfl hne
  | @cons e s d items hs htail ih =>
    cases n with
    | zero => omega
    | succ n =>
      obtain ⟨t, ht, rfl⟩ := hs
      have hv := hreads e List.mem_cons_self
      cases htail with
      | nil =>
        rw [join_singleton] at hn ⊢
        simp only [List.length_append, List.length_cons] at hn
        rw [scanEntries_entry ht hv (by omega) (stops_cons (by decide) r), skip_cons (by decide)]
        rfl
      | @cons e' s' d items hs' htail =>
        rw [join_cons] at hn ⊢
        simp only [List.length_append, List.length_cons] at hn
        have ih := ih (n := n) (List.cons_ne_nil _ _) (fun e he ↦ hreads e (List.mem_cons_of_mem _ he)) (by omega)
        rw [List.append_assoc, List.cons_append, scanEntries_entry ht hv (by omega) (stops_cons (by decide) _),
          skip_cons (by decide)]
        obtain ⟨u, -, rfl⟩ := hs'
        have hquote : quote e'.1 ++ ':' :: u = '"' :: (e'.1.flatMap escapeChar ++ '"' :: ':' :: u) := by simp [quote]
        rw [hquote] at ih ⊢
        simp only [skip_join (show Opens '"' by decide), ih, Option.map_some]

theorem scanOnce_digit {c : Char} (hc : c.isDigit = true) (s : Str) :
    scanOnce H (n + 1) (c :: s) = scanNumber H (c :: s) ∧
      scanOnce H (n + 1) ('-' :: c :: s) = scanNumber H ('-' :: c :: s) := by
  have hne {d : Char} (hd : d.isDigit = false) : c ≠ d ∧ d ≠ c := by
    constructor
    · rintro rfl
      rw [hc] at hd
      cases hd
    · rintro rfl
      rw [hc] at hd
      cases hd
  have hletters : ∀ d ∈ ['"', '{', '[', 'n', 't', 'f', 'N', 'I', '-'], d.isDigit = false := by decide
  constructor
  · simp [scanOnce, scanLiteral, literals, hne (hletters _ _)]
  · simp [scanOnce, scanLiteral, literals, hne (hletters _ _)]

theorem reads_int (m : ℤ) : Reads H (.int m) := by
  intro t r n h hn hr
  obtain ⟨hlen, ht⟩ := Option.ite_none_right_eq_some.mp h
  rw [← Option.some.inj ht] at hn ⊢
  have hscan := scanNumber_intText (H := H) m hlen hr
  rw [intText_eq] at hn hscan ⊢
  cases hd : Nat.toDigits 10 m.natAbs with
  | nil => exact absurd hd Nat.toDigits_ne_nil
  | cons c ds =>
    have hdigit : c.isDigit = true :=
      Nat.isDigit_of_mem_toDigits (b := 10) (n := m.natAbs) (by omega) (by omega) (by simp [hd])
    rw [hd] at hn hscan
    cases n with
    | zero => simp at hn
    | succ n =>
      obtain ⟨hpos, hneg⟩ := scanOnce_digit (H := H) (n := n) hdigit (ds ++ r)
      cases hm : decide (m < 0) with
      | true =>
        rw [hm] at hscan
        exact hneg.trans hscan
      | false =>
        rw [hm] at hscan
        exact hpos.trans hscan

theorem scanOnce_list (n : ℕ) (s : Str) : scanOnce H (n + 1) ('[' :: s) =
    if (skip s).head? = some ']' then some (.list [], (skip s).tail)
    else (scanItems H n (skip s)).map (fun p ↦ (.list p.1, p.2)) := by
  simp [scanOnce]

theorem scanOnce_dict (n : ℕ) (s : Str) : scanOnce H (n + 1) ('{' :: s) =
    if (skip s).head? = some '}' then some (.dict [], (skip s).tail)
    else (scanEntries H n (skip s)).map (fun p ↦ (.dict (p.1.foldl (fun d e ↦ setItem e.1 e.2 d) []), p.2)) := by
  simp [scanOnce]

theorem skip_row (h : ∃ c s, t = c :: s ∧ Opens c) (items : List Str) (r : Str) :
    skip (List.intercalate [','] (t :: items) ++ r) = List.intercalate [','] (t :: items) ++ r ∧
      (List.intercalate [','] (t :: items) ++ r).head? ∉ [some ']', some '}'] := by
  obtain ⟨c, s, rfl, hc⟩ := h
  refine ⟨skip_join hc s items r, ?_⟩
  have hne : c ≠ ']' ∧ c ≠ '}' := by
    constructor
    · rintro rfl
      exact absurd hc (by decide)
    · rintro rfl
      exact absurd hc (by decide)
  cases items with
  | nil =>
    rw [join_singleton]
    simp [hne]
  | cons u items =>
    rw [join_cons]
    simp [hne]

theorem reads_str (s : Str) : Reads H (.str s) := by
  intro t r n h hn hr
  rw [← Option.some.inj h] at hn ⊢
  cases n with
  | zero => cases hn
  | succ n =>
    rw [quote, List.cons_append, scanOnce, if_pos rfl, List.append_assoc, List.singleton_append, scanString_escape]
    rfl

theorem reads_list (hl : ∀ v ∈ l, Reads H v) : Reads H (.list l) := by
  intro t r n h hn hr
  obtain ⟨items, hitems, rfl⟩ := Option.map_eq_some_iff.mp h
  cases n with
  | zero => cases hn
  | succ n =>
    have hrow := dumpsItems_eq_some.mp hitems
    simp only [List.length_cons, List.length_append, List.length_nil] at hn
    rw [List.cons_append, List.append_assoc, List.singleton_append, scanOnce_list]
    cases hrow with
    | nil => rfl
    | @cons v t l items ht htail =>
      obtain ⟨hskip, hhead⟩ := skip_row (dumps_opens ht) items (']' :: r)
      simp only [List.mem_cons, List.not_mem_nil, or_false, not_or] at hhead
      rw [hskip, if_neg hhead.1, scanItems_dumps (.cons ht htail) (List.cons_ne_nil _ _) hl (by omega)]
      rfl

theorem reads_dict (hu : Dict.Unique d) (hd : ∀ e ∈ d, Reads H e.2) : Reads H (.dict d) := by
  intro t r n h hn hr
  obtain ⟨items, hitems, rfl⟩ := Option.map_eq_some_iff.mp h
  cases n with
  | zero => cases hn
  | succ n =>
    have hrow := dumpsEntries_eq_some.mp hitems
    simp only [List.length_cons, List.length_append, List.length_nil] at hn
    rw [List.cons_append, List.append_assoc, List.singleton_append, scanOnce_dict]
    cases hrow with
    | nil => rfl
    | @cons e s d items hs htail =>
      have hopens : ∃ c u, s = c :: u ∧ Opens c := by
        obtain ⟨u, -, rfl⟩ := hs
        exact ⟨'"', _, rfl, by decide⟩
      obtain ⟨hskip, hhead⟩ := skip_row hopens items ('}' :: r)
      simp only [List.mem_cons, List.not_mem_nil, or_false, not_or] at hhead
      rw [hskip, if_neg hhead.2, scanEntries_dumps (.cons hs htail) (List.cons_ne_nil _ _) hd (by omega),
        Option.map_some, foldl_setItem (d := []) hu]
      rfl

theorem WellFormed.reads (hv : WellFormed v) : Reads H v := by
  induction hv with
  | none =>
    intro t r n h hn hr
    rw [← Option.some.inj h] at hn ⊢
    cases n with
    | zero => cases hn
    | succ n => rfl
  | bool b =>
    intro t r n h hn hr
    rw [← Option.some.inj h] at hn ⊢
    cases n with
    | zero => cases b <;> cases hn
    | succ n => cases b <;> rfl
  | int m => exact reads_int m
  | str s => exact reads_str s
  | object text =>
    intro t r n h
    cases h
  | list _ ih => exact reads_list ih
  | dict hu _ ih => exact reads_dict hu ih

/-- What `json.dumps` writes, `json.loads` reads back. -/
theorem loads_dumps (hv : WellFormed v) (h : dumps v = some t) : loads H t = some v := by
  have hstops : Stops [] := fun c hc ↦ nomatch hc
  have hscan := hv.reads (H := H) t [] t.length h (Nat.le_refl _) hstops
  have hskip := skip_dumps h []
  rw [List.append_nil] at hscan hskip
  rw [loads, hskip, hscan]
  rfl

end RoundTrip

end Values

end McpSqlServer.Library.Python.Json

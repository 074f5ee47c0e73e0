import McpSqlServer.Library.Sql.Tokens

namespace McpSqlServer.Library.Sql

open Text

inductive Delimiter
  | literal
  | bracketed
  | quoted

def Delimiter.close : Delimiter → Char
  | .literal => '\''
  | .bracketed => ']'
  | .quoted => '"'

/-- A token with what it stands for; two closing delimiters inside a token stand for one. -/
inductive Lexeme
  | word (w : Str)
  | delimited (d : Delimiter) (value : Str)
  | symbol (c : Char)

/-- Where a lexer is. In `closing` it has read a delimiter that ends the token unless the next
character doubles it. -/
inductive LexMode
  | gap
  | word (read : Str)
  | inside (d : Delimiter) (read : Str)
  | closing (d : Delimiter) (read : Str)
  | minus
  | slash
  | line
  | block (depth : ℕ)
  | blockStar (depth : ℕ)
  | blockSlash (depth : ℕ)

namespace LexMode

def emit (x : Lexeme) (r : LexMode × List Lexeme) : LexMode × List Lexeme := (r.1, x :: r.2)

def leaveBlock : ℕ → LexMode
  | 0 => gap
  | n + 1 => block n

/-- What the lexer makes of the remaining text when it ends here; `none` inside a token or a
block comment. -/
def finish : LexMode → Option (List Lexeme)
  | gap => some []
  | word w => some [.word w]
  | inside _ _ => none
  | closing d v => some [.delimited d v]
  | minus => some [.symbol '-']
  | slash => some [.symbol '/']
  | line => some []
  | block _ => none
  | blockStar _ => none
  | blockSlash _ => none

variable [UnicodeData]

def start (c : Char) : LexMode × List Lexeme :=
  if c = '\'' then (inside .literal [], [])
  else if c = '[' then (inside .bracketed [], [])
  else if c = '"' then (inside .quoted [], [])
  else if c = '-' then (minus, [])
  else if c = '/' then (slash, [])
  else if isSpace c then (gap, [])
  else if isIdentChar c then (word [c], [])
  else (gap, [.symbol c])

def step : LexMode → Char → LexMode × List Lexeme
  | gap, c => start c
  | word w, c => if isIdentChar c then (word (w ++ [c]), []) else emit (.word w) (start c)
  | inside d v, c => if c = d.close then (closing d v, []) else (inside d (v ++ [c]), [])
  | closing d v, c => if c = d.close then (inside d (v ++ [c]), []) else emit (.delimited d v) (start c)
  | minus, c => if c = '-' then (line, []) else emit (.symbol '-') (start c)
  | slash, c => if c = '*' then (block 0, []) else emit (.symbol '/') (start c)
  | line, c => if c = '\n' then (gap, []) else (line, [])
  | block n, c => if c = '*' then (blockStar n, []) else if c = '/' then (blockSlash n, []) else (block n, [])
  | blockStar n, c =>
    if c = '/' then (leaveBlock n, []) else if c = '*' then (blockStar n, []) else (block n, [])
  | blockSlash n, c =>
    if c = '*' then (block (n + 1), []) else if c = '/' then (blockSlash n, []) else (block n, [])

def run : LexMode → Str → LexMode × List Lexeme
  | m, [] => (m, [])
  | m, c :: s => ((run (m.step c).1 s).1, (m.step c).2 ++ (run (m.step c).1 s).2)

end LexMode

variable [UnicodeData]

def lex (s : Str) : Option (List Lexeme) :=
  let r := LexMode.gap.run s
  r.1.finish.map (fun last ↦ r.2 ++ last)

def Delimiter.escape (d : Delimiter) (s : Str) : Str :=
  s.flatMap (fun c ↦ if c = d.close then [d.close, d.close] else [c])

namespace LexMode

theorem run_append (m : LexMode) (s t : Str) :
    m.run (s ++ t) = (((m.run s).1.run t).1, (m.run s).2 ++ ((m.run s).1.run t).2) := by
  induction s generalizing m with
  | nil => rfl
  | cons c s ih => rw [List.cons_append, run, ih, run, List.append_assoc]

theorem run_inside_char (d : Delimiter) (v : Str) (c : Char) :
    (inside d v).run (d.escape [c]) = (inside d (v ++ [c]), []) := by
  by_cases hc : c = d.close
  · have hesc : d.escape [c] = [d.close, d.close] := by simp [Delimiter.escape, hc]
    rw [hesc, run, step, if_pos rfl, run, step, if_pos rfl, hc]
    rfl
  · have hesc : d.escape [c] = [c] := by simp [Delimiter.escape, hc]
    rw [hesc, run, step, if_neg hc]
    rfl

theorem run_inside (d : Delimiter) (v s : Str) : (inside d v).run (d.escape s) = (inside d (v ++ s), []) := by
  induction s generalizing v with
  | nil => rw [List.append_nil]; rfl
  | cons c s ih =>
    have hesc : d.escape (c :: s) = d.escape [c] ++ d.escape s := by
      simp only [Delimiter.escape, List.flatMap_cons, List.flatMap_nil, List.append_nil]
    rw [hesc, run_append, run_inside_char, ih, List.append_assoc]
    rfl

end LexMode

end McpSqlServer.Library.Sql

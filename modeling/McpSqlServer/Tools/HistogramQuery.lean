import McpSqlServer.Library.Sql.Lexer

namespace McpSqlServer

open Library.Text Library.Sql

def histogramHead : List String :=
  ["SELECT ", "h.step_number, ", "TRY_CAST(h.range_high_key AS nvarchar(256)) AS range_high_key_text, ",
   "h.range_rows, ", "h.equal_rows, ", "h.distinct_range_rows, ", "h.average_range_rows ", "FROM sys.stats st ",
   "CROSS APPLY sys.dm_db_stats_histogram(st.object_id, st.stats_id) h ", "WHERE st.object_id = OBJECT_ID('"]

def histogramMiddle : List String := ["') ", "AND st.name = '"]

def histogramTail : List String := ["' ", "ORDER BY h.step_number"]

def sqlText (lines : List String) : Str := lines.flatMap String.toList

def escapeQuotes (s : Str) : Str := s.flatMap (fun c ↦ if c = '\'' then ['\'', '\''] else [c])

def statisticsHistogramQuery (schemaName tableName statName : Str) : Str :=
  let safeSchema := escapeQuotes schemaName
  let safeTable := escapeQuotes tableName
  let safeStat := escapeQuotes statName
  sqlText histogramHead ++ safeSchema ++ ".".toList ++ safeTable ++ sqlText histogramMiddle ++ safeStat ++ sqlText histogramTail

def headLexemes : List (List Lexeme) :=
  [[.word "SELECT".toList],
   [.word "h".toList, .symbol '.', .word "step_number".toList, .symbol ','],
   [.word "TRY_CAST".toList, .symbol '(', .word "h".toList, .symbol '.', .word "range_high_key".toList,
    .word "AS".toList, .word "nvarchar".toList, .symbol '(', .word "256".toList, .symbol ')', .symbol ')',
    .word "AS".toList, .word "range_high_key_text".toList, .symbol ','],
   [.word "h".toList, .symbol '.', .word "range_rows".toList, .symbol ','],
   [.word "h".toList, .symbol '.', .word "equal_rows".toList, .symbol ','],
   [.word "h".toList, .symbol '.', .word "distinct_range_rows".toList, .symbol ','],
   [.word "h".toList, .symbol '.', .word "average_range_rows".toList],
   [.word "FROM".toList, .word "sys".toList, .symbol '.', .word "stats".toList, .word "st".toList],
   [.word "CROSS".toList, .word "APPLY".toList, .word "sys".toList, .symbol '.',
    .word "dm_db_stats_histogram".toList, .symbol '(', .word "st".toList, .symbol '.', .word "object_id".toList,
    .symbol ',', .word "st".toList, .symbol '.', .word "stats_id".toList, .symbol ')', .word "h".toList],
   [.word "WHERE".toList, .word "st".toList, .symbol '.', .word "object_id".toList, .symbol '=',
    .word "OBJECT_ID".toList, .symbol '(']]

def middleLexemes : List Lexeme :=
  [.symbol ')', .word "AND".toList, .word "st".toList, .symbol '.', .word "name".toList, .symbol '=']

def tailLexemes : List Lexeme :=
  [.word "ORDER".toList, .word "BY".toList, .word "h".toList, .symbol '.', .word "step_number".toList]

/-- The tokens of the histogram query, whose two literals hold the name of the table and the
one of the statistic. -/
def histogramLexemes (table stat : Str) : List Lexeme :=
  headLexemes.flatten ++ .delimited .literal table :: (middleLexemes ++ .delimited .literal stat :: tailLexemes)

theorem sqlText_cons {s : String} {l t : Str} {lines : List String} (hs : s = String.ofList l) (ht : sqlText lines = t) :
    sqlText (s :: lines) = l ++ t := by
  rw [← ht, sqlText, List.flatMap_cons, hs, String.toList_ofList]
  rfl

theorem escapeQuotes_eq (s : Str) : escapeQuotes s = Delimiter.literal.escape s := rfl

theorem escape_object (schemaName tableName : Str) : escapeQuotes schemaName ++ '.' :: escapeQuotes tableName =
    Delimiter.literal.escape (schemaName ++ '.' :: tableName) := by
  rw [Delimiter.escape, List.flatMap_append, List.flatMap_cons]
  rfl

section UnicodeData

variable [UnicodeData]

theorem run_of_text {m : LexMode} {lines : List String} {t : Str} {r : LexMode × List Lexeme} (ht : sqlText lines = t)
    (hr : m.run t = r) : m.run (sqlText lines) = r := by
  rw [ht, hr]

theorem run_line {s : String} {l : Str} {lines : List String} {m : LexMode} {row : List Lexeme} {rows : List (List Lexeme)}
    (hs : s = String.ofList l) (hl : LexMode.gap.run l = (.gap, row))
    (hlines : LexMode.gap.run (sqlText lines) = (m, rows.flatten)) :
    LexMode.gap.run (sqlText (s :: lines)) = (m, (row :: rows).flatten) := by
  rw [sqlText_cons hs rfl, LexMode.run_append, hl, hlines]
  rfl

set_option maxRecDepth 1000 in
theorem run_histogramHead : LexMode.gap.run (sqlText histogramHead) = (.inside .literal [], headLexemes.flatten) := by
  unfold histogramHead headLexemes
  repeat refine run_line rfl rfl ?_
  apply run_of_text
  · apply sqlText_cons rfl
    exact List.flatMap_nil
  · rfl

theorem run_histogramMiddle (v : Str) : (LexMode.inside .literal v).run (sqlText histogramMiddle) =
    (.inside .literal [], .delimited .literal v :: middleLexemes) := by
  apply run_of_text
  · unfold histogramMiddle
    repeat apply sqlText_cons rfl
    exact List.flatMap_nil
  · rfl

theorem run_histogramTail (v : Str) : (LexMode.inside .literal v).run (sqlText histogramTail) =
    (.word "step_number".toList, .delimited .literal v :: tailLexemes.dropLast) := by
  apply run_of_text
  · unfold histogramTail
    repeat apply sqlText_cons rfl
    exact List.flatMap_nil
  · rfl

/-- Whatever the names are, the text is the same row of tokens around two literals. -/
theorem lex_statisticsHistogramQuery (schemaName tableName statName : Str) :
    lex (statisticsHistogramQuery schemaName tableName statName) =
      some (histogramLexemes (schemaName ++ '.' :: tableName) statName) := by
  have htext : statisticsHistogramQuery schemaName tableName statName = sqlText histogramHead ++
      (Delimiter.literal.escape (schemaName ++ '.' :: tableName) ++ (sqlText histogramMiddle ++
        (Delimiter.literal.escape statName ++ sqlText histogramTail))) := by
    have hdot : ".".toList = ['.'] := rfl
    rw [← escape_object, ← escapeQuotes_eq]
    simp only [statisticsHistogramQuery, hdot, List.append_assoc, List.cons_append, List.nil_append]
  have hrun : LexMode.gap.run (statisticsHistogramQuery schemaName tableName statName) =
      (.word "step_number".toList, headLexemes.flatten ++ .delimited .literal (schemaName ++ '.' :: tableName) ::
        (middleLexemes ++ .delimited .literal statName :: tailLexemes.dropLast)) := by
    simp only [htext, LexMode.run_append, run_histogramHead, LexMode.run_inside, run_histogramMiddle, run_histogramTail,
      List.nil_append, List.cons_append]
  have htail : tailLexemes.dropLast ++ [.word "step_number".toList] = tailLexemes := rfl
  rw [lex, hrun, histogramLexemes]
  dsimp only [LexMode.finish]
  rw [Option.map_some, List.append_assoc, List.cons_append, List.append_assoc, List.cons_append, htail]

end UnicodeData

end McpSqlServer

import McpSqlServer.Library.Sql.Tokens
import McpSqlServer.WriteGuard.Comments

namespace McpSqlServer

open Library.Text Library.Python Library.Sql

/-! The statements that the write gate is to tell apart, as rows of T-SQL tokens. -/

def kw (w : String) : Tok := .keyword w.toList

structure Cte where
  name : Tok
  columns : List Tok := []
  query : List Tok

def Cte.tokens (cte : Cte) : List Tok :=
  cte.name :: (cte.columns ++ kw "as" :: .symbol '(' :: (cte.query ++ [.symbol ')']))

def withClause : List Cte → List Tok
  | [] => []
  | cte :: ctes => kw "with" :: (cte.tokens ++ ctes.flatMap (fun cte ↦ .symbol ',' :: cte.tokens))

inductive ChangeVerb
  | insert
  | update
  | delete
  | merge

def ChangeVerb.word : ChangeVerb → String
  | .insert => "insert"
  | .update => "update"
  | .delete => "delete"
  | .merge => "merge"

inductive DefineVerb
  | create
  | alter
  | drop

def DefineVerb.word : DefineVerb → String
  | .create => "create"
  | .alter => "alter"
  | .drop => "drop"

/-- A single statement. The parts without a role in its form are any tokens. -/
inductive SqlStatement
  | select (ctes : List Cte) (items sources : List Tok)
  | selectInto (ctes : List Cte) (items target sources : List Tok)
  | change (verb : ChangeVerb) (ctes : List Cte) (body : List Tok)
  | truncateTable (target : List Tok)
  | define (verb : DefineVerb) (body : List Tok)
  | exec (body : List Tok)
  | execute (body : List Tok)

def SqlStatement.tokens : SqlStatement → List Tok
  | .select ctes items sources => withClause ctes ++ kw "select" :: (items ++ kw "from" :: sources)
  | .selectInto ctes items target sources =>
    withClause ctes ++ kw "select" :: (items ++ kw "into" :: (target ++ kw "from" :: sources))
  | .change verb ctes body => withClause ctes ++ kw verb.word :: body
  | .truncateTable target => kw "truncate" :: kw "table" :: target
  | .define verb body => kw verb.word :: body
  | .exec body => kw "exec" :: body
  | .execute body => kw "execute" :: body

/-- Whether the statement writes data, creates an object or executes a procedure. -/
def SqlStatement.Writes : SqlStatement → Prop
  | .select _ _ _ => False
  | _ => True

def SqlStatement.Denylisted : SqlStatement → Prop
  | .change _ _ _ => True
  | .truncateTable _ => True
  | .define _ _ => True
  | _ => False

def SqlStatement.Executes : SqlStatement → Prop
  | .exec _ => True
  | .execute _ => True
  | _ => False

theorem SqlStatement.Denylisted.mem_tokens {S : SqlStatement} (h : S.Denylisted) :
    ∃ w ∈ blockedVerbs, Tok.keyword w ∈ S.tokens := by
  cases S with
  | change verb ctes body =>
    refine ⟨verb.word.toList, ?_, ?_⟩
    · cases verb <;> decide
    · exact List.mem_append_right _ List.mem_cons_self
  | truncateTable target => exact ⟨"truncate".toList, by decide, List.mem_cons_self⟩
  | define verb body =>
    refine ⟨verb.word.toList, ?_, List.mem_cons_self⟩
    cases verb <;> decide
  | select _ _ _ => exact h.elim
  | selectInto _ _ _ _ => exact h.elim
  | exec _ => exact h.elim
  | execute _ => exact h.elim

theorem tokens_selectInto (ctes : List Cte) (items target sources : List Tok) :
    ∃ toks, (SqlStatement.selectInto ctes items target sources).tokens = kw "select" :: toks ∨
      (SqlStatement.selectInto ctes items target sources).tokens = kw "with" :: toks := by
  cases ctes with
  | nil => exact ⟨_, .inl rfl⟩
  | cons cte ctes => exact ⟨_, .inr rfl⟩

/-- The gaps of which the gate's own two scans leave only white space. They take the first
closer for the end of a block comment and find its opener in a line comment as well. -/
inductive ScannedGap [UnicodeData] : Str → Prop
  | nil : ScannedGap []
  | space {c : Char} {s : Str} : isSpace c = true → ScannedGap s → ScannedGap (c :: s)
  | line {body s : Str} : '\n' ∉ body → hasPair '/' '*' body = false → ScannedGap s →
      ScannedGap ('-' :: '-' :: (body ++ '\n' :: s))
  | block {body s : Str} : hasPair '*' '/' (body ++ ['*']) = false → ScannedGap s →
      ScannedGap ('/' :: '*' :: (body ++ '*' :: '/' :: s))

theorem dropComments_append {w : Str} (hw : ∀ c ∈ w, c ≠ '/' ∧ c ≠ '-') (s : Str) :
    dropComments (w ++ s) = w ++ dropComments s := by
  induction w with
  | nil => rfl
  | cons c w ih =>
    obtain ⟨hslash, hdash⟩ := hw c List.mem_cons_self
    have ih := ih (fun d hd ↦ hw d (List.mem_cons_of_mem _ hd))
    unfold dropComments at ih ⊢
    rw [List.cons_append, dropBlockComments_cons hslash, dropLineComments_cons hdash, ih, List.cons_append]

section UnicodeData

variable [UnicodeData] {policy : RuntimePolicy} {toolName : Str} {S : SqlStatement} {lead body s w t : Str}

theorem ScannedGap.firstToken_dropComments (h : ScannedGap lead) (s : Str) :
    firstToken (dropComments (lead ++ s)) = firstToken (dropComments s) := by
  have hnewline : isSpace '\n' = true := rfl
  induction h with
  | nil => rfl
  | @space c lead hc _ ih =>
    have hplain : ∀ d ∈ [c], d ≠ '/' ∧ d ≠ '-' := by
      intro d hd
      rw [List.mem_singleton.mp hd]
      exact ⟨ne_of_isSpace hc rfl, ne_of_isSpace hc rfl⟩
    have hdrop := dropComments_append hplain (lead ++ s)
    rw [List.cons_append]
    rw [List.singleton_append, List.singleton_append] at hdrop
    rw [hdrop, firstToken_cons_of_isSpace hc, ih]
  | @line body lead hn hb _ ih =>
    simp only [List.cons_append, List.append_assoc]
    rw [dropComments_line hn (.free hb), firstToken_cons_of_isSpace hnewline, ih]
  | @block body lead hc _ ih =>
    simp only [List.cons_append, List.append_assoc]
    rw [dropComments_block hc, ih]

omit [UnicodeData] in
theorem eq_or_eq_of_toLower {c d e : Char} (h : c.toLower = d) (he : e.val + ('a'.val - 'A'.val) = d.val) :
    c = d ∨ c = e := by
  by_cases hu : c.isUpper = true
  · right
    have hupper : c.val ≥ 'A'.val ∧ c.val ≤ 'Z'.val := of_decide_eq_true hu
    have hval : c.toLower.val = c.val + ('a'.val - 'A'.val) := by
      delta Char.toLower
      rw [dif_pos hupper]
    apply Char.ext
    rw [h, ← he] at hval
    exact (UInt32.add_left_inj _).mp hval.symm
  · left
    rw [← h, toLower_of_not_isUpper (Bool.eq_false_iff.mpr hu)]

omit [UnicodeData] in
theorem head?_of_mem_writeVerbs : ∀ v ∈ writeVerbs, v.head? ≠ some 'S' ∧ v.head? ≠ some 'W' := by decide

theorem not_startsWithVerb_of_letter {c : Char} (hc : c = 's' ∨ c = 'S' ∨ c = 'w' ∨ c = 'W') (s : Str) :
    ¬ StartsWithVerb (dropComments (c :: s)) := by
  have hplain : ∀ d ∈ [c], d ≠ '/' ∧ d ≠ '-' := by
    intro d hd
    rw [List.mem_singleton.mp hd]
    rcases hc with rfl | rfl | rfl | rfl <;> decide
  have hspace : isSpace c = false := by rcases hc with rfl | rfl | rfl | rfl <;> rfl
  have hupper : upperChar c = ['S'] ∨ upperChar c = ['W'] := by
    rcases hc with rfl | rfl | rfl | rfl
    · exact .inl rfl
    · exact .inl rfl
    · exact .inr rfl
    · exact .inr rfl
  have hdrop := dropComments_append hplain s
  rw [List.singleton_append, List.singleton_append] at hdrop
  rw [hdrop, startsWithVerb_iff, firstToken, lstrip_cons_of_not_isSpace hspace,
    List.takeWhile_cons_of_pos (by rw [hspace]; rfl), upper, List.flatMap_cons]
  intro hv
  obtain ⟨hS, hW⟩ := head?_of_mem_writeVerbs _ hv
  rcases hupper with h | h
  · exact hS (by rw [h]; rfl)
  · exact hW (by rw [h]; rfl)

theorem not_startsWithVerb_selectInto {ctes : List Cte} {items target sources : List Tok} (hl : ScannedGap lead)
    (hb : Renders (SqlStatement.selectInto ctes items target sources).tokens body) :
    ¬ StartsWithVerb (dropComments (lead ++ body)) := by
  have hletter : ∃ c rest, (c = 's' ∨ c = 'S' ∨ c = 'w' ∨ c = 'W') ∧ body = c :: rest := by
    obtain ⟨toks, htoks | htoks⟩ := tokens_selectInto ctes items target sources
    · rw [htoks] at hb
      obtain ⟨d, rest, hd, hs⟩ := hb.exists_letter
      have hcase := eq_or_eq_of_toLower (e := 'S') hd rfl
      exact ⟨d, rest, by tauto, hs⟩
    · rw [htoks] at hb
      obtain ⟨d, rest, hd, hs⟩ := hb.exists_letter
      have hcase := eq_or_eq_of_toLower (e := 'W') hd rfl
      exact ⟨d, rest, by tauto, hs⟩
  obtain ⟨c, rest, hc, rfl⟩ := hletter
  rw [startsWithVerb_iff, hl.firstToken_dropComments, ← startsWithVerb_iff]
  exact not_startsWithVerb_of_letter hc rest

def HasDeniedWord (s : Str) : Prop :=
  searchWords blockedVerbs s = true ∨ searchWords ["xp_cmdshell".toList] s = true

theorem denied_iff_hasDeniedWord (hp : policy.blockedSqlPatterns = shippedPatterns) :
    Denied policy s ↔ HasDeniedWord s := by
  simp [Denied, HasDeniedWord, hp, shippedPatterns]

theorem enforce_eq_error_iff : enforce policy toolName s ≠ .ok () ↔
    ∃ message, enforce policy toolName s = .error (permissionError message) := by
  unfold enforce
  split
  · simp
  · split <;> simp

/-- The gate stops a writing statement for a denied word in its text, which every form but
`SELECT INTO` and `EXECUTE` has in its own verb, or for the first word that its scans leave. -/
theorem enforce_denies_iff (hmode : policy.writeModeDefault = "deny".toList)
    (hp : policy.blockedSqlPatterns = shippedPatterns) (htool : toolName ∉ policy.allowedWriteTools)
    (hw : S.Writes) (hl : Gap lead) (hb : Renders S.tokens body) :
    (∃ message, enforce policy toolName (lead ++ body) = .error (permissionError message)) ↔
      S.Denylisted ∨ HasDeniedWord (lead ++ body) ∨
        (S.Executes ∨ ¬ ScannedGap lead) ∧ StartsWithVerb (dropComments (lead ++ body)) := by
  have hverb : firstVerb (lead ++ body) ∈ writeVerbs ↔ StartsWithVerb (dropComments (lead ++ body)) := by
    rw [startsWithVerb_iff, firstVerb, firstToken_strip]
    rfl
  rw [← enforce_eq_error_iff, enforce_ne_ok hmode htool, denied_iff_hasDeniedWord hp, hverb]
  constructor
  · intro h
    rcases h with h | h
    · exact .inr (.inl h)
    · by_cases hd : S.Denylisted
      · exact .inl hd
      · refine .inr (.inr ⟨?_, h⟩)
        cases S with
        | select _ _ _ => exact hw.elim
        | selectInto ctes items target sources =>
          exact .inr (fun hg ↦ not_startsWithVerb_selectInto hg hb h)
        | change _ _ _ => exact absurd trivial hd
        | truncateTable _ => exact absurd trivial hd
        | define _ _ => exact absurd trivial hd
        | exec _ => exact .inl trivial
        | execute _ => exact .inl trivial
  · intro h
    rcases h with h | h | h
    · obtain ⟨w, hw, hm⟩ := h.mem_tokens
      exact .inl (.inl (hb.searchWords hl hw hm))
    · exact .inl h
    · exact .inr h.2

end UnicodeData

def dropProcedure : SqlStatement := .define .drop [kw "procedure", .word "p".toList]

theorem renders_dropProcedure : let _ := asciiData; Renders dropProcedure.tokens "DROP PROCEDURE p".toList := by
  intro U
  have hdrop : Spells (kw "drop") "DROP".toList := .keyword (by decide) (by decide) rfl
  have hprocedure : Spells (kw "procedure") "PROCEDURE".toList := .keyword (by decide) (by decide) rfl
  have hp : Spells (.word "p".toList) "p".toList := .word (by decide) (by decide)
  exact .blank hdrop (.blank hprocedure (.single hp))

theorem enforce_denies_iff_drop : let _ := asciiData
    (∃ message, enforce shippedPolicy selectTool "DROP PROCEDURE p".toList = .error (permissionError message)) ↔
      dropProcedure.Denylisted ∨ HasDeniedWord "DROP PROCEDURE p".toList ∨
        (dropProcedure.Executes ∨ ¬ ScannedGap []) ∧ StartsWithVerb (dropComments "DROP PROCEDURE p".toList) := by
  intro U
  have hmode : shippedPolicy.writeModeDefault = "deny".toList := rfl
  have htool : selectTool ∉ shippedPolicy.allowedWriteTools := by decide
  have hwrites : dropProcedure.Writes := trivial
  have hdenied := enforce_denies_iff hmode rfl htool hwrites .nil renders_dropProcedure
  exact hdenied

def copyTable : SqlStatement :=
  .selectInto [] [.symbol '*'] [.word "t".toList] [.word "u".toList]

theorem enforce_misses_select_into :
    ¬ ∀ [UnicodeData] (policy : RuntimePolicy) (toolName : Str) (S : SqlStatement) (lead body : Str),
      policy.writeModeDefault = "deny".toList → policy.blockedSqlPatterns = shippedPatterns →
      toolName ∉ policy.allowedWriteTools → S.Writes → Gap lead → Renders S.tokens body →
      ∃ message, enforce policy toolName (lead ++ body) = .error (permissionError message) := by
  intro h
  let _ := asciiData
  have hselect : Spells (kw "select") "SELECT".toList := .keyword (by decide) (by decide) rfl
  have hstar : Spells (.symbol '*') "*".toList := .symbol rfl rfl (by decide)
  have hinto : Spells (kw "into") "INTO".toList := .keyword (by decide) (by decide) rfl
  have ht : Spells (.word "t".toList) "t".toList := .word (by decide) (by decide)
  have hfrom : Spells (kw "from") "FROM".toList := .keyword (by decide) (by decide) rfl
  have hu : Spells (.word "u".toList) "u".toList := .word (by decide) (by decide)
  have hb : Renders copyTable.tokens "SELECT * INTO t FROM u".toList :=
    .blank hselect (.blank hstar (.blank hinto (.blank ht (.blank hfrom (.single hu)))))
  obtain ⟨message, hm⟩ := h shippedPolicy selectTool copyTable [] _ rfl rfl (by decide) trivial .nil hb
  have hok : enforce shippedPolicy selectTool "SELECT * INTO t FROM u".toList = .ok () := by decide +kernel
  rw [List.nil_append, hok] at hm
  cases hm

end McpSqlServer

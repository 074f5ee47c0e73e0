import McpSqlServer.Models
import McpSqlServer.Library.Python.Exc
import McpSqlServer.Library.Sql.Comments
import McpSqlServer.Library.Text.Split

namespace McpSqlServer

open Library.Text Library.Python Library.Sql

/-- `re.sub(r"/\*.*?\*/", "", sql, flags=re.S)`: an opener starts a match only where a
closer follows, and the first closer ends it. -/
def dropBlockComments (inside : Bool) : Str → Str
  | [] => []
  | [c] => if inside then [] else [c]
  | c :: d :: s =>
    if inside then if c = '*' ∧ d = '/' then dropBlockComments false s else dropBlockComments true (d :: s)
    else if c = '/' ∧ d = '*' ∧ hasPair '*' '/' s then dropBlockComments true s
    else c :: dropBlockComments false (d :: s)

def dropLineComments : Bool → Str → Str
  | _, [] => []
  | true, c :: s => if c = '\n' then c :: dropLineComments false s else dropLineComments true s
  | false, [c] => [c]
  | false, c :: d :: s =>
    if c = '-' ∧ d = '-' then dropLineComments true s else c :: dropLineComments false (d :: s)

def writeVerbs : List Str :=
  ["INSERT".toList, "UPDATE".toList, "DELETE".toList, "MERGE".toList, "EXEC".toList, "EXECUTE".toList,
    "CREATE".toList, "ALTER".toList, "DROP".toList, "TRUNCATE".toList]

def matchModes : List Str := ["strict".toList, "default_schema_expand".toList]

def dropBrackets (s : Str) : Str := s.filter (fun c ↦ c ≠ '[' && c ≠ ']')

variable [UnicodeData]

def firstVerb (sql : Str) : Str :=
  upper (firstToken (strip (dropLineComments false (dropBlockComments false sql))))

def enforce (policy : RuntimePolicy) (toolName sql : Str) : Except Exc Unit :=
  if policy.blockedSqlPatterns.any (fun search ↦ search sql) then
    .error (permissionError "SQL blocked by denylist policy".toList)
  else if policy.writeModeDefault = "deny".toList ∧ firstVerb sql ∈ writeVerbs ∧
      toolName ∉ policy.allowedWriteTools then
    .error (permissionError ("Write blocked by policy for tool ".toList ++ toolName))
  else .ok ()

def Denied (policy : RuntimePolicy) (sql : Str) : Prop :=
  policy.blockedSqlPatterns.any (fun search ↦ search sql) = true

theorem enforce_eq_ok {policy : RuntimePolicy} {toolName sql : Str} :
    enforce policy toolName sql = .ok () ↔ ¬ Denied policy sql ∧
      (policy.writeModeDefault = "deny".toList → toolName ∉ policy.allowedWriteTools →
        firstVerb sql ∉ writeVerbs) := by
  unfold enforce Denied
  split
  · rename_i hd
    simp only [reduceCtorEq, hd, not_true_eq_false, false_and]
  · rename_i hd
    split
    · rename_i hw
      simp only [reduceCtorEq, false_iff, not_and, not_forall, not_not]
      exact fun _ ↦ ⟨hw.1, hw.2.2, hw.2.1⟩
    · rename_i hw
      refine iff_of_true rfl ⟨hd, fun hm ht hv ↦ hw ⟨hm, hv, ht⟩⟩

theorem enforce_ne_ok {policy : RuntimePolicy} {toolName sql : Str}
    (hmode : policy.writeModeDefault = "deny".toList) (htool : toolName ∉ policy.allowedWriteTools) :
    enforce policy toolName sql ≠ .ok () ↔ Denied policy sql ∨ firstVerb sql ∈ writeVerbs := by
  rw [ne_eq, enforce_eq_ok, not_and_or, not_not, or_congr_right]
  exact ⟨fun h ↦ by_contra (fun hv ↦ h (fun _ _ ↦ hv)), fun hv h ↦ h hmode htool hv⟩

def dottedParts (s : Str) : List Str := (s.splitOn '.').filter (fun w ↦ !w.isEmpty)

def normalizeProcName (name mode defaultSchema : Str) : Str :=
  match (dottedParts (dropBrackets (lower (strip name)))).reverse with
  | [] => []
  | [part] => if mode = "default_schema_expand".toList then defaultSchema ++ '.' :: part else part
  | last :: schema :: _ => schema ++ '.' :: last

def orDefault (s default : Str) : Str := if s.isEmpty then default else s

def RuntimePolicy.matchMode (policy : RuntimePolicy) : Str :=
  let mode := lower (strip (orDefault policy.procedureNameMatchMode "default_schema_expand".toList))
  if mode ∈ matchModes then mode else "default_schema_expand".toList

def RuntimePolicy.defaultSchema (policy : RuntimePolicy) : Str :=
  lower (strip (orDefault policy.procedureDefaultSchema "dbo".toList))

def RuntimePolicy.procedureEntries (policy : RuntimePolicy) (toolName : Str) : List Str :=
  let config := (policy.allowedTools.lookup toolName).getD []
  (config.lookup "allowed_procedures".toList).getD [] ++ (config.lookup "allowlist".toList).getD []

def RuntimePolicy.normalize (policy : RuntimePolicy) (name : Str) : Str :=
  normalizeProcName name policy.matchMode policy.defaultSchema

def validateProcedure (policy : RuntimePolicy) (toolName procName : Str) : Except Exc Unit :=
  match policy.allowedTools.lookup toolName with
  | none => .error (permissionError ("Procedure execution not configured for tool ".toList ++ toolName))
  | some toolConfig =>
    let allowedProcedures := (toolConfig.lookup "allowed_procedures".toList).getD []
    let toolAllowlist := (toolConfig.lookup "allowlist".toList).getD []
    if policy.normalize procName ∉ allowedProcedures.map policy.normalize ∧
        policy.normalize procName ∉ toolAllowlist.map policy.normalize then
      .error (permissionError ("Procedure ".toList ++ procName ++
        " is not in the allowed procedures list for tool ".toList ++ toolName))
    else .ok ()

theorem validateProcedure_eq_ok {policy : RuntimePolicy} {toolName procName : Str} :
    validateProcedure policy toolName procName = .ok () ↔
      ∃ e ∈ policy.procedureEntries toolName, policy.normalize e = policy.normalize procName := by
  unfold validateProcedure RuntimePolicy.procedureEntries
  cases policy.allowedTools.lookup toolName with
  | none => simp only [reduceCtorEq, Option.getD_none, List.lookup_nil, List.append_nil, List.not_mem_nil,
      false_and, exists_false]
  | some config =>
    simp only [Option.getD_some, List.mem_append, List.mem_map, ite_eq_right_iff, reduceCtorEq, imp_false,
      not_and_or, not_not]
    constructor
    · rintro (⟨e, he, hn⟩ | ⟨e, he, hn⟩)
      · exact ⟨e, .inl he, hn⟩
      · exact ⟨e, .inr he, hn⟩
    · rintro ⟨e, he | he, hn⟩
      · exact .inl ⟨e, he, hn⟩
      · exact .inr ⟨e, he, hn⟩

end McpSqlServer

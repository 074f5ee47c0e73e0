import McpSqlServer.Library.Cut
import McpSqlServer.Tools.Catalog

namespace McpSqlServer

open Library Library.Text Library.Python

/-- The equality of names under the collation of the catalog. -/
structure Collation where
  same : Str → Str → Bool
  refl : ∀ s, same s s = true

/-- A column as `datatype_inconsistency_query` sees it; the names of its table are null without permission. -/
structure FkColumn where
  schemaName : Option Str
  tableName : Option Str
  columnName : Str
  typeName : Str
  maxLength : ℤ
  precision : ℤ
  scale : ℤ

structure FkColumnPair where
  fkName : Str
  child : FkColumn
  parent : FkColumn

namespace FkColumnPair

def stringTypes : List Str :=
  ["char".toList, "varchar".toList, "nchar".toList, "nvarchar".toList, "binary".toList, "varbinary".toList]

def decimalTypes : List Str := ["decimal".toList, "numeric".toList]

def bothIn (collation : Collation) (types : List Str) (pair : FkColumnPair) : Bool :=
  types.any (collation.same pair.child.typeName) && types.any (collation.same pair.parent.typeName)

/-- The `WHERE` clause of `datatype_inconsistency_query`. -/
def inconsistent (collation : Collation) (pair : FkColumnPair) : Bool :=
  !collation.same pair.child.typeName pair.parent.typeName ||
    (bothIn collation stringTypes pair && pair.child.maxLength ≠ pair.parent.maxLength) ||
    (bothIn collation decimalTypes pair &&
      (pair.child.precision ≠ pair.parent.precision || pair.child.scale ≠ pair.parent.scale))

def nullable (name : Option Str) : Value := name.elim .none .str

/-- The row that the query selects; the scale is not in it. -/
def row (pair : FkColumnPair) : Row :=
  [("fk_name".toList, .str pair.fkName), ("child_schema".toList, nullable pair.child.schemaName),
    ("child_table".toList, nullable pair.child.tableName), ("child_column".toList, .str pair.child.columnName),
    ("child_type".toList, .str pair.child.typeName), ("child_max_length".toList, .int pair.child.maxLength),
    ("child_precision".toList, .int pair.child.precision), ("parent_schema".toList, nullable pair.parent.schemaName),
    ("parent_table".toList, nullable pair.parent.tableName), ("parent_column".toList, .str pair.parent.columnName),
    ("parent_type".toList, .str pair.parent.typeName), ("parent_max_length".toList, .int pair.parent.maxLength),
    ("parent_precision".toList, .int pair.parent.precision)]

structure DiffersInScaleOnly (pair : FkColumnPair) : Prop where
  typeName : pair.child.typeName = pair.parent.typeName
  maxLength : pair.child.maxLength = pair.parent.maxLength
  precision : pair.child.precision = pair.parent.precision
  scale : pair.child.scale ≠ pair.parent.scale

end FkColumnPair

/-- The result of `datatype_inconsistency_query(top_n)`, the pairs being in its order. -/
def datatypeInconsistencyRows (collation : Collation) (topN : ℕ) (pairs : List FkColumnPair) : List Row :=
  ((pairs.filter (·.inconsistent collation)).map FkColumnPair.row).take topN

def cellEq : Value → Value → Bool
  | .none, .none => true
  | .bool a, .bool b => a = b
  | .int m, .int n => m = n
  | .bool a, .int n => (a.toNat : ℤ) = n
  | .int m, .bool b => m = (b.toNat : ℤ)
  | .str s, .str t => s = t
  | .object s, .object t => s = t
  | _, _ => false

def sidesEq (column : String) (row : Row) : Bool :=
  cellEq (row.get ("child_".toList ++ column.toList)) (row.get ("parent_".toList ++ column.toList))

def typeMismatch (row : Row) : Bool := !sidesEq "type" row

def sizeMismatch (row : Row) : Bool := !sidesEq "max_length" row || !sidesEq "precision" row

structure DatatypeConsistency where
  typeMismatches : List Row
  lengthMismatches : List Row
  mismatchCount : ℕ
  advices : List Advice

section Findings

variable (containerText : Value → Str)

def sideText (side column : String) (row : Row) : Str :=
  pyStr containerText (row.get (side.toList ++ ['_'] ++ column.toList))

def describeSide (withSize : Bool) (side : String) (row : Row) : Str :=
  sideText containerText side "schema" row ++ ['.'] ++ sideText containerText side "table" row ++ ['.'] ++
    sideText containerText side "column" row ++ " (".toList ++ sideText containerText side "type" row ++
    (if withSize then " len=".toList ++ sideText containerText side "max_length" row ++ " prec=".toList ++
      sideText containerText side "precision" row else []) ++ [')']

def mismatchEvidence (withSize : Bool) (row : Row) : Row :=
  [("fk".toList, row.get "fk_name".toList), ("child".toList, .str (describeSide containerText withSize "child" row)),
    ("parent".toList, .str (describeSide containerText withSize "parent" row))]

def explicitInconsistency (rows : List Row) : List Advice :=
  adviceIf (!rows.isEmpty)
    { code := "DATATYPE_INCONSISTENCY_EXPLICIT".toList, severity := if 3 ≤ rows.length then .high else .medium,
      title := intText rows.length ++ " FK relationship(s) with mismatched base types".toList,
      detail := ("The child FK column and the referenced parent column have different base types. " ++
        "SQL Server performs implicit conversion on every join, reducing plan quality and causing index scan " ++
        "instead of seek.").toList,
      evidence := (rows.take 20).map (mismatchEvidence containerText false),
      action := "Align FK column types to match the referenced parent column type exactly.".toList,
      rationale := ("Implicit type conversions in FK joins prevent index seeks, increasing CPU and I/O for every " ++
        "join query.").toList }

def implicitInconsistency (rows : List Row) : List Advice :=
  adviceIf (!rows.isEmpty)
    { code := "DATATYPE_INCONSISTENCY_IMPLICIT".toList, severity := .low,
      title := intText rows.length ++ " FK relationship(s) with mismatched length or precision".toList,
      detail := ("The child FK column shares the same base type as the parent but differs in max_length or " ++
        "precision. This can cause silent truncation or implicit conversions.").toList,
      evidence := (rows.take 20).map (mismatchEvidence containerText true),
      action := "Standardize FK column lengths and precision to match the referenced column definition.".toList,
      rationale := ("Consistent column sizes prevent silent truncation and avoid conversion overhead in join " ++
        "predicates.").toList }

def classifyDatatypes (rows : List Row) : DatatypeConsistency :=
  let typeMismatches := rows.filter typeMismatch
  let lengthMismatches := rows.filter (fun row ↦ !typeMismatch row && sizeMismatch row)
  { typeMismatches := typeMismatches
    lengthMismatches := lengthMismatches
    mismatchCount := rows.length
    advices := explicitInconsistency containerText typeMismatches ++ implicitInconsistency containerText lengthMismatches }

end Findings

section UnicodeData

variable [UnicodeData] (containerText : Value → Str)

def fkInSchema (schemaFilter : Option Str) : Row → Bool :=
  namedBy containerText schemaFilter ["child_schema".toList, "parent_schema".toList]

/-- `_subtool_analyze_datatype_consistency` on the rows of its query. -/
def datatypeConsistency (schemaFilter : Option Str) (result : List Row) : DatatypeConsistency :=
  classifyDatatypes containerText (result.filter (fkInSchema containerText schemaFilter))

/-- The rows of `matching` are put in one class each; the count is that of the two classes, and positive only
with a finding. -/
structure FullyClassified (matching : List Row) (result : DatatypeConsistency) : Prop where
  classified : (result.typeMismatches ++ result.lengthMismatches).Perm matching
  counted : result.mismatchCount = result.typeMismatches.length + result.lengthMismatches.length
  found : result.mismatchCount ≠ 0 → result.advices ≠ []

section Proofs

variable {containerText} {collation : Collation} {schemaFilter : Option Str} {pairs : List FkColumnPair}
  {pair : FkColumnPair}

omit [UnicodeData] in
theorem typeMismatch_row (pair : FkColumnPair) :
    typeMismatch pair.row = !decide (pair.child.typeName = pair.parent.typeName) := rfl

omit [UnicodeData] in
theorem sizeMismatch_row (pair : FkColumnPair) :
    sizeMismatch pair.row = (!decide (pair.child.maxLength = pair.parent.maxLength) ||
      !decide (pair.child.precision = pair.parent.precision)) := rfl

omit [UnicodeData] in
/-- Of the pairs that the query selects those are in no class that differ in scale only. -/
theorem classified_iff (h : pair.inconsistent collation = true) :
    (typeMismatch pair.row = true ∨ sizeMismatch pair.row = true) ↔ ¬ pair.DiffersInScaleOnly := by
  rw [typeMismatch_row, sizeMismatch_row]
  constructor
  · intro hclass hscale
    simp [hscale.typeName, hscale.maxLength, hscale.precision] at hclass
  · intro hscale
    by_contra hclass
    simp only [Bool.not_eq_true', decide_eq_false_iff_not, Bool.or_eq_true, not_or, not_not] at hclass
    obtain ⟨htype, hlength, hprecision⟩ := hclass
    apply hscale
    refine ⟨htype, hlength, hprecision, fun hs ↦ ?_⟩
    have hsame : collation.same pair.child.typeName pair.parent.typeName = true := by
      rw [htype]
      exact collation.refl _
    simp [FkColumnPair.inconsistent, hsame, hlength, hprecision, hs] at h

omit [UnicodeData] in
theorem classifyDatatypes_advices {rows : List Row} :
    (classifyDatatypes containerText rows).advices = [] ↔
      (classifyDatatypes containerText rows).typeMismatches = [] ∧
        (classifyDatatypes containerText rows).lengthMismatches = [] := by
  rw [classifyDatatypes, List.append_eq_nil_iff, explicitInconsistency, implicitInconsistency, adviceIf_eq_nil_iff,
    adviceIf_eq_nil_iff, not_isEmpty_eq_false_iff, not_isEmpty_eq_false_iff]

omit [UnicodeData] in
theorem FullyClassified.of_perm {matching rows : List Row}
    (hperm : ((classifyDatatypes containerText rows).typeMismatches ++
      (classifyDatatypes containerText rows).lengthMismatches).Perm matching)
    (hcount : rows.length = matching.length) : FullyClassified matching (classifyDatatypes containerText rows) := by
  have hsum := hperm.length_eq
  rw [List.length_append] at hsum
  refine ⟨hperm, hcount.trans hsum.symm, fun hne hnil ↦ hne ?_⟩
  obtain ⟨ht, hl⟩ := classifyDatatypes_advices.mp hnil
  rw [ht, hl] at hsum
  exact hcount.trans hsum.symm

theorem fullyClassified_cut_iff {selected : List FkColumnPair} (n : ℕ)
    (hselected : ∀ pair ∈ selected, pair.inconsistent collation = true) :
    FullyClassified ((selected.map FkColumnPair.row).filter (fkInSchema containerText schemaFilter))
        (datatypeConsistency containerText schemaFilter ((selected.map FkColumnPair.row).take n)) ↔
      (∀ pair ∈ selected.drop n, fkInSchema containerText schemaFilter pair.row = false) ∧
      ∀ pair ∈ selected.take n, fkInSchema containerText schemaFilter pair.row = true → ¬ pair.DiffersInScaleOnly := by
  have hcut := classes_of_cut_perm_iff typeMismatch sizeMismatch (fkInSchema containerText schemaFilter)
    (selected.map FkColumnPair.row) n
  simp only [← List.map_drop, ← List.map_take, List.mem_filter, List.mem_map, and_imp, forall_exists_index,
    forall_apply_eq_imp_iff₂] at hcut
  rw [← List.map_take]
  constructor
  · intro h
    obtain ⟨hdrop, hclass⟩ := hcut.mp h.classified
    exact ⟨hdrop, fun pair hpair hin ↦
      (classified_iff (hselected pair (List.mem_of_mem_take hpair))).mp (hclass pair hpair hin)⟩
  · intro h
    have hperm := hcut.mpr ⟨h.1, fun pair hpair hin ↦
      (classified_iff (hselected pair (List.mem_of_mem_take hpair))).mpr (h.2 pair hpair hin)⟩
    have hrows : ∀ row ∈ (selected.map FkColumnPair.row).drop n, fkInSchema containerText schemaFilter row = false := by
      rw [← List.map_drop]
      exact List.forall_mem_map.mpr h.1
    apply FullyClassified.of_perm hperm
    rw [List.map_take, filter_take_eq hrows]

/-- All inconsistent pairs of the filtered schema are reported exactly if none of them stands behind the first 200
rows of the query and none of those rows differs in scale only. -/
theorem datatypeConsistency_iff (collation : Collation) (schemaFilter : Option Str) (pairs : List FkColumnPair) :
    FullyClassified
        (((pairs.filter (·.inconsistent collation)).map FkColumnPair.row).filter (fkInSchema containerText schemaFilter))
        (datatypeConsistency containerText schemaFilter ((datatypeInconsistencyRows collation 200 pairs).take 200)) ↔
      (∀ pair ∈ (pairs.filter (·.inconsistent collation)).drop 200,
        fkInSchema containerText schemaFilter pair.row = false) ∧
      ∀ pair ∈ (pairs.filter (·.inconsistent collation)).take 200,
        fkInSchema containerText schemaFilter pair.row = true → ¬ pair.DiffersInScaleOnly := by
  rw [datatypeInconsistencyRows, List.take_take, Nat.min_self]
  exact fullyClassified_cut_iff 200 (fun pair hpair ↦ (List.mem_filter.mp hpair).2)

end Proofs

end UnicodeData

def decimalPair : FkColumnPair where
  fkName := "fk".toList
  child := ⟨some "dbo".toList, some "Line".toList, "Price".toList, "decimal".toList, 9, 10, 2⟩
  parent := ⟨some "dbo".toList, some "Item".toList, "Price".toList, "decimal".toList, 9, 10, 4⟩

def caseSensitive : Collation := ⟨fun s t ↦ s = t, fun _ ↦ decide_eq_true rfl⟩

theorem datatypeConsistency_misses_scale :
    let _ := asciiData
    ¬ FullyClassified
      ((([decimalPair].filter (·.inconsistent caseSensitive)).map FkColumnPair.row).filter (fkInSchema (fun _ ↦ []) none))
      (datatypeConsistency (fun _ ↦ []) none ((datatypeInconsistencyRows caseSensitive 200 [decimalPair]).take 200)) := by
  intro U h
  exact absurd h.counted (by decide)

end McpSqlServer

import McpSqlServer.Tools.ModelGraph

namespace McpSqlServer

open Library Library.Text Library.Python

section UnicodeData

variable [UnicodeData] (containerText : Value → Str) (order : SetOrder Str)

def inSchema (schemaFilter key : Str) (row : Row) : Bool :=
  lower (pyStr containerText ((row.lookup key).getD (.str []))) = lower schemaFilter

def touchesSchema (schemaFilter : Str) (row : Row) : Bool :=
  inSchema containerText schemaFilter "parent_schema".toList row ||
    inSchema containerText schemaFilter "referenced_schema".toList row

def filterBySchema (schemaFilter : Option Str) (rows : List Row) : List Row :=
  match schemaFilter with
  | none => rows
  | some schemaFilter => if schemaFilter.isEmpty then rows else rows.filter (touchesSchema containerText schemaFilter)

def dataModelGraph (depth : ℕ) (schemaFilter : Option Str) (rows : List Row) : Option FkGraph :=
  buildFkGraph containerText order depth (filterBySchema containerText schemaFilter rows)

def TableOf (schemaFilter : Str) (rows : List Row) (label : Str) : Prop :=
  ∃ row ∈ rows, (inSchema containerText schemaFilter "parent_schema".toList row = true ∧ parentLabel containerText row = label) ∨
    (inSchema containerText schemaFilter "referenced_schema".toList row = true ∧ referencedLabel containerText row = label)

/-- A foreign key between tables labelled `a` and `b` has one of its two tables in the schema. -/
def ReferencesTouching (schemaFilter : Str) (rows : List Row) (a b : Str) : Prop :=
  ∃ row ∈ rows, touchesSchema containerText schemaFilter row = true ∧ parentLabel containerText row = a ∧
    referencedLabel containerText row = b

section Filter

variable {containerText} {schemaFilter : Str} {rows : List Row} {a b : Str}

theorem references_filter_iff (hs : schemaFilter ≠ []) :
    References containerText (filterBySchema containerText (some schemaFilter) rows) a b ↔
      ReferencesTouching containerText schemaFilter rows a b := by
  have hne : schemaFilter.isEmpty = false := List.isEmpty_eq_false_iff.mpr hs
  simp only [References, ReferencesTouching, filterBySchema, hne, Bool.false_eq_true, if_false, List.mem_filter, and_assoc]

theorem ReferencesTouching.references (h : ReferencesTouching containerText schemaFilter rows a b) :
    References containerText rows a b := by
  obtain ⟨row, hrow, -, ha, hb⟩ := h
  exact ⟨row, hrow, ha, hb⟩

end Filter

/-- With a schema filter the tables of the schema that are reported are those on a cycle of
foreign keys that all touch the schema; each of them is reported without the filter as well. -/
theorem dataModelGraph_filter (schemaFilter : Str) (rows : List Row) (hs : schemaFilter ≠ []) :
    ∃ filtered full, (∀ depth, filtered.nodeCount ≤ depth →
        dataModelGraph containerText order depth (some schemaFilter) rows = some filtered) ∧
      (∀ depth, full.nodeCount ≤ depth → dataModelGraph containerText order depth none rows = some full) ∧
      ∀ label, TableOf containerText schemaFilter rows label →
        (label ∈ filtered.circularDependencyTables ↔ OnCycle (ReferencesTouching containerText schemaFilter rows) label) ∧
        (label ∈ filtered.circularDependencyTables → label ∈ full.circularDependencyTables) := by
  obtain ⟨filtered, hfiltered, -, hcycle, -⟩ :=
    buildFkGraph_reports containerText order (filterBySchema containerText (some schemaFilter) rows)
  obtain ⟨full, hfull, -, hcycle', -⟩ := buildFkGraph_reports containerText order rows
  have hedge : References containerText (filterBySchema containerText (some schemaFilter) rows) =
      ReferencesTouching containerText schemaFilter rows := by
    funext a b
    exact propext (references_filter_iff hs)
  rw [hedge] at hcycle
  refine ⟨filtered, full, hfiltered, hfull, fun label _ ↦ ⟨hcycle label, fun h ↦ ?_⟩⟩
  exact (hcycle' label).mpr (((hcycle label).mp h).mono (fun _ _ ↦ ReferencesTouching.references))

end UnicodeData

def fkRow (s a t b : String) : Row :=
  [("fk_name".toList, .str "fk".toList), ("parent_schema".toList, .str s.toList), ("parent_table".toList, .str a.toList),
    ("referenced_schema".toList, .str t.toList), ("referenced_table".toList, .str b.toList)]

def insertionOrder : SetOrder Str := ⟨id, fun _ ↦ .refl _⟩

def threeSchemas : List Row := [fkRow "s" "A" "t" "B", fkRow "t" "B" "u" "C", fkRow "u" "C" "s" "A"]

theorem not_onCycle_touching :
    let _ := asciiData
    ¬ OnCycle (ReferencesTouching (fun _ ↦ []) "s".toList threeSchemas) "s.A".toList := by
  intro U h
  have hedge : ∀ a b, ReferencesTouching (fun _ ↦ []) "s".toList threeSchemas a b →
      (a = "s.A".toList ∧ b = "t.B".toList) ∨ (a = "u.C".toList ∧ b = "s.A".toList) := by
    rintro a b ⟨row, hrow, htouch, rfl, rfl⟩
    simp only [threeSchemas, List.mem_cons, List.not_mem_nil, or_false] at hrow
    rcases hrow with rfl | rfl | rfl
    · exact .inl ⟨rfl, rfl⟩
    · exact absurd htouch (by decide)
    · exact .inr ⟨rfl, rfl⟩
  obtain ⟨b, hb, hback⟩ := Relation.TransGen.head'_iff.mp (onCycle_iff_transGen.mp h)
  rcases hedge _ _ hb with ⟨-, rfl⟩ | ⟨ha, -⟩
  · rcases Relation.ReflTransGen.cases_head hback with he | ⟨c, hc, -⟩
    · exact absurd he (by decide)
    · rcases hedge _ _ hc with ⟨ha, -⟩ | ⟨ha, -⟩
      · exact absurd ha (by decide)
      · exact absurd ha (by decide)
  · exact absurd ha (by decide)

theorem dataModelGraph_loses_cycle :
    let _ := asciiData
    ∃ filtered full, dataModelGraph (fun _ ↦ []) insertionOrder filtered.nodeCount (some "s".toList) threeSchemas = some filtered ∧
      dataModelGraph (fun _ ↦ []) insertionOrder full.nodeCount none threeSchemas = some full ∧
      TableOf (fun _ ↦ []) "s".toList threeSchemas "s.A".toList ∧
      "s.A".toList ∈ full.circularDependencyTables ∧ "s.A".toList ∉ filtered.circularDependencyTables := by
  intro U
  obtain ⟨filtered, hfiltered, -, hcycle, -⟩ := buildFkGraph_reports (fun _ ↦ []) insertionOrder
    (filterBySchema (fun _ ↦ []) (some "s".toList) threeSchemas)
  obtain ⟨full, hfull, -, hcycle', -⟩ := buildFkGraph_reports (fun _ ↦ []) insertionOrder threeSchemas
  refine ⟨filtered, full, hfiltered _ le_rfl, hfull _ le_rfl, ⟨_, List.mem_cons_self, .inl ⟨rfl, rfl⟩⟩, ?_, fun h ↦ ?_⟩
  · have hA : References (fun _ ↦ []) threeSchemas "s.A".toList "t.B".toList := ⟨_, List.mem_cons_self, rfl, rfl⟩
    have hB : References (fun _ ↦ []) threeSchemas "t.B".toList "u.C".toList :=
      ⟨_, List.mem_cons_of_mem _ List.mem_cons_self, rfl, rfl⟩
    have hC : References (fun _ ↦ []) threeSchemas "u.C".toList "s.A".toList :=
      ⟨_, List.mem_cons_of_mem _ (List.mem_cons_of_mem _ List.mem_cons_self), rfl, rfl⟩
    exact (hcycle' _).mpr (onCycle_iff_transGen.mpr (.head hA (.head hB (.single hC))))
  · obtain ⟨path, hnodup, hchain⟩ := (hcycle _).mp h
    refine not_onCycle_touching ⟨path, hnodup, hchain.imp (fun a b hab ↦ ?_)⟩
    exact (references_filter_iff (by decide)).mp hab

theorem dataModelGraph_filter_threeSchemas :
    let _ := asciiData
    ∃ filtered, dataModelGraph (fun _ ↦ []) insertionOrder filtered.nodeCount (some "s".toList) threeSchemas = some filtered ∧
      ("s.A".toList ∈ filtered.circularDependencyTables ↔
        OnCycle (ReferencesTouching (fun _ ↦ []) "s".toList threeSchemas) "s.A".toList) := by
  intro U
  obtain ⟨filtered, full, hrun, -, htable⟩ := dataModelGraph_filter (fun _ ↦ []) insertionOrder "s".toList threeSchemas
    (by decide)
  exact ⟨filtered, hrun _ le_rfl, (htable _ ⟨_, List.mem_cons_self, .inl ⟨rfl, rfl⟩⟩).1⟩

end McpSqlServer

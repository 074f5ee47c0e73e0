import McpSqlServer.Library.DirectedCycle
import McpSqlServer.Library.Python.Set
import McpSqlServer.Library.Python.Value
import Mathlib.Data.Char
import Mathlib.Data.Finset.Card
import Mathlib.Data.List.Lex

namespace McpSqlServer

open Library Library.Text Library.Python

variable (containerText : Value → Str) (order : SetOrder Str)

def tableLabel (schemaKey tableKey : Str) (row : Row) : Str :=
  pyStr containerText (row.get schemaKey) ++ ['.'] ++ pyStr containerText (row.get tableKey)

def parentLabel (row : Row) : Str := tableLabel containerText "parent_schema".toList "parent_table".toList row

def referencedLabel (row : Row) : Str := tableLabel containerText "referenced_schema".toList "referenced_table".toList row

/-- An entry of `edges`, with the keys `from`, `to` and `fk_name`. -/
structure FkEdge where
  source : Str
  target : Str
  fkName : Str

def fkEdge (row : Row) : FkEdge where
  source := parentLabel containerText row
  target := referencedLabel containerText row
  fkName := pyStr containerText ((row.lookup "fk_name".toList).getD (.str []))

def addNodes (nodes : List Str) (row : Row) : List Str :=
  (nodes.insert (parentLabel containerText row)).insert (referencedLabel containerText row)

abbrev Adjacency := Dict (List Str)

def Adjacency.targets (adjacency : Adjacency) (current : Str) : List Str := (adjacency.lookup current).getD []

def addEdge (adjacency : Adjacency) (edge : FkEdge) : Adjacency :=
  setItem edge.source ((adjacency.targets edge.source).insert edge.target) adjacency

/-- `_dfs`, as the `cycle_hits` it leaves; no result where the calls nest too deep. -/
def dfs (adjacency : Adjacency) (start : Str) : ℕ → Str → List Str → List Str → Option (List Str)
  | 0, _, _, _ => none
  | depth + 1, current, seen, cycleHits =>
    (order.iterate (adjacency.targets current)).foldlM (fun cycleHits nxt ↦
      let cycleHits := if nxt = start then cycleHits.insert start else cycleHits
      if nxt ∈ seen then some cycleHits
      else dfs adjacency start depth nxt (seen.insert nxt) cycleHits) cycleHits

structure FkGraph where
  nodeCount : ℕ
  edgeCount : ℕ
  circularDependencyTables : List Str
  edges : List FkEdge

/-- `build_fk_graph`, with a bound on how deep the calls of `_dfs` may nest. -/
def buildFkGraph (depth : ℕ) (rows : List Row) : Option FkGraph := do
  let edges := rows.map (fkEdge containerText)
  let nodes := rows.foldl (addNodes containerText) []
  let adjacency := edges.foldl addEdge []
  let cycleHits ← (order.iterate nodes).foldlM (fun cycleHits node ↦ dfs order adjacency node depth node [node] cycleHits) []
  pure { nodeCount := nodes.length, edgeCount := edges.length, edges
         circularDependencyTables := cycleHits.mergeSort (fun v w ↦ decide (v ≤ w)) }

/-- A foreign key of a table labelled `a` references a table labelled `b`. -/
def References (rows : List Row) (a b : Str) : Prop :=
  ∃ row ∈ rows, parentLabel containerText row = a ∧ referencedLabel containerText row = b

section Graph

variable {containerText order} {adjacency : Adjacency} {rows : List Row} {start a b : Str}

theorem mem_targets_addEdge (edge : FkEdge) :
    b ∈ (addEdge adjacency edge).targets a ↔ b ∈ adjacency.targets a ∨ (edge.source = a ∧ edge.target = b) := by
  rw [addEdge, Adjacency.targets, lookup_setItem]
  by_cases ha : a = edge.source
  · rw [if_pos ha, Option.getD_some, List.mem_insert_iff, ha, or_comm]
    exact or_congr_right (by rw [eq_comm, and_iff_right rfl])
  · rw [if_neg ha]
    exact (or_iff_left (fun h ↦ ha h.1.symm)).symm

theorem mem_targets_foldl (edges : List FkEdge) :
    b ∈ (edges.foldl addEdge adjacency).targets a ↔
      b ∈ adjacency.targets a ∨ ∃ edge ∈ edges, edge.source = a ∧ edge.target = b := by
  induction edges generalizing adjacency with
  | nil => simp
  | cons edge edges ih =>
    rw [List.foldl_cons, ih, mem_targets_addEdge, or_assoc]
    simp

theorem mem_targets_iff :
    b ∈ Adjacency.targets ((rows.map (fkEdge containerText)).foldl addEdge []) a ↔ References containerText rows a b := by
  rw [mem_targets_foldl]
  simp [Adjacency.targets, References, fkEdge]

theorem gains_nodes (rows : List Row) (nodes : List Str) :
    Gains (fun a ↦ ∃ row ∈ rows, a = parentLabel containerText row ∨ a = referencedLabel containerText row) nodes
      (rows.foldl (addNodes containerText) nodes) := by
  refine .foldl (fun row nodes ↦ ?_) rows nodes
  exact (Gains.insert (parentLabel containerText row) nodes).trans (.insert (referencedLabel containerText row) _)

/-- Where the calls may nest deeper than there are nodes left to see, the search ends, and
it has hit its start where a simple walk leads back to it. -/
theorem dfs_gains {N : Finset Str} (hN : ∀ a b, b ∈ adjacency.targets a → b ∈ N) (depth : ℕ) (current : Str)
    (seen cycleHits : List Str) (hd : (N \ seen.toFinset).card < depth) :
    ∃ hits, dfs order adjacency start depth current seen cycleHits = some hits ∧
      Gains (fun a ↦ a = start ∧ Leads (fun a b ↦ b ∈ adjacency.targets a) start seen current) cycleHits hits := by
  induction depth generalizing current seen cycleHits with
  | zero => exact absurd hd (Nat.not_lt_zero _)
  | succ depth ih =>
    have hround : ∀ nxt ∈ order.iterate (adjacency.targets current), ∀ cycleHits, ∃ hits,
        (if nxt ∈ seen then some (if nxt = start then List.insert start cycleHits else cycleHits)
          else dfs order adjacency start depth nxt (seen.insert nxt)
            (if nxt = start then List.insert start cycleHits else cycleHits)) = some hits ∧
        Gains (fun a ↦ a = start ∧ (nxt = start ∨ (nxt ∉ seen ∧
          Leads (fun a b ↦ b ∈ adjacency.targets a) start (nxt :: seen) nxt))) cycleHits hits := by
      intro nxt hnxt cycleHits
      have hstart : Gains (fun a ↦ a = start ∧ nxt = start) cycleHits
          (if nxt = start then List.insert start cycleHits else cycleHits) := by
        split
        · rename_i he
          exact (Gains.insert start cycleHits).congr (fun a ↦ (and_iff_left he).symm)
        · rename_i he
          exact (Gains.refl cycleHits).congr (fun a ↦ (iff_false_intro (fun h ↦ he h.2)).symm)
      by_cases hs : nxt ∈ seen
      · rw [if_pos hs]
        refine ⟨_, rfl, hstart.congr (fun a ↦ and_congr_right (fun _ ↦ ?_))⟩
        exact (or_iff_left (fun h ↦ h.1 hs)).symm
      · rw [if_neg hs, List.insert_of_not_mem hs]
        have hless : (N \ (nxt :: seen).toFinset).card < depth := by
          have hmem : nxt ∈ N \ seen.toFinset :=
            Finset.mem_sdiff.mpr ⟨hN current nxt (order.mem_iterate.mp hnxt), fun h ↦ hs (List.mem_toFinset.mp h)⟩
          have herase := Finset.card_erase_lt_of_mem hmem
          rw [← Finset.sdiff_insert, ← List.toFinset_cons] at herase
          omega
        obtain ⟨hits, hrun, hgains⟩ := ih nxt (nxt :: seen) _ hless
        refine ⟨hits, hrun, (hstart.trans hgains).congr (fun a ↦ ?_)⟩
        rw [← and_or_left, and_iff_right hs]
    obtain ⟨hits, hrun, hgains⟩ := Gains.foldlM hround cycleHits
    refine ⟨hits, hrun, hgains.congr (fun a ↦ ?_)⟩
    rw [leads_iff]
    constructor
    · intro ⟨nxt, hnxt, ha, h⟩
      exact ⟨ha, nxt, order.mem_iterate.mp hnxt, h⟩
    · intro ⟨ha, nxt, hnxt, h⟩
      exact ⟨nxt, order.mem_iterate.mpr hnxt, ha, h⟩

theorem dfs_succ {depth : ℕ} {current : Str} {seen cycleHits hits : List Str}
    (h : dfs order adjacency start depth current seen cycleHits = some hits) :
    dfs order adjacency start (depth + 1) current seen cycleHits = some hits := by
  induction depth generalizing current seen cycleHits hits with
  | zero => cases h
  | succ depth ih =>
    rw [dfs] at h ⊢
    refine foldlM_eq_some (fun cycleHits nxt hits hround ↦ ?_) h
    dsimp only at hround ⊢
    by_cases hs : nxt ∈ seen
    · rw [if_pos hs] at hround ⊢
      exact hround
    · rw [if_neg hs] at hround ⊢
      exact ih hround

theorem search_gains {E : Str → Str → Prop} (hE : ∀ a b, b ∈ adjacency.targets a ↔ E a b) {nodes : List Str}
    (hn : nodes.Nodup) (hN : ∀ a b, E a b → a ∈ nodes ∧ b ∈ nodes) :
    ∃ hits, (order.iterate nodes).foldlM (fun cycleHits node ↦
        dfs order adjacency node nodes.length node [node] cycleHits) [] = some hits ∧
      Gains (OnCycle E) [] hits := by
  have hedge : (fun a b ↦ b ∈ adjacency.targets a) = E := by
    funext a b
    exact propext (hE a b)
  have hround : ∀ node ∈ order.iterate nodes, ∀ cycleHits, ∃ hits,
      dfs order adjacency node nodes.length node [node] cycleHits = some hits ∧
        Gains (fun a ↦ a = node ∧ OnCycle E node) cycleHits hits := by
    intro node hnode cycleHits
    have hless : (nodes.toFinset \ [node].toFinset).card < nodes.length := by
      have herase := Finset.card_erase_lt_of_mem (List.mem_toFinset.mpr (order.mem_iterate.mp hnode))
      rwa [List.toFinset_card_of_nodup hn, Finset.erase_eq] at herase
    obtain ⟨hits, hrun, hgains⟩ := @dfs_gains order adjacency node nodes.toFinset
      (fun a b hb ↦ List.mem_toFinset.mpr (hN a b ((hE a b).mp hb)).2) nodes.length node [node] cycleHits hless
    refine ⟨hits, hrun, hgains.congr (fun a ↦ and_congr_right (fun _ ↦ ?_))⟩
    rw [hedge]
    exact leads_self_iff
  obtain ⟨hits, hrun, hgains⟩ := Gains.foldlM hround []
  refine ⟨hits, hrun, hgains.congr (fun a ↦ ?_)⟩
  constructor
  · intro h
    obtain ⟨node, -, rfl, hcycle⟩ := h
    exact hcycle
  · intro hcycle
    obtain ⟨b, hb, -⟩ := leads_iff.mp (leads_self_iff.mpr hcycle)
    exact ⟨a, order.mem_iterate.mpr (hN a b hb).1, rfl, hcycle⟩

/-- The bound on the nesting does not matter where it suffices. -/
theorem buildFkGraph_mono {depth limit : ℕ} (hl : depth ≤ limit) {graph : FkGraph}
    (h : buildFkGraph containerText order depth rows = some graph) :
    buildFkGraph containerText order limit rows = some graph := by
  induction limit, hl using Nat.le_induction with
  | base => exact h
  | succ limit _ ih =>
    obtain ⟨hits, hhits, hgraph⟩ := Option.bind_eq_some_iff.mp ih
    rw [buildFkGraph]
    exact Option.bind_eq_some_iff.mpr ⟨hits, foldlM_eq_some (fun _ _ _ ↦ dfs_succ) hhits, hgraph⟩

theorem buildFkGraph_reports (containerText : Value → Str) (order : SetOrder Str) (rows : List Row) :
    ∃ graph, (∀ depth, graph.nodeCount ≤ depth → buildFkGraph containerText order depth rows = some graph) ∧
      graph.circularDependencyTables.Pairwise (· < ·) ∧
      (∀ label, label ∈ graph.circularDependencyTables ↔ OnCycle (References containerText rows) label) ∧
      graph.nodeCount = (rows.foldl (addNodes containerText) []).length ∧
      graph.edges = rows.map (fkEdge containerText) ∧ graph.edgeCount = rows.length := by
  have hnodes := @gains_nodes containerText rows []
  have hmem : ∀ a, a ∈ rows.foldl (addNodes containerText) [] ↔
      ∃ row ∈ rows, a = parentLabel containerText row ∨ a = referencedLabel containerText row :=
    fun a ↦ (hnodes.mem a).trans (or_iff_right List.not_mem_nil)
  have hN : ∀ a b, References containerText rows a b →
      a ∈ rows.foldl (addNodes containerText) [] ∧ b ∈ rows.foldl (addNodes containerText) [] := by
    intro a b h
    obtain ⟨row, hrow, rfl, rfl⟩ := h
    exact ⟨(hmem _).mpr ⟨row, hrow, .inl rfl⟩, (hmem _).mpr ⟨row, hrow, .inr rfl⟩⟩
  obtain ⟨hits, hrun, hgains⟩ :=
    @search_gains order _ _ (fun _ _ ↦ mem_targets_iff) _ (hnodes.nodup List.nodup_nil) hN
  refine ⟨⟨(rows.foldl (addNodes containerText) []).length, (rows.map (fkEdge containerText)).length,
    hits.mergeSort (fun v w ↦ decide (v ≤ w)), rows.map (fkEdge containerText)⟩,
    fun depth hd ↦ buildFkGraph_mono hd ?_, ?_, fun label ↦ ?_, rfl, rfl, ?_⟩
  · rw [buildFkGraph, hrun]
    rfl
  · exact pairwise_lt_mergeSort (hgains.nodup List.nodup_nil)
  · rw [List.mem_mergeSort, hgains.mem]
    exact or_iff_right List.not_mem_nil
  · exact List.length_map (fkEdge containerText)

end Graph

/-- The search always ends, its calls nested no deeper than there are nodes; it reports, in
order and each once, the labels that lie on a cycle. -/
theorem buildFkGraph_exact (containerText : Value → Str) (order : SetOrder Str) (rows : List Row) :
    ∃ graph, (∀ depth, graph.nodeCount ≤ depth → buildFkGraph containerText order depth rows = some graph) ∧
      graph.circularDependencyTables.Pairwise (· < ·) ∧
      (∀ label, label ∈ graph.circularDependencyTables ↔ OnCycle (References containerText rows) label) ∧
      graph.nodeCount =
        (rows.flatMap (fun row ↦ [parentLabel containerText row, referencedLabel containerText row])).toFinset.card ∧
      graph.edgeCount = rows.length := by
  obtain ⟨graph, hrun, hsorted, hcycle, hcount, -, hedges⟩ := buildFkGraph_reports containerText order rows
  have hnodes := @gains_nodes containerText rows []
  refine ⟨graph, hrun, hsorted, hcycle, hcount.trans ?_, hedges⟩
  refine (List.toFinset_card_of_nodup (hnodes.nodup List.nodup_nil)).symm.trans (congrArg Finset.card (Finset.ext (fun a ↦ ?_)))
  rw [List.mem_toFinset, List.mem_toFinset, hnodes.mem]
  simp

end McpSqlServer

import Mathlib.Data.Finset.Card
import Mathlib.Data.List.Chain
import Mathlib.Data.List.Nodup
import Mathlib.Logic.Relation

namespace McpSqlServer.Library

variable {V : Type*} {E : V → V → Prop} {start a b : V} {seen path : List V}

/-- The node lies on a cycle of the graph: a closed walk that meets no node twice. -/
def OnCycle (E : V → V → Prop) (a : V) : Prop := ∃ path, (a :: path).Nodup ∧ (a :: (path ++ [a])).IsChain E

theorem OnCycle.mono {F : V → V → Prop} (hEF : ∀ a b, E a b → F a b) (h : OnCycle E a) : OnCycle F a := by
  obtain ⟨path, hnodup, hchain⟩ := h
  exact ⟨path, hnodup, hchain.imp hEF⟩

/-- A walk leads to `start` through nodes that are neither in `seen` nor met before. -/
inductive Leads (E : V → V → Prop) (start : V) : List V → V → Prop
  | arrive {seen : List V} {a : V} : E a start → Leads E start seen a
  | step {seen : List V} {a b : V} : E a b → b ∉ seen → Leads E start (b :: seen) b → Leads E start seen a

theorem leads_iff : Leads E start seen a ↔ ∃ b, E a b ∧ (b = start ∨ (b ∉ seen ∧ Leads E start (b :: seen) b)) := by
  constructor
  · intro h
    cases h with
    | arrive he => exact ⟨start, he, .inl rfl⟩
    | step he hb h => exact ⟨_, he, .inr ⟨hb, h⟩⟩
  · intro ⟨b, he, h⟩
    rcases h with rfl | ⟨hb, h⟩
    · exact .arrive he
    · exact .step he hb h

/-- A walk can be shortened until it meets no node twice. -/
theorem exists_path_of_transGen (h : Relation.TransGen E a b) :
    ∃ path, (a :: path).Nodup ∧ (a :: (path ++ [b])).IsChain E := by
  induction h using Relation.TransGen.head_induction_on with
  | single he => exact ⟨[], List.nodup_singleton _, List.isChain_pair.mpr he⟩
  | @head a c he _ ih =>
    obtain ⟨path, hnodup, hchain⟩ := ih
    by_cases ha : a ∈ c :: path
    · -- the walk comes back to `a`: the part behind is enough
      obtain ⟨l, r, hlr⟩ := List.append_of_mem ha
      have hsplit : c :: (path ++ [b]) = l ++ (a :: (r ++ [b])) := by
        rw [← List.cons_append, hlr, List.append_assoc, List.cons_append]
      rw [hlr] at hnodup
      rw [hsplit] at hchain
      exact ⟨r, (List.nodup_append.mp hnodup).2.1, hchain.right_of_append⟩
    · exact ⟨c :: path, List.nodup_cons.mpr ⟨ha, hnodup⟩, hchain.cons_cons he⟩

theorem transGen_of_chain (h : (a :: (path ++ [b])).IsChain E) : Relation.TransGen E a b := by
  induction path generalizing a with
  | nil => exact .single (List.isChain_pair.mp h)
  | cons c path ih =>
    obtain ⟨he, h⟩ := List.isChain_cons_cons.mp h
    exact .head he (ih h)

theorem onCycle_iff_transGen : OnCycle E a ↔ Relation.TransGen E a a := by
  constructor
  · intro ⟨path, _, h⟩
    exact transGen_of_chain h
  · exact exists_path_of_transGen

theorem leads_of_path (h : (a :: (path ++ [start])).IsChain E) (hn : path.Nodup) (hs : ∀ b ∈ path, b ∉ seen) :
    Leads E start seen a := by
  induction path generalizing a seen with
  | nil => exact .arrive (List.isChain_pair.mp h)
  | cons c path ih =>
    obtain ⟨he, h⟩ := List.isChain_cons_cons.mp h
    obtain ⟨hc, hn⟩ := List.nodup_cons.mp hn
    refine .step he (hs c List.mem_cons_self) (ih h hn (fun b hb hm ↦ ?_))
    rcases List.mem_cons.mp hm with rfl | hm
    · exact hc hb
    · exact hs b (List.mem_cons_of_mem c hb) hm

theorem Leads.transGen (h : Leads E start seen a) : Relation.TransGen E a start := by
  induction h with
  | arrive he => exact .single he
  | step he _ _ ih => exact .head he ih

/-- What a search for simple walks back to the node finds is whether it lies on a cycle. -/
theorem leads_self_iff : Leads E a [a] a ↔ OnCycle E a := by
  constructor
  · intro h
    exact onCycle_iff_transGen.mpr h.transGen
  · intro ⟨path, hn, h⟩
    obtain ⟨ha, hn⟩ := List.nodup_cons.mp hn
    refine leads_of_path h hn (fun b hb hm ↦ ha ?_)
    rwa [← List.mem_singleton.mp hm]

/-- In a finite graph without cycles behind `a`, a walk that can always go on or stop at an end
reaches an end. -/
theorem exists_end {P Q : V → Prop} {nodes : List V} (hnodes : ∀ a b, E a b → b ∈ nodes)
    (hacyclic : ∀ b, Relation.ReflTransGen E a b → ¬ Relation.TransGen E b b)
    (hnext : ∀ b, Relation.ReflTransGen E a b → P b → ∃ c, E b c ∧ (P c ∨ Q c)) (ha : P a) :
    ∃ c, Relation.TransGen E a c ∧ Q c := by
  classical
  -- the nodes behind a walk get fewer with each step
  generalize hcard : (nodes.toFinset.filter (fun c ↦ Relation.TransGen E a c)).card = n
  induction n using Nat.strong_induction_on generalizing a with
  | _ n ih =>
    obtain ⟨b, hab, hb⟩ := hnext a .refl ha
    rcases hb with hb | hb
    · have hsub : nodes.toFinset.filter (fun c ↦ Relation.TransGen E b c) ⊂
          nodes.toFinset.filter (fun c ↦ Relation.TransGen E a c) := by
        refine Finset.ssubset_iff_of_subset (fun c hc ↦ ?_) |>.mpr ⟨b, ?_, ?_⟩
        · obtain ⟨hc, hbc⟩ := Finset.mem_filter.mp hc
          exact Finset.mem_filter.mpr ⟨hc, .head hab hbc⟩
        · exact Finset.mem_filter.mpr ⟨List.mem_toFinset.mpr (hnodes a b hab), .single hab⟩
        · exact fun hb' ↦ hacyclic b (.single hab) (Finset.mem_filter.mp hb').2
      obtain ⟨c, hbc, hc⟩ := ih _ (hcard ▸ Finset.card_lt_card hsub) (fun c hc ↦ hacyclic c (.head hab hc))
        (fun c hc ↦ hnext c (.head hab hc)) hb rfl
      exact ⟨c, .head hab hbc, hc⟩
    · exact ⟨b, .single hab, hb⟩

end McpSqlServer.Library

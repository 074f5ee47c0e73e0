import Mathlib.Data.List.Basic
import Mathlib.Data.List.Induction

namespace McpSqlServer.Library.Transition

variable {σ α : Type*}

/-- The states that a labelled system with partial steps reaches from `init`
when it takes only steps that the side condition `ok` allows. -/
inductive Reachable (step : σ → α → Option σ) (ok : σ → α → Prop) (init : σ) : σ → Prop
  | init : Reachable step ok init init
  | next {s s' : σ} {a : α} :
      Reachable step ok init s → ok s a → step s a = some s' → Reachable step ok init s'

def run (step : σ → α → Option σ) (s : σ) (as : List α) : Option σ := as.foldlM step s

variable {step : σ → α → Option σ} {ok ok' : σ → α → Prop} {init s s' : σ}

theorem run_nil : run step s [] = some s := rfl

theorem run_cons (a : α) (as : List α) :
    run step s (a :: as) = (step s a).bind (fun s' ↦ run step s' as) := rfl

theorem run_append (as bs : List α) :
    run step s (as ++ bs) = (run step s as).bind (fun s' ↦ run step s' bs) := by
  induction as generalizing s with
  | nil => rfl
  | cons a as ih =>
    rw [List.cons_append, run_cons, run_cons]
    cases step s a with
    | none => rfl
    | some s₁ => exact ih

theorem Reachable.mono (h : Reachable step ok init s) (hok : ∀ s a, ok s a → ok' s a) :
    Reachable step ok' init s := by
  induction h with
  | init => exact .init
  | next _ ha hs ih => exact .next ih (hok _ _ ha) hs

/-- An invariant of the allowed steps holds of every reachable state. The step
case may use that the state before the step is itself reachable. -/
theorem Reachable.invariant {I : σ → Prop} (h : Reachable step ok init s) (hi : I init)
    (hstep : ∀ s a s', Reachable step ok init s → I s → ok s a → step s a = some s' → I s') :
    I s := by
  induction h with
  | init => exact hi
  | next hr ha hs ih => exact hstep _ _ _ hr ih ha hs

theorem Reachable.trans {s₁ s₂ : σ} (h : Reachable step ok init s₁) (h' : Reachable step ok s₁ s₂) :
    Reachable step ok init s₂ := by
  induction h' with
  | init => exact h
  | next _ ha hs ih => exact .next ih ha hs

/-- Where steps that lower a measure lead on until the goal is met, it can be reached. -/
theorem reachable_of_measure {I G : σ → Prop} (μ : σ → ℕ)
    (hstep : ∀ s, I s → G s ∨ ∃ a s', ok s a ∧ step s a = some s' ∧ I s' ∧ μ s' < μ s) (hi : I s) :
    ∃ s', Reachable step ok s s' ∧ I s' ∧ G s' := by
  induction hn : μ s using Nat.strongRecOn generalizing s with
  | _ n ih =>
    rcases hstep s hi with hG | ⟨a, s₁, ha, hs, hi₁, hlt⟩
    · exact ⟨s, .init, hi, hG⟩
    · obtain ⟨s', hr, hi', hG⟩ := ih (μ s₁) (hn ▸ hlt) hi₁ rfl
      exact ⟨s', (Reachable.next .init ha hs).trans hr, hi', hG⟩

def guarded (step : σ → α → Option σ) (ok : σ → α → Prop) [∀ s a, Decidable (ok s a)] (s : σ) (a : α) :
    Option σ :=
  if ok s a then step s a else none

theorem Reachable.of_run [∀ s a, Decidable (ok s a)] (h : Reachable step ok init s) {as : List α}
    (hr : run (guarded step ok) s as = some s') : Reachable step ok init s' := by
  induction as generalizing s with
  | nil =>
    obtain rfl : s = s' := by simpa only [run_nil, Option.some.injEq] using hr
    exact h
  | cons a as ih =>
    rw [run_cons] at hr
    obtain ⟨s₁, hg, hr⟩ := Option.bind_eq_some_iff.mp hr
    obtain ⟨ha, hs⟩ := Option.ite_none_right_eq_some.mp hg
    exact ih (h.next ha hs) hr

theorem Reachable.of_run_forall {as : List α} (h : Reachable step ok init s) (hok : ∀ s, ∀ a ∈ as, ok s a)
    (hr : run step s as = some s') : Reachable step ok init s' := by
  induction as generalizing s with
  | nil =>
    obtain rfl : s = s' := by simpa only [run_nil, Option.some.injEq] using hr
    exact h
  | cons a as ih =>
    rw [run_cons] at hr
    obtain ⟨s₁, hs, hr⟩ := Option.bind_eq_some_iff.mp hr
    exact ih (h.next (hok s a List.mem_cons_self) hs) (fun s b hb ↦ hok s b (List.mem_cons_of_mem _ hb)) hr

theorem run_invariant {I : σ → Prop} (hstep : ∀ s a s', I s → step s a = some s' → I s') {as : List α}
    (hi : I s) (hr : run step s as = some s') : I s' := by
  induction as generalizing s with
  | nil =>
    obtain rfl : s = s' := by simpa only [run_nil, Option.some.injEq] using hr
    exact hi
  | cons a as ih =>
    rw [run_cons] at hr
    obtain ⟨s₁, hs, hr⟩ := Option.bind_eq_some_iff.mp hr
    exact ih (hstep s a s₁ hi hs) hr

/-- What a run has done so far may be part of an invariant. -/
theorem run_history {I : List α → σ → Prop} (hi : I [] s)
    (hstep : ∀ as a s₁ s₂, I as s₁ → step s₁ a = some s₂ → I (as ++ [a]) s₂) {as : List α}
    (hr : run step s as = some s') : I as s' := by
  induction as using List.reverseRecOn generalizing s' with
  | nil =>
    obtain rfl : s = s' := by simpa only [run_nil, Option.some.injEq] using hr
    exact hi
  | append_singleton as a ih =>
    rw [run_append] at hr
    obtain ⟨s₁, hs, ha⟩ := Option.bind_eq_some_iff.mp hr
    rw [run_cons] at ha
    obtain ⟨s₂, hlast, hn⟩ := Option.bind_eq_some_iff.mp ha
    obtain rfl : s₂ = s' := by simpa only [run_nil, Option.some.injEq] using hn
    exact hstep as a s₁ s₂ (ih hs) hlast

/-- A run without its hidden steps; whether a step is hidden is read off the state that
the whole run is in. -/
def erase (step : σ → α → Option σ) (hidden : σ → α → Bool) : σ → List α → List α
  | _, [] => []
  | s, a :: as =>
    match step s a with
    | some s' => if hidden s a then erase step hidden s' as else a :: erase step hidden s' as
    | none => []

def Along (step : σ → α → Option σ) (P : σ → α → Prop) (s : σ) (as : List α) : Prop :=
  ∀ pre a post s', as = pre ++ a :: post → run step s pre = some s' → P s' a

theorem Along.cons {P : σ → α → Prop} {a : α} {as : List α} (h : Along step P s (a :: as)) (hs : step s a = some s') :
    P s a ∧ Along step P s' as := by
  refine ⟨h [] a as s rfl rfl, fun pre b post s₁ has hr ↦ h (a :: pre) b post s₁ ?_ ?_⟩
  · rw [has, List.cons_append]
  · rw [run_cons, hs]
    exact hr

theorem Along.of_append {P : σ → α → Prop} {as bs : List α} (h : Along step P s (as ++ bs)) : Along step P s as :=
  fun pre a post s' has hr ↦ h pre a (post ++ bs) s' (by rw [has, List.append_assoc, List.cons_append]) hr

/-- A simulation that hidden steps do not disturb leads from a run to the run without them. -/
theorem run_erase {τ : Type*} {step' : τ → α → Option τ} {hidden : σ → α → Bool} {P : σ → α → Prop} {R : σ → τ → Prop}
    (hhidden : ∀ s a s' t, R s t → P s a → hidden s a = true → step s a = some s' → R s' t)
    (hvisible : ∀ s a s' t, R s t → P s a → hidden s a = false → step s a = some s' →
      ∃ t', step' t a = some t' ∧ R s' t')
    {t : τ} {as : List α} (hR : R s t) (hP : Along step P s as) (hr : run step s as = some s') :
    ∃ t', run step' t (erase step hidden s as) = some t' ∧ R s' t' := by
  induction as generalizing s t with
  | nil =>
    obtain rfl : s = s' := by simpa only [run_nil, Option.some.injEq] using hr
    exact ⟨t, rfl, hR⟩
  | cons a as ih =>
    rw [run_cons] at hr
    obtain ⟨s₁, hs, hr⟩ := Option.bind_eq_some_iff.mp hr
    obtain ⟨ha, has⟩ := hP.cons hs
    cases hh : hidden s a with
    | true =>
      obtain ⟨t', ht', hR'⟩ := ih (hhidden s a s₁ t hR ha hh hs) has hr
      refine ⟨t', ?_, hR'⟩
      simpa only [erase, hs, hh, if_true] using ht'
    | false =>
      obtain ⟨t₁, ht₁, hR₁⟩ := hvisible s a s₁ t hR ha hh hs
      obtain ⟨t', ht', hR'⟩ := ih hR₁ has hr
      refine ⟨t', ?_, hR'⟩
      simp only [erase, hs, hh, Bool.false_eq_true, if_false, run_cons, ht₁]
      exact ht'

end McpSqlServer.Library.Transition

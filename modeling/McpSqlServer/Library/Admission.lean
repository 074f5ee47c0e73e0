import Mathlib.Algebra.Order.Ring.Int
import Mathlib.Data.List.Induction
import Mathlib.Order.Lattice

namespace McpSqlServer.Library.Admission

variable {κ σ ε τ : Type*}

section Runs

/-- A gate that lets a call pass or rejects it, and keeps a state. -/
abbrev Gate (κ σ ε : Type*) := κ → σ → Except ε Unit × σ

variable (allow : Gate κ σ ε) (s : σ)

def after (calls : List κ) : σ := calls.foldl (fun s c ↦ (allow c s).2) s

def outcome (pre : List κ) (c : κ) : Except ε Unit := (allow c (after allow s pre)).1

def passes (r : Except ε Unit) : Bool := match r with
  | .ok _ => true
  | .error _ => false

def admitted : List κ → σ → List κ
  | [], _ => []
  | c :: calls, s => if passes (allow c s).1 then c :: admitted calls (allow c s).2 else admitted calls (allow c s).2

variable {allow s}

theorem passes_iff {r : Except ε Unit} : passes r = true ↔ r = .ok () := by
  cases r with
  | ok u => exact iff_of_true rfl rfl
  | error e => exact iff_of_false Bool.false_ne_true (fun h ↦ nomatch h)

@[simp] theorem after_nil : after allow s [] = s := rfl

theorem after_append (pre post : List κ) : after allow s (pre ++ post) = after allow (after allow s pre) post :=
  List.foldl_append

theorem after_concat (pre : List κ) (c : κ) : after allow s (pre ++ [c]) = (allow c (after allow s pre)).2 :=
  after_append pre [c]

theorem admitted_append (pre post : List κ) :
    admitted allow (pre ++ post) s = admitted allow pre s ++ admitted allow post (after allow s pre) := by
  induction pre generalizing s with
  | nil => rfl
  | cons c pre ih =>
    simp only [List.cons_append, admitted, ih]
    split
    · rfl
    · rfl

theorem admitted_concat (pre : List κ) (c : κ) :
    admitted allow (pre ++ [c]) s =
      admitted allow pre s ++ if passes (outcome allow s pre c) then [c] else [] := by
  rw [admitted_append]
  simp only [admitted]
  rfl

theorem filterMap_admitted_concat {ρ : Type*} (f : κ → Option ρ) (pre : List κ) (c : κ) :
    (admitted allow (pre ++ [c]) s).filterMap f =
      (admitted allow pre s).filterMap f ++ if passes (outcome allow s pre c) then (f c).toList else [] := by
  rw [admitted_concat, List.filterMap_append]
  split
  · cases h : f c with
    | none => simp [h]
    | some r => simp [h]
  · rfl

theorem admitted_sublist (calls : List κ) : (admitted allow calls s).Sublist calls := by
  induction calls generalizing s with
  | nil => exact List.Sublist.refl []
  | cons c calls ih =>
    rw [admitted]
    split
    · exact ih.cons_cons c
    · exact ih.cons c

theorem admitted_split {calls pre post : List κ} {c : κ} (h : admitted allow calls s = pre ++ c :: post) :
    ∃ before rest, calls = before ++ c :: rest ∧ admitted allow before s = pre ∧
      passes (outcome allow s before c) = true := by
  induction calls using List.reverseRecOn generalizing post with
  | nil => exact absurd h.symm (List.append_ne_nil_of_right_ne_nil _ (List.cons_ne_nil _ _))
  | append_singleton calls d ih =>
    rw [admitted_concat] at h
    cases hp : passes (outcome allow s calls d) with
    | false =>
      rw [hp, if_neg Bool.false_ne_true, List.append_nil] at h
      obtain ⟨before, rest, rfl, hb, hc⟩ := ih h
      exact ⟨before, rest ++ [d], by simp, hb, hc⟩
    | true =>
      rw [hp, if_pos rfl] at h
      rcases List.eq_nil_or_concat post with rfl | ⟨post, e, rfl⟩
      · obtain ⟨hpre, hd⟩ := List.append_inj' h rfl
        obtain rfl : d = c := (List.cons.inj hd).1
        exact ⟨calls, [], rfl, hpre, hp⟩
      · have hassoc : pre ++ c :: post.concat e = (pre ++ c :: post) ++ [e] := by simp
        rw [hassoc] at h
        obtain ⟨hpre, -⟩ := List.append_inj' h rfl
        obtain ⟨before, rest, rfl, hb, hc⟩ := ih hpre
        exact ⟨before, rest ++ [d], by simp, hb, hc⟩

end Runs

section Windows

/-- If few enough of the earlier ones are near each member of a class, the class is small. -/
theorem countP_le_of_near {p : κ → Bool} (near : κ → κ → Bool) {limit : ℤ} (history : List κ)
    (hnear : ∀ pre c post, history = pre ++ c :: post → p c = true → ∀ e ∈ pre, p e = true → near c e = true)
    (hlimit : ∀ pre c post, history = pre ++ c :: post → p c = true → (pre.countP (near c) : ℤ) < limit) :
    (history.countP p : ℤ) ≤ max 0 limit := by
  induction history using List.reverseRecOn with
  | nil => exact le_max_left _ _
  | append_singleton pre c ih =>
    rw [List.countP_append, List.countP_singleton]
    cases hp : p c with
    | false =>
      refine ih (fun pre' d post h ↦ hnear pre' d (post ++ [c]) ?_) (fun pre' d post h ↦ hlimit pre' d (post ++ [c]) ?_)
      · rw [h, List.append_assoc, List.cons_append]
      · rw [h, List.append_assoc, List.cons_append]
    | true =>
      have hle : pre.countP p ≤ pre.countP (near c) := List.countP_mono_left (hnear pre c [] rfl hp)
      have hlt := hlimit pre c [] rfl hp
      have hmax := le_max_right 0 limit
      rw [if_pos rfl]
      push_cast
      omega

variable [LinearOrder τ]

theorem dropWhile_lt_eq_filter {l : List τ} (h : l.Pairwise (· ≤ ·)) (cutoff : τ) :
    l.dropWhile (fun t ↦ t < cutoff) = l.filter (fun t ↦ cutoff ≤ t) := by
  induction l with
  | nil => rfl
  | cons t l ih =>
    rw [List.pairwise_cons] at h
    by_cases ht : t < cutoff
    · rw [List.dropWhile_cons_of_pos (by simpa using ht), ih h.2,
        List.filter_cons_of_neg (by simpa using ht)]
    · have hle : cutoff ≤ t := not_lt.mp ht
      rw [List.dropWhile_cons_of_neg (by simpa using ht), List.filter_cons_of_pos (by simpa using hle)]
      refine congrArg (t :: ·) (List.filter_eq_self.mpr (fun u hu ↦ ?_)).symm
      simpa using hle.trans (h.1 u hu)

theorem dropWhile_lt_filter {l : List τ} (h : l.Pairwise (· ≤ ·)) {earlier cutoff : τ} (hc : earlier ≤ cutoff) :
    (l.filter (fun t ↦ earlier ≤ t)).dropWhile (fun t ↦ t < cutoff) = l.filter (fun t ↦ cutoff ≤ t) := by
  rw [dropWhile_lt_eq_filter (h.filter _), List.filter_filter]
  refine List.filter_congr (fun t _ ↦ ?_)
  by_cases ht : cutoff ≤ t
  · simp [ht, hc.trans ht]
  · simp [ht]

end Windows

end McpSqlServer.Library.Admission

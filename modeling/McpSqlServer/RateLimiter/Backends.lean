import McpSqlServer.RateLimiter.Redis
import Mathlib.Data.Rat.Cast.Order
import Mathlib.Tactic.NormNum

namespace McpSqlServer

open Library.Text Library.Python Library.Admission Library.SortedSets

def RedisCall.timed (c : RedisCall) : TimedCall := ⟨c.actor, (c.nowMs : ℚ) / 1000⟩

def TimedCall.inOpenWindow (c e : TimedCall) : Bool := c.time - 60 < e.time && e.time ≤ c.time

/-- A quota is reached only together with calls that were let pass exactly a minute before. -/
def EdgeDecides (limits : WindowLimits) (history : List TimedCall) (c : TimedCall) : Prop :=
  ((history.countP (fun e ↦ c.sameActor e && c.inOpenWindow e) : ℤ) < limits.actorLimit ∧
    limits.actorLimit ≤ actorCount history c) ∨
  ((actorCount history c : ℤ) < limits.actorLimit ∧ (history.countP c.inOpenWindow : ℤ) < limits.globalLimit ∧
    limits.globalLimit ≤ globalCount history c)

theorem quotaDecision_eq_iff {limits : WindowLimits} {m m' n n' : ℕ} (hm : m' ≤ m) (hn : n' ≤ n) :
    quotaDecision limits m n = quotaDecision limits m' n' ↔
      ¬ (((m' : ℤ) < limits.actorLimit ∧ limits.actorLimit ≤ m) ∨
        ((m : ℤ) < limits.actorLimit ∧ (n' : ℤ) < limits.globalLimit ∧ limits.globalLimit ≤ n)) := by
  have hreason : permissionError "RATE_LIMIT_EXCEEDED: actor quota exceeded".toList ≠
      permissionError "RATE_LIMIT_EXCEEDED: global quota exceeded".toList := by decide
  unfold quotaDecision
  by_cases hm' : limits.actorLimit ≤ m'
  · have hmm : limits.actorLimit ≤ m := by omega
    rw [if_pos hm', if_pos hmm]
    exact iff_of_true rfl (by omega)
  · rw [if_neg hm']
    by_cases hmm : limits.actorLimit ≤ m
    · rw [if_pos hmm]
      refine iff_of_false ?_ (fun h ↦ h (.inl ⟨by omega, hmm⟩))
      split
      · exact fun h ↦ hreason (Except.error.inj h)
      · exact fun h ↦ nomatch h
    · rw [if_neg hmm]
      by_cases hn' : limits.globalLimit ≤ n'
      · have hnn : limits.globalLimit ≤ n := by omega
        rw [if_pos hn', if_pos hnn]
        exact iff_of_true rfl (by omega)
      · rw [if_neg hn']
        by_cases hnn : limits.globalLimit ≤ n
        · rw [if_pos hnn]
          exact iff_of_false (fun h ↦ nomatch h) (fun h ↦ h (.inr ⟨by omega, by omega, hnn⟩))
        · rw [if_neg hnn]
          exact iff_of_true rfl (by omega)

section Agreement

variable {σ : Type} [Redis σ] {keyNamespace : Str} {limits : WindowLimits} {calls pre post : List RedisCall}
  {c : RedisCall}

theorem inOpenWindow_timed (c e : RedisCall) : c.timed.inOpenWindow e.timed = c.inWindow e := by
  have hopen : (c.nowMs : ℚ) / 1000 - 60 < (e.nowMs : ℚ) / 1000 ↔ (c.nowMs : ℤ) - 60000 < e.nowMs := by
    rw [← Int.cast_lt (R := ℚ)]
    push_cast
    constructor
    · intro h
      linarith
    · intro h
      linarith
  have hclosed : (e.nowMs : ℚ) / 1000 ≤ (c.nowMs : ℚ) / 1000 ↔ e.nowMs ≤ c.nowMs := by
    rw [← Nat.cast_le (α := ℚ)]
    constructor
    · intro h
      linarith
    · intro h
      linarith
  simp only [TimedCall.inOpenWindow, RedisCall.inWindow, RedisCall.timed, hopen, hclosed]

theorem countP_inOpenWindow (history : List RedisCall) (c : RedisCall) :
    (history.map RedisCall.timed).countP c.timed.inOpenWindow = history.countP c.inWindow := by
  rw [List.countP_map]
  exact List.countP_congr (fun e _ ↦ by rw [Function.comp_apply, inOpenWindow_timed])

theorem countP_sameActor (history : List RedisCall) (c : RedisCall) :
    (history.map RedisCall.timed).countP (fun e ↦ c.timed.sameActor e && c.timed.inOpenWindow e) =
      history.countP (fun e ↦ c.sameActor e && c.inWindow e) := by
  rw [List.countP_map]
  exact List.countP_congr (fun e _ ↦ by rw [Function.comp_apply, inOpenWindow_timed]; rfl)

theorem Timely.timed (h : Timely calls) : (calls.map RedisCall.timed).Pairwise (fun c d ↦ c.time ≤ d.time) := by
  refine List.pairwise_map.mpr (h.nowMs_le.imp (fun hle ↦ ?_))
  have hcast : ((_ : ℕ) : ℚ) ≤ _ := Nat.cast_le.mpr hle
  simp only [RedisCall.timed]
  linarith

def SameAdmissions (σ : Type) [Redis σ] (keyNamespace : Str) (limits : WindowLimits) (pre : List RedisCall) : Prop :=
  admitted (localGate limits) (pre.map RedisCall.timed) {} =
    (admitted (redisGate keyNamespace) pre (Redis.empty : σ)).map RedisCall.timed

/-- After the same admissions the backends differ on a call exactly where the edge decides. -/
theorem outcome_eq_iff (h : Timely (pre ++ [c])) (hl : c.limits = limits)
    (hs : SameAdmissions σ keyNamespace limits pre) :
    outcome (localGate limits) {} (pre.map RedisCall.timed) c.timed =
        outcome (redisGate keyNamespace) (Redis.empty : σ) pre c ↔
      ¬ EdgeDecides limits (admitted (localGate limits) (pre.map RedisCall.timed) {}) c.timed := by
  have htimed := h.timed
  rw [List.map_append, List.map_singleton] at htimed
  rw [outcome_eq_naiveDecision htimed, outcome_eq_redisDecision h, naiveDecision, redisDecision, hl,
    ← countP_inOpenWindow, ← countP_sameActor, ← hs]
  refine quotaDecision_eq_iff (List.countP_mono_left (fun e _ he ↦ ?_)) (List.countP_mono_left (fun e _ he ↦ ?_))
  · simp only [Bool.and_eq_true, decide_eq_true_eq, TimedCall.inOpenWindow, TimedCall.inWindow] at he ⊢
    exact ⟨he.1, he.2.1.le, he.2.2⟩
  · simp only [Bool.and_eq_true, decide_eq_true_eq, TimedCall.inOpenWindow, TimedCall.inWindow] at he ⊢
    exact ⟨he.1.le, he.2⟩

theorem sameAdmissions_concat (hs : SameAdmissions σ keyNamespace limits pre)
    (ho : outcome (localGate limits) {} (pre.map RedisCall.timed) c.timed =
      outcome (redisGate keyNamespace) (Redis.empty : σ) pre c) :
    SameAdmissions σ keyNamespace limits (pre ++ [c]) := by
  have hlocal : admitted (localGate limits) (pre.map RedisCall.timed ++ [c.timed]) {} =
      admitted (localGate limits) (pre.map RedisCall.timed) {} ++
        if passes (outcome (localGate limits) {} (pre.map RedisCall.timed) c.timed) then [c.timed] else [] :=
    admitted_concat (pre.map RedisCall.timed) c.timed
  rw [SameAdmissions, List.map_append, List.map_singleton, hlocal, admitted_concat, List.map_append, hs, ho]
  split
  · rfl
  · rfl

theorem sameAdmissions_of_forall (hsplit : ∀ pre c post, calls = pre ++ c :: post →
      SameAdmissions σ keyNamespace limits pre → outcome (localGate limits) {} (pre.map RedisCall.timed) c.timed =
        outcome (redisGate keyNamespace) (Redis.empty : σ) pre c)
    (hc : calls = pre ++ post) : SameAdmissions σ keyNamespace limits pre := by
  induction pre using List.reverseRecOn generalizing post with
  | nil => rfl
  | append_singleton pre c ih =>
    rw [List.append_assoc, List.singleton_append] at hc
    exact sameAdmissions_concat (ih hc) (hsplit pre c post hc (ih hc))

/-- The backends answer a whole sequence alike exactly when no call finds a quota reached
only with calls let pass exactly 60000 milliseconds before it. -/
theorem backends_agree_iff (σ : Type) [Redis σ] (keyNamespace : Str) (limits : WindowLimits) (calls : List RedisCall)
    (h : Timely calls) (hl : ∀ c ∈ calls, c.limits = limits) :
    (∀ pre c post, calls = pre ++ c :: post →
      outcome (localGate limits) {} (pre.map RedisCall.timed) c.timed =
        outcome (redisGate keyNamespace) (Redis.empty : σ) pre c) ↔
    ∀ pre c post, calls = pre ++ c :: post →
      ¬ EdgeDecides limits (admitted (localGate limits) (pre.map RedisCall.timed) {}) c.timed := by
  have hstep : ∀ pre c post, calls = pre ++ c :: post → SameAdmissions σ keyNamespace limits pre →
      (outcome (localGate limits) {} (pre.map RedisCall.timed) c.timed =
          outcome (redisGate keyNamespace) (Redis.empty : σ) pre c ↔
        ¬ EdgeDecides limits (admitted (localGate limits) (pre.map RedisCall.timed) {}) c.timed) := by
    intro pre c post hc hs
    exact outcome_eq_iff (h.upTo hc) (hl c (hc ▸ List.mem_append_right _ List.mem_cons_self)) hs
  constructor
  · intro ho pre c post hc
    exact (hstep pre c post hc (sameAdmissions_of_forall (fun _ _ _ hc _ ↦ ho _ _ _ hc) hc)).mp (ho pre c post hc)
  · intro he pre c post hc
    have hs : SameAdmissions σ keyNamespace limits pre :=
      sameAdmissions_of_forall (fun pre c post hc hs ↦ (hstep pre c post hc hs).mpr (he pre c post hc)) hc
    exact (hstep pre c post hc hs).mpr (he pre c post hc)

end Agreement

def edgeCalls : List RedisCall := [redisAlice 0 ['a'], redisAlice 60000 ['b']]

theorem timely_edgeCalls : Timely edgeCalls := ⟨by simp [edgeCalls, redisAlice], by decide⟩

theorem backends_agree_iff_alice :
    (∀ pre c post, edgeCalls = pre ++ c :: post →
      outcome (localGate oneEach) {} (pre.map RedisCall.timed) c.timed =
        outcome (redisGate "mcp".toList) (Redis.empty : Store) pre c) ↔
    ∀ pre c post, edgeCalls = pre ++ c :: post →
      ¬ EdgeDecides oneEach (admitted (localGate oneEach) (pre.map RedisCall.timed) {}) c.timed :=
  backends_agree_iff Store "mcp".toList oneEach edgeCalls timely_edgeCalls (by simp [edgeCalls, redisAlice])

/-- The local limiter still counts a call that is exactly a minute old, the Redis script
has already removed it. -/
theorem backends_disagree_at_edge :
    ¬ ∀ (keyNamespace : Str) (limits : WindowLimits) (calls : List RedisCall), Timely calls →
      (∀ c ∈ calls, c.limits = limits) → ∀ pre c post, calls = pre ++ c :: post →
        outcome (localGate limits) {} (pre.map RedisCall.timed) c.timed =
          outcome (redisGate keyNamespace) (Redis.empty : Store) pre c := by
  intro h
  have hsame := h "mcp".toList oneEach edgeCalls timely_edgeCalls (by simp [edgeCalls, redisAlice])
    [redisAlice 0 ['a']] (redisAlice 60000 ['b']) [] rfl
  have hlocal : passes (outcome (localGate oneEach) {} ([redisAlice 0 ['a']].map RedisCall.timed)
      (redisAlice 60000 ['b']).timed) = false := by decide +kernel
  have hredis : passes (outcome (redisGate "mcp".toList) (Redis.empty : Store) [redisAlice 0 ['a']]
      (redisAlice 60000 ['b'])) = true := by decide +kernel
  rw [hsame, hredis] at hlocal
  cases hlocal

end McpSqlServer

import McpSqlServer.Library.Admission
import McpSqlServer.RateLimiter
import Mathlib.Algebra.Order.Ring.Rat
import Mathlib.Tactic.Linarith

namespace McpSqlServer

open Library.Text Library.Python Library.Admission

/-- A call of `allow` with the reading of the clock that it makes. -/
structure TimedCall where
  actor : Str
  time : ℚ

/-- `SlidingWindowRateLimiter.allow`. -/
def localGate (limits : WindowLimits) : Gate TimedCall Windows Exc :=
  fun c windows ↦ (slidingWindowRateLimiter limits).allow c.time c.actor windows

def WindowLimits.actorLimit (limits : WindowLimits) : ℤ := limits.actorRpm + limits.actorBurst

def WindowLimits.globalLimit (limits : WindowLimits) : ℤ := limits.globalRpm + limits.globalBurst

/-- The two comparisons of a limiter, in their order. -/
def quotaDecision (limits : WindowLimits) (actorCount globalCount : ℕ) : Except Exc Unit :=
  if limits.actorLimit ≤ actorCount then
    .error (permissionError "RATE_LIMIT_EXCEEDED: actor quota exceeded".toList)
  else if limits.globalLimit ≤ globalCount then
    .error (permissionError "RATE_LIMIT_EXCEEDED: global quota exceeded".toList)
  else .ok ()

theorem quotaDecision_eq_ok {limits : WindowLimits} {m n : ℕ} :
    quotaDecision limits m n = .ok () ↔ (m : ℤ) < limits.actorLimit ∧ (n : ℤ) < limits.globalLimit := by
  unfold quotaDecision
  split
  · rename_i h
    exact iff_of_false (fun h ↦ nomatch h) (fun hlt ↦ absurd hlt.1 (not_lt.mpr h))
  · rename_i h
    split
    · rename_i hg
      exact iff_of_false (fun h ↦ nomatch h) (fun hlt ↦ absurd hlt.2 (not_lt.mpr hg))
    · rename_i hg
      exact iff_of_true rfl ⟨not_le.mp h, not_le.mp hg⟩

/-- The naive reading of the quota: the calls in `[t - 60, t]`. -/
def TimedCall.inWindow (c e : TimedCall) : Bool := c.time - 60 ≤ e.time && e.time ≤ c.time

def TimedCall.sameActor (c e : TimedCall) : Bool := e.actor = c.actor

def actorCount (history : List TimedCall) (c : TimedCall) : ℕ :=
  history.countP (fun e ↦ c.sameActor e && c.inWindow e)

def globalCount (history : List TimedCall) (c : TimedCall) : ℕ := history.countP c.inWindow

def naiveDecision (limits : WindowLimits) (history : List TimedCall) (c : TimedCall) : Except Exc Unit :=
  quotaDecision limits (actorCount history c) (globalCount history c)

def actorTimes (actor : Str) (history : List TimedCall) : List ℚ :=
  (history.filter (fun e ↦ e.actor = actor)).map TimedCall.time

/-- A deque holds the times that are not older than some cutoff, itself out of any later window. -/
def HoldsFrom (times bucket : List ℚ) (now : ℚ) : Prop :=
  ∃ cutoff ≤ now - 60, bucket = times.filter (fun t ↦ cutoff ≤ t)

structure Tracks (windows : Windows) (history : List TimedCall) (now : ℚ) : Prop where
  actor : ∀ a, HoldsFrom (actorTimes a history) ((windows.actorEvents.lookup a).getD []) now
  globalEvents : HoldsFrom (history.map TimedCall.time) windows.globalEvents now

theorem HoldsFrom.mono {times bucket : List ℚ} {now now' : ℚ} (h : HoldsFrom times bucket now) (hn : now ≤ now') :
    HoldsFrom times bucket now' := by
  obtain ⟨cutoff, hc, hb⟩ := h
  exact ⟨cutoff, by linarith, hb⟩

theorem HoldsFrom.prune_eq {times bucket : List ℚ} {now : ℚ} (h : HoldsFrom times bucket now)
    (hs : times.Pairwise (· ≤ ·)) : prune now bucket = times.filter (fun t ↦ now - 60 ≤ t) := by
  obtain ⟨cutoff, hc, rfl⟩ := h
  exact dropWhile_lt_filter hs hc

theorem holdsFrom_prune {times bucket : List ℚ} {now : ℚ} (h : HoldsFrom times bucket now)
    (hs : times.Pairwise (· ≤ ·)) : HoldsFrom times (prune now bucket) now :=
  ⟨now - 60, le_rfl, h.prune_eq hs⟩

theorem holdsFrom_prune_append {times bucket : List ℚ} {now : ℚ} (h : HoldsFrom times bucket now)
    (hs : times.Pairwise (· ≤ ·)) : HoldsFrom (times ++ [now]) (prune now bucket ++ [now]) now := by
  refine ⟨now - 60, le_rfl, ?_⟩
  have hnow : now - 60 ≤ now := by linarith
  rw [List.filter_append, h.prune_eq hs, List.filter_singleton]
  simp [hnow]

section Step

variable {limits : WindowLimits} {windows : Windows} {history : List TimedCall} {c : TimedCall} {a : Str}

theorem actorTimes_append_self : actorTimes c.actor (history ++ [c]) = actorTimes c.actor history ++ [c.time] := by
  simp [actorTimes]

theorem actorTimes_sublist : (actorTimes a history).Sublist (history.map TimedCall.time) :=
  List.filter_sublist.map _

theorem length_filter_actorTimes (hle : ∀ e ∈ history, e.time ≤ c.time) :
    ((actorTimes c.actor history).filter (fun t ↦ c.time - 60 ≤ t)).length = actorCount history c := by
  rw [actorTimes, List.filter_map, List.length_map, List.filter_filter, ← List.countP_eq_length_filter]
  refine List.countP_congr (fun e he ↦ ?_)
  simp [TimedCall.sameActor, TimedCall.inWindow, hle e he, and_comm]

theorem length_filter_times (hle : ∀ e ∈ history, e.time ≤ c.time) :
    ((history.map TimedCall.time).filter (fun t ↦ c.time - 60 ≤ t)).length = globalCount history c := by
  rw [List.filter_map, List.length_map, ← List.countP_eq_length_filter]
  refine List.countP_congr (fun e he ↦ ?_)
  simp [TimedCall.inWindow, hle e he]

theorem localGate_cases (limits : WindowLimits) (c : TimedCall) (windows : Windows) :
    (passes (localGate limits c windows).1 = false ∧ (localGate limits c windows).2 =
      ⟨setItem c.actor (prune c.time ((windows.actorEvents.lookup c.actor).getD [])) windows.actorEvents,
        prune c.time windows.globalEvents⟩) ∨
    (passes (localGate limits c windows).1 = true ∧
      ((prune c.time ((windows.actorEvents.lookup c.actor).getD [])).length : ℤ) < limits.actorLimit ∧
      ((prune c.time windows.globalEvents).length : ℤ) < limits.globalLimit ∧ (localGate limits c windows).2 =
      ⟨setItem c.actor (prune c.time ((windows.actorEvents.lookup c.actor).getD []) ++ [c.time]) windows.actorEvents,
        prune c.time windows.globalEvents ++ [c.time]⟩) := by
  unfold localGate slidingWindowRateLimiter WindowLimits.actorLimit WindowLimits.globalLimit
  dsimp only
  split
  · exact .inl ⟨rfl, rfl⟩
  · rename_i ha
    split
    · exact .inl ⟨rfl, rfl⟩
    · rename_i hg
      exact .inr ⟨rfl, not_le.mp ha, not_le.mp hg, rfl⟩

theorem actorTimes_setItem {R : List ℚ → List ℚ → Prop} {buckets : Dict (List ℚ)} {bucket : List ℚ}
    {added : List TimedCall} (h : ∀ a, R (actorTimes a history) ((buckets.lookup a).getD []))
    (hadded : ∀ e ∈ added, e.actor = c.actor) (hb : R (actorTimes c.actor (history ++ added)) bucket) (a : Str) :
    R (actorTimes a (history ++ added)) (((setItem c.actor bucket buckets).lookup a).getD []) := by
  rw [lookup_setItem]
  by_cases ha : a = c.actor
  · rw [if_pos ha, ha]
    exact hb
  · have hnone : added.filter (fun e ↦ e.actor = a) = [] := by
      rw [List.filter_eq_nil_iff]
      intro e he hea
      rw [decide_eq_true_eq] at hea
      exact ha (hea.symm.trans (hadded e he))
    have hsame : actorTimes a (history ++ added) = actorTimes a history := by
      rw [actorTimes, List.filter_append, hnone, List.append_nil, actorTimes]
    rw [if_neg ha, hsame]
    exact h a

variable (h : Tracks windows history c.time) (hs : (history.map TimedCall.time).Pairwise (· ≤ ·))
  (hle : ∀ e ∈ history, e.time ≤ c.time)
include h hs

theorem Tracks.allow_snd : Tracks (localGate limits c windows).2
    (history ++ if passes (localGate limits c windows).1 then [c] else []) c.time := by
  have hsa : (actorTimes c.actor history).Pairwise (· ≤ ·) := hs.sublist actorTimes_sublist
  rcases localGate_cases limits c windows with ⟨hp, hw⟩ | ⟨hp, -, -, hw⟩
  · rw [hp, hw, if_neg Bool.false_ne_true]
    refine ⟨actorTimes_setItem (R := fun times bucket ↦ HoldsFrom times bucket c.time) h.actor
      (fun e he ↦ absurd he List.not_mem_nil) ?_, ?_⟩
    · rw [List.append_nil]
      exact holdsFrom_prune (h.actor _) hsa
    · rw [List.append_nil]
      exact holdsFrom_prune h.globalEvents hs
  · rw [hp, hw, if_pos rfl]
    refine ⟨actorTimes_setItem (R := fun times bucket ↦ HoldsFrom times bucket c.time) h.actor
      (fun e he ↦ congrArg TimedCall.actor (List.mem_singleton.mp he)) ?_, ?_⟩
    · rw [actorTimes_append_self]
      exact holdsFrom_prune_append (h.actor _) hsa
    · rw [List.map_append]
      exact holdsFrom_prune_append h.globalEvents hs

include hle

theorem Tracks.allow_fst : (localGate limits c windows).1 = naiveDecision limits history c := by
  have hactor := (h.actor c.actor).prune_eq (hs.sublist actorTimes_sublist)
  have hglobal := h.globalEvents.prune_eq hs
  unfold localGate slidingWindowRateLimiter naiveDecision quotaDecision
  dsimp only
  rw [hactor, hglobal, length_filter_actorTimes hle, length_filter_times hle]
  rw [apply_ite Prod.fst, apply_ite Prod.fst]
  rfl

end Step

section Runs

variable {limits : WindowLimits} {calls pre mid post : List TimedCall} {c d : TimedCall}

theorem times_pairwise (h : calls.Pairwise (fun c d ↦ c.time ≤ d.time)) :
    (calls.map TimedCall.time).Pairwise (· ≤ ·) := List.pairwise_map.mpr h

theorem pairwise_admitted (h : calls.Pairwise (fun c d ↦ c.time ≤ d.time)) :
    ((admitted (localGate limits) calls {}).map TimedCall.time).Pairwise (· ≤ ·) :=
  times_pairwise (h.sublist (admitted_sublist calls))

theorem tracks_after (h : calls.Pairwise (fun c d ↦ c.time ≤ d.time)) {now : ℚ} (hnow : ∀ e ∈ calls, e.time ≤ now) :
    Tracks (after (localGate limits) {} calls) (admitted (localGate limits) calls {}) now := by
  induction calls using List.reverseRecOn generalizing now with
  | nil => exact ⟨fun a ↦ ⟨now - 60, le_rfl, rfl⟩, ⟨now - 60, le_rfl, rfl⟩⟩
  | append_singleton pre c ih =>
    obtain ⟨hpre, -, hc⟩ := List.pairwise_append.mp h
    have ht := ih hpre (fun e he ↦ hc e he c (List.mem_singleton_self c))
    have hstep : Tracks (localGate limits c _).2 _ c.time := ht.allow_snd (pairwise_admitted hpre)
    have hcn : c.time ≤ now := hnow c (List.mem_append_right _ (List.mem_singleton_self c))
    rw [after_concat, admitted_concat]
    exact ⟨fun a ↦ (hstep.actor a).mono hcn, hstep.globalEvents.mono hcn⟩

theorem outcome_eq_naiveDecision (h : (pre ++ [c]).Pairwise (fun c d ↦ c.time ≤ d.time)) :
    outcome (localGate limits) {} pre c = naiveDecision limits (admitted (localGate limits) pre {}) c := by
  obtain ⟨hpre, -, hc⟩ := List.pairwise_append.mp h
  have hle : ∀ e ∈ pre, e.time ≤ c.time := fun e he ↦ hc e he c (List.mem_singleton_self c)
  exact (tracks_after hpre hle).allow_fst (pairwise_admitted hpre)
    (fun e he ↦ hle e ((admitted_sublist pre).subset he))

theorem pairwise_upTo (h : calls.Pairwise (fun c d ↦ c.time ≤ d.time)) (hc : calls = pre ++ c :: post) :
    (pre ++ [c]).Pairwise (fun c d ↦ c.time ≤ d.time) := by
  refine h.sublist ?_
  rw [hc]
  exact (List.Sublist.refl pre).append (List.singleton_sublist.mpr List.mem_cons_self)

/-- A rejected call leaves the calls let pass behind it as they are without it. -/
theorem admitted_erase_rejected (h : (pre ++ c :: mid).Pairwise (fun c d ↦ c.time ≤ d.time))
    (hc : outcome (localGate limits) {} pre c ≠ .ok ()) :
    admitted (localGate limits) (pre ++ c :: mid) {} = admitted (localGate limits) (pre ++ mid) {} := by
  have hpass : passes (outcome (localGate limits) {} pre c) = false := by
    rw [← Bool.not_eq_true, passes_iff]
    exact hc
  induction mid using List.reverseRecOn with
  | nil => rw [admitted_concat, hpass, List.append_nil, if_neg Bool.false_ne_true, List.append_nil]
  | append_singleton mid d ih =>
    have hcons : pre ++ c :: (mid ++ [d]) = (pre ++ c :: mid) ++ [d] := by simp
    rw [hcons] at h ⊢
    have hih := ih (List.pairwise_append.mp h).1
    have hwithout : (pre ++ mid ++ [d]).Pairwise (fun c d ↦ c.time ≤ d.time) :=
      h.sublist (((List.Sublist.refl pre).append (List.sublist_cons_self c mid)).append (List.Sublist.refl [d]))
    rw [admitted_concat, outcome_eq_naiveDecision h, hih, ← outcome_eq_naiveDecision hwithout, ← admitted_concat,
      List.append_assoc]

theorem countP_admitted_le {p : TimedCall → Bool} (near : TimedCall → TimedCall → Bool) {limit : ℤ}
    (h : calls.Pairwise (fun c d ↦ c.time ≤ d.time))
    (hnear : ∀ c e, p c = true → p e = true → e.time ≤ c.time → near c e = true)
    (hlimit : ∀ pre c post, calls = pre ++ c :: post → outcome (localGate limits) {} pre c = .ok () →
      ((admitted (localGate limits) pre {}).countP (near c) : ℤ) < limit) :
    ((admitted (localGate limits) calls {}).countP p : ℤ) ≤ max 0 limit := by
  refine countP_le_of_near near _ (fun pre c post hs hc e he hp ↦ ?_) (fun pre c post hs hc ↦ ?_)
  · have hle : (admitted (localGate limits) calls {}).Pairwise (fun c d ↦ c.time ≤ d.time) :=
      h.sublist (admitted_sublist calls)
    rw [hs] at hle
    exact hnear c e hc hp ((List.pairwise_append.mp hle).2.2 e he c List.mem_cons_self)
  · obtain ⟨before, rest, hb, rfl, hpass⟩ := admitted_split hs
    exact hlimit before c rest hb (passes_iff.mp hpass)

theorem outcome_eq_ok_iff (h : calls.Pairwise (fun c d ↦ c.time ≤ d.time)) (hc : calls = pre ++ c :: post) :
    outcome (localGate limits) {} pre c = .ok () ↔
      (actorCount (admitted (localGate limits) pre {}) c : ℤ) < limits.actorLimit ∧
      (globalCount (admitted (localGate limits) pre {}) c : ℤ) < limits.globalLimit := by
  rw [outcome_eq_naiveDecision (pairwise_upTo h hc), naiveDecision, quotaDecision_eq_ok]

theorem countP_actor_le (h : calls.Pairwise (fun c d ↦ c.time ≤ d.time)) (actor : Str) (start : ℚ) :
    ((admitted (localGate limits) calls {}).countP (fun e ↦ e.actor = actor && (start ≤ e.time &&
      e.time ≤ start + 60)) : ℤ) ≤ max 0 limits.actorLimit := by
  refine countP_admitted_le (fun c e ↦ c.sameActor e && c.inWindow e) h (fun c e hc he hle ↦ ?_)
    (fun pre c post hs hok ↦ ((outcome_eq_ok_iff h hs).mp hok).1)
  simp only [Bool.and_eq_true, decide_eq_true_eq, TimedCall.sameActor, TimedCall.inWindow] at hc he ⊢
  exact ⟨he.1.trans hc.1.symm, by linarith, hle⟩

/-- The local limiter is its naive specification: it counts the calls it has let pass in the
closed minute before each call, and nothing else. -/
theorem slidingWindow_naive (limits : WindowLimits) (calls : List TimedCall)
    (h : calls.Pairwise (fun c d ↦ c.time ≤ d.time)) :
    (∀ pre c post, calls = pre ++ c :: post →
      (outcome (localGate limits) {} pre c = .ok () ↔
        ((admitted (localGate limits) pre {}).countP (fun e ↦ e.actor = c.actor && (c.time - 60 ≤ e.time &&
          e.time ≤ c.time)) : ℤ) < limits.actorRpm + limits.actorBurst ∧
        ((admitted (localGate limits) pre {}).countP (fun e ↦ c.time - 60 ≤ e.time && e.time ≤ c.time) : ℤ) <
          limits.globalRpm + limits.globalBurst)) ∧
    (∀ pre c mid d post, calls = pre ++ c :: (mid ++ d :: post) → outcome (localGate limits) {} pre c ≠ .ok () →
      outcome (localGate limits) {} (pre ++ c :: mid) d = outcome (localGate limits) {} (pre ++ mid) d) ∧
    (∀ actor start, ((admitted (localGate limits) calls {}).countP (fun e ↦ e.actor = actor && (start ≤ e.time &&
      e.time ≤ start + 60)) : ℤ) ≤ max 0 (limits.actorRpm + limits.actorBurst)) ∧
    (∀ start, ((admitted (localGate limits) calls {}).countP (fun e ↦ start ≤ e.time && e.time ≤ start + 60) : ℤ) ≤
      max 0 (limits.globalRpm + limits.globalBurst)) := by
  refine ⟨fun pre c post hc ↦ outcome_eq_ok_iff h hc, fun pre c mid d post hc hr ↦ ?_, countP_actor_le h, fun start ↦ ?_⟩
  · have hcons : calls = (pre ++ c :: mid) ++ d :: post := by rw [hc, List.append_assoc, List.cons_append]
    have hwith := pairwise_upTo h hcons
    have hwithout : (pre ++ mid ++ [d]).Pairwise (fun c d ↦ c.time ≤ d.time) :=
      hwith.sublist (((List.Sublist.refl pre).append (List.sublist_cons_self c mid)).append (List.Sublist.refl [d]))
    rw [outcome_eq_naiveDecision hwith, outcome_eq_naiveDecision hwithout,
      admitted_erase_rejected (List.pairwise_append.mp hwith).1 hr]
  · refine countP_admitted_le TimedCall.inWindow h (fun c e hc he hle ↦ ?_)
      (fun pre c post hs hok ↦ ((outcome_eq_ok_iff h hs).mp hok).2)
    simp only [Bool.and_eq_true, decide_eq_true_eq, TimedCall.inWindow] at hc he ⊢
    exact ⟨by linarith, hle⟩

def oneEach : WindowLimits := ⟨1, 0, 100, 0⟩

def aliceAt (time : ℚ) : TimedCall := ⟨"alice".toList, time⟩

theorem slidingWindow_naive_edge : outcome (localGate oneEach) {} [aliceAt 0] (aliceAt 60) ≠ .ok () := by
  have h : [aliceAt 0, aliceAt 60].Pairwise (fun c d ↦ c.time ≤ d.time) := by simp [aliceAt]
  rw [ne_eq, (slidingWindow_naive oneEach _ h).1 [aliceAt 0] (aliceAt 60) [] rfl]
  decide +kernel

end Runs

end McpSqlServer

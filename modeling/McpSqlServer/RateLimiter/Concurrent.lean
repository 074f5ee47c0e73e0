import McpSqlServer.Library.Transition
import McpSqlServer.RateLimiter.Local
import Mathlib.Data.List.TakeWhile

namespace McpSqlServer

open Library.Text Library.Python Library.Admission Library.Transition

/-- The limiter with the calls in flight: a call has read the clock before it takes the lock. -/
structure LimiterState (Tid : Type) where
  windows : Windows := {}
  clock : ℚ
  pending : Tid → Option TimedCall := fun _ ↦ none
  admitted : List TimedCall := []

inductive LimiterAction (Tid : Type)
  | readClock (t : Tid) (actor : Str) (now : ℚ)
  | enter (t : Tid)

section System

variable {Tid : Type} [DecidableEq Tid]

/-- `now = time.time()`, and the section under `self._lock`. -/
def limiterStep (limits : WindowLimits) (s : LimiterState Tid) : LimiterAction Tid → Option (LimiterState Tid)
  | .readClock t actor now =>
    if (s.pending t).isNone ∧ s.clock ≤ now then
      some { s with clock := now, pending := Function.update s.pending t (some ⟨actor, now⟩) }
    else none
  | .enter t =>
    match s.pending t with
    | some c =>
      let (r, windows) := localGate limits c s.windows
      some { s with windows := windows, pending := Function.update s.pending t none,
                    admitted := s.admitted ++ if passes r then [c] else [] }
    | none => none

end System

def TimedCall.near (c e : TimedCall) : Bool := c.time - 60 ≤ e.time && e.time ≤ c.time + 60

def lost (times bucket : List ℚ) : List ℚ := times.take (times.length - bucket.length)

def KeepsNear (c : TimedCall) (times bucket : List ℚ) : Prop :=
  ∀ t ∈ lost times bucket, ¬ (c.time - 60 ≤ t ∧ t ≤ c.time + 60)

instance (c : TimedCall) (times bucket : List ℚ) : Decidable (KeepsNear c times bucket) :=
  inferInstanceAs (Decidable (∀ _ ∈ _, _))

/-- A call is let pass only while both deques still hold every call let pass within a minute
of its reading. -/
def EntersFresh {Tid : Type} (limits : WindowLimits) (s : LimiterState Tid) (a : LimiterAction Tid) : Prop :=
  match a with
  | .readClock _ _ _ => True
  | .enter t =>
    match s.pending t with
    | none => True
    | some c => passes (localGate limits c s.windows).1 = true →
        KeepsNear c (actorTimes c.actor s.admitted) ((s.windows.actorEvents.lookup c.actor).getD []) ∧
          KeepsNear c (s.admitted.map TimedCall.time) s.windows.globalEvents

instance {Tid : Type} (limits : WindowLimits) (s : LimiterState Tid) (a : LimiterAction Tid) :
    Decidable (EntersFresh limits s a) :=
  match a with
  | .readClock _ _ _ => .isTrue trivial
  | .enter t =>
    match h : s.pending t with
    | none => .isTrue (by simp only [EntersFresh, h])
    | some c => decidable_of_iff (passes (localGate limits c s.windows).1 = true →
        KeepsNear c (actorTimes c.actor s.admitted) ((s.windows.actorEvents.lookup c.actor).getD []) ∧
          KeepsNear c (s.admitted.map TimedCall.time) s.windows.globalEvents) (by simp only [EntersFresh, h])

/-- The deques hold the latest of the times let pass, in the order of their entering. -/
structure HoldsLatest (windows : Windows) (history : List TimedCall) : Prop where
  actor : ∀ a, (windows.actorEvents.lookup a).getD [] <:+ actorTimes a history
  globalEvents : windows.globalEvents <:+ history.map TimedCall.time

/-- Each call let pass found both quotas free, counted over the minutes around its reading. -/
def MetQuotas (limits : WindowLimits) (history : List TimedCall) : Prop :=
  ∀ pre c post, history = pre ++ c :: post →
    (pre.countP (fun e ↦ c.sameActor e && c.near e) : ℤ) < limits.actorLimit ∧
      (pre.countP c.near : ℤ) < limits.globalLimit

section Step

variable {limits : WindowLimits} {windows : Windows} {history : List TimedCall} {c : TimedCall}

theorem prune_suffix (now : ℚ) (bucket : List ℚ) : prune now bucket <:+ bucket := List.dropWhile_suffix _

theorem suffix_concat {l m : List ℚ} (h : l <:+ m) (t : ℚ) : l ++ [t] <:+ m ++ [t] := by
  obtain ⟨front, rfl⟩ := h
  exact ⟨front, by rw [List.append_assoc]⟩

/-- The times near a reading are all in the pruned deque. -/
theorem countP_near_le {times bucket : List ℚ} (hb : bucket <:+ times) (hk : KeepsNear c times bucket) :
    times.countP (fun t ↦ c.time - 60 ≤ t && t ≤ c.time + 60) ≤ (prune c.time bucket).length := by
  obtain ⟨front, rfl⟩ := hb
  have hlost : lost (front ++ bucket) bucket = front := by
    rw [lost, List.length_append, Nat.add_sub_cancel, List.take_left']
    rfl
  have hfront : front.countP (fun t ↦ c.time - 60 ≤ t && t ≤ c.time + 60) = 0 := by
    rw [List.countP_eq_zero]
    intro t ht hn
    refine hk t (hlost.symm ▸ ht) ?_
    simpa using hn
  have hdropped : (bucket.takeWhile (fun t ↦ t < c.time - 60)).countP
      (fun t ↦ c.time - 60 ≤ t && t ≤ c.time + 60) = 0 := by
    rw [List.countP_eq_zero]
    intro t ht hn
    have hlt := List.mem_takeWhile_imp ht
    simp only [Bool.and_eq_true, decide_eq_true_eq] at hn hlt
    exact absurd hlt (not_lt.mpr hn.1)
  have hsplit := List.takeWhile_append_dropWhile (p := fun t ↦ decide (t < c.time - 60)) (l := bucket)
  rw [List.countP_append, hfront, Nat.zero_add, ← hsplit, List.countP_append, hdropped, Nat.zero_add, hsplit]
  exact List.countP_le_length

theorem countP_near_actor : history.countP (fun e ↦ c.sameActor e && c.near e) =
    (actorTimes c.actor history).countP (fun t ↦ c.time - 60 ≤ t && t ≤ c.time + 60) := by
  rw [actorTimes, List.countP_map, List.countP_filter]
  exact List.countP_congr (fun e _ ↦ by simp [TimedCall.sameActor, TimedCall.near, and_comm])

theorem countP_near_global : history.countP c.near =
    (history.map TimedCall.time).countP (fun t ↦ c.time - 60 ≤ t && t ≤ c.time + 60) := by
  rw [List.countP_map]
  rfl

theorem holdsLatest_localGate (h : HoldsLatest windows history) :
    HoldsLatest (localGate limits c windows).2
      (history ++ if passes (localGate limits c windows).1 then [c] else []) := by
  rcases localGate_cases limits c windows with ⟨hp, hw⟩ | ⟨hp, -, -, hw⟩
  · rw [hp, hw, if_neg Bool.false_ne_true]
    refine ⟨actorTimes_setItem (R := fun times bucket ↦ bucket <:+ times) h.actor (fun e he ↦ absurd he List.not_mem_nil) ?_, ?_⟩
    · rw [List.append_nil]
      exact (prune_suffix _ _).trans (h.actor c.actor)
    · rw [List.append_nil]
      exact (prune_suffix _ _).trans h.globalEvents
  · rw [hp, hw, if_pos rfl]
    refine ⟨actorTimes_setItem (R := fun times bucket ↦ bucket <:+ times) h.actor
      (fun e he ↦ congrArg TimedCall.actor (List.mem_singleton.mp he)) ?_, ?_⟩
    · rw [actorTimes_append_self]
      exact suffix_concat ((prune_suffix _ _).trans (h.actor c.actor)) c.time
    · rw [List.map_append]
      exact suffix_concat ((prune_suffix _ _).trans h.globalEvents) c.time

theorem MetQuotas.append (h : MetQuotas limits history)
    (hc : (history.countP (fun e ↦ c.sameActor e && c.near e) : ℤ) < limits.actorLimit ∧
      (history.countP c.near : ℤ) < limits.globalLimit) : MetQuotas limits (history ++ [c]) := by
  intro pre d post hs
  rcases List.eq_nil_or_concat post with rfl | ⟨post, e, rfl⟩
  · obtain ⟨rfl, hd⟩ := List.append_inj' hs rfl
    obtain rfl : c = d := (List.cons.inj hd).1
    exact hc
  · have hassoc : pre ++ d :: post.concat e = (pre ++ d :: post) ++ [e] := by simp
    rw [hassoc] at hs
    exact h pre d post (List.append_inj' hs rfl).1

theorem metQuotas_localGate (hl : HoldsLatest windows history) (h : MetQuotas limits history)
    (hk : passes (localGate limits c windows).1 = true →
      KeepsNear c (actorTimes c.actor history) ((windows.actorEvents.lookup c.actor).getD []) ∧
        KeepsNear c (history.map TimedCall.time) windows.globalEvents) :
    MetQuotas limits (history ++ if passes (localGate limits c windows).1 then [c] else []) := by
  rcases localGate_cases limits c windows with ⟨hp, -⟩ | ⟨hp, ha, hg, -⟩
  · rw [hp, if_neg Bool.false_ne_true, List.append_nil]
    exact h
  · obtain ⟨hka, hkg⟩ := hk hp
    rw [hp, if_pos rfl]
    refine h.append ⟨?_, ?_⟩
    · rw [countP_near_actor]
      exact lt_of_le_of_lt (Int.ofNat_le.mpr (countP_near_le (hl.actor c.actor) hka)) ha
    · rw [countP_near_global]
      exact lt_of_le_of_lt (Int.ofNat_le.mpr (countP_near_le hl.globalEvents hkg)) hg

end Step

section Runs

variable {Tid : Type} [DecidableEq Tid] {limits : WindowLimits} {s s' : LimiterState Tid}

structure LimiterInvariant (limits : WindowLimits) (s : LimiterState Tid) : Prop where
  latest : HoldsLatest s.windows s.admitted
  met : MetQuotas limits s.admitted

theorem limiterInvariant_step {a : LimiterAction Tid} (h : LimiterInvariant limits s) (ha : EntersFresh limits s a)
    (hs : limiterStep limits s a = some s') : LimiterInvariant limits s' := by
  cases a with
  | readClock t actor now =>
    obtain ⟨-, hs⟩ := Option.ite_none_right_eq_some.mp hs
    cases hs
    exact ⟨h.latest, h.met⟩
  | enter t =>
    cases hc : s.pending t with
    | none => simp only [limiterStep, hc, reduceCtorEq] at hs
    | some c =>
      simp only [limiterStep, hc, Option.some.injEq] at hs
      simp only [EntersFresh, hc] at ha
      cases hs
      exact ⟨holdsLatest_localGate h.latest, metQuotas_localGate h.latest h.met ha⟩

/-- In every run that lets a call pass only while the deques still hold all calls near its
reading, no closed minute contains more readings than a quota allows. -/
theorem concurrent_rate_bound (limits : WindowLimits) (start : ℚ)
    (h : Reachable (limiterStep limits) (EntersFresh limits) { clock := start } s) :
    (∀ actor a, (s.admitted.countP (fun e ↦ e.actor = actor && (a ≤ e.time && e.time ≤ a + 60)) : ℤ) ≤
      max 0 (limits.actorRpm + limits.actorBurst)) ∧
    ∀ a, (s.admitted.countP (fun e ↦ a ≤ e.time && e.time ≤ a + 60) : ℤ) ≤
      max 0 (limits.globalRpm + limits.globalBurst) := by
  have hi : LimiterInvariant limits s := by
    refine h.invariant ⟨⟨fun a ↦ List.nil_suffix, List.nil_suffix⟩, ?_⟩
      (fun s a s' _ hi ha hs ↦ limiterInvariant_step hi ha hs)
    intro pre c post hs
    exact absurd hs.symm (List.append_ne_nil_of_right_ne_nil _ (List.cons_ne_nil _ _))
  constructor
  · intro actor a
    refine countP_le_of_near (fun c e ↦ c.sameActor e && c.near e) _ (fun pre c post hs hc e _ he ↦ ?_)
      (fun pre c post hs _ ↦ (hi.met pre c post hs).1)
    simp only [Bool.and_eq_true, decide_eq_true_eq, TimedCall.sameActor, TimedCall.near] at hc he ⊢
    exact ⟨he.1.trans hc.1.symm, by linarith, by linarith⟩
  · intro a
    refine countP_le_of_near TimedCall.near _ (fun pre c post hs hc e _ he ↦ ?_)
      (fun pre c post hs _ ↦ (hi.met pre c post hs).2)
    simp only [Bool.and_eq_true, decide_eq_true_eq, TimedCall.near] at hc he ⊢
    exact ⟨by linarith, by linarith⟩

end Runs

def twoEach : WindowLimits := ⟨2, 0, 100, 0⟩

/-- Three calls are in flight at once and enter out of the order of their readings. A minute later two more overlap,
and the one with the later reading prunes first, but only calls that are a minute older than both. -/
def overlappingCalls : List (LimiterAction (Fin 3)) :=
  [.readClock 0 "alice".toList 0, .readClock 1 "bob".toList 10, .readClock 2 "alice".toList 20, .enter 1, .enter 0,
    .enter 2, .readClock 0 "alice".toList 100, .readClock 1 "bob".toList 101, .enter 1, .enter 0]

theorem concurrent_rate_bound_overlapping : ∃ s : LimiterState (Fin 3),
    s.admitted.map TimedCall.time = [10, 0, 20, 101, 100] ∧
    (∀ actor a, (s.admitted.countP (fun e ↦ e.actor = actor && (a ≤ e.time && e.time ≤ a + 60)) : ℤ) ≤
      max 0 (twoEach.actorRpm + twoEach.actorBurst)) ∧
    ∀ a, (s.admitted.countP (fun e ↦ a ≤ e.time && e.time ≤ a + 60) : ℤ) ≤
      max 0 (twoEach.globalRpm + twoEach.globalBurst) := by
  have hrun : (run (guarded (limiterStep twoEach) (EntersFresh twoEach)) ({ clock := 0 } : LimiterState (Fin 3))
      overlappingCalls).map (fun s ↦ s.admitted.map TimedCall.time) = some [10, 0, 20, 101, 100] := by decide +kernel
  obtain ⟨s, hs, htimes⟩ := Option.map_eq_some_iff.mp hrun
  exact ⟨s, htimes, concurrent_rate_bound twoEach 0 (Reachable.init.of_run hs)⟩

def overtakenCall : List (LimiterAction (Fin 3)) :=
  [.readClock 0 "alice".toList 0, .enter 0, .readClock 1 "alice".toList 0, .enter 1, .readClock 2 "alice".toList 59,
    .readClock 0 "alice".toList 61, .enter 0, .enter 2]

theorem concurrent_rate_exceeds :
    ¬ ∀ (limits : WindowLimits) (start : ℚ) (Tid : Type) [DecidableEq Tid] (s : LimiterState Tid),
      Reachable (limiterStep limits) (fun _ _ ↦ True) { clock := start } s →
      ∀ actor a, (s.admitted.countP (fun e ↦ e.actor = actor && (a ≤ e.time && e.time ≤ a + 60)) : ℤ) ≤
        max 0 (limits.actorRpm + limits.actorBurst) := by
  intro h
  have hrun : (run (guarded (limiterStep twoEach) (fun _ _ ↦ True)) ({ clock := 0 } : LimiterState (Fin 3))
      overtakenCall).map (fun s ↦ s.admitted.countP (fun e ↦ e.actor = "alice".toList && (0 ≤ e.time && e.time ≤ 0 + 60))) =
        some 3 := by decide +kernel
  obtain ⟨s, hs, hcount⟩ := Option.map_eq_some_iff.mp hrun
  have hle := h twoEach 0 (Fin 3) s (Reachable.init.of_run hs) "alice".toList 0
  rw [hcount] at hle
  exact absurd hle (by decide)

end McpSqlServer

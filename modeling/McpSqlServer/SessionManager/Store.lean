import McpSqlServer.Library.Admission
import McpSqlServer.Library.Python.Dict
import McpSqlServer.Security
import Mathlib.Algebra.Order.Ring.Rat
import Mathlib.Tactic.Linarith

namespace McpSqlServer

open Library.Text Library.Python Library.Admission

namespace SessionManager

/-- `touch`, with the reading that it makes before it takes the lock and that of `_cleanup`. -/
def touch (limits : SessionLimits) (now swept : ℚ) (actor requestId : Str) (mcpSessionId : Option Str)
    (sessions : Sessions) : Except Exc Unit × Sessions :=
  let key := sessionKey mcpSessionId requestId
  let sessions := setDefault actor [] (cleanup limits swept sessions)
  let actorSessions := (sessions.lookup actor).getD []
  if (actorSessions.lookup key).isNone ∧ limits.concurrentSessionsLimit ≤ actorSessions.length then
    (.error (permissionError "SESSION_LIMIT_EXCEEDED".toList), sessions)
  else (.ok (), setItem actor (setItem key now actorSessions) sessions)

def activeCount (limits : SessionLimits) (swept : ℚ) (actor : Option Str) (sessions : Sessions) : ℕ × Sessions :=
  let sessions := cleanup limits swept sessions
  match actor with
  | none => ((sessions.map (fun entry ↦ entry.2.length)).sum, sessions)
  | some actor => (((sessions.lookup actor).getD []).length, sessions)

theorem touch_eq (limits : SessionLimits) (now : ℚ) (actor requestId : Str) (mcpSessionId : Option Str)
    (sessions : Sessions) : McpSqlServer.touch limits now actor (sessionKey mcpSessionId requestId) sessions =
      touch limits now now actor requestId mcpSessionId sessions := rfl

end SessionManager

inductive SessionCall
  | touch (now swept : ℚ) (actor requestId : Str) (mcpSessionId : Option Str)
  | activeCount (swept : ℚ) (actor : Option Str)

def SessionCall.readings : SessionCall → List ℚ
  | .touch now swept _ _ _ => [now, swept]
  | .activeCount swept _ => [swept]

def SessionCall.swept : SessionCall → ℚ
  | .touch _ swept _ _ _ => swept
  | .activeCount swept _ => swept

def Clocked (calls : List SessionCall) : Prop := (calls.flatMap SessionCall.readings).Pairwise (· ≤ ·)

instance (calls : List SessionCall) : Decidable (Clocked calls) := inferInstanceAs (Decidable (List.Pairwise _ _))

def sessionGate (limits : SessionLimits) : Gate SessionCall Sessions Exc
  | .touch now swept actor requestId mcpSessionId, sessions =>
    SessionManager.touch limits now swept actor requestId mcpSessionId sessions
  | .activeCount swept actor, sessions => (.ok (), (SessionManager.activeCount limits swept actor sessions).2)

structure Touch where
  actor : Str
  key : Str
  time : ℚ

def SessionCall.asTouch : SessionCall → Option Touch
  | .touch now _ actor requestId mcpSessionId => some ⟨actor, sessionKey mcpSessionId requestId, now⟩
  | .activeCount _ _ => none

def touches (limits : SessionLimits) (calls : List SessionCall) : List Touch :=
  (admitted (sessionGate limits) calls []).filterMap SessionCall.asTouch

def lastTouch (history : List Touch) (actor key : Str) : Option ℚ :=
  ((history.filter (fun t ↦ t.actor = actor ∧ t.key = key)).getLast?).map Touch.time

def Fresh (limits : SessionLimits) (now t : ℚ) : Prop :=
  now - t ≤ (limits.sessionTtlMinutes * 60 : ℤ) ∧ now - t ≤ (limits.inactivityTimeoutMinutes * 60 : ℤ)

instance (limits : SessionLimits) (now t : ℚ) : Decidable (Fresh limits now t) := inferInstanceAs (Decidable (_ ∧ _))

/-- The keys of an actor whose latest admitted touch is fresh. -/
def activeKeys (limits : SessionLimits) (history : List Touch) (now : ℚ) (actor : Str) : Finset Str :=
  ((history.filter (fun t ↦ t.actor = actor)).map Touch.key).toFinset.filter
    (fun key ↦ (lastTouch history actor key).any (fun t ↦ Fresh limits now t) = true)

def actorSessions (sessions : Sessions) (actor : Str) : Dict ℚ := (sessions.lookup actor).getD []

def liveKeys (limits : SessionLimits) (now : ℚ) (sessions : Sessions) (actor : Str) : Finset Str :=
  (Dict.keys (actorSessions (cleanup limits now sessions) actor)).toFinset

section Store

variable {limits : SessionLimits} {sessions : Sessions} {now swept t : ℚ} {actor a key k requestId : Str}
  {mcpSessionId : Option Str} {history : List Touch}

theorem Fresh.mono (h : Fresh limits swept t) (hn : now ≤ swept) : Fresh limits now t := by
  have h₁ := h.1
  have h₂ := h.2
  exact ⟨by linarith, by linarith⟩

theorem actorSessions_setDefault (actor a : Str) (sessions : Sessions) :
    actorSessions (setDefault actor [] sessions) a = actorSessions sessions a := by
  rw [actorSessions, lookup_setDefault, actorSessions]
  split
  · rename_i h
    rw [h]
    rfl
  · rfl

theorem actorSessions_setItem (actor a : Str) (d : Dict ℚ) (sessions : Sessions) :
    actorSessions (setItem actor d sessions) a = if a = actor then d else actorSessions sessions a := by
  rw [actorSessions, lookup_setItem]
  split
  · rfl
  · rfl

theorem unique_cleanup (hu : Dict.Unique sessions) (now : ℚ) : Dict.Unique (cleanup limits now sessions) := by
  refine Dict.Unique.filter ?_ _
  rwa [Dict.Unique, keys_mapValues]

theorem actorSessions_cleanup (hu : Dict.Unique sessions) (now : ℚ) (a : Str) :
    actorSessions (cleanup limits now sessions) a =
      (actorSessions sessions a).filter (fun e ↦ Fresh limits now e.2) := by
  have hp : (fun e : Str × ℚ ↦ decide (¬ ((limits.sessionTtlMinutes * 60 : ℤ) < now - e.2 ∨
      (limits.inactivityTimeoutMinutes * 60 : ℤ) < now - e.2))) = fun e ↦ decide (Fresh limits now e.2) := by
    funext e
    exact decide_eq_decide.mpr (by rw [Fresh, not_or, not_lt, not_lt])
  have hum : Dict.Unique (sessions.map (fun e ↦ (e.1, e.2.filter (fun e ↦ decide (Fresh limits now e.2))))) := by
    rwa [Dict.Unique, keys_mapValues]
  unfold cleanup actorSessions
  rw [hp, hum.lookup_filter, lookup_mapValues (fun d : Dict ℚ ↦ d.filter (fun e ↦ decide (Fresh limits now e.2)))]
  cases sessions.lookup a with
  | none => rfl
  | some d =>
    rw [Option.map_some, Option.filter_some, Option.getD_some]
    split
    · rfl
    · rename_i hd
      have hnil : d.filter (fun e ↦ decide (Fresh limits now e.2)) = [] := by simpa using hd
      rw [hnil]
      rfl

/-- What `touch` can do, over the sessions that its cleanup leaves. -/
theorem touch_cases (limits : SessionLimits) (now swept : ℚ) (actor requestId : Str) (mcpSessionId : Option Str)
    (sessions : Sessions) :
    let kept := actorSessions (cleanup limits swept sessions) actor
    let key := sessionKey mcpSessionId requestId
    let after := SessionManager.touch limits now swept actor requestId mcpSessionId sessions
    (key ∉ Dict.keys kept ∧ limits.concurrentSessionsLimit ≤ kept.length ∧
      after = (.error (permissionError "SESSION_LIMIT_EXCEEDED".toList),
        setDefault actor [] (cleanup limits swept sessions))) ∨
    ((key ∈ Dict.keys kept ∨ (kept.length : ℤ) < limits.concurrentSessionsLimit) ∧
      after = (.ok (), setItem actor (setItem key now kept) (setDefault actor [] (cleanup limits swept sessions)))) := by
  intro kept key after
  have hkept : ((setDefault actor [] (cleanup limits swept sessions)).lookup actor).getD [] = kept :=
    actorSessions_setDefault actor actor _
  have hkey : (kept.lookup key).isNone = true ↔ key ∉ Dict.keys kept := by
    rw [Option.isNone_iff_eq_none, lookup_eq_none_iff_notMem]
  simp only [after, SessionManager.touch, hkept]
  split
  · rename_i h
    exact .inl ⟨hkey.mp h.1, h.2, rfl⟩
  · rename_i h
    refine .inr ⟨?_, rfl⟩
    rwa [hkey, not_and_or, not_not, not_le] at h

theorem lastTouch_append (t : Touch) (a k : Str) :
    lastTouch (history ++ [t]) a k = if a = t.actor ∧ k = t.key then some t.time else lastTouch history a k := by
  unfold lastTouch
  rw [List.filter_append, List.filter_singleton]
  by_cases h : t.actor = a ∧ t.key = k
  · rw [decide_eq_true h, if_pos ⟨h.1.symm, h.2.symm⟩, cond_true, List.getLast?_concat, Option.map_some]
  · rw [decide_eq_false h, if_neg (fun h' ↦ h ⟨h'.1.symm, h'.2.symm⟩), cond_false, List.append_nil]

theorem mem_activeKeys : k ∈ activeKeys limits history now a ↔ ∃ t, lastTouch history a k = some t ∧ Fresh limits now t := by
  rw [activeKeys, Finset.mem_filter, Option.any_eq_true]
  simp only [decide_eq_true_eq]
  refine and_iff_right_of_imp (fun h ↦ ?_)
  obtain ⟨t, ht, -⟩ := h
  obtain ⟨u, hu, -⟩ := Option.map_eq_some_iff.mp ht
  obtain ⟨hmem, hau⟩ := List.mem_filter.mp (List.mem_of_getLast? hu)
  rw [decide_eq_true_eq] at hau
  rw [List.mem_toFinset, List.mem_map]
  exact ⟨u, List.mem_filter.mpr ⟨hmem, decide_eq_true hau.1⟩, hau.2⟩

/-- What the store says about the admitted touches, once the clock has read `now`. -/
structure Records (limits : SessionLimits) (history : List Touch) (now : ℚ) (sessions : Sessions) : Prop where
  unique : Dict.Unique sessions
  unique_of : ∀ a, Dict.Unique (actorSessions sessions a)
  sound : ∀ a k t, (actorSessions sessions a).lookup k = some t → lastTouch history a k = some t
  complete : ∀ a k t, lastTouch history a k = some t → Fresh limits now t → (actorSessions sessions a).lookup k = some t
  length_le : ∀ a, ((actorSessions sessions a).length : ℤ) ≤ max 0 limits.concurrentSessionsLimit

theorem records_nil (limits : SessionLimits) (now : ℚ) : Records limits [] now [] where
  unique := List.nodup_nil
  unique_of _ := List.nodup_nil
  sound _ _ _ h := nomatch h
  complete _ _ _ h := nomatch h
  length_le _ := le_max_left _ _

theorem Records.mono (h : Records limits history now sessions) (hn : now ≤ swept) :
    Records limits history swept sessions :=
  ⟨h.unique, h.unique_of, h.sound, fun a k t ht hf ↦ h.complete a k t ht (hf.mono hn), h.length_le⟩

/-- A cleanup leaves exactly the sessions whose latest touch is fresh. -/
theorem Records.lookup_cleanup (h : Records limits history now sessions) (hn : now ≤ swept) :
    (actorSessions (cleanup limits swept sessions) a).lookup k = some t ↔
      lastTouch history a k = some t ∧ Fresh limits swept t := by
  rw [actorSessions_cleanup h.unique, (h.unique_of a).lookup_filter, Option.filter_eq_some_iff, decide_eq_true_eq]
  refine and_congr_left (fun hf ↦ ⟨h.sound a k t, fun ht ↦ h.complete a k t ht (hf.mono hn)⟩)

theorem Records.after_cleanup (h : Records limits history now sessions) (hn : now ≤ swept) :
    Records limits history swept (cleanup limits swept sessions) where
  unique := unique_cleanup h.unique swept
  unique_of a := by
    rw [actorSessions_cleanup h.unique]
    exact (h.unique_of a).filter _
  sound a k t ht := ((h.lookup_cleanup hn).mp ht).1
  complete a k t ht hf := (h.lookup_cleanup hn).mpr ⟨ht, hf⟩
  length_le a := by
    rw [actorSessions_cleanup h.unique]
    exact le_trans (by exact_mod_cast List.length_filter_le _ _) (h.length_le a)

theorem Records.mem_liveKeys (h : Records limits history now sessions) (hn : now ≤ swept) :
    k ∈ liveKeys limits swept sessions a ↔ k ∈ activeKeys limits history swept a := by
  rw [liveKeys, List.mem_toFinset, mem_keys_iff, mem_activeKeys]
  exact exists_congr (fun t ↦ h.lookup_cleanup hn)

theorem Records.liveKeys_eq (h : Records limits history now sessions) (hn : now ≤ swept) (a : Str) :
    liveKeys limits swept sessions a = activeKeys limits history swept a := Finset.ext (fun _ ↦ h.mem_liveKeys hn)

theorem Records.card_liveKeys (h : Records limits history now sessions) (swept : ℚ) (a : Str) :
    (liveKeys limits swept sessions a).card = (actorSessions (cleanup limits swept sessions) a).length := by
  refine Dict.Unique.card_keys ?_
  rw [actorSessions_cleanup h.unique]
  exact (h.unique_of a).filter _

theorem Records.setDefault (h : Records limits history now sessions) (actor : Str) :
    Records limits history now (setDefault actor [] sessions) where
  unique := h.unique.setDefault actor []
  unique_of a := by rw [actorSessions_setDefault]; exact h.unique_of a
  sound a := by rw [actorSessions_setDefault]; exact h.sound a
  complete a := by rw [actorSessions_setDefault]; exact h.complete a
  length_le a := by rw [actorSessions_setDefault]; exact h.length_le a

theorem Records.setItem (h : Records limits history swept sessions)
    (hl : key ∈ Dict.keys (actorSessions sessions actor) ∨
      ((actorSessions sessions actor).length : ℤ) < limits.concurrentSessionsLimit) (now : ℚ) :
    Records limits (history ++ [⟨actor, key, now⟩]) swept
      (setItem actor (Library.Python.setItem key now (actorSessions sessions actor)) sessions) := by
  have hof (a : Str) := actorSessions_setItem actor a (Library.Python.setItem key now (actorSessions sessions actor))
    sessions
  have hlookup (a k : Str) : (actorSessions (Library.Python.setItem actor
      (Library.Python.setItem key now (actorSessions sessions actor)) sessions) a).lookup k =
      if a = actor ∧ k = key then some now else (actorSessions sessions a).lookup k := by
    rw [hof]
    by_cases ha : a = actor
    · rw [if_pos ha, lookup_setItem]
      simp only [ha, true_and]
    · rw [if_neg ha, if_neg (fun hk ↦ ha hk.1)]
  refine ⟨h.unique.setItem _ _, fun a ↦ ?_, fun a k t ↦ ?_, fun a k t ↦ ?_, fun a ↦ ?_⟩
  · rw [hof]
    split
    · exact (h.unique_of actor).setItem key now
    · exact h.unique_of a
  · rw [hlookup, lastTouch_append]
    split
    · exact id
    · exact h.sound a k t
  · rw [hlookup, lastTouch_append]
    split
    · exact fun ht _ ↦ ht
    · exact h.complete a k t
  · rw [hof]
    split
    · rw [length_setItem]
      split
      · exact h.length_le actor
      · rename_i hk
        have hlt := hl.resolve_left hk
        push_cast
        omega
    · exact h.length_le a

theorem sessionGate_touch (limits : SessionLimits) :
    sessionGate limits (.touch now swept actor requestId mcpSessionId) sessions =
      SessionManager.touch limits now swept actor requestId mcpSessionId sessions := rfl

theorem activeCount_snd (limits : SessionLimits) (actor : Option Str) :
    (SessionManager.activeCount limits swept actor sessions).2 = cleanup limits swept sessions := by
  cases actor with
  | none => rfl
  | some actor => rfl

theorem activeCount_fst (h : Records limits history now sessions) :
    (SessionManager.activeCount limits swept (some actor) sessions).1 = (liveKeys limits swept sessions actor).card :=
  (h.card_liveKeys swept actor).symm

/-- One call keeps the store in step with the admitted touches. -/
theorem Records.gate (h : Records limits history now sessions) (c : SessionCall) (hn : now ≤ c.swept) :
    Records limits (history ++ (if passes (sessionGate limits c sessions).1 then c.asTouch.toList else [])) c.swept
      (sessionGate limits c sessions).2 := by
  cases c with
  | activeCount swept actor =>
    rw [show SessionCall.asTouch (.activeCount swept actor) = none from rfl, Option.toList_none, ite_self, List.append_nil]
    show Records limits history swept (SessionManager.activeCount limits swept actor sessions).2
    rw [activeCount_snd]
    exact h.after_cleanup hn
  | touch now swept actor requestId mcpSessionId =>
    have hc : Records limits history swept (cleanup limits swept sessions) := h.after_cleanup hn
    have hd := hc.setDefault actor
    rw [sessionGate_touch]
    rcases touch_cases limits now swept actor requestId mcpSessionId sessions with ⟨-, -, ht⟩ | ⟨hl, ht⟩
    · rw [ht, if_neg (by simp [passes]), List.append_nil]
      exact hd
    · have hs := actorSessions_setDefault actor actor (cleanup limits swept sessions)
      rw [ht, if_pos (by simp [passes])]
      rw [← hs] at hl ⊢
      exact hd.setItem hl now

end Store

end McpSqlServer

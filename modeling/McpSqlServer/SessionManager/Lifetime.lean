import McpSqlServer.SessionManager.Exactness

namespace McpSqlServer

open Library.Text Library.Python Library.Admission

/-- The store, and for each session the time of its first touch since it was last absent. -/
structure Tracked where
  sessions : Sessions := []
  started : Str → Str → Option ℚ := fun _ _ ↦ none

def StillThere (limits : SessionLimits) (swept : ℚ) (sessions : Sessions) (actor key : Str) : Prop :=
  key ∈ Dict.keys (actorSessions (cleanup limits swept sessions) actor)

instance (limits : SessionLimits) (swept : ℚ) (sessions : Sessions) (actor key : Str) :
    Decidable (StillThere limits swept sessions actor key) := decidableMemStr key _

def Tracked.step (limits : SessionLimits) (s : Tracked) (c : SessionCall) : Tracked where
  sessions := (sessionGate limits c s.sessions).2
  started := match c with
    | .touch now swept actor requestId mcpSessionId => fun a k ↦
      if a = actor ∧ k = sessionKey mcpSessionId requestId ∧ ¬ StillThere limits swept s.sessions actor k then some now
      else s.started a k
    | .activeCount _ _ => s.started

def tracked (limits : SessionLimits) (calls : List SessionCall) : Tracked := calls.foldl (Tracked.step limits) {}

def SessionLimits.ttl (limits : SessionLimits) : ℚ := (limits.sessionTtlMinutes * 60 : ℤ)

def SessionLimits.lease (limits : SessionLimits) : ℚ :=
  (min (limits.sessionTtlMinutes * 60) (limits.inactivityTimeoutMinutes * 60) : ℤ)

/-- A touch renews a session only where that does not carry it beyond its TTL. -/
def RenewsInTime (limits : SessionLimits) (s : Tracked) : SessionCall → Prop
  | .touch now swept actor requestId mcpSessionId => ∀ start,
    StillThere limits swept s.sessions actor (sessionKey mcpSessionId requestId) →
      s.started actor (sessionKey mcpSessionId requestId) = some start → now + limits.lease ≤ start + limits.ttl
  | .activeCount _ _ => True

structure InTime (limits : SessionLimits) (started : Str → Str → Option ℚ) (sessions : Sessions) : Prop where
  unique : Dict.Unique sessions
  unique_of : ∀ a, Dict.Unique (actorSessions sessions a)
  in_time : ∀ a k t, (actorSessions sessions a).lookup k = some t →
    ∃ start, started a k = some start ∧ t + limits.lease ≤ start + limits.ttl

section Lifetime

variable {limits : SessionLimits} {started started' : Str → Str → Option ℚ} {sessions : Sessions} {s : Tracked}
  {calls : List SessionCall}

theorem SessionLimits.lease_le_ttl (limits : SessionLimits) : limits.lease ≤ limits.ttl := by
  unfold lease ttl
  exact_mod_cast min_le_left _ _

theorem Fresh.le_lease {now t : ℚ} (h : Fresh limits now t) : now - t ≤ limits.lease := by
  unfold SessionLimits.lease
  rw [Int.cast_min]
  exact le_min h.1 h.2

theorem inTime_nil : InTime limits started [] where
  unique := List.nodup_nil
  unique_of _ := List.nodup_nil
  in_time _ _ _ h := nomatch h

theorem InTime.after_cleanup (h : InTime limits started sessions) (swept : ℚ) :
    InTime limits started (cleanup limits swept sessions) := by
  refine ⟨unique_cleanup h.unique swept, fun a ↦ ?_, fun a k t ht ↦ ?_⟩
  · rw [actorSessions_cleanup h.unique]
    exact (h.unique_of a).filter _
  · rw [actorSessions_cleanup h.unique, (h.unique_of a).lookup_filter, Option.filter_eq_some_iff] at ht
    exact h.in_time a k t ht.1

theorem InTime.setDefault (h : InTime limits started sessions) (actor : Str) :
    InTime limits started (setDefault actor [] sessions) where
  unique := h.unique.setDefault actor []
  unique_of a := by rw [actorSessions_setDefault]; exact h.unique_of a
  in_time a := by rw [actorSessions_setDefault]; exact h.in_time a

theorem InTime.congr (h : InTime limits started sessions)
    (hs : ∀ a k, k ∈ Dict.keys (actorSessions sessions a) → started' a k = started a k) :
    InTime limits started' sessions := by
  refine ⟨h.unique, h.unique_of, fun a k t ht ↦ ?_⟩
  rw [hs a k (mem_keys_iff.mpr ⟨t, ht⟩)]
  exact h.in_time a k t ht

theorem InTime.setItem {actor key : Str} {now start : ℚ} (h : InTime limits started sessions)
    (hs : started actor key = some start) (hle : now + limits.lease ≤ start + limits.ttl) :
    InTime limits started (setItem actor (Library.Python.setItem key now (actorSessions sessions actor)) sessions) := by
  refine ⟨h.unique.setItem _ _, fun a ↦ ?_, fun a k t ht ↦ ?_⟩
  · rw [actorSessions_setItem]
    split
    · exact (h.unique_of actor).setItem key now
    · exact h.unique_of a
  · rw [actorSessions_setItem] at ht
    split at ht
    · rename_i ha
      rw [lookup_setItem] at ht
      split at ht
      · rename_i hk
        rw [ha, hk, ← Option.some.inj ht]
        exact ⟨start, hs, hle⟩
      · rw [ha]
        exact h.in_time actor k t ht
    · exact h.in_time a k t ht

theorem InTime.step (h : InTime limits s.started s.sessions) (c : SessionCall) (hc : RenewsInTime limits s c) :
    InTime limits (s.step limits c).started (s.step limits c).sessions := by
  cases c with
  | activeCount swept actor =>
    have hs : (s.step limits (.activeCount swept actor)).sessions = cleanup limits swept s.sessions :=
      activeCount_snd limits actor
    rw [hs]
    exact h.after_cleanup swept
  | touch now swept actor requestId mcpSessionId =>
    have hcleaned := h.after_cleanup swept
    have hkeep : ∀ a k, k ∈ Dict.keys (actorSessions (cleanup limits swept s.sessions) a) →
        (s.step limits (.touch now swept actor requestId mcpSessionId)).started a k = s.started a k := by
      intro a k hk
      apply if_neg
      intro hn
      rw [hn.1] at hk
      exact hn.2.2 hk
    have hdefault := (hcleaned.congr hkeep).setDefault actor
    show InTime limits _ (SessionManager.touch limits now swept actor requestId mcpSessionId s.sessions).2
    rcases touch_cases limits now swept actor requestId mcpSessionId s.sessions with ⟨-, -, ht⟩ | ⟨-, ht⟩
    · rw [ht]
      exact hdefault
    · rw [ht, ← actorSessions_setDefault actor actor]
      by_cases hthere : StillThere limits swept s.sessions actor (sessionKey mcpSessionId requestId)
      · obtain ⟨t, hlookup⟩ := mem_keys_iff.mp hthere
        obtain ⟨start, hstart, -⟩ := hcleaned.in_time actor _ t hlookup
        have hsame := (hkeep actor _ hthere).trans hstart
        exact hdefault.setItem hsame (hc start hthere hstart)
      · have hnew : (s.step limits (.touch now swept actor requestId mcpSessionId)).started actor
            (sessionKey mcpSessionId requestId) = some now := if_pos ⟨rfl, rfl, hthere⟩
        have hlease := limits.lease_le_ttl
        exact hdefault.setItem hnew (by linarith)

theorem tracked_concat (calls : List SessionCall) (c : SessionCall) :
    tracked limits (calls ++ [c]) = (tracked limits calls).step limits c := by
  rw [tracked, List.foldl_concat]
  rfl

theorem inTime_tracked (h : ∀ pre c post, calls = pre ++ c :: post → RenewsInTime limits (tracked limits pre) c) :
    InTime limits (tracked limits calls).started (tracked limits calls).sessions := by
  induction calls using List.reverseRecOn with
  | nil => exact inTime_nil
  | append_singleton pre c ih =>
    rw [tracked_concat]
    refine InTime.step (ih (fun pre' d post hd ↦ h pre' d (post ++ [c]) ?_)) c (h pre c [] rfl)
    rw [hd, List.append_assoc, List.cons_append]

/-- Where every renewal leaves a session within its TTL, none is counted beyond it. -/
theorem session_lifetime (limits : SessionLimits) (calls : List SessionCall)
    (h : ∀ pre c post, calls = pre ++ c :: post → RenewsInTime limits (tracked limits pre) c) (now : ℚ) (actor : Str) :
    (SessionManager.activeCount limits now (some actor) (tracked limits calls).sessions).1 =
      (liveKeys limits now (tracked limits calls).sessions actor).card ∧
    ∀ key ∈ liveKeys limits now (tracked limits calls).sessions actor,
      ∃ start, (tracked limits calls).started actor key = some start ∧ now - start ≤ limits.ttl := by
  have htime := inTime_tracked h
  have hcleaned := htime.after_cleanup now
  constructor
  · exact (hcleaned.unique_of actor).card_keys.symm
  · intro key hkey
    rw [liveKeys, List.mem_toFinset, mem_keys_iff] at hkey
    obtain ⟨t, ht⟩ := hkey
    obtain ⟨start, hstart, hle⟩ := hcleaned.in_time actor key t ht
    rw [actorSessions_cleanup htime.unique, (htime.unique_of actor).lookup_filter, Option.filter_eq_some_iff,
      decide_eq_true_eq] at ht
    have hlease := ht.2.le_lease
    exact ⟨start, hstart, by linarith⟩

end Lifetime

def keptAlive : List SessionCall :=
  [0, 840, 1680, 2520, 3360].map (fun now ↦ .touch now now "alice".toList [] (some "s".toList))

theorem session_outlives_ttl :
    Clocked (keptAlive ++ [.activeCount 3700 (some "alice".toList)]) ∧
    (tracked {} keptAlive).started "alice".toList "s".toList = some 0 ∧
    (3700 : ℚ) - 0 > SessionLimits.ttl {} ∧
    (SessionManager.activeCount {} 3700 (some "alice".toList) (tracked {} keptAlive).sessions).1 = 1 := by
  decide +kernel

theorem session_lifetime_two_touches :
    "s".toList ∈ liveKeys {} 900 (tracked {} (keptAlive.take 2)).sessions "alice".toList ∧
      ∃ start, (tracked {} (keptAlive.take 2)).started "alice".toList "s".toList = some start ∧
        900 - start ≤ SessionLimits.ttl {} := by
  have hlive : "s".toList ∈ liveKeys {} 900 (tracked {} (keptAlive.take 2)).sessions "alice".toList := by
    decide +kernel
  refine ⟨hlive, (session_lifetime {} (keptAlive.take 2) (fun pre c post hc ↦ ?_) 900 "alice".toList).2 _ hlive⟩
  rcases pre with _ | ⟨d, _ | ⟨e, pre⟩⟩
  · obtain ⟨rfl, -⟩ := List.cons.inj hc
    intro start hthere
    exact absurd hthere (by decide +kernel)
  · obtain ⟨rfl, htail⟩ := List.cons.inj hc
    obtain ⟨rfl, -⟩ := List.cons.inj htail
    intro start _ hstart
    have hzero : (tracked {} (keptAlive.take 1)).started "alice".toList "s".toList = some 0 := by decide +kernel
    obtain rfl := Option.some.inj (hzero.symm.trans hstart)
    decide +kernel
  · exact absurd (congrArg List.length hc) (by simp [keptAlive])

end McpSqlServer

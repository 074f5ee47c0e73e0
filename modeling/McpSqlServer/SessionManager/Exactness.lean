import McpSqlServer.SessionManager.Store

namespace McpSqlServer

open Library.Text Library.Python Library.Admission

variable {limits : SessionLimits} {calls pre post : List SessionCall} {c : SessionCall} {now : ℚ}

theorem touches_concat (pre : List SessionCall) (c : SessionCall) :
    touches limits (pre ++ [c]) = touches limits pre ++
      (if passes (outcome (sessionGate limits) [] pre c) then c.asTouch.toList else []) :=
  filterMap_admitted_concat SessionCall.asTouch pre c

theorem swept_mem_readings (c : SessionCall) : c.swept ∈ c.readings := by
  cases c with
  | touch now swept actor requestId mcpSessionId => exact List.mem_cons_of_mem _ (List.mem_singleton_self _)
  | activeCount swept actor => exact List.mem_singleton_self _

theorem Clocked.append (h : Clocked (pre ++ post)) :
    Clocked pre ∧ Clocked post ∧ ∀ c ∈ pre, ∀ d ∈ post, c.swept ≤ d.swept := by
  rw [Clocked, List.flatMap_append, List.pairwise_append] at h
  refine ⟨h.1, h.2.1, fun c hc d hd ↦ ?_⟩
  apply h.2.2
  · exact List.mem_flatMap.mpr ⟨c, hc, swept_mem_readings c⟩
  · exact List.mem_flatMap.mpr ⟨d, hd, swept_mem_readings d⟩

theorem records_after (h : Clocked calls) (hn : ∀ c ∈ calls, c.swept ≤ now) :
    Records limits (touches limits calls) now (after (sessionGate limits) [] calls) := by
  induction calls using List.reverseRecOn generalizing now with
  | nil => exact records_nil limits now
  | append_singleton pre c ih =>
    obtain ⟨hpre, -, hlast⟩ := h.append
    have hc : c ∈ pre ++ [c] := List.mem_append_right _ (List.mem_singleton_self c)
    have hr := ih hpre (fun d hd ↦ hlast d hd c (List.mem_singleton_self c))
    rw [after_concat, touches_concat]
    exact (hr.gate c le_rfl).mono (hn c hc)

theorem records_before (h : Clocked calls) (hc : calls = pre ++ c :: post) :
    Records limits (touches limits pre) c.swept (after (sessionGate limits) [] pre) := by
  rw [hc] at h
  obtain ⟨hpre, -, hlast⟩ := h.append
  exact records_after hpre (fun d hd ↦ hlast d hd c List.mem_cons_self)

theorem records_behind (h : Clocked calls) (hc : calls = pre ++ c :: post) :
    Records limits (touches limits (pre ++ [c])) c.swept (after (sessionGate limits) [] (pre ++ [c])) := by
  have hr : Records limits (touches limits pre) c.swept (after (sessionGate limits) [] pre) := records_before h hc
  rw [after_concat, touches_concat]
  exact hr.gate c le_rfl

theorem liveKeys_concat {a : Str} (h : Clocked calls) (hc : calls = pre ++ c :: post) (hn : c.swept ≤ now)
    (ha : ∀ t ∈ (if passes (outcome (sessionGate limits) [] pre c) then c.asTouch.toList else []), t.actor ≠ a) :
    liveKeys limits now (after (sessionGate limits) [] (pre ++ [c])) a =
      liveKeys limits now (after (sessionGate limits) [] pre) a := by
  have hlast (key : Str) : lastTouch (touches limits (pre ++ [c])) a key = lastTouch (touches limits pre) a key := by
    rw [touches_concat]
    generalize (if passes (outcome (sessionGate limits) [] pre c) then c.asTouch.toList else []) = added at ha
    unfold lastTouch
    rw [List.filter_append]
    have hnone : added.filter (fun t ↦ t.actor = a ∧ t.key = key) = [] := by
      apply List.filter_eq_nil_iff.mpr
      intro t ht
      simp [ha t ht]
    rw [hnone, List.append_nil]
  rw [(records_behind h hc).liveKeys_eq hn, (records_before h hc).liveKeys_eq hn]
  ext key
  rw [mem_activeKeys, mem_activeKeys, hlast]

theorem exists_records (h : Clocked calls) :
    ∃ now, Records limits (touches limits calls) now (after (sessionGate limits) [] calls) := by
  rcases List.eq_nil_or_concat' calls with rfl | ⟨pre, c, rfl⟩
  · exact ⟨0, records_nil limits 0⟩
  · exact ⟨c.swept, records_behind h rfl⟩

theorem liveKeys_card_le (h : Clocked calls) (hc : calls = pre ++ post) (now : ℚ) (a : Str) :
    ((liveKeys limits now (after (sessionGate limits) [] pre) a).card : ℤ) ≤ max 0 limits.concurrentSessionsLimit := by
  rw [hc] at h
  obtain ⟨last, hr⟩ : ∃ last, Records limits (touches limits pre) last (after (sessionGate limits) [] pre) :=
    exists_records h.append.1
  have hle : (actorSessions (cleanup limits now (after (sessionGate limits) [] pre)) a).length ≤
      (actorSessions (after (sessionGate limits) [] pre) a).length := by
    rw [actorSessions_cleanup hr.unique]
    exact List.length_filter_le _ _
  rw [hr.card_liveKeys]
  have hmax := hr.length_le a
  omega

/-- What a touch behind the calls `pre` is answered, and what it leaves. -/
structure TouchExact (limits : SessionLimits) (pre : List SessionCall) (now swept : ℚ) (actor requestId : Str)
    (mcpSessionId : Option Str) : Prop where
  refused_iff : outcome (sessionGate limits) [] pre (.touch now swept actor requestId mcpSessionId) =
      .error (permissionError "SESSION_LIMIT_EXCEEDED".toList) ↔
    sessionKey mcpSessionId requestId ∉ activeKeys limits (touches limits pre) swept actor ∧
      limits.concurrentSessionsLimit ≤ (activeKeys limits (touches limits pre) swept actor).card
  admitted_or : outcome (sessionGate limits) [] pre (.touch now swept actor requestId mcpSessionId) = .ok () ∨
    outcome (sessionGate limits) [] pre (.touch now swept actor requestId mcpSessionId) =
      .error (permissionError "SESSION_LIMIT_EXCEEDED".toList)
  refused_keeps : outcome (sessionGate limits) [] pre (.touch now swept actor requestId mcpSessionId) ≠ .ok () →
    ∀ at' a, swept ≤ at' → liveKeys limits at' (after (sessionGate limits) []
      (pre ++ [.touch now swept actor requestId mcpSessionId])) a =
        liveKeys limits at' (after (sessionGate limits) [] pre) a
  others_keep : ∀ at' a, swept ≤ at' → a ≠ actor → liveKeys limits at' (after (sessionGate limits) []
      (pre ++ [.touch now swept actor requestId mcpSessionId])) a =
        liveKeys limits at' (after (sessionGate limits) [] pre) a

theorem touch_answer (limits : SessionLimits) {swept : ℚ} {actor requestId : Str} {mcpSessionId : Option Str} (h : Clocked calls)
    (hc : calls = pre ++ .touch now swept actor requestId mcpSessionId :: post) :
    (sessionKey mcpSessionId requestId ∉ activeKeys limits (touches limits pre) swept actor ∧
      limits.concurrentSessionsLimit ≤ (activeKeys limits (touches limits pre) swept actor).card ∧
      outcome (sessionGate limits) [] pre (.touch now swept actor requestId mcpSessionId) =
        .error (permissionError "SESSION_LIMIT_EXCEEDED".toList)) ∨
    ((sessionKey mcpSessionId requestId ∈ activeKeys limits (touches limits pre) swept actor ∨
        ((activeKeys limits (touches limits pre) swept actor).card : ℤ) < limits.concurrentSessionsLimit) ∧
      outcome (sessionGate limits) [] pre (.touch now swept actor requestId mcpSessionId) = .ok ()) := by
  have hr : Records limits (touches limits pre) swept (after (sessionGate limits) [] pre) := records_before h hc
  have hkept := hr.liveKeys_eq le_rfl actor
  have hcard := hr.card_liveKeys swept actor
  rw [hkept] at hcard
  have hkey : sessionKey mcpSessionId requestId ∈ activeKeys limits (touches limits pre) swept actor ↔
      sessionKey mcpSessionId requestId ∈ Dict.keys (actorSessions (cleanup limits swept
        (after (sessionGate limits) [] pre)) actor) := by
    rw [← hkept, liveKeys, List.mem_toFinset]
  rw [hkey, hcard]
  rcases touch_cases limits now swept actor requestId mcpSessionId (after (sessionGate limits) [] pre) with
    ⟨hk, hl, ht⟩ | ⟨hl, ht⟩
  · exact .inl ⟨hk, hl, congrArg Prod.fst ht⟩
  · exact .inr ⟨hl, congrArg Prod.fst ht⟩

theorem touchExact {swept : ℚ} {actor requestId : Str} {mcpSessionId : Option Str} (h : Clocked calls)
    (hc : calls = pre ++ .touch now swept actor requestId mcpSessionId :: post) :
    TouchExact limits pre now swept actor requestId mcpSessionId := by
  have hanswer := touch_answer limits h hc
  refine ⟨?_, ?_, fun hn at' a hat ↦ ?_, fun at' a hat ha ↦ ?_⟩
  · rcases hanswer with ⟨hk, hl, ho⟩ | ⟨hl, ho⟩
    · exact iff_of_true ho ⟨hk, hl⟩
    · rw [ho]
      apply iff_of_false
      · intro he
        cases he
      · intro hn
        rcases hl with hk | hlt
        · exact hn.1 hk
        · exact absurd hn.2 (not_le.mpr hlt)
  · rcases hanswer with ⟨-, -, ho⟩ | ⟨-, ho⟩
    · exact .inr ho
    · exact .inl ho
  · apply liveKeys_concat h hc hat
    have hp : passes (outcome (sessionGate limits) [] pre (.touch now swept actor requestId mcpSessionId)) = false := by
      rw [← Bool.not_eq_true, passes_iff]
      exact hn
    rw [hp, if_neg Bool.false_ne_true]
    exact fun t ht ↦ absurd ht List.not_mem_nil
  · apply liveKeys_concat h hc hat
    split
    · intro t ht
      rw [List.mem_singleton.mp ht]
      exact Ne.symm ha
    · exact fun t ht ↦ absurd ht List.not_mem_nil

/-- The store counts for each actor the keys whose latest admitted touch is fresh, and refuses
exactly a further key of an actor at the limit. -/
theorem sessionStore_exact (limits : SessionLimits) (calls : List SessionCall) (h : Clocked calls) :
    (∀ pre swept actor post, calls = pre ++ .activeCount swept (some actor) :: post →
      (SessionManager.activeCount limits swept (some actor) (after (sessionGate limits) [] pre)).1 =
        (activeKeys limits (touches limits pre) swept actor).card) ∧
    (∀ pre now swept actor requestId mcpSessionId post,
      calls = pre ++ .touch now swept actor requestId mcpSessionId :: post →
        TouchExact limits pre now swept actor requestId mcpSessionId) ∧
    (∀ pre post, calls = pre ++ post → ∀ now actor,
      ((liveKeys limits now (after (sessionGate limits) [] pre) actor).card : ℤ) ≤
        max 0 limits.concurrentSessionsLimit) := by
  refine ⟨fun pre swept actor post hc ↦ ?_, fun pre now swept actor requestId mcpSessionId post hc ↦ ?_,
    fun pre post hc now actor ↦ liveKeys_card_le h hc now actor⟩
  · have hr : Records limits (touches limits pre) swept (after (sessionGate limits) [] pre) := records_before h hc
    rw [activeCount_fst hr]
    exact congrArg Finset.card (hr.liveKeys_eq le_rfl actor)
  · exact touchExact h hc

def oneSession : SessionLimits where
  concurrentSessionsLimit := 1

def aliceTwice : List SessionCall :=
  [.touch 0 0 "alice".toList "first".toList none, .touch 10 10 "alice".toList "second".toList none,
    .activeCount 20 (some "alice".toList)]

theorem sessionStore_exact_alice :
    outcome (sessionGate oneSession) [] (aliceTwice.take 1) (.touch 10 10 "alice".toList "second".toList none) =
      .error (permissionError "SESSION_LIMIT_EXCEEDED".toList) ∧
    (SessionManager.activeCount oneSession 20 (some "alice".toList)
      (after (sessionGate oneSession) [] (aliceTwice.take 2))).1 = 1 := by
  obtain ⟨hcount, htouch, -⟩ := sessionStore_exact oneSession aliceTwice (by decide +kernel)
  constructor
  · apply (htouch (aliceTwice.take 1) 10 10 _ _ none (aliceTwice.drop 2) rfl).refused_iff.mpr
    decide +kernel
  · rw [hcount (aliceTwice.take 2) 20 _ [] rfl]
    decide +kernel

end McpSqlServer

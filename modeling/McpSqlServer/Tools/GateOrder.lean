import McpSqlServer.Tools.Bodies
import McpSqlServer.Tools.Stages

namespace McpSqlServer

open Library Library.Text Library.Python

variable {β α : Type} {S : Site β} {P : World β → Prop} {Q : Unit → World β → Prop} {E : Exc → World β → Prop}

section Gates

theorem pass_triple {g : Gate} (h : ∀ w, P w → Q () (w.record (.passed g))) : Triple P (pass (β := β) g) Q E :=
  Triple.modify h

theorem refuse_triple {g : Gate} {e : Exc} (h : ∀ w, P w → E e (w.record (.refused g))) :
    Triple P (refuse (β := β) g e) Q E :=
  Triple.modify_bind h (Triple.raise (fun _ hw ↦ hw))

theorem touchSession_triple {sessionId : Option Str}
    (hok : ∀ w sessions, P w → touch S.sessionLimits (S.clock w.trace) w.frame.actor
      (sessionKey sessionId S.requestId) w.sessions = (.ok (), sessions) →
      Q () (({ w with sessions := sessions }).record (.passed (.touch w.frame.actor))))
    (herr : ∀ w e sessions, P w → touch S.sessionLimits (S.clock w.trace) w.frame.actor
      (sessionKey sessionId S.requestId) w.sessions = (.error e, sessions) →
      E e (({ w with sessions := sessions }).record (.refused (.touch w.frame.actor)))) :
    Triple P (touchSession S sessionId) Q E := by
  unfold touchSession
  refine .read_bind (fun w hw ↦ ?_)
  dsimp only [id]
  rcases h : touch S.sessionLimits (S.clock w.trace) w.frame.actor (sessionKey sessionId S.requestId) w.sessions with
    ⟨r, sessions⟩
  rintro _ rfl
  cases r with
  | ok u => exact hok _ sessions hw h
  | error e => exact herr _ e sessions hw h

theorem allowRequest_triple
    (hok : ∀ w buckets, P w → S.rateLimiter.allow (S.clock w.trace) w.frame.actor w.buckets = (.ok (), buckets) →
      Q () (({ w with buckets := buckets }).record (.passed (.allow w.frame.actor))))
    (herr : ∀ w e buckets, P w →
      S.rateLimiter.allow (S.clock w.trace) w.frame.actor w.buckets = (.error e, buckets) →
      E e (({ w with buckets := buckets }).record (.refused (.allow w.frame.actor)))) :
    Triple P (allowRequest S) Q E := by
  unfold allowRequest
  refine .read_bind (fun w hw ↦ ?_)
  dsimp only [id]
  rcases h : S.rateLimiter.allow (S.clock w.trace) w.frame.actor w.buckets with ⟨r, buckets⟩
  rintro _ rfl
  cases r with
  | ok u => exact hok _ buckets hw h
  | error e => exact herr _ e buckets hw h

theorem checkGuard_triple [UnicodeData] {g : Gate}
    (hok : ∀ w, P w → guardVerdict S.policy g = .ok () → Q () (w.record (.passed g)))
    (herr : ∀ w e, P w → guardVerdict S.policy g = .error e → E e (w.record (.refused g))) :
    Triple P (checkGuard S g) Q E := by
  unfold checkGuard
  cases h : guardVerdict S.policy g with
  | ok u => exact pass_triple (fun w hw ↦ hok w hw h)
  | error e => exact refuse_triple (fun w hw ↦ herr w e hw h)

theorem logAuditEvent_invariant {I : World β → Prop} {b : Binding} (hl : ∀ w, I w → I (w.record (.logEvent b.tool)))
    (ha : ∀ w audit, I w → I { w with audit := audit }) (sql : Str) : Invariant I (logAuditEvent S b sql) := by
  refine .bind (Invariant.modify hl) (fun _ ↦ .bind (.read id) (fun w ↦ ?_))
  dsimp only
  split
  · exact Invariant.raise _
  · exact Invariant.modify (fun w h ↦ ha w _ h)

end Gates

def Event.isKey (e : Event) : Bool := e.isGate || e.isQuery

def Gate.isGuard : Gate → Bool
  | .validateProcedure _ _ | .enforce _ _ => true
  | _ => false

theorem Request.guards_isGuard (b : Binding) (req : Request) : ∀ g ∈ req.guards b, g.isGuard = true := by
  cases req <;> simp [Request.guards, Gate.isGuard]

def callGates (required : Privilege) (guards : List Gate) (actor : Str) : List Gate :=
  .authorize required actor :: .touch actor :: .allow actor :: guards

variable [UnicodeData]

def Granted (S : Site β) (argument : Str) (w₀ w : World β) : Gate → Prop
  | .authorize required actor => ∃ authCtx, authorize S.auth S.token argument required = .ok (actor, authCtx)
  | .touch actor => ∃ now, touch S.sessionLimits now actor
      (sessionKey (S.ctx.bind McpContext.sessionId) S.requestId) w₀.sessions = (.ok (), w.sessions)
  | .allow actor => ∃ now, S.rateLimiter.allow now actor w₀.buckets = (.ok (), w.buckets)
  | g => guardVerdict S.policy g = .ok ()

/-- The call has passed exactly these gates and done nothing else that matters. -/
structure Through (S : Site β) (argument : Str) (w₀ : World β) (done : List Gate) (w : World β) : Prop where
  keys : w.trace.filter Event.isKey = done.map .passed
  granted : ∀ g ∈ done, Granted S argument w₀ w g
  sessions : done.length < 2 → w.sessions = w₀.sessions
  buckets : done.length < 3 → w.buckets = w₀.buckets

/-- How a call can stand: it has passed the first gates, and then stopped, been refused by
a further one, or, with all of them passed, made queries. -/
structure Standing (S : Site β) (w₀ : World β) (required : Privilege) (guards : List Gate) (argument actor : Str)
    (done rest : List Gate) (tail : List Event) (w : World β) : Prop where
  gates : callGates required guards actor = done ++ rest
  keys : w.trace.filter Event.isKey = done.map .passed ++ tail
  tail_cases : tail = [] ∨ (∃ g, tail = [.refused g]) ∨ (rest = [] ∧ ∀ e ∈ tail, e.isQuery = true)
  granted : ∀ g ∈ done, Granted S argument w₀ w g
  sessions : done = [] → w.sessions = w₀.sessions
  buckets : done.length < 2 → w.buckets = w₀.buckets

def GateTrace (S : Site β) (w₀ : World β) (required : Privilege) (guards : List Gate) (argument : Str)
    (w : World β) : Prop :=
  ∃ actor done rest tail, Standing S w₀ required guards argument actor done rest tail w

section Steps

variable {w₀ w w' : World β} {done rest guards : List Gate} {required : Privilege} {argument actor : Str}
  {tail : List Event} {g : Gate}

theorem Granted.congr (h : Granted S argument w₀ w g) (hs : w'.sessions = w.sessions) (hb : w'.buckets = w.buckets) :
    Granted S argument w₀ w' g := by
  cases g with
  | touch a =>
    obtain ⟨now, h⟩ := h
    exact ⟨now, by rw [h, hs]⟩
  | allow a =>
    obtain ⟨now, h⟩ := h
    exact ⟨now, by rw [h, hb]⟩
  | authorize r a => exact h
  | validateProcedure t p => exact h
  | enforce t q => exact h

theorem granted_guard (h : g.isGuard = true) : Granted S argument w₀ w g ↔ guardVerdict S.policy g = .ok () := by
  cases g with
  | validateProcedure t p => exact Iff.rfl
  | enforce t q => exact Iff.rfl
  | authorize r a => cases h
  | touch a => cases h
  | allow a => cases h

theorem Through.pass (h : Through S argument w₀ done w) (ht : w'.trace = w.trace ++ [.passed g])
    (hg : Granted S argument w₀ w' g) (hd : ∀ k ∈ done, Granted S argument w₀ w k → Granted S argument w₀ w' k)
    (hs : done = [] → w'.sessions = w.sessions) (hb : done.length < 2 → w'.buckets = w.buckets) :
    Through S argument w₀ (done ++ [g]) w' where
  keys := by
    rw [ht, List.filter_append, h.keys, List.map_append]
    rfl
  granted k hk := by
    rcases List.mem_append.mp hk with hk | hk
    · exact hd k hk (h.granted k hk)
    · rwa [List.mem_singleton.mp hk]
  sessions hl := by
    rw [List.length_append, List.length_singleton] at hl
    exact (hs (List.length_eq_zero_iff.mp (by omega))).trans (h.sessions (by omega))
  buckets hl := by
    rw [List.length_append, List.length_singleton] at hl
    exact (hb (by omega)).trans (h.buckets (by omega))

theorem Through.standing (h : Through S argument w₀ done w) (hg : callGates required guards actor = done ++ rest) :
    Standing S w₀ required guards argument actor done rest [] w where
  gates := hg
  keys := by rw [h.keys, List.append_nil]
  tail_cases := .inl rfl
  granted := h.granted
  sessions hd := h.sessions (by simp [hd])
  buckets hl := h.buckets (by omega)

theorem Through.refuse (h : Through S argument w₀ done w) (hg : callGates required guards actor = done ++ rest)
    (ht : w'.trace = w.trace ++ [.refused g])
    (hd : ∀ k ∈ done, Granted S argument w₀ w k → Granted S argument w₀ w' k)
    (hs : done = [] → w'.sessions = w.sessions) (hb : done.length < 2 → w'.buckets = w.buckets) :
    Standing S w₀ required guards argument actor done rest [.refused g] w' where
  gates := hg
  keys := by
    rw [ht, List.filter_append, h.keys]
    rfl
  tail_cases := .inr (.inl ⟨g, rfl⟩)
  granted k hk := hd k hk (h.granted k hk)
  sessions hd := (hs hd).trans (h.sessions (by simp [hd]))
  buckets hl := (hb hl).trans (h.buckets (by omega))

theorem Standing.congr (h : Standing S w₀ required guards argument actor done rest tail w)
    (ht : w'.trace.filter Event.isKey = w.trace.filter Event.isKey) (hs : w'.sessions = w.sessions)
    (hb : w'.buckets = w.buckets) : Standing S w₀ required guards argument actor done rest tail w' :=
  ⟨h.gates, ht.trans h.keys, h.tail_cases, fun g hg ↦ (h.granted g hg).congr hs hb, fun hd ↦ hs.trans (h.sessions hd),
    fun hl ↦ hb.trans (h.buckets hl)⟩

theorem Standing.query {e : Event} (h : Standing S w₀ required guards argument actor done [] tail w)
    (ht : ∀ e ∈ tail, e.isQuery = true) (he : e.isQuery = true) :
    Standing S w₀ required guards argument actor done [] (tail ++ [e]) (w.record e) where
  gates := h.gates
  keys := by
    have hk : Event.isKey e = true := by rw [Event.isKey, he, Bool.or_true]
    rw [World.record_trace, List.filter_append, h.keys, List.append_assoc, List.filter_singleton, hk]
    rfl
  tail_cases := by
    refine .inr (.inr ⟨rfl, fun d hd ↦ ?_⟩)
    rcases List.mem_append.mp hd with hd | hd
    · exact ht d hd
    · rwa [List.mem_singleton.mp hd]
  granted := h.granted
  sessions := h.sessions
  buckets := h.buckets

omit [UnicodeData] in
theorem filter_isKey_record (w : World β) {e : Event} (h : e.isKey = false) :
    (w.record e).trace.filter Event.isKey = w.trace.filter Event.isKey := by
  rw [World.record_trace, List.filter_append, List.filter_singleton, h]
  exact List.append_nil _

theorem GateTrace.congr (h : GateTrace S w₀ required guards argument w)
    (ht : w'.trace.filter Event.isKey = w.trace.filter Event.isKey) (hs : w'.sessions = w.sessions)
    (hb : w'.buckets = w.buckets) : GateTrace S w₀ required guards argument w' := by
  obtain ⟨actor, done, rest, tail, h⟩ := h
  exact ⟨actor, done, rest, tail, h.congr ht hs hb⟩

theorem gateTrace_quiet : Quiet (GateTrace S w₀ required guards argument) where
  notify w h := h.congr (filter_isKey_record w rfl) rfl rfl
  frame _ _ h := h.congr rfl rfl rfl
  denied _ _ h := h.congr rfl rfl rfl

end Steps

def Passed (S : Site β) (argument : Str) (w₀ : World β) (done : List Gate) (actor : Str) (w : World β) : Prop :=
  Through S argument w₀ done w ∧ w.frame.actor = actor

def Querying (S : Site β) (w₀ : World β) (required : Privilege) (guards : List Gate) (argument actor : Str)
    (w : World β) : Prop :=
  ∃ tail, Standing S w₀ required guards argument actor (callGates required guards actor) [] tail w ∧
    ∀ e ∈ tail, e.isQuery = true

section Stages

variable {w₀ w : World β} {done rest guards : List Gate} {required : Privilege} {argument actor : Str}

theorem Passed.notify (h : Passed S argument w₀ done actor w) : Passed S argument w₀ done actor (w.record .notify) :=
  ⟨⟨(filter_isKey_record w rfl).trans h.1.keys, fun g hg ↦ (h.1.granted g hg).congr rfl rfl, h.1.sessions,
    h.1.buckets⟩, h.2⟩

theorem Querying.congr {w' : World β} (h : Querying S w₀ required guards argument actor w)
    (ht : w'.trace.filter Event.isKey = w.trace.filter Event.isKey) (hs : w'.sessions = w.sessions)
    (hb : w'.buckets = w.buckets) : Querying S w₀ required guards argument actor w' := by
  obtain ⟨tail, h, hq⟩ := h
  exact ⟨tail, h.congr ht hs hb, hq⟩

theorem undisturbed_querying (instanceId : Str) (stmts : Statement → Prop) :
    Undisturbed instanceId stmts (Querying S w₀ required guards argument actor) where
  notify w h := h.congr (filter_isKey_record w rfl) rfl rfl
  rows _ _ h := h.congr rfl rfl rfl
  query w e he h := by
    obtain ⟨tail, h, ht⟩ := h
    refine ⟨tail ++ [e], h.query ht he.isQuery, fun d hd ↦ ?_⟩
    rcases List.mem_append.mp hd with hd | hd
    · exact ht d hd
    · rw [List.mem_singleton.mp hd]
      exact he.isQuery
  pages _ _ h := h.congr rfl rfl rfl

variable (hg : callGates required guards actor = done ++ rest)
include hg

theorem Passed.gateTrace (h : Passed S argument w₀ done actor w) : GateTrace S w₀ required guards argument w :=
  ⟨actor, done, rest, [], h.1.standing hg⟩

theorem stay_triple {m : ToolM β α} (h : Invariant (Passed S argument w₀ done actor) m) :
    Triple (Passed S argument w₀ done actor) m (fun _ ↦ Passed S argument w₀ done actor)
      (fun _ ↦ GateTrace S w₀ required guards argument) :=
  h.mono (fun _ h ↦ h) (fun _ _ h ↦ h) (fun _ _ h ↦ h.gateTrace hg)

end Stages

section Calls

variable {w₀ : World β} {guards : List Gate} {required : Privilege} {argument actor : Str} {authCtx : AuthContext}

theorem authorize_refused {e : Exc} {Q : Unit → World β → Prop}
    (h : authorize S.auth S.token argument required = .error e) :
    Triple (Passed S argument w₀ [] argument) (resolveActorAndAuthorize S required) Q
      (fun _ ↦ GateTrace S w₀ required guards argument) := by
  refine .read_bind (fun w hw ↦ ?_)
  rw [hw.2, h]
  rintro _ rfl
  exact ⟨argument, [], _, _, hw.1.refuse rfl rfl (fun _ _ h ↦ h) (fun _ ↦ rfl) (fun _ ↦ rfl)⟩

theorem authorize_passed (h : authorize S.auth S.token argument required = .ok (actor, authCtx)) :
    Triple (Passed S argument w₀ [] argument) (resolveActorAndAuthorize S required)
      (fun _ ↦ Passed S argument w₀ [.authorize required actor] actor)
      (fun _ ↦ GateTrace S w₀ required guards argument) := by
  refine .read_bind (fun w hw ↦ ?_)
  rw [hw.2, h]
  rintro _ rfl
  have hn : Invariant (Passed S argument w₀ [] argument) (notifyIf S (authEnforced S.auth)) :=
    notifyIf_invariant _ (fun w h ↦ h.notify)
  refine Triple.bind (stay_triple rfl hn) (fun _ ↦ ?_) _ hw
  refine .modify_bind (I := Passed S argument w₀ [] actor) (fun w hw ↦ ⟨⟨hw.1.1, hw.1.2, hw.1.3, hw.1.4⟩, rfl⟩)
    (pass_triple (fun w hw ↦ ?_))
  exact ⟨hw.1.pass rfl ⟨authCtx, h⟩ (fun _ hk ↦ nomatch hk) (fun _ ↦ rfl) (fun _ ↦ rfl), hw.2⟩

theorem touchSession_passed :
    Triple (Passed S argument w₀ [.authorize required actor] actor)
      (touchSession S (S.ctx.bind McpContext.sessionId))
      (fun _ ↦ Passed S argument w₀ [.authorize required actor, .touch actor] actor)
      (fun _ ↦ GateTrace S w₀ required guards argument) := by
  refine touchSession_triple (fun w sessions hw h ↦ ?_) (fun w e sessions hw _ ↦ ?_)
  · have hs : w.sessions = w₀.sessions := hw.1.sessions Nat.one_lt_two
    rw [hw.2, hs] at h
    rw [hw.2]
    refine ⟨Through.pass (w := w) hw.1 rfl ⟨_, h⟩ (fun k hk hw ↦ ?_) (fun hd ↦ absurd hd (List.cons_ne_nil _ _))
      (fun _ ↦ rfl), hw.2⟩
    rw [List.mem_singleton.mp hk] at hw ⊢
    exact hw
  · have hg : callGates required guards actor = [.authorize required actor] ++ .touch actor :: .allow actor :: guards := rfl
    refine ⟨actor, _, _, _, hw.1.refuse hg rfl (fun k hk hw ↦ ?_)
      (fun hd ↦ absurd hd (List.cons_ne_nil _ _)) (fun _ ↦ rfl)⟩
    rw [List.mem_singleton.mp hk] at hw ⊢
    exact hw

theorem allowRequest_passed :
    Triple (Passed S argument w₀ [.authorize required actor, .touch actor] actor) (allowRequest S)
      (fun _ ↦ Passed S argument w₀ [.authorize required actor, .touch actor, .allow actor] actor)
      (fun _ ↦ GateTrace S w₀ required guards argument) := by
  -- neither the authorization nor the touch depends on the buckets
  have hkeep : ∀ (w w' : World β), w'.sessions = w.sessions →
      ∀ k ∈ [Gate.authorize required actor, .touch actor], Granted S argument w₀ w k → Granted S argument w₀ w' k := by
    intro w w' hs k hk h
    rcases List.mem_pair.mp hk with rfl | rfl
    · exact h
    · obtain ⟨now, h⟩ := h
      exact ⟨now, by rw [h, hs]⟩
  refine allowRequest_triple (fun w buckets hw h ↦ ?_) (fun w e buckets hw _ ↦ ?_)
  · have hb : w.buckets = w₀.buckets := hw.1.buckets (Nat.lt_succ_self 2)
    rw [hw.2, hb] at h
    rw [hw.2]
    exact ⟨Through.pass (w := w) hw.1 rfl ⟨_, h⟩ (hkeep _ _ rfl) (fun hd ↦ absurd hd (List.cons_ne_nil _ _))
      (fun hl ↦ absurd hl (Nat.lt_irrefl 2)), hw.2⟩
  · have hg : callGates required guards actor = [.authorize required actor, .touch actor] ++ .allow actor :: guards := rfl
    exact ⟨actor, _, _, _, hw.1.refuse hg rfl (hkeep _ _ rfl) (fun _ ↦ rfl)
      (fun hl ↦ absurd hl (Nat.lt_irrefl 2))⟩

theorem checkGuards_passed {done rest : List Gate} (hg : callGates required guards actor = done ++ rest)
    (hr : ∀ g ∈ rest, g.isGuard = true) :
    Triple (Passed S argument w₀ done actor) (checkGuards S rest) (fun _ ↦ Passed S argument w₀ (done ++ rest) actor)
      (fun _ ↦ GateTrace S w₀ required guards argument) := by
  induction rest generalizing done with
  | nil => exact .pure (fun w hw ↦ by rwa [List.append_nil])
  | cons g gates ih =>
    have hstep : Triple (Passed S argument w₀ done actor) (checkGuard S g)
        (fun _ ↦ Passed S argument w₀ (done ++ [g]) actor) (fun _ ↦ GateTrace S w₀ required guards argument) := by
      refine checkGuard_triple (fun w hw h ↦ ⟨?_, hw.2⟩) (fun w e hw _ ↦ ?_)
      · exact hw.1.pass rfl ((granted_guard (hr g List.mem_cons_self)).mpr h) (fun k _ h ↦ h.congr rfl rfl) (fun _ ↦ rfl)
          (fun _ ↦ rfl)
      · exact ⟨actor, done, _, _, hw.1.refuse hg rfl (fun k _ h ↦ h.congr rfl rfl) (fun _ ↦ rfl) (fun _ ↦ rfl)⟩
    have hg' : callGates required guards actor = (done ++ [g]) ++ gates := by rw [hg, List.append_assoc]; rfl
    have hrest := ih hg'
      (fun k hk ↦ hr k (List.mem_cons_of_mem _ hk))
    rw [List.append_assoc] at hrest
    exact .bind hstep (fun _ ↦ hrest)

theorem gateStages_passed {call : ToolCall α}
    (h : authorize S.auth S.token call.actor call.required = .ok (actor, authCtx))
    (hc : ∀ g ∈ call.guards, g.isGuard = true) :
    GateStages S call (Passed S call.actor w₀ [] call.actor)
      (Passed S call.actor w₀ [.authorize call.required actor] actor)
      (Passed S call.actor w₀ [.authorize call.required actor, .touch actor] actor)
      (Passed S call.actor w₀ [.authorize call.required actor, .touch actor, .allow actor] actor)
      (Passed S call.actor w₀ (callGates call.required call.guards actor) actor)
      (fun _ ↦ GateTrace S w₀ call.required call.guards call.actor) where
  notified := stay_triple rfl (notify_invariant (fun _ h ↦ h.notify))
  checked _ _ _ h := h.gateTrace rfl
  resolved := authorize_passed h
  touched := touchSession_passed
  touched_notified := stay_triple rfl (notifyIf_invariant _ (fun _ h ↦ h.notify))
  allowed := allowRequest_passed
  allowed_notified := stay_triple rfl (notifyIf_invariant _ (fun _ h ↦ h.notify))
  guarded := checkGuards_passed rfl hc
  guarded_notified := stay_triple (List.append_nil _).symm (notifyIf_invariant _ (fun _ h ↦ h.notify))
  targeted _ _ _ h := h.gateTrace (List.append_nil _).symm

theorem runTool_gateTrace (w₀ : World β) {b : Binding} {stmts : Statement → Prop} (call : ToolCall α) {ladder : Exc → ToolM β Value}
    {body : α → Option Str → ToolM β Value} (hb : ToolBody b stmts ladder body)
    (hc : ∀ g ∈ call.guards, g.isGuard = true) :
    Triple (fun w ↦ w = w₀) (runTool S call ladder body)
      (fun _ ↦ GateTrace S w₀ call.required call.guards call.actor)
      (fun _ ↦ GateTrace S w₀ call.required call.guards call.actor) := by
  have hlog : Invariant (GateTrace S w₀ call.required call.guards call.actor) (logAuditEvent S call.binding call.sql) :=
    logAuditEvent_invariant (fun w h ↦ h.congr (filter_isKey_record w rfl) rfl rfl)
      (fun _ _ h ↦ h.congr rfl rfl rfl) _
  have hbegin : ∀ w, w = w₀ → Passed S call.actor w₀ [] call.actor (w.begin call.actor) := by
    rintro w rfl
    exact ⟨⟨rfl, fun _ hg ↦ absurd hg List.not_mem_nil, fun _ ↦ rfl, fun _ ↦ rfl⟩, rfl⟩
  refine runTool_triple hbegin ?_ (fun e ↦ hb.ladder_invariant _ gateTrace_quiet e) hlog
  cases h : authorize S.auth S.token call.actor call.required with
  | error e =>
    have htry : Triple (Passed S call.actor w₀ [] call.actor) (tryBlock S call body) (fun _ _ ↦ False)
        (fun _ ↦ GateTrace S w₀ call.required call.guards call.actor) :=
      tryBlock_refused (stay_triple rfl (notify_invariant (fun _ h ↦ h.notify))) (fun _ _ _ h ↦ h.gateTrace rfl)
        (authorize_refused h)
    exact htry.mono (fun _ h ↦ h) (fun _ _ h ↦ h.elim) (fun _ _ h ↦ h)
  | ok p =>
    obtain ⟨actor, authCtx⟩ := p
    have hquery : Undisturbed b.instanceId stmts (Querying S w₀ call.required call.guards call.actor actor) :=
      undisturbed_querying b.instanceId stmts
    have hend : ∀ w, Querying S w₀ call.required call.guards call.actor actor w →
        GateTrace S w₀ call.required call.guards call.actor w := fun w h ↦ ⟨actor, _, _, h.choose, h.choose_spec.1⟩
    have htry : Triple (Passed S call.actor w₀ [] call.actor) (tryBlock S call body)
        (fun _ ↦ Querying S w₀ call.required call.guards call.actor actor)
        (fun _ ↦ GateTrace S w₀ call.required call.guards call.actor) := by
      refine tryBlock_triple (gateStages_passed h hc) (fun input db _ _ ↦ ?_) (fun _ ↦ ?_)
      · exact (hb.body_invariant _ hquery input db).mono
          (fun w hw ↦ ⟨[], hw.1.standing (List.append_nil _).symm, fun _ he ↦ nomatch he⟩) (fun _ _ h ↦ h) (fun _ w h ↦ hend w h)
      · exact (notify_invariant hquery.notify).mono (fun _ h ↦ h) (fun _ _ h ↦ h) (fun _ w h ↦ hend w h)
    exact htry.mono (fun _ h ↦ h) (fun _ w h ↦ hend w h) (fun _ _ h ↦ h)

end Calls

/-- What a call may have done when it ends in `w'`. -/
structure GateOrder (S : Site β) (b : Binding) (req : Request) (w w' : World β) : Prop where
  before_query : ∀ pre q post, w'.trace = pre ++ q :: post → q.isQuery = true →
    ∃ actor, pre.filter Event.isGate = (callGates req.required (req.guards b) actor).map .passed ∧
      ∀ g ∈ callGates req.required (req.guards b) actor, Granted S req.actor w w' g
  after_refusal : ∀ pre g post, w'.trace = pre ++ .refused g :: post →
    (∀ e ∈ pre, e.isQuery = false) ∧ ∀ e ∈ post, e.isQuery = false ∧ e.isGate = false
  sessions_kept : (∀ required actor, Event.passed (.authorize required actor) ∉ w'.trace) → w'.sessions = w.sessions
  buckets_kept : (∀ actor, Event.passed (.touch actor) ∉ w'.trace) → w'.buckets = w.buckets

section Order

variable {b : Binding} {req : Request} {w w' : World β} {required : Privilege} {guards done rest : List Gate}
  {argument actor : Str} {pre post tail : List Event} {e : Event}

/-- An event that matters and is no passed gate stands behind the passed gates. -/
theorem Standing.split (h : Standing S w required guards argument actor done rest tail w')
    (ht : w'.trace = pre ++ e :: post) (hk : e.isKey = true) (he : ∀ g, e ≠ .passed g) :
    ∃ mid, pre.filter Event.isKey = done.map .passed ++ mid ∧ tail = mid ++ e :: post.filter Event.isKey := by
  have hkeys := h.keys
  rw [ht, List.filter_append, List.filter_cons_of_pos hk] at hkeys
  rcases List.append_eq_append_iff.mp hkeys with ⟨mid, hd, hmid⟩ | ⟨mid, hp, ht⟩
  · cases mid with
    | nil => exact ⟨[], by rw [hd, List.append_nil, List.append_nil], hmid.symm⟩
    | cons d mid =>
      obtain ⟨rfl, -⟩ := List.cons.inj hmid
      have hmem : e ∈ done.map Event.passed := hd ▸ List.mem_append_right _ List.mem_cons_self
      obtain ⟨g, -, hg⟩ := List.mem_map.mp hmem
      exact absurd hg.symm (he g)
  · exact ⟨mid, hp, ht⟩

omit [UnicodeData] in
theorem filter_isGate_filter_isKey (l : List Event) : (l.filter Event.isKey).filter Event.isGate = l.filter Event.isGate := by
  rw [List.filter_filter]
  refine List.filter_congr (fun e _ ↦ ?_)
  cases h : e.isGate with
  | true => simp [Event.isKey, h]
  | false => simp

omit [UnicodeData] in
theorem isGate_eq_false_of_isQuery (h : e.isQuery = true) : e.isGate = false := by
  cases e with
  | notify => cases h
  | passed g => cases h
  | refused g => cases h
  | manager i => rfl
  | connect i db => rfl
  | execute i stmt => rfl
  | commit i => rfl
  | logEvent t => cases h

theorem Standing.before_query (h : Standing S w required guards argument actor done rest tail w')
    (ht : w'.trace = pre ++ e :: post) (he : e.isQuery = true) :
    pre.filter Event.isGate = (callGates required guards actor).map .passed ∧ rest = [] := by
  have hk : e.isKey = true := by rw [Event.isKey, he, Bool.or_true]
  obtain ⟨mid, hp, hmid⟩ := h.split ht hk (fun g hg ↦ by rw [hg] at he; cases he)
  have hmem : e ∈ tail := hmid ▸ List.mem_append_right _ List.mem_cons_self
  rcases h.tail_cases with rfl | ⟨g, rfl⟩ | ⟨hrest, hq⟩
  · exact absurd hmem List.not_mem_nil
  · rw [List.mem_singleton.mp hmem] at he
    cases he
  · have hmid' : mid.filter Event.isGate = [] :=
      List.filter_eq_nil_iff.mpr (fun d hd ↦ by
        rw [isGate_eq_false_of_isQuery (hq d (hmid ▸ List.mem_append_left _ hd))]; exact Bool.false_ne_true)
    have hdone : (done.map Event.passed).filter Event.isGate = done.map .passed :=
      List.filter_eq_self.mpr (fun d hd ↦ by obtain ⟨g, -, rfl⟩ := List.mem_map.mp hd; rfl)
    rw [← filter_isGate_filter_isKey, hp, List.filter_append, hmid', hdone, h.gates, hrest, List.append_nil,
      List.append_nil]
    exact ⟨rfl, rfl⟩

theorem Standing.after_refusal {g : Gate} (h : Standing S w required guards argument actor done rest tail w')
    (ht : w'.trace = pre ++ .refused g :: post) :
    (∀ e ∈ pre, e.isQuery = false) ∧ ∀ e ∈ post, e.isQuery = false ∧ e.isGate = false := by
  obtain ⟨mid, hp, hmid⟩ := h.split ht rfl (fun k hk ↦ nomatch hk)
  have hmem : Event.refused g ∈ tail := hmid ▸ List.mem_append_right _ List.mem_cons_self
  rcases h.tail_cases with rfl | ⟨k, rfl⟩ | ⟨-, hq⟩
  · exact absurd hmem List.not_mem_nil
  · have hlen := congrArg List.length hmid
    simp only [List.length_append, List.length_cons, List.length_nil] at hlen
    have hmid0 : mid = [] := List.length_eq_zero_iff.mp (by omega)
    have hpost : post.filter Event.isKey = [] := List.length_eq_zero_iff.mp (by omega)
    rw [hmid0, List.append_nil] at hp
    refine ⟨fun e he ↦ ?_, fun e he ↦ ?_⟩
    · by_contra hq
      rw [Bool.not_eq_false] at hq
      have hmem : e ∈ pre.filter Event.isKey := List.mem_filter.mpr ⟨he, by rw [Event.isKey, hq, Bool.or_true]⟩
      rw [hp] at hmem
      obtain ⟨g, -, rfl⟩ := List.mem_map.mp hmem
      cases hq
    · have hkey := List.filter_eq_nil_iff.mp hpost e he
      rw [Event.isKey, Bool.or_eq_true, not_or, Bool.not_eq_true, Bool.not_eq_true] at hkey
      exact ⟨hkey.2, hkey.1⟩
  · cases hq _ hmem

theorem Standing.passed_mem {g : Gate} (h : Standing S w required guards argument actor done rest tail w')
    (hg : g ∈ done) : Event.passed g ∈ w'.trace := by
  have hmem : Event.passed g ∈ w'.trace.filter Event.isKey := by
    rw [h.keys]
    exact List.mem_append_left _ (List.mem_map_of_mem hg)
  exact (List.mem_filter.mp hmem).1

theorem Standing.sessions_kept (h : Standing S w required guards argument actor done rest tail w')
    (hn : ∀ required actor, Event.passed (.authorize required actor) ∉ w'.trace) : w'.sessions = w.sessions := by
  cases hd : done with
  | nil => exact h.sessions hd
  | cons g gates =>
    have hgates := h.gates
    rw [hd] at hgates
    obtain ⟨rfl, -⟩ := List.cons.inj hgates
    exact absurd (h.passed_mem (hd ▸ List.mem_cons_self)) (hn required actor)

theorem Standing.buckets_kept (h : Standing S w required guards argument actor done rest tail w')
    (hn : ∀ actor, Event.passed (.touch actor) ∉ w'.trace) : w'.buckets = w.buckets := by
  refine h.buckets (Nat.lt_of_not_le (fun hl ↦ ?_))
  have hgates := h.gates
  match done, hl with
  | g :: k :: gates, _ =>
    obtain ⟨rfl, rfl, -⟩ : Gate.authorize required actor = g ∧ Gate.touch actor = k ∧ _ := by
      simpa only [callGates, List.cons_append, List.cons.injEq] using hgates
    exact absurd (h.passed_mem (List.mem_cons_of_mem _ List.mem_cons_self)) (hn actor)

theorem GateTrace.gateOrder (h : GateTrace S w req.required (req.guards b) req.actor w') : GateOrder S b req w w' := by
  obtain ⟨actor, done, rest, tail, h⟩ := h
  refine ⟨fun pre q post ht hq ↦ ⟨actor, ?_⟩, fun pre g post ht ↦ h.after_refusal ht, h.sessions_kept, h.buckets_kept⟩
  obtain ⟨hpre, hrest⟩ := h.before_query ht hq
  rw [h.gates, hrest, List.append_nil] at hpre ⊢
  exact ⟨hpre, h.granted⟩

theorem runRequest_gateTrace (S : Site β) (b : Binding) (w : World β) (hs : req.sendsSql = true) :
    GateTrace S w req.required (req.guards b) req.actor (runRequest S b req w).2 := by
  obtain ⟨α, call, body, hp⟩ := runRequest_isTool b S hs
  have hc : ∀ g ∈ call.guards, g.isGuard = true := hp.guards ▸ req.guards_isGuard b
  have hends := runTool_gateTrace (S := S) w call hp.toolBody hc w rfl
  rw [← hp.run, hp.guards, hp.required, hp.actor] at hends
  exact hends.snd (fun _ _ h ↦ h) (fun _ _ h ↦ h)

/-- Every tool asks an instance only behind all its gates, and stops at the first that refuses. -/
theorem runRequest_gateOrder (S : Site β) (b : Binding) (req : Request) (w : World β) :
    GateOrder S b req w (runRequest S b req w).2 := by
  cases hs : req.sendsSql with
  | true => exact (runRequest_gateTrace S b w hs).gateOrder
  | false =>
    cases req with
    | latencyReport args =>
      refine ⟨fun pre q post ht ↦ ?_, fun pre g post ht ↦ ?_, fun _ ↦ rfl, fun _ ↦ rfl⟩
      · exact absurd ht.symm (List.append_ne_nil_of_right_ne_nil _ (List.cons_ne_nil _ _))
      · exact absurd ht.symm (List.append_ne_nil_of_right_ne_nil _ (List.cons_ne_nil _ _))
    | _ => cases hs

end Order

end McpSqlServer

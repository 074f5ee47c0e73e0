import McpSqlServer.RateLimiter.Local
import McpSqlServer.Tools.DenialCounter

namespace McpSqlServer

open Library Library.Text Library.Python Library.Admission

structure Charge where
  call : TimedCall
  allowed : Bool

def Event.charge (now : ℚ) : Event → Option Charge
  | .passed (.allow actor) => some ⟨⟨actor, now⟩, true⟩
  | .refused (.allow actor) => some ⟨⟨actor, now⟩, false⟩
  | _ => none

def chargesFrom (clock : List Event → ℚ) : List Event → List Event → List Charge
  | _, [] => []
  | before, e :: trace => (e.charge (clock before)).toList ++ chargesFrom clock (before ++ [e]) trace

def charges (clock : List Event → ℚ) (trace : List Event) : List Charge := chargesFrom clock [] trace

def Event.ChargesTo (actor : Str) : Event → Prop
  | .passed (.touch a) | .refused (.touch a) | .passed (.allow a) | .refused (.allow a) => a = actor
  | _ => True

section Charges

variable {clock : List Event → ℚ} {trace : List Event} {actor : Str}

theorem chargesFrom_append (before : List Event) (e : Event) :
    chargesFrom clock before (trace ++ [e]) =
      chargesFrom clock before trace ++ (e.charge (clock (before ++ trace))).toList := by
  induction trace generalizing before with
  | nil => simp [chargesFrom]
  | cons d trace ih => simp [chargesFrom, ih]

theorem charges_append (e : Event) :
    charges clock (trace ++ [e]) = charges clock trace ++ (e.charge (clock trace)).toList := chargesFrom_append [] e

theorem charge_actor {now : ℚ} {e : Event} (h : e.ChargesTo actor) : ∀ c ∈ e.charge now, c.call.actor = actor := by
  intro c hc
  cases e with
  | passed g =>
    cases g with
    | allow a =>
      obtain rfl := Option.some.inj hc
      exact h
    | _ => cases hc
  | refused g =>
    cases g with
    | allow a =>
      obtain rfl := Option.some.inj hc
      exact h
    | _ => cases hc
  | _ => cases hc

theorem charges_actor (h : ∀ e ∈ trace, e.ChargesTo actor) : ∀ c ∈ charges clock trace, c.call.actor = actor := by
  induction trace using List.reverseRecOn with
  | nil => simp [charges, chargesFrom]
  | append_singleton trace e ih =>
    intro c hc
    rw [charges_append, List.mem_append, Option.mem_toList] at hc
    rcases hc with hc | hc
    · exact ih (fun d hd ↦ h d (List.mem_append_left _ hd)) c hc
    · exact charge_actor (h e (List.mem_append_right _ (List.mem_singleton_self e))) c hc

end Charges

def limiterGate {β : Type} (L : RateLimiter β) : Admission.Gate TimedCall β Exc := fun c s ↦ L.allow c.time c.actor s

/-- The charges of a call so far have brought the limiter from `buckets` to where it stands,
and all of them go to `actor`. -/
structure Charged {β : Type} (S : Site β) (buckets : β) (actor : Str) (w : World β) : Prop where
  limiter : w.buckets = after (limiterGate S.rateLimiter) buckets ((charges S.clock w.trace).map Charge.call)
  allowed : ((charges S.clock w.trace).filter Charge.allowed).map Charge.call =
    admitted (limiterGate S.rateLimiter) ((charges S.clock w.trace).map Charge.call) buckets
  actor : ∀ e ∈ w.trace, e.ChargesTo actor

section Calls

variable {β : Type} {S : Site β} {buckets : β} {actor : Str} {w : World β}

theorem Charged.record (h : Charged S buckets actor w) {e : Event} (he : ∀ now, e.charge now = none)
    (ha : e.ChargesTo actor) : Charged S buckets actor (w.record e) := by
  have hsame : charges S.clock (w.record e).trace = charges S.clock w.trace := by
    rw [World.record_trace, charges_append, he, Option.toList_none, List.append_nil]
  refine ⟨?_, ?_, Every.record h.actor ha⟩
  · rw [hsame]
    exact h.limiter
  · rw [hsame]
    exact h.allowed

theorem Charged.charge (h : Charged S buckets actor w) {r : Except Exc Unit} {buckets' : β} {e : Event}
    (hr : S.rateLimiter.allow (S.clock w.trace) actor w.buckets = (r, buckets'))
    (he : e.charge (S.clock w.trace) = some ⟨⟨actor, S.clock w.trace⟩, passes r⟩) (ha : e.ChargesTo actor) :
    Charged S buckets actor (({ w with buckets := buckets' }).record e) := by
  have hcharges : charges S.clock (w.trace ++ [e]) =
      charges S.clock w.trace ++ [⟨⟨actor, S.clock w.trace⟩, passes r⟩] := by
    rw [charges_append, he, Option.toList_some]
  have hgate : limiterGate S.rateLimiter ⟨actor, S.clock w.trace⟩
      (after (limiterGate S.rateLimiter) buckets ((charges S.clock w.trace).map Charge.call)) = (r, buckets') := by
    rw [← h.limiter]
    exact hr
  refine ⟨?_, ?_, Every.record h.actor ha⟩
  · rw [World.record_trace, hcharges, List.map_append, List.map_singleton, after_concat, hgate]
    rfl
  · rw [World.record_trace, hcharges, List.map_append, List.map_singleton, admitted_concat, ← h.allowed, outcome, hgate,
      List.filter_append, List.map_append]
    cases passes r with
    | true => simp
    | false => simp

theorem undisturbed_charged (instanceId : Str) (stmts : Statement → Prop) :
    Undisturbed instanceId stmts (Charged S buckets actor) where
  notify _ h := h.record (fun _ ↦ rfl) trivial
  query w e he h := by
    cases e with
    | passed g => cases he
    | refused g => cases he
    | _ => exact h.record (fun _ ↦ rfl) trivial
  rows _ _ h := ⟨h.1, h.2, h.3⟩
  pages _ _ h := ⟨h.1, h.2, h.3⟩

theorem quiet_charged : Quiet (Charged S buckets actor) where
  notify _ h := h.record (fun _ ↦ rfl) trivial
  frame _ _ h := ⟨h.1, h.2, h.3⟩
  denied _ _ h := ⟨h.1, h.2, h.3⟩

def Acting (S : Site β) (buckets : β) (actor argument : Str) (w : World β) : Prop :=
  Charged S buckets actor w ∧ w.frame.actor = argument

theorem acting_notify {argument : Str} (h : Acting S buckets actor argument w) :
    Acting S buckets actor argument (w.record .notify) := ⟨h.1.record (fun _ ↦ rfl) trivial, h.2⟩

theorem acting_stay {γ : Type} {argument : Str} {m : ToolM β γ} (h : Invariant (Acting S buckets actor argument) m) :
    Triple (Acting S buckets actor argument) m (fun _ ↦ Acting S buckets actor argument)
      (fun _ ↦ Charged S buckets actor) := h.mono (fun _ h ↦ h) (fun _ _ h ↦ h) (fun _ _ h ↦ h.1)

theorem charged_begin (S : Site β) (w : World β) (actor argument : Str) :
    Acting S w.buckets actor argument (w.begin argument) :=
  ⟨⟨rfl, rfl, fun _ he ↦ absurd he List.not_mem_nil⟩, rfl⟩

theorem touchSession_acting (sessionId : Option Str) :
    Invariant (Acting S buckets actor actor) (touchSession S sessionId) := by
  apply touchSession_triple
  · intro w sessions h _
    exact ⟨Charged.record (w := { w with sessions := sessions }) ⟨h.1.1, h.1.2, h.1.3⟩ (fun _ ↦ rfl) h.2, h.2⟩
  · intro w e sessions h _
    exact ⟨Charged.record (w := { w with sessions := sessions }) ⟨h.1.1, h.1.2, h.1.3⟩ (fun _ ↦ rfl) h.2, h.2⟩

theorem allowRequest_acting : Invariant (Acting S buckets actor actor) (allowRequest S) := by
  apply allowRequest_triple
  · intro w buckets' h hr
    rw [h.2] at hr
    exact ⟨h.1.charge hr (by rw [h.2]; rfl) h.2, h.2⟩
  · intro w e buckets' h hr
    rw [h.2] at hr
    exact ⟨h.1.charge hr (by rw [h.2]; rfl) h.2, h.2⟩

variable [UnicodeData]

theorem guard_charged {g : Gate} (hg : g.isGuard = true) : Invariant (Charged S buckets actor) (checkGuard S g) := by
  cases g with
  | validateProcedure tool procName =>
    exact checkGuard_triple (fun w h _ ↦ h.record (fun _ ↦ rfl) trivial) (fun w e h _ ↦ h.record (fun _ ↦ rfl) trivial)
  | enforce tool sql =>
    exact checkGuard_triple (fun w h _ ↦ h.record (fun _ ↦ rfl) trivial) (fun w e h _ ↦ h.record (fun _ ↦ rfl) trivial)
  | _ => cases hg

theorem guards_charged {guards : List Gate} (hg : ∀ g ∈ guards, g.isGuard = true) :
    Invariant (Charged S buckets actor) (checkGuards S guards) := by
  induction guards with
  | nil => exact Invariant.pure ()
  | cons g guards ih =>
    refine .bind (guard_charged (hg g List.mem_cons_self)) (fun _ ↦ ih (fun k hk ↦ hg k ?_))
    exact List.mem_cons_of_mem _ hk

theorem resolveActor_acting {argument : Str} {required : Privilege}
    (ha : ∀ a authCtx, authorize S.auth S.token argument required = .ok (a, authCtx) → a = actor) :
    Triple (Acting S buckets actor argument) (resolveActorAndAuthorize S required)
      (fun _ ↦ Acting S buckets actor actor) (fun _ ↦ Charged S buckets actor) := by
  refine .read_bind (fun w h ↦ ?_)
  rw [h.2]
  cases hr : authorize S.auth S.token argument required with
  | error e =>
    rintro _ rfl
    exact h.1.record (fun _ ↦ rfl) trivial
  | ok p =>
    obtain ⟨a, authCtx⟩ := p
    rintro _ rfl
    have hn : Invariant (Acting S buckets actor argument) (notifyIf S (authEnforced S.auth)) :=
      notifyIf_invariant _ (fun w h ↦ acting_notify h)
    refine Triple.bind (hn.mono (fun _ h ↦ h) (fun _ _ h ↦ h) (fun _ _ h ↦ h.1)) (fun _ ↦ ?_) _ h
    refine .modify_bind (I := Acting S buckets actor actor) (fun w h ↦ ⟨⟨h.1.1, h.1.2, h.1.3⟩, ha a authCtx hr⟩) ?_
    exact pass_triple (fun w h ↦ ⟨h.1.record (fun _ ↦ rfl) trivial, h.2⟩)

theorem gateStages_charged {α : Type} {call : ToolCall α} (hg : ∀ g ∈ call.guards, g.isGuard = true)
    (ha : ∀ a authCtx, authorize S.auth S.token call.actor call.required = .ok (a, authCtx) → a = actor) :
    GateStages S call (Acting S buckets actor call.actor) (Acting S buckets actor actor) (Acting S buckets actor actor)
      (Acting S buckets actor actor) (Charged S buckets actor) (fun _ ↦ Charged S buckets actor) where
  notified := acting_stay (notify_invariant (fun _ h ↦ acting_notify h))
  checked _ _ _ h := h.1
  resolved := resolveActor_acting ha
  touched := acting_stay (touchSession_acting _)
  touched_notified := acting_stay (notifyIf_invariant _ (fun _ h ↦ acting_notify h))
  allowed := acting_stay allowRequest_acting
  allowed_notified := acting_stay (notifyIf_invariant _ (fun _ h ↦ acting_notify h))
  guarded := (guards_charged hg).mono (fun _ h ↦ h.1) (fun _ _ h ↦ h) (fun _ _ h ↦ h)
  guarded_notified := notifyIf_invariant _ (fun _ h ↦ h.record (fun _ ↦ rfl) trivial)
  targeted _ _ _ h := h

theorem runTool_charged {α : Type} {b : Binding} {stmts : Statement → Prop} {call : ToolCall α}
    {ladder : Exc → ToolM β Value} {body : α → Option Str → ToolM β Value} (hb : ToolBody b stmts ladder body)
    (hg : ∀ g ∈ call.guards, g.isGuard = true)
    (ha : ∀ a authCtx, authorize S.auth S.token call.actor call.required = .ok (a, authCtx) → a = actor)
    (w : World β) : Charged S w.buckets actor (runTool S call ladder body w).2 := by
  have htry : Triple (Acting S w.buckets actor call.actor) (tryBlock S call body) (fun _ ↦ Charged S w.buckets actor)
      (fun _ ↦ Charged S w.buckets actor) := by
    refine tryBlock_triple (gateStages_charged hg ha) (fun input db _ _ ↦ ?_) (fun _ ↦ ?_)
    · exact hb.body_invariant _ (undisturbed_charged _ _) input db
    · exact notify_invariant (fun _ h ↦ h.record (fun _ ↦ rfl) trivial)
  have hlog : Invariant (Charged S w.buckets actor) (logAuditEvent S call.binding call.sql) :=
    logAuditEvent_invariant (fun w h ↦ h.record (fun _ ↦ rfl) trivial) (fun w audit h ↦ ⟨h.1, h.2, h.3⟩) _
  have hbegin : ∀ w', w' = w → Acting S w.buckets actor call.actor (w'.begin call.actor) := by
    rintro _ rfl
    exact charged_begin S _ actor call.actor
  have hrun := runTool_triple hbegin htry (fun e ↦ hb.ladder_invariant _ quiet_charged e) hlog
  exact (hrun w rfl).snd (fun _ _ h ↦ h) (fun _ _ h ↦ h)

theorem runRequest_charged {b : Binding} {req : Request}
    (ha : ∀ a authCtx, authorize S.auth S.token req.actor req.required = .ok (a, authCtx) → a = actor) (w : World β) :
    Charged S w.buckets actor (runRequest S b req w).2 := by
  cases hs : req.sendsSql with
  | false =>
    cases req with
    | latencyReport args => exact (charged_begin S w actor args.actor).1
    | _ => cases hs
  | true =>
    obtain ⟨α, call, body, hp⟩ := runRequest_isTool b S hs
    rw [hp.run]
    rw [← hp.actor, ← hp.required] at ha
    exact runTool_charged hp.toolBody (hp.guards ▸ req.guards_isGuard b) ha w

theorem fetch_charged (args : FetchArgs) (w : World β) :
    Charged S w.buckets args.actor (fetchSessionsDashboardData S args w).2 := by
  have hfetch : Triple (fun w' ↦ w' = w) (fetchSessionsDashboardData S args)
      (fun _ ↦ Charged S w.buckets args.actor) (fun _ ↦ Charged S w.buckets args.actor) := by
    refine fetch_triple ?_ (fun _ h ↦ h.1) (touchSession_acting _) allowRequest_acting (guard_charged rfl)
      (fun i ↦ undisturbed_charged i _)
    rintro _ rfl
    exact charged_begin S _ args.actor args.actor
  exact (hfetch w rfl).snd (fun _ _ h ↦ h) (fun _ _ h ↦ h)

end Calls

section Runs

variable {β : Type}

/-- The actor that a use of a tool is charged to, by a server that demands tokens of a subject. -/
def ToolUse.chargedActor (subject : Str) : ToolUse → Str
  | .sql _ _ req => if req.actor ∈ ["system".toList, "unknown".toList] then subject else req.actor
  | .app args => args.actor

theorem authorize_actor [UnicodeData] {auth : Option AuthConfig} {token : Option AccessToken} {subject argument a : Str}
    {required : Privilege} {authCtx : AuthContext} (hauth : authEnforced auth = true) (hs : subject ≠ [])
    (ht : token.map AccessToken.subject = some (.text subject))
    (h : authorize auth token argument required = .ok (a, authCtx)) :
    a = if argument ∈ ["system".toList, "unknown".toList] then subject else argument := by
  obtain ⟨token, rfl, htoken⟩ := Option.map_eq_some_iff.mp ht
  cases auth with
  | none => cases hauth
  | some cfg =>
    have hresolved : a = resolvedActor token.subject argument := by
      simp only [authorize, hauth, Bool.not_true, Bool.false_eq_true, if_false] at h
      split at h
      · cases h
      · split at h
        · cases h
        · split at h
          · cases h
          · exact (congrArg Prod.fst (Except.ok.inj h)).symm
    rw [hresolved, htoken]
    simp only [resolvedActor, ne_eq, hs, not_false_eq_true, and_true]

theorem ToolUse.run_charged [UnicodeData] {S : Site β} {subject : Str} (u : ToolUse) (hauth : authEnforced S.auth = true)
    (hs : subject ≠ []) (ht : S.token.map AccessToken.subject = some (.text subject)) (w : World β) :
    Charged S w.buckets (u.chargedActor subject) (u.run S w).2 := by
  cases u with
  | sql b o req => exact runRequest_charged (fun a authCtx h ↦ authorize_actor hauth hs ht h) w
  | app args => exact fetch_charged args w

def runCharges [UnicodeData] (V : Server β) : List (Environment × ToolUse) → World β → List (ToolUse × Charge)
  | [], _ => []
  | c :: calls, w =>
    let w' := (c.2.run ⟨V, c.1⟩ w).2
    (charges c.1.clock w'.trace).map (fun charge ↦ (c.2, charge)) ++ runCharges V calls w'

section Quota

variable [UnicodeData] {V : Server β} {subject : Str} {calls : List (Environment × ToolUse)} {w : World β}

theorem runCharges_admitted (hauth : authEnforced V.auth = true) (hs : subject ≠ [])
    (ht : ∀ c ∈ calls, c.1.token.map AccessToken.subject = some (.text subject)) :
    ((runCharges V calls w).filter (fun x ↦ x.2.allowed)).map (fun x ↦ x.2.call) =
      admitted (limiterGate V.rateLimiter) ((runCharges V calls w).map (fun x ↦ x.2.call)) w.buckets := by
  induction calls generalizing w with
  | nil => rfl
  | cons c calls ih =>
    have hc : Charged ⟨V, c.1⟩ w.buckets (c.2.chargedActor subject) (c.2.run ⟨V, c.1⟩ w).2 :=
      c.2.run_charged hauth hs (ht c List.mem_cons_self) w
    have hcalls := ih (w := (c.2.run ⟨V, c.1⟩ w).2) (fun d hd ↦ ht d (List.mem_cons_of_mem _ hd))
    have hmap (charges : List Charge) :
        (charges.map (fun charge ↦ (c.2, charge))).map (fun x ↦ x.2.call) = charges.map Charge.call := by
      rw [List.map_map]
      rfl
    have hfilter (charges : List Charge) :
        ((charges.map (fun charge ↦ (c.2, charge))).filter (fun x ↦ x.2.allowed)).map (fun x ↦ x.2.call) =
          (charges.filter Charge.allowed).map Charge.call := by
      rw [List.filter_map, List.map_map]
      rfl
    rw [runCharges, List.filter_append, List.map_append, List.map_append, admitted_append, hcalls, hfilter, hmap,
      hc.limiter]
    exact congrArg (· ++ _) hc.allowed

theorem runCharges_actor (hauth : authEnforced V.auth = true) (hs : subject ≠ [])
    (ht : ∀ c ∈ calls, c.1.token.map AccessToken.subject = some (.text subject)) :
    ∀ x ∈ runCharges V calls w, x.2.call.actor = x.1.chargedActor subject := by
  induction calls generalizing w with
  | nil => simp [runCharges]
  | cons c calls ih =>
    intro x hx
    rw [runCharges, List.mem_append, List.mem_map] at hx
    rcases hx with ⟨charge, hcharge, rfl⟩ | hx
    · exact charges_actor (c.2.run_charged hauth hs (ht c List.mem_cons_self) w).actor charge hcharge
    · exact ih (fun d hd ↦ ht d (List.mem_cons_of_mem _ hd)) x hx

end Quota

/-- A call is charged to the subject of its token if it names no actor of its own, else to
the actor it names; each of these has its own quota. -/
theorem chargedActor_quota [UnicodeData] {V : Server Windows} {limits : WindowLimits}
    (hlimiter : V.rateLimiter = slidingWindowRateLimiter limits) (hauth : authEnforced V.auth = true) {subject : Str}
    (hs : subject ≠ []) {w : World Windows} (hw : w.buckets = {}) {calls : List (Environment × ToolUse)}
    (ht : ∀ c ∈ calls, c.1.token.map AccessToken.subject = some (.text subject))
    (hclock : ((runCharges V calls w).map (fun x ↦ x.2.call.time)).Pairwise (· ≤ ·)) :
    (∀ c ∈ calls, ∀ w', ∀ e ∈ (c.2.run ⟨V, c.1⟩ w').2.trace, e.ChargesTo (c.2.chargedActor subject)) ∧
    ∀ actor start, ((runCharges V calls w).countP (fun x ↦ x.2.allowed && (x.1.chargedActor subject = actor &&
      (start ≤ x.2.call.time && x.2.call.time ≤ start + 60))) : ℤ) ≤ max 0 (limits.actorRpm + limits.actorBurst) := by
  refine ⟨fun c hc w' ↦ (c.2.run_charged hauth hs (ht c hc) w').actor, fun actor start ↦ ?_⟩
  have hgate : limiterGate V.rateLimiter = localGate limits := by
    rw [hlimiter]
    rfl
  have hadmitted := runCharges_admitted (w := w) hauth hs ht
  rw [hgate, hw] at hadmitted
  have hcalls : ((runCharges V calls w).map (fun x ↦ x.2.call)).Pairwise (fun c d ↦ c.time ≤ d.time) :=
    List.pairwise_map.mpr (List.pairwise_map.mp hclock)
  have hquota := @countP_actor_le limits _ hcalls actor start
  rw [← hadmitted, List.countP_map, List.countP_filter] at hquota
  refine le_of_eq_of_le (congrArg Nat.cast (List.countP_congr (fun x hx ↦ ?_))) hquota
  rw [← runCharges_actor hauth hs ht x hx]
  simp only [Function.comp_apply, Bool.and_eq_true, decide_eq_true_eq]
  exact and_comm

end Runs

def quotaServer : Server Windows where
  policy := {}
  auth := some { azureAuthEnabled := true }
  sessionLimits := {}
  rateLimiter := slidingWindowRateLimiter oneEach
  instances := []
  registeredTools := []
  reports := blankReports
  publicBaseUrl := []

def aliceEnvironment : Environment where
  requestId := []
  token := some ⟨[("preferred_username".toList, .text "alice".toList)]⟩
  ctx := none
  clock _ := 0
  driver _ := .ok {}
  log _ := .ok ()

def selectAs (actor : Str) : Environment × ToolUse :=
  (aliceEnvironment, .sql primarySelect {} (.select { sql := "SELECT 1".toList, actor := actor }))

def freshWindows : World Windows := ⟨[], {}, 0, [], [], [], { actor := [] }⟩

theorem alice_token (actor : Str) : (selectAs actor).1.token.map AccessToken.subject = some (.text "alice".toList) := rfl

theorem chargedActor_quota_alice : let _ := asciiData
    ((runCharges quotaServer [selectAs "system".toList, selectAs "unknown".toList] freshWindows).countP
      (fun x ↦ x.2.allowed && (x.1.chargedActor "alice".toList = "alice".toList &&
        (0 ≤ x.2.call.time && x.2.call.time ≤ 0 + 60))) : ℤ) ≤ max 0 (oneEach.actorRpm + oneEach.actorBurst) := by
  have hclock : ((@runCharges Windows asciiData quotaServer [selectAs "system".toList, selectAs "unknown".toList]
      freshWindows).map (fun x ↦ x.2.call.time)).Pairwise (· ≤ ·) := by decide +kernel
  have hlimiter : quotaServer.rateLimiter = slidingWindowRateLimiter oneEach := rfl
  have hauth : authEnforced quotaServer.auth = true := rfl
  have hsubject : "alice".toList ≠ [] := by decide
  have htokens : ∀ c ∈ [selectAs "system".toList, selectAs "unknown".toList],
      c.1.token.map AccessToken.subject = some (.text "alice".toList) := by
    intro c hc
    rcases List.mem_pair.mp hc with rfl | rfl
    · exact alice_token _
    · exact alice_token _
  intro U
  exact (chargedActor_quota hlimiter hauth hsubject rfl htokens hclock).2 "alice".toList 0

/-- Two calls with one token that name two actors. -/
theorem actorArgument_evades_quota :
    ¬ ∀ [UnicodeData] (V : Server Windows) (limits : WindowLimits) (subject : Str) (w : World Windows)
      (calls : List (Environment × ToolUse)), V.rateLimiter = slidingWindowRateLimiter limits →
      authEnforced V.auth = true → subject ≠ [] → w.buckets = {} →
      (∀ c ∈ calls, c.1.token.map AccessToken.subject = some (.text subject)) →
      ((runCharges V calls w).map (fun x ↦ x.2.call.time)).Pairwise (· ≤ ·) →
      ∀ start, ((runCharges V calls w).countP (fun x ↦ x.2.allowed &&
        (start ≤ x.2.call.time && x.2.call.time ≤ start + 60)) : ℤ) ≤ max 0 (limits.actorRpm + limits.actorBurst) := by
  intro h
  have hclock : ((@runCharges Windows asciiData quotaServer [selectAs "a".toList, selectAs "b".toList]
      freshWindows).map (fun x ↦ x.2.call.time)).Pairwise (· ≤ ·) := by decide +kernel
  have hpassed : (@runCharges Windows asciiData quotaServer [selectAs "a".toList, selectAs "b".toList]
      freshWindows).countP (fun x ↦ x.2.allowed && (0 ≤ x.2.call.time && x.2.call.time ≤ 0 + 60)) = 2 := by decide +kernel
  have hsubject : "alice".toList ≠ [] := by decide
  have htokens : ∀ c ∈ [selectAs "a".toList, selectAs "b".toList],
      c.1.token.map AccessToken.subject = some (.text "alice".toList) := by
    intro c hc
    rcases List.mem_pair.mp hc with rfl | rfl
    · exact alice_token _
    · exact alice_token _
  have hquota := @h asciiData quotaServer oneEach "alice".toList freshWindows _ rfl rfl hsubject rfl htokens hclock 0
  rw [hpassed] at hquota
  exact absurd hquota (by decide)

end McpSqlServer

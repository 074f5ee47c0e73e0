import McpSqlServer.Tools.CallTraces
import McpSqlServer.Tools.Dashboards

namespace McpSqlServer

open Library Library.Text Library.Python

variable {β α : Type} [UnicodeData] {S : Site β}

/-- The caller's token gives at least read access, or none is asked for. -/
def MayRead (S : Site β) : Prop := ∀ actor, Succeeds (authorize S.auth S.token actor .read)

/-- Queries are made only for a caller who may read, behind a touch of the session and an
admission by the rate limiter. -/
def Mediated (S : Site β) (trace : List Event) : Prop :=
  ∀ pre q post, trace = pre ++ q :: post → q.isQuery = true →
    MayRead S ∧ ∃ actor, .passed (.touch actor) ∈ pre ∧ .passed (.allow actor) ∈ pre

def fetchGates (actor : Str) : List Event :=
  [.passed (.touch actor), .passed (.allow actor), .passed appFetchGuard]

structure FetchReached (S : Site β) (w : World β) (args : FetchArgs) : Prop where
  check : Succeeds (args.check S)
  touch : (touch S.sessionLimits (S.clock []) args.actor (sessionKey none S.requestId) w.sessions).1 = .ok ()
  allow : (S.rateLimiter.allow (S.clock [.passed (.touch args.actor)]) args.actor w.buckets).1 = .ok ()
  guard : guardVerdict S.policy appFetchGuard = .ok ()

structure RefreshReached (S : Site β) (w : World β) (requestId : Str) : Prop where
  target : ∃ metadata target, (getDashboardPageMetadata S requestId (w.begin [])).1 = .ok metadata ∧
    refreshTarget metadata = .ok target
  guard : guardVerdict S.policy refreshGuard = .ok ()

def Reaches (reached : Prop) (gates : List Event) (w : World β) : Prop :=
  (¬ reached ∧ Every (fun e ↦ e.isQuery = false) w) ∨
    (reached ∧ (∃ rest, w.trace = gates ++ rest ∧ ∀ e ∈ rest, e.isGate = false) ∧ ∃ e ∈ w.trace, e.isQuery = true)

section Queries

def Behind (gates : List Event) (w : World β) : Prop :=
  ∃ rest, w.trace = gates ++ rest ∧ ∀ e ∈ rest, e.isGate = false

omit [UnicodeData]

theorem undisturbed_behind (gates : List Event) (instanceId : Str) (stmts : Statement → Prop) :
    Undisturbed (β := β) instanceId stmts (Behind gates) where
  notify w h := by
    obtain ⟨rest, ht, hr⟩ := h
    refine ⟨rest ++ [.notify], by rw [World.record_trace, ht, List.append_assoc], fun e he ↦ ?_⟩
    rcases List.mem_append.mp he with he | he
    · exact hr e he
    · rw [List.mem_singleton.mp he]
      rfl
  rows _ _ h := h
  query w d hd h := by
    obtain ⟨rest, ht, hr⟩ := h
    refine ⟨rest ++ [d], by rw [World.record_trace, ht, List.append_assoc], fun e he ↦ ?_⟩
    rcases List.mem_append.mp he with he | he
    · exact hr e he
    · rw [List.mem_singleton.mp he]
      exact isGate_eq_false_of_isQuery hd.isQuery
  pages _ _ h := h

theorem reaches_of_error {γ : Type} {reached : Prop} {gates T : List Event} {w : World β} {r : Except Exc γ} {e : Exc}
    (h : r = .error e) (hr : reached → Succeeds r) (ht : w.trace = T) (hq : ∀ e ∈ T, e.isQuery = false) :
    Reaches reached gates w := by
  refine .inl ⟨fun hreached ↦ ?_, fun e he ↦ hq e (ht ▸ he)⟩
  obtain ⟨a, ha⟩ := hr hreached
  rw [h] at ha
  cases ha

theorem reaches_of_contacts {reached : Prop} {gates : List Event} (instanceId : Str) {P : World β → Prop}
    {m : ToolM β α} (hr : reached) (hP : ∀ w, P w → w.trace = gates) (hc : Contacts instanceId m)
    (hm : ∀ I, Undisturbed instanceId (fun _ ↦ True) I → Invariant I m) :
    Triple P m (fun _ ↦ Reaches reached gates) (fun _ ↦ Reaches reached gates) := by
  have hb := (hm _ (undisturbed_behind gates instanceId _)).and
    (hc.mono (fun (w : World β) (_ : Behind gates w) ↦ trivial) (fun _ _ h ↦ h) (fun _ _ h ↦ h))
  refine hb.mono (fun w hw ↦ ⟨[], by rw [hP w hw, List.append_nil], fun e he ↦ absurd he List.not_mem_nil⟩) ?_ ?_
  · intro _ w h
    exact .inr ⟨hr, h.1, .manager instanceId, h.2, rfl⟩
  · intro _ w h
    exact .inr ⟨hr, h.1, .manager instanceId, h.2, rfl⟩

end Queries

section Fetch

variable {w₀ w : World β} {args : FetchArgs}

omit [UnicodeData] in
structure FetchStage (w₀ : World β) (args : FetchArgs) (gates : List Event) (w : World β) : Prop where
  trace_eq : w.trace = gates
  actor_eq : w.frame.actor = args.actor
  sessions_eq : gates = [] → w.sessions = w₀.sessions
  buckets_eq : gates.length < 2 → w.buckets = w₀.buckets

theorem fetch_queries (hr : FetchReached S w₀ args) (instanceId dbName : Str) :
    Triple (FetchStage w₀ args (fetchGates args.actor)) (do
      let sessions ← catalogQuery S instanceId dbName (.activeSessions 200) 200
      let locks ← catalogQueriesIf S (locksFlag args.includeLocks) instanceId dbName
        [(.lockChain 200, 200), (.blockingChain 200, 200)]
      Act.ofExcept (S.reports.appDashboard args.instanceNumber dbName args.lookbackMinutes (sessions :: locks)))
      (fun _ ↦ Reaches (FetchReached S w₀ args) (fetchGates args.actor))
      (fun _ ↦ Reaches (FetchReached S w₀ args) (fetchGates args.actor)) := by
  refine reaches_of_contacts instanceId hr (fun w hw ↦ hw.trace_eq) ?_ (fun I hI ↦ ?_)
  · exact (catalogQuery_contacts _ _).bind (fun I hI _ ↦
      .bind (catalogQueriesIf_invariant hI.query (fun _ ↦ trivial) _ _) (fun _ ↦ .ofExcept _))
  · exact .bind (catalogQuery_invariant hI.query (fun _ ↦ trivial) _ _) (fun _ ↦
      .bind (catalogQueriesIf_invariant hI.query (fun _ ↦ trivial) _ _) (fun _ ↦ .ofExcept _))

theorem fetch_reaches (w₀ : World β) (args : FetchArgs) : Triple (fun w ↦ w = w₀) (fetchSessionsDashboardData S args)
    (fun _ ↦ Reaches (FetchReached S w₀ args) (fetchGates args.actor))
    (fun _ ↦ Reaches (FetchReached S w₀ args) (fetchGates args.actor)) := by
  refine .modify_bind (I := FetchStage w₀ args []) ?_ ?_
  · rintro w rfl
    exact ⟨rfl, rfl, fun _ ↦ rfl, fun _ ↦ rfl⟩
  refine .bind (R := fun p w ↦ args.check S = .ok p ∧ FetchStage w₀ args [] w) (.ofExcept (fun p w h hw ↦ ⟨h, hw⟩) ?_)
    (fun p ↦ .extract (fun hcheck ↦ ?_))
  · intro e w h hw
    exact reaches_of_error h FetchReached.check hw.trace_eq (fun e he ↦ absurd he List.not_mem_nil)
  obtain ⟨dbName, instanceId⟩ := p
  refine .bind (R := fun _ w ↦ (touch S.sessionLimits (S.clock []) args.actor (sessionKey none S.requestId)
    w₀.sessions).1 = .ok () ∧ FetchStage w₀ args [.passed (.touch args.actor)] w) (touchSession_triple ?_ ?_)
    (fun _ ↦ .extract (fun htouch ↦ ?_))
  · intro w sessions hw h
    rw [hw.trace_eq, hw.actor_eq, hw.sessions_eq rfl] at h
    rw [hw.actor_eq]
    refine ⟨by rw [h], ?_, hw.actor_eq, fun hn ↦ absurd hn (List.cons_ne_nil _ _), fun _ ↦ hw.buckets_eq Nat.zero_lt_two⟩
    rw [World.record_trace, hw.trace_eq]
    rfl
  · intro w e sessions hw h
    rw [hw.trace_eq, hw.actor_eq, hw.sessions_eq rfl] at h
    refine reaches_of_error (T := [.refused (.touch w.frame.actor)]) (congrArg Prod.fst h)
      (fun hr ↦ ⟨(), hr.touch⟩) ?_ (by simp [Event.isQuery])
    rw [World.record_trace, hw.trace_eq]
    rfl
  refine .bind (R := fun _ w ↦ (S.rateLimiter.allow (S.clock [.passed (.touch args.actor)]) args.actor
    w₀.buckets).1 = .ok () ∧ FetchStage w₀ args [.passed (.touch args.actor), .passed (.allow args.actor)] w)
    (allowRequest_triple ?_ ?_) (fun _ ↦ .extract (fun hallow ↦ ?_))
  · intro w buckets hw h
    rw [hw.trace_eq, hw.actor_eq, hw.buckets_eq Nat.one_lt_two] at h
    rw [hw.actor_eq]
    refine ⟨by rw [h], ?_, hw.actor_eq, fun hn ↦ absurd hn (List.cons_ne_nil _ _), fun hl ↦ absurd hl (Nat.lt_irrefl 2)⟩
    rw [World.record_trace, hw.trace_eq]
    rfl
  · intro w e buckets hw h
    rw [hw.trace_eq, hw.actor_eq, hw.buckets_eq Nat.one_lt_two] at h
    refine reaches_of_error (T := [.passed (.touch args.actor), .refused (.allow w.frame.actor)])
      (congrArg Prod.fst h) (fun hr ↦ ⟨(), hr.allow⟩) ?_ (by simp [Event.isQuery])
    rw [World.record_trace, hw.trace_eq]
    rfl
  refine .bind (R := fun _ w ↦ guardVerdict S.policy appFetchGuard = .ok () ∧
    FetchStage w₀ args (fetchGates args.actor) w) (checkGuard_triple ?_ ?_) (fun _ ↦ .extract (fun hguard ↦ ?_))
  · intro w hw h
    refine ⟨h, ?_, hw.actor_eq, fun hn ↦ absurd hn (List.cons_ne_nil _ _), fun hl ↦ absurd hl (by simp [fetchGates])⟩
    rw [World.record_trace, hw.trace_eq]
    rfl
  · intro w e hw h
    refine reaches_of_error
      (T := [.passed (.touch args.actor), .passed (.allow args.actor), .refused appFetchGuard]) h
      (fun hr ↦ ⟨(), hr.guard⟩) ?_ (by simp [Event.isQuery])
    rw [World.record_trace, hw.trace_eq]
    rfl
  exact fetch_queries ⟨⟨_, hcheck⟩, htouch, hallow, hguard⟩ instanceId dbName

end Fetch

section Refresh

variable {w₀ w : World β} {requestId : Str}

theorem getDashboardPageMetadata_triple (requestId : Str) : Triple (fun w ↦ w = w₀.begin [])
    (getDashboardPageMetadata S requestId)
    (fun metadata w ↦ (getDashboardPageMetadata S requestId (w₀.begin [])).1 = .ok metadata ∧ w.trace = [])
    (fun e w ↦ (getDashboardPageMetadata S requestId (w₀.begin [])).1 = .error e ∧ w.trace = []) := by
  have htrace : Invariant (fun w : World β ↦ w.trace = []) (getDashboardPageMetadata S requestId) :=
    .bind (.bind (.ofExcept _) (fun _ ↦ .bind (.modify (fun w hw ↦ hw)) (fun _ ↦ .read _))) (fun _ ↦ .pure _)
  rintro w rfl
  have hends := htrace (w₀.begin []) rfl
  rcases hr : getDashboardPageMetadata S requestId (w₀.begin []) with ⟨r, w'⟩
  rw [hr] at hends
  cases r with
  | ok metadata => exact ⟨rfl, hends⟩
  | error e => exact ⟨rfl, hends⟩

theorem refresh_reaches (w₀ : World β) (requestId : Str) : Triple (fun w ↦ w = w₀) (refreshDashboardHtml S requestId)
    (fun _ ↦ Reaches (RefreshReached S w₀ requestId) [.passed refreshGuard])
    (fun _ ↦ Reaches (RefreshReached S w₀ requestId) [.passed refreshGuard]) := by
  have hnil : ∀ e ∈ ([] : List Event), e.isQuery = false := fun e he ↦ absurd he List.not_mem_nil
  refine .modify_bind (I := fun w ↦ w = w₀.begin []) (fun w hw ↦ by rw [hw]) ?_
  refine .bind ((getDashboardPageMetadata_triple requestId).mono (fun _ h ↦ h) (fun _ _ h ↦ h) (fun e w hw ↦ ?_))
    (fun metadata ↦ .extract (fun hmetadata ↦ ?_))
  · refine reaches_of_error hw.1 (fun hr ↦ ?_) hw.2 hnil
    obtain ⟨metadata, -, hm, -⟩ := hr.target
    exact ⟨metadata, hm⟩
  refine .bind (R := fun target w ↦ refreshTarget metadata = .ok target ∧ w.trace = [])
    (.ofExcept (fun _ _ h hw ↦ ⟨h, hw⟩) (fun e w h hw ↦ ?_)) (fun target ↦ .extract (fun htarget ↦ ?_))
  · refine reaches_of_error h (fun hr ↦ ?_) hw hnil
    obtain ⟨metadata', target, hm, ht⟩ := hr.target
    obtain rfl : metadata = metadata' := Except.ok.inj (hmetadata.symm.trans hm)
    exact ⟨target, ht⟩
  refine .bind (R := fun _ w ↦ guardVerdict S.policy refreshGuard = .ok () ∧ w.trace = [.passed refreshGuard])
    (checkGuard_triple (fun w hw h ↦ ⟨h, ?_⟩) (fun w e hw h ↦ ?_)) (fun _ ↦ .extract (fun hguard ↦ ?_))
  · rw [World.record_trace, hw]
    rfl
  · refine reaches_of_error (T := [.refused refreshGuard]) h (fun hr ↦ ⟨(), hr.guard⟩) ?_ (by simp [Event.isQuery])
    rw [World.record_trace, hw]
    rfl
  refine reaches_of_contacts target.instanceId ⟨⟨metadata, target, hmetadata, htarget⟩, hguard⟩
    (fun w hw ↦ hw) ?_ (fun I hI ↦ ?_)
  · exact (dashboardQueries_contacts _).bind (fun I hI _ ↦ .bind (.ofExcept _) (fun _ ↦
      .bind (registerDashboardPage_invariant hI _ _ _ _) (fun _ ↦ .pure _)))
  · exact .bind (dashboardQueries_invariant hI.query (fun _ ↦ trivial) _) (fun _ ↦ .bind (.ofExcept _) (fun _ ↦
      .bind (registerDashboardPage_invariant hI _ _ _ _) (fun _ ↦ .pure _)))

end Refresh

section Access

variable {w : World β} {reached : Prop} {gates : List Event}

/-- A path is mediated exactly when it does not run its queries, or when its own gates
include the session and the limiter and the caller may read anyway. -/
theorem mediated_iff_of_reaches (h : Reaches reached gates w) (hg : ∀ e ∈ gates, e.isQuery = false) :
    Mediated S w.trace ↔
      (MayRead S ∧ ∃ actor, .passed (.touch actor) ∈ gates ∧ .passed (.allow actor) ∈ gates) ∨ ¬ reached := by
  rcases h with ⟨hr, hq⟩ | ⟨hr, ⟨rest, ht, hrest⟩, q, hq, hquery⟩
  · refine iff_of_true (fun pre q post ht hquery ↦ ?_) (.inr hr)
    have hnone := hq q (ht ▸ List.mem_append_right _ List.mem_cons_self)
    exact absurd (hnone.symm.trans hquery) Bool.false_ne_true
  · constructor
    · intro hm
      obtain ⟨pre, post, hsplit⟩ := List.append_of_mem hq
      obtain ⟨hread, actor, htouch, hallow⟩ := hm pre q post hsplit hquery
      have hgate : ∀ e ∈ pre, e.isGate = true → e ∈ gates := by
        intro e he hgate
        have hmem : e ∈ gates ++ rest := ht ▸ hsplit ▸ List.mem_append_left _ he
        rcases List.mem_append.mp hmem with hmem | hmem
        · exact hmem
        · exact absurd ((hrest e hmem).symm.trans hgate) Bool.false_ne_true
      exact .inl ⟨hread, actor, hgate _ htouch rfl, hgate _ hallow rfl⟩
    · rintro (⟨hread, actor, htouch, hallow⟩ | hn) pre q post hsplit hquery
      · have hpre : ∀ e ∈ gates, e ∈ pre := by
          intro e he
          rcases List.append_eq_append_iff.mp (ht.symm.trans hsplit) with ⟨mid, hp, -⟩ | ⟨mid, hgates, hmid⟩
          · exact hp ▸ List.mem_append_left _ he
          · cases mid with
            | nil => rwa [hgates, List.append_nil] at he
            | cons d mid =>
              obtain ⟨rfl, -⟩ := List.cons.inj hmid
              have hnone := hg q (hgates ▸ List.mem_append_right _ List.mem_cons_self)
              exact absurd (hnone.symm.trans hquery) Bool.false_ne_true
        exact ⟨hread, actor, hpre _ htouch, hpre _ hallow⟩
      · exact absurd hr hn

theorem authorize_congr {auth : Option AuthConfig} {token : Option AccessToken} {a a' : Str} {required : Privilege}
    (h : Succeeds (authorize auth token a required)) : Succeeds (authorize auth token a' required) := by
  obtain ⟨r, h⟩ := h
  cases auth with
  | none => exact ⟨_, rfl⟩
  | some cfg =>
    cases hcfg : authEnforced (some cfg) with
    | false =>
      simp only [authorize, hcfg, Bool.not_false, if_true]
      exact ⟨_, rfl⟩
    | true =>
      cases token with
      | none => simp only [authorize, hcfg, Bool.not_true, Bool.false_eq_true, if_false, reduceCtorEq] at h
      | some token =>
        simp only [authorize, hcfg, Bool.not_true, Bool.false_eq_true, if_false] at h ⊢
        split at h
        · cases h
        · split at h
          · cases h
          · split at h
            · cases h
            · rename_i hwrite hread
              rw [if_neg hwrite, if_neg hread]
              exact ⟨_, rfl⟩

theorem sessionsDashboard_mediated (S : Site β) (b : Binding) (args : SessionsDashboardArgs) (w : World β) :
    Mediated S (runRequest S b (.sessionsDashboard args) w).2.trace := by
  intro pre q post ht hq
  have horder : GateOrder S b (.sessionsDashboard args) w (runRequest S b (.sessionsDashboard args) w).2 :=
    (runRequest_gateTrace S b w rfl).gateOrder
  obtain ⟨actor, hgates, hgranted⟩ := horder.before_query pre q post ht hq
  obtain ⟨authCtx, hauth⟩ := hgranted (.authorize .read actor) List.mem_cons_self
  have hmem : ∀ g ∈ callGates .read (Request.guards b (.sessionsDashboard args)) actor, Event.passed g ∈ pre := by
    intro g hg
    have hp : Event.passed g ∈ pre.filter Event.isGate := hgates ▸ List.mem_map_of_mem hg
    exact (List.mem_filter.mp hp).1
  refine ⟨fun a ↦ authorize_congr ⟨_, hauth⟩, actor, hmem _ ?_, hmem _ ?_⟩
  · exact List.mem_cons_of_mem _ List.mem_cons_self
  · exact List.mem_cons_of_mem _ (List.mem_cons_of_mem _ List.mem_cons_self)

/-- The tool is always mediated; the app tool only for callers who may read anyway, and the
refresh route only where it makes no query. -/
theorem dashboards_mediated_iff (S : Site β) (w : World β) (b : Binding) (toolArgs : SessionsDashboardArgs)
    (args : FetchArgs) (requestId : Str) :
    Mediated S (runRequest S b (.sessionsDashboard toolArgs) w).2.trace ∧
    (Mediated S (fetchSessionsDashboardData S args w).2.trace ↔ MayRead S ∨ ¬ FetchReached S w args) ∧
    (Mediated S (refreshDashboardHtml S requestId w).2.trace ↔ ¬ RefreshReached S w requestId) := by
  have hfetch := (fetch_reaches (S := S) w args w rfl).snd (fun _ _ h ↦ h) (fun _ _ h ↦ h)
  have hrefresh := (refresh_reaches (S := S) w requestId w rfl).snd (fun _ _ h ↦ h) (fun _ _ h ↦ h)
  refine ⟨sessionsDashboard_mediated S b toolArgs w, ?_, ?_⟩
  · rw [mediated_iff_of_reaches hfetch (by simp [fetchGates, Event.isQuery])]
    refine or_congr_left (and_iff_left ⟨args.actor, ?_, ?_⟩)
    · exact List.mem_cons_self
    · exact List.mem_cons_of_mem _ List.mem_cons_self
  · rw [mediated_iff_of_reaches hrefresh (by simp [Event.isQuery])]
    refine or_iff_right (fun h ↦ ?_)
    obtain ⟨-, actor, htouch, -⟩ := h
    cases List.mem_singleton.mp htouch

end Access

omit [UnicodeData]

def tokenSite : Site Unit :=
  { openSite {} [{ id := "primary".toList, host := "sql".toList, database := "master".toList, authSecretRef := [] }] with
    auth := some { azureAuthEnabled := true } }

/-- Without any token the app tool queries the instance. -/
theorem fetch_without_token :
    ¬ ∀ (β : Type) (S : Site β) (w : World β) (b : Binding) (toolArgs : SessionsDashboardArgs) (args : FetchArgs)
      (requestId : Str),
      @Mediated β asciiData S (@runRequest β asciiData S b (.sessionsDashboard toolArgs) w).2.trace ∧
      @Mediated β asciiData S (@fetchSessionsDashboardData β asciiData S args w).2.trace ∧
      @Mediated β asciiData S (@refreshDashboardHtml β asciiData S requestId w).2.trace := by
  intro h
  let _ := asciiData
  obtain ⟨-, hfetch, -⟩ := h Unit tokenSite freshWorld ⟨[], [], 1⟩ {} {} []
  have hends := (fetch_reaches (S := tokenSite) freshWorld {} freshWorld rfl).snd (fun _ _ h ↦ h) (fun _ _ h ↦ h)
  rw [mediated_iff_of_reaches hends (by simp [fetchGates, Event.isQuery])] at hfetch
  have hreached : FetchReached tokenSite freshWorld {} := by
    refine ⟨⟨("master".toList, "primary".toList), by decide +kernel⟩, ?_, rfl, rfl⟩
    exact touch_nil (open_openSite {} []).limit _ _ _
  rcases hfetch with ⟨hread, -⟩ | hn
  · obtain ⟨r, hr⟩ := hread []
    cases hr
  · exact hn hreached

end McpSqlServer

import McpSqlServer.Security.TokenVerifier
import Mathlib.Algebra.Order.Ring.Rat

namespace McpSqlServer.TokenVerifier

open Library Library.Text Library.Python Library.Transition

section Moves

variable [UnicodeData] (V : AzureEntraTokenVerifier) (J : Jwt)

inductive Moves (s : State) : Action → State → Prop
  | start {c : ℕ} {token : Str} {now : ℚ} (hc : s.calls c = none) (ht : s.clock ≤ now) :
      Moves s (.start c token now) ({ s with clock := now }.setCall c (.start J token now s.published))
  | get {c : ℕ} {now : ℚ} {call call' : Call} (hc : s.calls c = some call) (ht : s.clock ≤ now)
      (hg : call.get V J s.openidCache s.jwksCache now = some call') :
      Moves s (.get c now) ({ s with clock := now }.setCall c call')
  | answer {c : ℕ} {outcome : Except Exc Value} {call call' : Call} (hc : s.calls c = some call)
      (ha : call.answer outcome = some call') : Moves s (.answer c outcome) (s.setCall c call')
  | resume {c : ℕ} {call call' : Call} {document : Option Fetched} (hc : s.calls c = some call)
      (hr : call.resume V J c s.clock = some (call', document)) : Moves s (.resume c) ((s.store document).setCall c call')
  | decode {c : ℕ} {now : ℚ} {call call' : Call} (hc : s.calls c = some call) (ht : s.clock ≤ now)
      (hd : call.decode V J now = some call') : Moves s (.decode c now) ({ s with clock := now }.setCall c call')
  | rotate (payload : Value) : Moves s (.rotate payload)
      { s with published := payload, calls := fun c ↦ (s.calls c).map (Call.witness payload) }

variable {V J} {s s' : State} {a : Action}

omit [UnicodeData] in
theorem tick_eq_some {now : ℚ} (h : s.tick now = some s') : s.clock ≤ now ∧ s' = { s with clock := now } := by
  obtain ⟨ht, hs⟩ := Option.ite_none_right_eq_some.mp h
  exact ⟨ht, (Option.some.inj hs).symm⟩

theorem moves_of_step (h : step V J s a = some s') : Moves V J s a s' := by
  cases a with
  | start c token now =>
    simp only [step] at h
    split at h
    · cases h
    · rename_i hc
      obtain ⟨s₁, hs₁, rfl⟩ := Option.map_eq_some_iff.mp h
      obtain ⟨ht, rfl⟩ := tick_eq_some hs₁
      exact .start (Option.not_isSome_iff_eq_none.mp hc) ht
  | get c now =>
    obtain ⟨call, hc, h⟩ := Option.bind_eq_some_iff.mp h
    obtain ⟨s₁, hs₁, h⟩ := Option.bind_eq_some_iff.mp h
    obtain ⟨call', hg, h⟩ := Option.bind_eq_some_iff.mp h
    obtain ⟨ht, rfl⟩ := tick_eq_some hs₁
    cases h
    exact .get hc ht hg
  | answer c outcome =>
    obtain ⟨call, hc, h⟩ := Option.bind_eq_some_iff.mp h
    obtain ⟨call', ha, h⟩ := Option.bind_eq_some_iff.mp h
    cases h
    exact .answer hc ha
  | resume c =>
    obtain ⟨call, hc, h⟩ := Option.bind_eq_some_iff.mp h
    obtain ⟨⟨call', document⟩, hr, h⟩ := Option.bind_eq_some_iff.mp h
    cases h
    exact .resume hc hr
  | decode c now =>
    obtain ⟨call, hc, h⟩ := Option.bind_eq_some_iff.mp h
    obtain ⟨s₁, hs₁, h⟩ := Option.bind_eq_some_iff.mp h
    obtain ⟨call', hd, h⟩ := Option.bind_eq_some_iff.mp h
    obtain ⟨ht, rfl⟩ := tick_eq_some hs₁
    cases h
    exact .decode hc ht hd
  | rotate payload =>
    cases h
    exact .rotate payload

end Moves

/-- A document of its kind, as the payload check lets it pass; its address is that of the
discovery, or one that an OpenID document names. -/
def Fetched.Valid (V : AzureEntraTokenVerifier) (J : Jwt) (log : List Fetched) (f : Fetched) : Prop :=
  match f.kind with
  | .openid => openidPayload (.dict f.document) = some f.document ∧ f.url = V.discoveryUrl
  | .jwks => jwksPayload (.dict f.document) = some f.document ∧
      ∃ openid ∈ log, openid.kind = .openid ∧ f.url = J.jwksUri openid

theorem Fetched.Valid.mono {V : AzureEntraTokenVerifier} {J : Jwt} {log log' : List Fetched} {f : Fetched}
    (h : f.Valid V J log) (hlog : log ⊆ log') : f.Valid V J log' := by
  unfold Fetched.Valid at h ⊢
  split
  · rename_i hk
    rwa [hk] at h
  · rename_i hk
    rw [hk] at h
    obtain ⟨hp, openid, ho, hopenid⟩ := h
    exact ⟨hp, openid, hlog ho, hopenid⟩

section Payloads

variable {payload : Value} {d : Dict Value}

theorem jwksPayload_eq_some (h : jwksPayload payload = some d) : payload = .dict d := by
  unfold jwksPayload at h
  split at h
  · split at h
    · rw [Option.some.inj h]
    · cases h
  · cases h

theorem findKey_eq_some {kid : Str} {keys : List Value} {k : Dict Value} (h : findKey kid keys = .ok (some k)) :
    .dict k ∈ keys ∧ k.lookup "kid".toList = some (.str kid) := by
  induction keys with
  | nil => cases h
  | cons v keys ih =>
    cases v with
    | dict d =>
      simp only [findKey] at h
      split at h
      · rename_i s hs
        split at h
        · rename_i hk
          cases h
          exact ⟨List.mem_cons_self, hk ▸ hs⟩
        · exact ⟨List.mem_cons_of_mem _ (ih h).1, (ih h).2⟩
      · exact ⟨List.mem_cons_of_mem _ (ih h).1, (ih h).2⟩
    | _ => cases h

end Payloads

section Soundness

variable (V : AzureEntraTokenVerifier) (J : Jwt)

/-- The call requested the document itself, or it read the document from a cache less than
the lifetime after the request. -/
structure Call.Obtained (log : List Fetched) (c : ℕ) (call : Call) (kind : DocumentKind) (f : Fetched) : Prop where
  received : f ∈ log
  kind_eq : f.kind = kind
  fresh : (f.requestedBy = c ∧ call.startedAt ≤ f.requestedAt) ∨
    ∃ now, (f, now) ∈ call.reads ∧ call.startedAt ≤ now ∧ now - f.requestedAt < V.configCacheTtlSec

/-- What an access token rests on. -/
structure Grounds where
  kid : Str
  openid : Fetched
  jwks : Fetched
  keyData : Dict Value
  key : J.Key
  claims : Dict Value
  now : ℚ

variable {J} in
structure Grounds.Support [UnicodeData] (log : List Fetched) (c : ℕ) (call : Call) (g : Grounds J) : Prop where
  header : ∃ header, J.getUnverifiedHeader call.token = .ok header ∧ header.kid = some g.kid
  openid : call.Obtained V log c .openid g.openid
  jwks : call.Obtained V log c .jwks g.jwks
  valid : g.openid.Valid V J log ∧ g.jwks.Valid V J log
  keyData : .dict g.keyData ∈ jwksKeys g.jwks.document
  kid : g.keyData.lookup "kid".toList = some (.str g.kid)
  key : J.fromJwk g.keyData = .ok g.key
  decoded : J.decode call.token g.key ["RS256".toList] V.audience (J.issuer g.openid)
    ["exp".toList, "iss".toList, "aud".toList] g.now = .ok (.dict g.claims)
  scopes : ∀ scope ∈ V.requiredScopes.getD [], scope ∈ extractScopes g.claims

variable [UnicodeData]

def Call.Knows (log : List Fetched) (c : ℕ) (call : Call) : Phase → Prop
  | .getOpenid => True
  | .awaitOpenid now _ => call.startedAt ≤ now
  | .getJwks openid _ => call.Obtained V log c .openid openid
  | .awaitJwks openid _ now _ => call.startedAt ≤ now ∧ call.Obtained V log c .openid openid
  | .decode openid jwks keyData => (call.Obtained V log c .openid openid ∧ call.Obtained V log c .jwks jwks) ∧
      .dict keyData ∈ jwksKeys jwks.document ∧ keyData.lookup "kid".toList = some (.str (call.kid J))
  | .done result _ => ∀ a, result = .ok (some a) → a.token = call.token ∧ ∃ g : Grounds J, g.Support V log c call

structure Call.Sound (log : List Fetched) (c : ℕ) (clock : ℚ) (call : Call) : Prop where
  started : call.startedAt ≤ clock
  header : call.ended = false → headerKid J call.token = .ok (call.kid J)
  knows : call.Knows V J log c call.phase

structure State.Sound (s : State) : Prop where
  openid : ∀ f ∈ s.openidCache, f ∈ s.log ∧ f.kind = .openid
  jwks : ∀ f ∈ s.jwksCache, f ∈ s.log ∧ f.kind = .jwks
  valid : ∀ f ∈ s.log, f.Valid V J s.log
  calls : ∀ c call, s.calls c = some call → call.Sound V J s.log c s.clock

variable {V J} {log log' : List Fetched} {c : ℕ} {call call' : Call} {clock clock' : ℚ} {s s' : State} {a : Action}

omit [UnicodeData] in
theorem Call.Obtained.mono {kind : DocumentKind} {f : Fetched} (h : call.Obtained V log c kind f) (hlog : log ⊆ log')
    (hs : call'.startedAt = call.startedAt) (hreads : call.reads ⊆ call'.reads) :
    call'.Obtained V log' c kind f := by
  refine ⟨hlog h.received, h.kind_eq, ?_⟩
  rw [hs]
  exact h.fresh.imp_right (fun ⟨now, hr, ht⟩ ↦ ⟨now, hreads hr, ht⟩)

theorem Call.Knows.mono {phase : Phase} (h : call.Knows V J log c phase) (hlog : log ⊆ log')
    (htoken : call'.token = call.token) (hs : call'.startedAt = call.startedAt) (hreads : call.reads ⊆ call'.reads) :
    call'.Knows V J log' c phase := by
  have hkid : call'.kid J = call.kid J := by rw [Call.kid, Call.kid, htoken]
  cases phase with
  | getOpenid => trivial
  | awaitOpenid now response => exact hs.trans_le h
  | getJwks openid force => exact Call.Obtained.mono h hlog hs hreads
  | awaitJwks openid force now response => exact ⟨hs.trans_le h.1, h.2.mono hlog hs hreads⟩
  | decode openid jwks keyData =>
    refine ⟨⟨h.1.1.mono hlog hs hreads, h.1.2.mono hlog hs hreads⟩, ?_⟩
    rw [hkid]
    exact h.2
  | done result endedAt =>
    intro a ha
    obtain ⟨ht, g, hg⟩ := h a ha
    refine ⟨by rw [ht, htoken], g, ?_⟩
    exact { hg with
      header := htoken ▸ hg.header
      openid := hg.openid.mono hlog hs hreads
      jwks := hg.jwks.mono hlog hs hreads
      valid := ⟨hg.valid.1.mono hlog, hg.valid.2.mono hlog⟩
      decoded := htoken ▸ hg.decoded }

theorem Call.Sound.mono (h : call.Sound V J log c clock) (hlog : log ⊆ log') (ht : clock ≤ clock') :
    call.Sound V J log' c clock' :=
  ⟨h.started.trans ht, h.header, h.knows.mono hlog rfl rfl (List.Subset.refl _)⟩

omit [UnicodeData] in
theorem orNone_ne_some (e : Exc) (a : AccessToken) : orNone e ≠ .ok (some a) := by
  unfold orNone
  split
  · simp
  · simp

omit [UnicodeData] in
theorem cached_eq_some {now : ℚ} {cache : Option Fetched} {f : Fetched} (h : V.cached now cache = some f) :
    cache = some f ∧ now - f.requestedAt < V.configCacheTtlSec := by
  obtain ⟨hf, hp⟩ := Option.filter_eq_some_iff.mp h
  simp only [Bool.and_eq_true, decide_eq_true_eq] at hp
  exact ⟨hf, hp.2⟩

def logWith (log : List Fetched) : Option Fetched → List Fetched
  | none => log
  | some f => f :: log

theorem calls_setCall {t : State} {d : ℕ} (hcall : call'.Sound V J t.log c t.clock)
    (hcalls : ∀ d call, t.calls d = some call → call.Sound V J t.log d t.clock)
    (hd : (t.setCall c call').calls d = some call) : call.Sound V J t.log d t.clock := by
  simp only [State.setCall, Function.update_apply] at hd
  split at hd
  · rename_i h
    subst h
    rwa [← Option.some.inj hd]
  · exact hcalls d call hd

theorem State.Sound.advance {now : ℚ} (h : s.Sound V J) (ht : s.clock ≤ now) (hcall : call'.Sound V J s.log c now) :
    ({ s with clock := now }.setCall c call').Sound V J where
  openid := h.openid
  jwks := h.jwks
  valid := h.valid
  calls _ _ := calls_setCall (t := { s with clock := now }) hcall
    (fun d call hd ↦ (h.calls d call hd).mono (List.Subset.refl _) ht)

theorem State.Sound.store {document : Option Fetched} (h : s.Sound V J) (hvalid : ∀ f ∈ document, f.Valid V J s.log)
    (hcall : call'.Sound V J (logWith s.log document) c s.clock) : ((s.store document).setCall c call').Sound V J := by
  cases document with
  | none =>
    exact { h with calls := fun _ _ ↦ calls_setCall (t := s) hcall h.calls }
  | some f =>
    have hlog : ∀ d call, s.calls d = some call → call.Sound V J (f :: s.log) d s.clock :=
      fun d call hd ↦ (h.calls d call hd).mono (List.subset_cons_self _ _) le_rfl
    have hall : ∀ g ∈ f :: s.log, g.Valid V J (f :: s.log) := by
      intro g hg
      rcases List.mem_cons.mp hg with rfl | hg
      · exact (hvalid g rfl).mono (List.subset_cons_self _ _)
      · exact (h.valid g hg).mono (List.subset_cons_self _ _)
    have hkeep {kind : DocumentKind} {cache : Option Fetched} (hc : ∀ g ∈ cache, g ∈ s.log ∧ g.kind = kind) :
        ∀ g ∈ cache, g ∈ f :: s.log ∧ g.kind = kind :=
      fun g hg ↦ ⟨List.mem_cons_of_mem _ (hc g hg).1, (hc g hg).2⟩
    have hnew {kind : DocumentKind} (hk : f.kind = kind) : ∀ g ∈ some f, g ∈ f :: s.log ∧ g.kind = kind := by
      intro g hg
      cases Option.some.inj hg
      exact ⟨List.mem_cons_self, hk⟩
    unfold State.store
    cases hk : f.kind with
    | openid =>
      simp only [hk]
      exact ⟨hnew hk, hkeep h.jwks, hall,
        fun _ _ ↦ calls_setCall (t := { s with openidCache := some f, log := f :: s.log }) hcall hlog⟩
    | jwks =>
      simp only [hk]
      exact ⟨hkeep h.openid, hnew hk, hall,
        fun _ _ ↦ calls_setCall (t := { s with jwksCache := some f, log := f :: s.log }) hcall hlog⟩

end Soundness

def State.initial (clock : ℚ) (published : Value) : State := { clock := clock, published := published }

section Results

variable [UnicodeData] {V : AzureEntraTokenVerifier} {J : Jwt} {s s' : State} {clock : ℚ} {published : Value}

end Results

section Sample

def sampleVerifier : AzureEntraTokenVerifier where
  tenantId := "tenant-abc".toList
  clientId := "client-id".toList
  identifierUri := some "api://expected".toList
  requiredScopes := some ["read".toList]

def sampleClaims : Dict Value :=
  [("iss".toList, .str "https://issuer".toList), ("aud".toList, .str "api://expected".toList),
    ("exp".toList, .int 3600), ("scp".toList, .str "read write".toList)]

def sampleJwt : Jwt where
  Key := Str
  isPyJwtError _ := true
  getUnverifiedHeader token :=
    if token = "token".toList then .ok ⟨some "k1".toList, .str "RS256".toList⟩ else .error (valueError "token".toList)
  fromJwk keyData :=
    match keyData.lookup "n".toList with
    | some (.str n) => .ok n
    | _ => .error (valueError "n".toList)
  decode token key algorithms audience issuer _ now :=
    if token = "token".toList ∧ key = "n1".toList ∧ "RS256".toList ∈ algorithms ∧ audience = "api://expected".toList ∧
      issuer = "https://issuer".toList ∧ now < 3600 then .ok (.dict sampleClaims) else .error (valueError "token".toList)
  containerText _ := []
  floatInt _ := .error (valueError [])

def sampleJwks : Value :=
  .dict [("keys".toList, .list [.dict [("kid".toList, .str "k1".toList), ("n".toList, .str "n1".toList)]])]

def Phase.token : Phase → Option Str
  | .done (.ok (some a)) _ => some a.token
  | _ => none

end Sample

end McpSqlServer.TokenVerifier

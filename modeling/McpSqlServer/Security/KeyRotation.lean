import McpSqlServer.Security.TokenSoundness

namespace McpSqlServer.TokenVerifier

open Library Library.Text Library.Python Library.Transition

/-- A provider whose issuer and key address are constant, and whose key ids each denote one key. -/
structure Provider (J : Jwt) where
  issuer : Str
  jwksUri : Str
  keyOf : Str → Except Exc J.Key
  issuer_ne : issuer ≠ []
  jwksUri_ne : jwksUri ≠ []

def verifyWith [UnicodeData] (V : AzureEntraTokenVerifier) (J : Jwt) (issuer : Str) (published : Value) (token : Str)
    (now : ℚ) : Except Exc (Option AccessToken) :=
  match headerKid J token with
  | .error result => result
  | .ok kid =>
    match jwksPayload published with
    | none => .ok none
    | some jwks =>
      match findKey kid (jwksKeys jwks) with
      | .error e => orNone e
      | .ok none => .ok none
      | .ok (some keyData) => decodeToken V J token keyData issuer now

def IsToken (result : Except Exc (Option AccessToken)) : Prop := ∃ a, result = .ok (some a)

/-- Every entry that is no object stands behind an entry of the key id. -/
def Searchable (kid : Str) (keys : List Value) : Prop :=
  ∀ pre v post, keys = pre ++ v :: post →
    (∃ k, v = .dict k) ∨ ∃ k, .dict k ∈ pre ∧ k.lookup "kid".toList = some (.str kid)

def Call.ReadsSearchable (J : Jwt) (call : Call) : Prop :=
  ∀ f now, (f, now) ∈ call.reads → f.kind = .jwks → Searchable (call.kid J) (jwksKeys f.document)

namespace Provider

variable {J : Jwt} (P : Provider J)

def Describes (d : Dict Value) : Prop :=
  openidPayload (.dict d) = some d ∧ J.str (Row.get d "issuer".toList) = P.issuer ∧
    J.str (Row.get d "jwks_uri".toList) = P.jwksUri

def Consistent (payload : Value) : Prop :=
  ∀ d, jwksPayload payload = some d → ∀ k kid, .dict k ∈ jwksKeys d → k.lookup "kid".toList = some (.str kid) →
    J.fromJwk k = P.keyOf kid

/-- Requests succeed: they are answered with an OpenID document of the provider, or with the
key set that is published at the time of the answer. -/
def Answers (s : State) : Action → Prop
  | .answer c outcome => ∀ call, s.calls c = some call →
    match call.phase with
    | .awaitOpenid _ _ => ∃ payload d, outcome = .ok payload ∧ openidPayload payload = some d ∧ P.Describes d
    | .awaitJwks _ _ _ _ => outcome = .ok s.published
    | _ => True
  | .rotate payload => P.Consistent payload
  | _ => True

structure Starts (s : State) : Prop where
  openid : ∀ f ∈ s.openidCache, f.kind = .openid ∧ P.Describes f.document
  jwks : ∀ f ∈ s.jwksCache, f.kind = .jwks ∧ jwksPayload (.dict f.document) = some f.document ∧
    P.Consistent (.dict f.document)
  published : P.Consistent s.published
  calls : ∀ c, s.calls c = none

end Provider

section Keys

variable {kid : Str} {keys : List Value}

theorem searchable_cons_iff (v : Value) :
    Searchable kid (v :: keys) ↔ ∃ k, v = .dict k ∧ (k.lookup "kid".toList = some (.str kid) ∨ Searchable kid keys) := by
  constructor
  · intro h
    rcases h [] v keys rfl with ⟨k, rfl⟩ | ⟨k, hk, -⟩
    · refine ⟨k, rfl, or_iff_not_imp_left.mpr (fun hk pre w post hkeys ↦ ?_)⟩
      rcases h (.dict k :: pre) w post (by rw [hkeys, List.cons_append]) with hw | ⟨k', hk', hkid⟩
      · exact .inl hw
      · rcases List.mem_cons.mp hk' with hk' | hk'
        · cases hk'
          exact absurd hkid hk
        · exact .inr ⟨k', hk', hkid⟩
    · cases hk
  · rintro ⟨k, rfl, hk⟩ pre w post hkeys
    cases pre with
    | nil =>
      cases (List.cons.inj hkeys).1
      exact .inl ⟨k, rfl⟩
    | cons u pre =>
      obtain ⟨rfl, hrest⟩ := List.cons.inj hkeys
      rcases hk with hk | hk
      · exact .inr ⟨k, List.mem_cons_self, hk⟩
      · exact (hk pre w post hrest).imp_right (fun ⟨k', hk', hkid⟩ ↦ ⟨k', List.mem_cons_of_mem _ hk', hkid⟩)

/-- The search raises nothing exactly on such key sets. -/
theorem findKey_succeeds_iff : (∃ r, findKey kid keys = .ok r) ↔ Searchable kid keys := by
  induction keys with
  | nil => exact iff_of_true ⟨none, rfl⟩ (fun pre v post h ↦ by simp at h)
  | cons v keys ih =>
    rw [searchable_cons_iff, ← ih]
    cases v with
    | dict k =>
      simp only [findKey]
      split
      · rename_i s hs
        split
        · rename_i hk
          exact iff_of_true ⟨_, rfl⟩ ⟨k, rfl, .inl (hk ▸ hs)⟩
        · rename_i hk
          refine ⟨fun h ↦ ⟨k, rfl, .inr h⟩, fun h ↦ ?_⟩
          obtain ⟨k', he, h⟩ := h
          refine h.resolve_left (fun hkid ↦ hk ?_)
          cases he
          cases hs.symm.trans hkid
          rfl
      · rename_i hs
        refine ⟨fun h ↦ ⟨k, rfl, .inr h⟩, fun h ↦ ?_⟩
        obtain ⟨k', he, h⟩ := h
        refine h.resolve_left (fun hkid ↦ hs kid ?_)
        cases he
        exact hkid
    | _ =>
      refine iff_of_false (fun h ↦ ?_) (fun h ↦ ?_)
      · obtain ⟨r, h⟩ := h
        cases h
      · obtain ⟨k, h, -⟩ := h
        cases h

end Keys

section Verification

variable [UnicodeData] {V : AzureEntraTokenVerifier} {J : Jwt}

omit [UnicodeData] in
theorem not_isToken_orNone (e : Exc) : ¬ IsToken (orNone e) := fun ⟨a, h⟩ ↦ orNone_ne_some e a h

omit [UnicodeData] in
theorem not_isToken_none : ¬ IsToken (.ok none) := fun ⟨a, h⟩ ↦ by cases h

theorem decodeToken_congr {token issuer : Str} {k k' : Dict Value} {now : ℚ} (h : J.fromJwk k = J.fromJwk k') :
    decodeToken V J token k issuer now = decodeToken V J token k' issuer now := by
  unfold decodeToken
  rw [h]

/-- An accepted token has its key in the key set. -/
theorem isToken_verifyWith {issuer token kid : Str} {published : Value} {now : ℚ} (hkid : headerKid J token = .ok kid)
    (h : IsToken (verifyWith V J issuer published token now)) : ∃ jwks keyData, jwksPayload published = some jwks ∧
      findKey kid (jwksKeys jwks) = .ok (some keyData) ∧ IsToken (decodeToken V J token keyData issuer now) := by
  unfold verifyWith at h
  rw [hkid] at h
  dsimp only at h
  split at h
  · exact absurd h not_isToken_none
  · rename_i jwks hjwks
    split at h
    · exact absurd h (not_isToken_orNone _)
    · exact absurd h not_isToken_none
    · rename_i keyData hk
      exact ⟨jwks, keyData, hjwks, hk, h⟩

end Verification

section Runs

variable [UnicodeData] (V : AzureEntraTokenVerifier) {J : Jwt} (P : Provider J)

def Provider.Knows (call : Call) : Phase → Prop
  | .getOpenid => True
  | .awaitOpenid _ response => ∀ r ∈ response, ∃ payload d, r = .ok payload ∧ openidPayload payload = some d ∧ P.Describes d
  | .getJwks openid _ => J.issuer openid = P.issuer
  | .awaitJwks openid _ _ response => J.issuer openid = P.issuer ∧ ∀ r ∈ response, ∃ payload ∈ call.published, r = .ok payload
  | .decode openid _ keyData => J.issuer openid = P.issuer ∧ J.fromJwk keyData = P.keyOf (call.kid J)
  | .done result endedAt => (∀ payload ∈ call.published, IsToken (verifyWith V J P.issuer payload call.token endedAt)) →
      (IsToken result ↔ call.ReadsSearchable J)

/-- A call that runs knows its `kid` and the current key set, and found all it read searchable. -/
structure Call.Running (published : Value) (call : Call) : Prop where
  current : published ∈ call.published
  header : headerKid J call.token = .ok (call.kid J)
  searchable : call.ReadsSearchable J

structure Provider.Tracks (published : Value) (call : Call) : Prop where
  running : call.ended = false → call.Running (J := J) published
  consistent : ∀ payload ∈ call.published, P.Consistent payload
  knows : P.Knows V call call.phase

structure Provider.Serves (s : State) : Prop where
  openid : ∀ f ∈ s.openidCache, f.kind = .openid ∧ P.Describes f.document
  jwks : ∀ f ∈ s.jwksCache, f.kind = .jwks ∧ jwksPayload (.dict f.document) = some f.document ∧
    P.Consistent (.dict f.document)
  published : P.Consistent s.published
  calls : ∀ c call, s.calls c = some call → P.Tracks V s.published call

variable {V P} {call call' : Call} {published : Value} {s s' : State} {a : Action}

omit [UnicodeData] in
theorem Call.ReadsSearchable.cons {f : Fetched} {now : ℚ} {phase : Phase} (h : call.ReadsSearchable J)
    (hf : f.kind = .jwks → Searchable (call.kid J) (jwksKeys f.document)) :
    ({ call with phase := phase, reads := (f, now) :: call.reads } : Call).ReadsSearchable J := by
  intro g t hg hkind
  rcases List.mem_cons.mp hg with hg | hg
  · cases hg
    exact hf hkind
  · exact h g t hg hkind

theorem tracks_searchCached {openid f : Fetched} {now : ℚ} (h : P.Tracks V published call) (hrun : call.ended = false)
    (hissuer : J.issuer openid = P.issuer) (hkind : f.kind = .jwks) (hf : jwksPayload (.dict f.document) = some f.document)
    (hcons : P.Consistent (.dict f.document)) :
    P.Tracks V published
      { call with phase := searchKeys J call openid f false now, reads := (f, now) :: call.reads } := by
  obtain ⟨hcurrent, hheader, hsearch⟩ := h.running hrun
  cases hk : findKey (call.kid J) (jwksKeys f.document) with
  | error e =>
    have hbad : ¬ Searchable (call.kid J) (jwksKeys f.document) := by
      intro hs
      obtain ⟨r, hr⟩ := findKey_succeeds_iff.mpr hs
      rw [hk] at hr
      cases hr
    have hphase : searchKeys J call openid f false now = .done (orNone e) now := by simp only [searchKeys, hk]
    rw [hphase]
    refine ⟨fun he ↦ by simp [Call.ended] at he, h.consistent, fun _ ↦ ?_⟩
    exact iff_of_false (not_isToken_orNone e) (fun hs ↦ hbad (hs f now List.mem_cons_self hkind))
  | ok r =>
    have hgood : Searchable (call.kid J) (jwksKeys f.document) := findKey_succeeds_iff.mp ⟨r, hk⟩
    refine ⟨fun _ ↦ ⟨hcurrent, hheader, hsearch.cons (fun _ ↦ hgood)⟩, h.consistent, ?_⟩
    cases r with
    | none =>
      have hphase : searchKeys J call openid f false now = .getJwks openid true := by simp [searchKeys, hk]
      rw [hphase]
      exact hissuer
    | some keyData =>
      have hphase : searchKeys J call openid f false now = .decode openid f keyData := by simp only [searchKeys, hk]
      rw [hphase]
      obtain ⟨hmem, hkid⟩ := findKey_eq_some hk
      exact ⟨hissuer, hcons _ hf keyData _ hmem hkid⟩

theorem tracks_searchFetched {openid f : Fetched} {force : Bool} {payload : Value} {now : ℚ}
    (h : P.Tracks V published call) (hrun : call.ended = false) (hissuer : J.issuer openid = P.issuer)
    (hp : payload ∈ call.published) (hf : jwksPayload payload = some f.document) :
    P.Tracks V published (call.goto (searchKeys J call openid f force now)) := by
  have hheader := (h.running hrun).header
  have hfound (endedAt : ℚ)
      (haccept : ∀ payload ∈ call.published, IsToken (verifyWith V J P.issuer payload call.token endedAt)) :
      ∃ keyData, findKey (call.kid J) (jwksKeys f.document) = .ok (some keyData) := by
    obtain ⟨jwks, keyData, hjwks, hk, -⟩ := isToken_verifyWith hheader (haccept payload hp)
    cases hf.symm.trans hjwks
    exact ⟨keyData, hk⟩
  refine ⟨fun _ ↦ ?_, h.consistent, ?_⟩
  · obtain ⟨hcurrent, -, hsearch⟩ := h.running hrun
    exact ⟨hcurrent, hheader, hsearch⟩
  · show P.Knows V _ (searchKeys J call openid f force now)
    cases hk : findKey (call.kid J) (jwksKeys f.document) with
    | error e =>
      have hphase : searchKeys J call openid f force now = .done (orNone e) now := by simp only [searchKeys, hk]
      rw [hphase]
      intro haccept
      obtain ⟨keyData, hk'⟩ := hfound now haccept
      cases hk.symm.trans hk'
    | ok r =>
      cases r with
      | none =>
        cases force with
        | false =>
          have hphase : searchKeys J call openid f false now = .getJwks openid true := by simp [searchKeys, hk]
          rw [hphase]
          exact hissuer
        | true =>
          have hphase : searchKeys J call openid f true now = .done (.ok none) now := by simp [searchKeys, hk]
          rw [hphase]
          intro haccept
          obtain ⟨keyData, hk'⟩ := hfound now haccept
          cases hk.symm.trans hk'
      | some keyData =>
        have hphase : searchKeys J call openid f force now = .decode openid f keyData := by simp only [searchKeys, hk]
        rw [hphase]
        obtain ⟨hmem, hkid⟩ := findKey_eq_some hk
        exact ⟨hissuer, h.consistent payload hp _ hf keyData _ hmem hkid⟩

theorem tracks_start (token : Str) (now : ℚ) (hpub : P.Consistent published) :
    P.Tracks V published (Call.start J token now published) := by
  have hcons : ∀ payload ∈ [published], P.Consistent payload := by
    intro payload hp
    rwa [List.mem_singleton.mp hp]
  have hreads : (Call.start J token now published).ReadsSearchable J := fun f t h ↦ absurd h List.not_mem_nil
  cases hk : headerKid J token with
  | error result =>
    have hphase : (Call.start J token now published).phase = .done result now := by simp only [Call.start, hk]
    refine ⟨fun he ↦ by simp [Call.ended, hphase] at he, hcons, ?_⟩
    rw [hphase]
    intro haccept
    have hresult := haccept published (List.mem_singleton_self _)
    unfold verifyWith at hresult
    have htoken : (Call.start J token now published).token = token := rfl
    rw [htoken, hk] at hresult
    exact iff_of_true hresult hreads
  | ok kid =>
    have hphase : (Call.start J token now published).phase = .getOpenid := by simp only [Call.start, hk]
    refine ⟨fun _ ↦ ⟨List.mem_singleton_self _, ?_, hreads⟩, hcons, ?_⟩
    · simp only [Call.start, Call.kid, hk]
    · rw [hphase]
      trivial

theorem tracks_get {openidCache jwksCache : Option Fetched} {now : ℚ} (h : P.Tracks V published call)
    (hopenid : ∀ f ∈ openidCache, f.kind = .openid ∧ P.Describes f.document)
    (hjwks : ∀ f ∈ jwksCache, f.kind = .jwks ∧ jwksPayload (.dict f.document) = some f.document ∧
      P.Consistent (.dict f.document))
    (hg : call.get V J openidCache jwksCache now = some call') : P.Tracks V published call' := by
  have hknows := h.knows
  unfold Call.get at hg
  split at hg
  · rename_i hp
    obtain ⟨hcurrent, hheader, hsearch⟩ := h.running (by simp [Call.ended, hp])
    split at hg
    · rename_i f hf
      cases hg
      obtain ⟨hkind, hdescribes⟩ := hopenid f (cached_eq_some hf).1
      refine ⟨fun _ ↦ ⟨hcurrent, hheader, hsearch.cons (fun hk ↦ ?_)⟩, h.consistent, hdescribes.2.1⟩
      rw [hkind] at hk
      cases hk
    · cases hg
      exact ⟨fun _ ↦ ⟨hcurrent, hheader, hsearch⟩, h.consistent, fun r hr ↦ by cases hr⟩
  · rename_i openid force hp
    have hrun : call.ended = false := by simp [Call.ended, hp]
    rw [hp] at hknows
    split at hg
    · rename_i f hf
      cases hg
      obtain ⟨hforce, hf⟩ := Option.ite_none_left_eq_some.mp hf
      obtain ⟨hkind, hpayload, hcons⟩ := hjwks f (cached_eq_some hf).1
      rw [Bool.not_eq_true] at hforce
      rw [hforce]
      exact tracks_searchCached h hrun hknows hkind hpayload hcons
    · cases hg
      obtain ⟨hcurrent, hheader, hsearch⟩ := h.running hrun
      exact ⟨fun _ ↦ ⟨hcurrent, hheader, hsearch⟩, h.consistent, hknows, fun r hr ↦ by cases hr⟩
  · cases hg

theorem tracks_answer {c : ℕ} {outcome : Except Exc Value} (h : P.Tracks V s.published call) (hc : s.calls c = some call)
    (hok : P.Answers s (.answer c outcome)) (ha : call.answer outcome = some call') : P.Tracks V s.published call' := by
  have hknows := h.knows
  have hanswer := hok call hc
  unfold Call.answer at ha
  split at ha
  · rename_i hp
    obtain ⟨hcurrent, hheader, hsearch⟩ := h.running (by simp [Call.ended, hp])
    rw [hp] at hanswer
    cases ha
    refine ⟨fun _ ↦ ⟨hcurrent, hheader, hsearch⟩, h.consistent, fun r hr ↦ ?_⟩
    rwa [← Option.some.inj hr]
  · rename_i hp
    obtain ⟨hcurrent, hheader, hsearch⟩ := h.running (by simp [Call.ended, hp])
    rw [hp] at hanswer hknows
    cases ha
    refine ⟨fun _ ↦ ⟨hcurrent, hheader, hsearch⟩, h.consistent, hknows.1, fun r hr ↦ ?_⟩
    rw [← Option.some.inj hr]
    exact ⟨s.published, hcurrent, hanswer⟩
  · cases ha

theorem tracks_resume {c : ℕ} {clock : ℚ} {document : Option Fetched} (h : P.Tracks V published call)
    (hr : call.resume V J c clock = some (call', document)) : P.Tracks V published call' ∧
      ∀ f ∈ document, (f.kind = .openid ∧ P.Describes f.document) ∨
        (f.kind = .jwks ∧ jwksPayload (.dict f.document) = some f.document ∧ P.Consistent (.dict f.document)) := by
  have hknows := h.knows
  unfold Call.resume at hr
  split at hr
  · rename_i hp
    rw [hp] at hknows
    obtain ⟨payload, d, he, -⟩ := hknows _ rfl
    cases he
  · rename_i now payload hp
    rw [hp] at hknows
    obtain ⟨payload', d, he, hd, hdescribes⟩ := hknows _ rfl
    cases he
    simp only [hd] at hr
    cases hr
    obtain ⟨hcurrent, hheader, hsearch⟩ := h.running (by simp [Call.ended, hp])
    refine ⟨⟨fun _ ↦ ⟨hcurrent, hheader, hsearch⟩, h.consistent, hdescribes.2.1⟩, fun f hf ↦ .inl ?_⟩
    cases Option.some.inj hf
    exact ⟨rfl, hdescribes⟩
  · rename_i hp
    rw [hp] at hknows
    obtain ⟨payload, -, he⟩ := hknows.2 _ rfl
    cases he
  · rename_i openid force now payload hp
    rw [hp] at hknows
    obtain ⟨hissuer, hresponse⟩ := hknows
    obtain ⟨payload', hpub, he⟩ := hresponse _ rfl
    cases he
    have hrun : call.ended = false := by simp [Call.ended, hp]
    split at hr
    · rename_i d hd
      cases hr
      refine ⟨tracks_searchFetched h hrun hissuer hpub hd, fun f hf ↦ .inr ?_⟩
      cases Option.some.inj hf
      have hcons := h.consistent payload hpub
      rw [jwksPayload_eq_some hd] at hcons hd
      exact ⟨rfl, hd, hcons⟩
    · rename_i hd
      cases hr
      refine ⟨⟨fun he ↦ by simp [Call.ended, Call.goto] at he, h.consistent, fun haccept ↦ ?_⟩, fun f hf ↦ by cases hf⟩
      obtain ⟨jwks, keyData, hjwks, -⟩ := isToken_verifyWith (h.running hrun).header (haccept payload hpub)
      rw [hd] at hjwks
      cases hjwks
  · cases hr

theorem tracks_decode {now : ℚ} (h : P.Tracks V published call) (hd : call.decode V J now = some call') :
    P.Tracks V published call' := by
  have hknows := h.knows
  unfold Call.decode at hd
  split at hd
  · rename_i openid jwks keyData hp
    obtain ⟨hcurrent, hheader, hsearch⟩ := h.running (by simp [Call.ended, hp])
    rw [hp] at hknows
    obtain ⟨hissuer, hkey⟩ := hknows
    cases hd
    refine ⟨fun he ↦ by simp [Call.ended, Call.goto] at he, h.consistent, fun haccept ↦ iff_of_true ?_ hsearch⟩
    obtain ⟨jwks', k, hjwks, hk, htoken⟩ := isToken_verifyWith hheader (haccept published hcurrent)
    obtain ⟨hmem, hkid⟩ := findKey_eq_some hk
    have hsame : J.fromJwk k = J.fromJwk keyData :=
      (h.consistent published hcurrent _ hjwks k _ hmem hkid).trans hkey.symm
    rwa [decodeToken_congr hsame, ← hissuer] at htoken
  · cases hd

theorem tracks_witness {payload : Value} (hp : P.Consistent payload) (h : P.Tracks V published call) :
    P.Tracks V payload (call.witness payload) := by
  unfold Call.witness
  split
  · rename_i he
    exact ⟨fun hn ↦ absurd he (Bool.eq_false_iff.mp hn), h.consistent, h.knows⟩
  · rename_i he
    rw [Bool.not_eq_true] at he
    obtain ⟨hcurrent, hheader, hsearch⟩ := h.running he
    refine ⟨fun _ ↦ ⟨List.mem_cons_self, hheader, hsearch⟩, fun p hmem ↦ ?_, ?_⟩
    · rcases List.mem_cons.mp hmem with rfl | hmem
      · exact hp
      · exact h.consistent p hmem
    · have hknows := h.knows
      show P.Knows V _ call.phase
      cases hphase : call.phase with
      | getOpenid => trivial
      | awaitOpenid now response => rwa [hphase] at hknows
      | getJwks openid force => rwa [hphase] at hknows
      | awaitJwks openid force now response =>
        rw [hphase] at hknows
        refine ⟨hknows.1, fun r hr ↦ ?_⟩
        obtain ⟨payload', hmem, he'⟩ := hknows.2 r hr
        exact ⟨payload', List.mem_cons_of_mem _ hmem, he'⟩
      | decode openid jwks keyData => rwa [hphase] at hknows
      | done result endedAt => simp [Call.ended, hphase] at he

theorem tracks_setCall {t : State} {c d : ℕ} (hcall : P.Tracks V t.published call')
    (hcalls : ∀ d call, t.calls d = some call → P.Tracks V t.published call)
    (hd : (t.setCall c call').calls d = some call) : P.Tracks V t.published call := by
  simp only [State.setCall, Function.update_apply] at hd
  split at hd
  · rwa [← Option.some.inj hd]
  · exact hcalls d call hd

theorem Provider.Serves.advance {c : ℕ} (h : P.Serves V s) (now : ℚ) (hcall : P.Tracks V s.published call') :
    P.Serves V ({ s with clock := now }.setCall c call') where
  openid := h.openid
  jwks := h.jwks
  published := h.published
  calls _ _ := tracks_setCall (t := { s with clock := now }) hcall h.calls

theorem serves_moves (h : P.Serves V s) (hok : P.Answers s a) (hm : Moves V J s a s') : P.Serves V s' := by
  cases hm with
  | start hc ht => exact h.advance _ (tracks_start _ _ h.published)
  | get hc ht hg => exact h.advance _ (tracks_get (h.calls _ _ hc) h.openid h.jwks hg)
  | answer hc ha => exact h.advance s.clock (tracks_answer (h.calls _ _ hc) hc hok ha)
  | @resume c call call' document hc hr =>
    obtain ⟨hcall, hdocument⟩ := tracks_resume (h.calls _ _ hc) hr
    cases document with
    | none => exact h.advance s.clock hcall
    | some f =>
      rcases hdocument f rfl with ⟨hk, hd⟩ | ⟨hk, hd⟩
      · have hstore : s.store (some f) = { s with openidCache := some f, log := f :: s.log } := by
          simp only [State.store, hk]
        rw [hstore]
        refine ⟨fun g hg ↦ ?_, h.jwks, h.published,
          fun _ _ ↦ tracks_setCall (t := { s with openidCache := some f, log := f :: s.log }) hcall h.calls⟩
        cases Option.some.inj hg
        exact ⟨hk, hd⟩
      · have hstore : s.store (some f) = { s with jwksCache := some f, log := f :: s.log } := by
          simp only [State.store, hk]
        rw [hstore]
        refine ⟨h.openid, fun g hg ↦ ?_, h.published,
          fun _ _ ↦ tracks_setCall (t := { s with jwksCache := some f, log := f :: s.log }) hcall h.calls⟩
        cases Option.some.inj hg
        exact ⟨hk, hd⟩
  | decode hc ht hd => exact h.advance _ (tracks_decode (h.calls _ _ hc) hd)
  | rotate payload =>
    refine ⟨h.openid, h.jwks, hok, fun c call hc ↦ ?_⟩
    obtain ⟨call₀, hc₀, rfl⟩ := Option.map_eq_some_iff.mp hc
    exact tracks_witness hok (h.calls c call₀ hc₀)

theorem serves_of_reachable {s₀ : State} (h₀ : P.Starts s₀) (h : Reachable (step V J) P.Answers s₀ s) : P.Serves V s := by
  refine h.invariant ⟨h₀.openid, h₀.jwks, h₀.published, fun c call hc ↦ ?_⟩
    (fun s a s' _ hs hok hstep ↦ serves_moves hs hok (moves_of_step hstep))
  rw [h₀.calls c] at hc
  cases hc

end Runs

def Action.caller : Action → Option ℕ
  | .start c _ _ | .get c _ | .answer c _ | .resume c | .decode c _ => some c
  | .rotate _ => none

/-- A bound for the steps that a call has left. -/
def Phase.remaining : Phase → ℕ
  | .getOpenid => 10
  | .awaitOpenid _ none => 9
  | .awaitOpenid _ (some _) => 8
  | .getJwks _ false => 7
  | .awaitJwks _ false _ none => 6
  | .awaitJwks _ false _ (some _) => 5
  | .getJwks _ true => 4
  | .awaitJwks _ true _ none => 3
  | .awaitJwks _ true _ (some _) => 2
  | .decode _ _ _ => 1
  | .done _ _ => 0

section Progress

variable [UnicodeData] {V : AzureEntraTokenVerifier} {J : Jwt} {P : Provider J} {call call' : Call} {s s' : State} {a : Action}

omit [UnicodeData] in
theorem remaining_searchKeys (openid jwks : Fetched) (force : Bool) (now : ℚ) :
    (searchKeys J call openid jwks force now).remaining ≤ if force then 1 else 4 := by
  unfold searchKeys
  split
  · simp [Phase.remaining]
  · cases force <;> simp [Phase.remaining]
  · cases force <;> simp [Phase.remaining]

omit [UnicodeData] in
theorem remaining_get {openidCache jwksCache : Option Fetched} {now : ℚ}
    (h : call.get V J openidCache jwksCache now = some call') : call'.phase.remaining < call.phase.remaining := by
  unfold Call.get at h
  split at h
  · rename_i hp
    rw [hp]
    split at h
    · cases h
      simp [Phase.remaining]
    · cases h
      simp [Phase.remaining, Call.goto]
  · rename_i openid force hp
    rw [hp]
    split at h
    · rename_i f hf
      cases h
      have hlt : (searchKeys J call openid f force now).remaining ≤ if force then 1 else 4 :=
        remaining_searchKeys openid f force now
      cases force with
      | false =>
        rw [if_neg Bool.false_ne_true] at hlt
        have hbound : 4 < (Phase.getJwks openid false).remaining := by simp [Phase.remaining]
        exact hlt.trans_lt hbound
      | true => cases hf
    · cases h
      cases force <;> simp [Phase.remaining, Call.goto]
  · cases h

omit [UnicodeData] in
theorem remaining_answer {outcome : Except Exc Value} (h : call.answer outcome = some call') :
    call'.phase.remaining < call.phase.remaining := by
  unfold Call.answer at h
  split at h
  · rename_i hp
    cases h
    rw [hp]
    simp [Phase.remaining, Call.goto]
  · rename_i openid force now hp
    cases h
    rw [hp]
    cases force <;> simp [Phase.remaining, Call.goto]
  · cases h

omit [UnicodeData] in
theorem remaining_resume {c : ℕ} {clock : ℚ} {document : Option Fetched}
    (h : call.resume V J c clock = some (call', document)) : call'.phase.remaining < call.phase.remaining := by
  have hawait (openid : Fetched) (force : Bool) (now : ℚ) (r : Except Exc Value) :
      (if force then 1 else 4) < (Phase.awaitJwks openid force now (some r)).remaining := by
    cases force <;> simp [Phase.remaining]
  unfold Call.resume at h
  split at h
  · rename_i hp
    cases h
    rw [hp]
    simp [Phase.remaining, Call.goto]
  · rename_i hp
    rw [hp]
    split at h
    · cases h
      simp [Phase.remaining, Call.goto]
    · cases h
      simp [Phase.remaining, Call.goto]
  · rename_i hp
    cases h
    rw [hp]
    exact Nat.zero_lt_of_lt (hawait _ _ _ _)
  · rename_i hp
    rw [hp]
    split at h
    · cases h
      exact (remaining_searchKeys _ _ _ _).trans_lt (hawait _ _ _ _)
    · cases h
      exact Nat.zero_lt_of_lt (hawait _ _ _ _)
  · cases h

theorem remaining_decode {now : ℚ} (h : call.decode V J now = some call') :
    call'.phase.remaining < call.phase.remaining := by
  unfold Call.decode at h
  split at h
  · rename_i hp
    cases h
    rw [hp]
    simp [Phase.remaining, Call.goto]
  · cases h

/-- A step of one call brings it nearer to its end and leaves the others where they are. -/
theorem remaining_moves {c : ℕ} (hm : Moves V J s a s') (hc : s.calls c = some call) :
    ∃ call', s'.calls c = some call' ∧
      call'.phase.remaining + (if a.caller = some c then 1 else 0) ≤ call.phase.remaining := by
  have hmove {t : State} {d : ℕ} {old new : Call} (hd : s.calls d = some old)
      (hlt : new.phase.remaining < old.phase.remaining) (ht : t.calls = s.calls) :
      ∃ call', (t.setCall d new).calls c = some call' ∧
        call'.phase.remaining + (if some d = some c then 1 else 0) ≤ call.phase.remaining := by
    by_cases h : c = d
    · subst h
      cases hc.symm.trans hd
      refine ⟨new, Function.update_self _ _ _, ?_⟩
      rw [if_pos rfl]
      omega
    · refine ⟨call, (Function.update_of_ne h _ _).trans (ht ▸ hc), ?_⟩
      rw [if_neg (fun hcd ↦ h (Option.some.inj hcd).symm), Nat.add_zero]
  cases hm with
  | @start d token now hd ht =>
    have hne : c ≠ d := by
      intro h
      rw [← h, hc] at hd
      cases hd
    refine ⟨call, (Function.update_of_ne hne _ _).trans hc, ?_⟩
    show call.phase.remaining + (if some d = some c then 1 else 0) ≤ call.phase.remaining
    rw [if_neg (fun hcd ↦ hne (Option.some.inj hcd).symm), Nat.add_zero]
  | get hd ht hg => exact hmove hd (remaining_get hg) rfl
  | answer hd ha => exact hmove hd (remaining_answer ha) rfl
  | @resume d old new document hd hr =>
    have hstore : (s.store document).calls = s.calls := by
      cases document with
      | none => rfl
      | some f =>
        unfold State.store
        cases hk : f.kind <;> simp [hk]
    exact hmove hd (remaining_resume hr) hstore
  | decode hd ht hdec => exact hmove hd (remaining_decode hdec) rfl
  | rotate payload =>
    refine ⟨call.witness payload, by simp [hc], ?_⟩
    unfold Call.witness
    split
    · simp [Action.caller]
    · simp [Action.caller]

theorem step_of_moves (h : Moves V J s a s') : step V J s a = some s' := by
  cases h with
  | start hc ht => simp [step, hc, State.tick, ht]
  | get hc ht hg => simp [step, hc, State.tick, ht, hg]
  | answer hc ha => simp [step, hc, ha]
  | resume hc hr => simp [step, hc, hr]
  | decode hc ht hd => simp [step, hc, State.tick, ht, hd]
  | rotate payload => rfl

omit [UnicodeData] in
theorem get_isSome {openidCache jwksCache : Option Fetched} {now : ℚ}
    (hp : call.phase = .getOpenid ∨ ∃ openid force, call.phase = .getJwks openid force) :
    (call.get V J openidCache jwksCache now).isSome = true := by
  unfold Call.get
  rcases hp with hp | ⟨openid, force, hp⟩
  · simp only [hp]
    split
    · rfl
    · rfl
  · simp only [hp]
    split
    · rfl
    · rfl

omit [UnicodeData] in
theorem resume_isSome {c : ℕ} {clock : ℚ} {r : Except Exc Value}
    (hp : (∃ now, call.phase = .awaitOpenid now (some r)) ∨
      ∃ openid force now, call.phase = .awaitJwks openid force now (some r)) :
    (call.resume V J c clock).isSome = true := by
  unfold Call.resume
  rcases hp with ⟨now, hp⟩ | ⟨openid, force, now, hp⟩
  · cases r with
    | error e => simp only [hp, Option.isSome_some]
    | ok payload =>
      simp only [hp]
      split
      · rfl
      · rfl
  · cases r with
    | error e => simp only [hp, Option.isSome_some]
    | ok payload =>
      simp only [hp]
      split
      · rfl
      · rfl

def Provider.discovery (P : Provider J) : Dict Value :=
  [("issuer".toList, .str P.issuer), ("jwks_uri".toList, .str P.jwksUri)]

omit [UnicodeData] in
theorem openidPayload_discovery (P : Provider J) : openidPayload (.dict P.discovery) = some P.discovery := by
  have hissuer : (Row.get P.discovery "issuer".toList).truthy = !P.issuer.isEmpty := rfl
  have huri : (Row.get P.discovery "jwks_uri".toList).truthy = !P.jwksUri.isEmpty := rfl
  rw [openidPayload, hissuer, huri, List.isEmpty_eq_false_iff.mpr P.issuer_ne,
    List.isEmpty_eq_false_iff.mpr P.jwksUri_ne]
  rfl

def Provider.next (P : Provider J) (s : State) (c : ℕ) (now : ℚ) : Option Action :=
  match (s.calls c).map Call.phase with
  | some .getOpenid | some (.getJwks _ _) => some (.get c now)
  | some (.awaitOpenid _ none) => some (.answer c (.ok (.dict P.discovery)))
  | some (.awaitJwks _ _ _ none) => some (.answer c (.ok s.published))
  | some (.awaitOpenid _ (some _)) | some (.awaitJwks _ _ _ (some _)) => some (.resume c)
  | some (.decode _ _ _) => some (.decode c now)
  | some (.done _ _) | none => none

omit [UnicodeData] in
theorem answers_next {c : ℕ} {now : ℚ} (h : P.next s c now = some a) : P.Answers s a ∧ a.caller = some c := by
  have hphase {phase : Phase} (hp : (s.calls c).map Call.phase = some phase) (call : Call) (hc : s.calls c = some call) :
      call.phase = phase := by
    rw [hc] at hp
    exact Option.some.inj hp
  unfold Provider.next at h
  split at h
  · cases h
    exact ⟨trivial, rfl⟩
  · cases h
    exact ⟨trivial, rfl⟩
  · rename_i hp
    cases h
    refine ⟨fun call hc ↦ ?_, rfl⟩
    rw [hphase hp call hc]
    exact ⟨_, _, rfl, openidPayload_discovery P, openidPayload_discovery P, rfl, rfl⟩
  · rename_i hp
    cases h
    refine ⟨fun call hc ↦ ?_, rfl⟩
    rw [hphase hp call hc]
  · cases h
    exact ⟨trivial, rfl⟩
  · cases h
    exact ⟨trivial, rfl⟩
  · cases h
    exact ⟨trivial, rfl⟩
  · cases h
  · cases h

/-- A call that has not ended can go on, once its request is answered. -/
theorem exists_step {c : ℕ} (hc : s.calls c = some call) (hrun : call.ended = false) :
    ∃ a s', a.caller = some c ∧ P.Answers s a ∧ step V J s a = some s' := by
  have hnext {a : Action} (ha : P.next s c s.clock = some a) (hm : ∃ s', Moves V J s a s') :
      ∃ a s', a.caller = some c ∧ P.Answers s a ∧ step V J s a = some s' := by
    obtain ⟨hok, hcaller⟩ := answers_next ha
    obtain ⟨s', hm⟩ := hm
    exact ⟨a, s', hcaller, hok, step_of_moves hm⟩
  have hget (hp : call.phase = .getOpenid ∨ ∃ openid force, call.phase = .getJwks openid force) :
      ∃ s', Moves V J s (.get c s.clock) s' := by
    have hsome : (call.get V J s.openidCache s.jwksCache s.clock).isSome = true := get_isSome hp
    obtain ⟨call', hg⟩ := Option.isSome_iff_exists.mp hsome
    exact ⟨_, .get hc le_rfl hg⟩
  have hresume {r : Except Exc Value} (hp : (∃ now, call.phase = .awaitOpenid now (some r)) ∨
      ∃ openid force now, call.phase = .awaitJwks openid force now (some r)) : ∃ s', Moves V J s (.resume c) s' := by
    have hsome : (call.resume V J c s.clock).isSome = true := resume_isSome hp
    obtain ⟨⟨call', document⟩, hr⟩ := Option.isSome_iff_exists.mp hsome
    exact ⟨_, .resume hc hr⟩
  have hphase : (s.calls c).map Call.phase = some call.phase := by rw [hc, Option.map_some]
  cases hp : call.phase with
  | getOpenid => exact hnext (by simp only [Provider.next, hphase, hp]) (hget (.inl hp))
  | awaitOpenid now response =>
    cases response with
    | none =>
      have ha : call.answer (.ok (.dict P.discovery)) =
          some (call.goto (.awaitOpenid now (some (.ok (.dict P.discovery))))) := by simp only [Call.answer, hp]
      exact hnext (by simp only [Provider.next, hphase, hp]) ⟨_, .answer hc ha⟩
    | some r => exact hnext (by simp only [Provider.next, hphase, hp]) (hresume (.inl ⟨now, hp⟩))
  | getJwks openid force => exact hnext (by simp only [Provider.next, hphase, hp]) (hget (.inr ⟨openid, force, hp⟩))
  | awaitJwks openid force now response =>
    cases response with
    | none =>
      have ha : call.answer (.ok s.published) = some (call.goto (.awaitJwks openid force now (some (.ok s.published)))) := by
        simp only [Call.answer, hp]
      exact hnext (by simp only [Provider.next, hphase, hp]) ⟨_, .answer hc ha⟩
    | some r => exact hnext (by simp only [Provider.next, hphase, hp]) (hresume (.inr ⟨openid, force, now, hp⟩))
  | decode openid jwks keyData =>
    have hd : call.decode V J s.clock =
        some (call.goto (.done (decodeToken V J call.token keyData (J.issuer openid) s.clock) s.clock)) := by
      simp only [Call.decode, hp]
    exact hnext (by simp only [Provider.next, hphase, hp]) ⟨_, .decode hc le_rfl hd⟩
  | done result endedAt => simp [Call.ended, hp] at hrun

/-- A call whose token the cache-free verification accepts with every key set published
meanwhile returns an access token exactly when the key sets that it reads from the cache can
be searched for its key id. Every call can go on to its end, and each of its steps brings it nearer. -/
theorem verifyToken_returns_iff {s₀ : State} (h₀ : P.Starts s₀) (h : Reachable (step V J) P.Answers s₀ s) :
    (∀ c call result endedAt, s.calls c = some call → call.phase = .done result endedAt →
      (∀ payload ∈ call.published, IsToken (verifyWith V J P.issuer payload call.token endedAt)) →
      (IsToken result ↔ call.ReadsSearchable J)) ∧
    ∀ c call, s.calls c = some call →
      (call.ended = false → ∃ a s', a.caller = some c ∧ P.Answers s a ∧ step V J s a = some s') ∧
      ∀ a s', step V J s a = some s' → ∃ call', s'.calls c = some call' ∧
        call'.phase.remaining + (if a.caller = some c then 1 else 0) ≤ call.phase.remaining := by
  constructor
  · intro c call result endedAt hc hp haccept
    have hknows := ((serves_of_reachable h₀ h).calls c call hc).knows
    rw [hp] at hknows
    exact hknows haccept
  · intro c call hc
    exact ⟨exists_step hc, fun a s' hs ↦ remaining_moves (moves_of_step hs) hc⟩

end Progress

section History

variable [UnicodeData] {V : AzureEntraTokenVerifier} {J : Jwt} {P : Provider J} {s s₀ : State}

instance (result : Except Exc (Option AccessToken)) : Decidable (IsToken result) :=
  match result with
  | .ok (some a) => .isTrue ⟨a, rfl⟩
  | .ok none => .isFalse not_isToken_none
  | .error _ => .isFalse (fun ⟨_, h⟩ ↦ by cases h)

def Provider.advance (V : AzureEntraTokenVerifier) (P : Provider J) (c : ℕ) (now : ℚ) : ℕ → State → State
  | 0, s => s
  | n + 1, s => ((P.next s c now).bind (step V J s)).elim s (Provider.advance V P c now n)

theorem reachable_advance (c : ℕ) (now : ℚ) (n : ℕ) (h : Reachable (step V J) P.Answers s₀ s) :
    Reachable (step V J) P.Answers s₀ (P.advance V c now n s) := by
  induction n generalizing s with
  | zero => exact h
  | succ n ih =>
    unfold Provider.advance
    cases hn : (P.next s c now).bind (step V J s) with
    | none => exact h
    | some s' =>
      obtain ⟨a, ha, hs⟩ := Option.bind_eq_some_iff.mp hn
      exact ih (h.next (answers_next ha).1 hs)

theorem reachable_getD {a : Action} (h : Reachable (step V J) P.Answers s₀ s) (ha : P.Answers s a) :
    Reachable (step V J) P.Answers s₀ ((step V J s a).getD s) := by
  cases hs : step V J s a with
  | none => exact h
  | some s' => exact h.next ha hs

def keySet (keys : List Value) : Value := .dict [("keys".toList, .list keys)]

def jwk (kid n : Str) : Value := .dict [("kid".toList, .str kid), ("n".toList, .str n)]

omit [UnicodeData] in
theorem consistent_keySet {keys : List Value}
    (h : ∀ k kid, .dict k ∈ keys → k.lookup "kid".toList = some (.str kid) → J.fromJwk k = P.keyOf kid) :
    P.Consistent (keySet keys) := by
  intro d hd k kid hk hkid
  cases hd
  exact h k kid hk hkid

def sampleProvider : Provider sampleJwt where
  issuer := "https://issuer".toList
  jwksUri := "https://keys".toList
  keyOf kid := .ok ('n' :: kid.tail)
  issuer_ne := by decide
  jwksUri_ne := by decide

def history (old : Value) : State :=
  let _ := asciiData
  let before := sampleProvider.advance sampleVerifier 0 1 10
    ((step sampleVerifier sampleJwt (.initial 0 old) (.start 0 "token".toList 1)).getD (.initial 0 old))
  let rotated := (step sampleVerifier sampleJwt before (.rotate sampleJwks)).getD before
  sampleProvider.advance sampleVerifier 1 2 10
    ((step sampleVerifier sampleJwt rotated (.start 1 "token".toList 2)).getD rotated)

omit [UnicodeData] in
theorem reachable_history {old : Value} (hold : sampleProvider.Consistent old) :
    sampleProvider.Starts (.initial 0 old) ∧
      Reachable (@step sampleVerifier sampleJwt asciiData) sampleProvider.Answers (.initial 0 old) (history old) := by
  let _ := asciiData
  have hnew : sampleProvider.Consistent sampleJwks := by
    refine consistent_keySet (fun k kid hk hkid ↦ ?_)
    cases List.mem_singleton.mp hk
    cases hkid
    rfl
  refine ⟨⟨fun f hf ↦ (by cases hf), fun f hf ↦ (by cases hf), hold, fun c ↦ rfl⟩, ?_⟩
  refine reachable_advance 1 2 10 (reachable_getD (reachable_getD ?_ hnew) trivial)
  exact reachable_advance 0 1 10 (reachable_getD .init trivial)

/-- The call returns an access token, and the cache-free verification would do so. -/
def Call.outcome (call : Call) : Bool × Bool :=
  let _ := asciiData
  match call.phase with
  | .done result endedAt => (decide (IsToken result), call.published.all (fun payload ↦
      decide (IsToken (verifyWith sampleVerifier sampleJwt sampleProvider.issuer payload call.token endedAt))))
  | _ => (false, false)

omit [UnicodeData] in
theorem outcome_eq {call : Call} {returned : Bool} (h : call.outcome = (returned, true)) :
    ∃ result endedAt, call.phase = .done result endedAt ∧ decide (IsToken result) = returned ∧
      ∀ payload ∈ call.published, IsToken
        (@verifyWith asciiData sampleVerifier sampleJwt sampleProvider.issuer payload call.token endedAt) := by
  unfold Call.outcome at h
  dsimp only at h
  split at h
  · rename_i result endedAt hp
    obtain ⟨hresult, hall⟩ := Prod.mk.inj h
    refine ⟨result, endedAt, hp, hresult, fun payload hm ↦ ?_⟩
    exact of_decide_eq_true (List.all_eq_true.mp hall payload hm)
  · cases (Prod.mk.inj h).2

omit [UnicodeData] in
/-- The second call does not find its key in the cache and fetches it. -/
theorem verifyToken_returns_history :
    ∃ call ∈ (history (keySet [jwk "k0".toList "n0".toList])).calls 1, ∃ result endedAt,
      call.phase = .done result endedAt ∧ IsToken result ∧ call.ReadsSearchable sampleJwt := by
  have hout : ((history (keySet [jwk "k0".toList "n0".toList])).calls 1).map Call.outcome = some (true, true) := by
    decide +kernel
  obtain ⟨call, hc, hcall⟩ := Option.map_eq_some_iff.mp hout
  obtain ⟨result, endedAt, hp, htoken, haccept⟩ := outcome_eq hcall
  have hold : sampleProvider.Consistent (keySet [jwk "k0".toList "n0".toList]) := by
    refine consistent_keySet (fun k kid hk hkid ↦ ?_)
    cases List.mem_singleton.mp hk
    cases hkid
    rfl
  obtain ⟨hstarts, hreach⟩ := reachable_history hold
  have hiff := (@verifyToken_returns_iff asciiData sampleVerifier sampleJwt sampleProvider _ _ hstarts hreach).1
    1 call result endedAt hc hp haccept
  exact ⟨call, hc, result, endedAt, hp, of_decide_eq_true htoken, hiff.mp (of_decide_eq_true htoken)⟩

omit [UnicodeData] in
/-- The second call reads a key set with an entry that is no object from the cache, and ends
there, although the published key set has its key. -/
theorem verifyToken_rejects_history :
    ¬ ∀ (V : AzureEntraTokenVerifier) (J : Jwt) (P : Provider J) (s₀ s : State) (c : ℕ) (call : Call)
      (result : Except Exc (Option AccessToken)) (endedAt : ℚ), P.Starts s₀ →
      Reachable (@step V J asciiData) P.Answers s₀ s → s.calls c = some call → call.phase = .done result endedAt →
      (∀ payload ∈ call.published, IsToken (@verifyWith asciiData V J P.issuer payload call.token endedAt)) →
      IsToken result := by
  intro h
  have hout : ((history (keySet [.none])).calls 1).map Call.outcome = some (false, true) := by decide +kernel
  obtain ⟨call, hc, hcall⟩ := Option.map_eq_some_iff.mp hout
  obtain ⟨result, endedAt, hp, htoken, haccept⟩ := outcome_eq hcall
  have hold : sampleProvider.Consistent (keySet [.none]) := by
    refine consistent_keySet (fun k kid hk hkid ↦ ?_)
    cases List.mem_singleton.mp hk
  obtain ⟨hstarts, hreach⟩ := reachable_history hold
  exact of_decide_eq_false htoken (h sampleVerifier sampleJwt sampleProvider _ _ 1 call result endedAt hstarts hreach hc hp haccept)

end History

end McpSqlServer.TokenVerifier

import McpSqlServer.App
import McpSqlServer.Tools.CallTraces
import McpSqlServer.Tools.FlagControl

namespace McpSqlServer.App

open Library Library.Text Library.Python Library.Overlay
open TokenVerifier (AzureEntraTokenVerifier)

variable [UnicodeData] {P : Packages} {F : Loader} {environ : Dict Str} {auth : AuthConfig.Complete}

/-- The verifier asks for what the configuration says, and neither its tenant nor its audience
is empty. -/
structure Guards (auth : AuthConfig.Complete) (V : AzureEntraTokenVerifier) : Prop where
  tenant : V.tenantId ≠ []
  audience : V.audience ≠ []
  scopes : V.requiredScopes = some auth.azureRequiredScopes
  groupClaim : V.groupClaimName = auth.azureGroupClaimName

section Provider

omit [UnicodeData] in
theorem ne_nil_of_set {value : Option Str} (h : unset value = false) : value.getD [] ≠ [] := by
  cases value with
  | none => cases h
  | some s => exact fun hs ↦ by rw [unset, Option.all_some, show s = [] from hs] at h; cases h

omit [UnicodeData] in
theorem set_of_missing_nil (h : missingSettings auth = []) :
    unset auth.azureTenantId = false ∧ unset auth.azureClientId = false := by
  obtain ⟨ht, hc⟩ := List.append_eq_nil_iff.mp h
  refine ⟨Bool.eq_false_of_not_eq_true (fun hu ↦ ?_), Bool.eq_false_of_not_eq_true (fun hu ↦ ?_)⟩
  · rw [if_pos hu] at ht
    cases ht
  · rw [if_pos hu] at hc
    cases hc

omit [UnicodeData] in
/-- A provider is built exactly where the tools enforce authorization. -/
theorem buildAuthProvider_ok {provider : Option AzureEntraTokenVerifier} (h : buildAuthProvider P auth = .ok provider) :
    provider.isSome = authEnforced (some auth.toAuthConfig) ∧ ∀ V, provider = some V → Guards auth V := by
  have hdisabled : "disabled".toList ≠ "azure_token_verifier".toList := by decide
  rw [buildAuthProvider] at h
  split at h
  · rename_i hoff
    obtain ⟨henabled, hmode⟩ := Bool.and_eq_true_iff.mp hoff
    obtain rfl := Except.ok.inj h
    refine ⟨?_, fun V hV ↦ by cases hV⟩
    rw [authEnforced, Bool.eq_false_of_not_eq_true' henabled, of_decide_eq_true hmode, Bool.false_or,
      decide_eq_false hdisabled]
    rfl
  split at h
  · cases h
  split at h
  · rename_i hoff
    obtain rfl := Except.ok.inj h
    exact ⟨(Bool.eq_false_of_not_eq_true' hoff).symm, fun V hV ↦ by cases hV⟩
  rename_i hon
  split at h
  · cases h
  rename_i hset
  obtain ⟨⟨⟩, -, h⟩ := exists_of_bind_ok h
  obtain rfl := Except.ok.inj h
  obtain ⟨htenant, hclient⟩ := set_of_missing_nil (not_not.mp hset)
  refine ⟨?_, fun V hV ↦ ?_⟩
  · rw [authEnforced]
    exact (Bool.eq_true_of_not_eq_false (fun hf ↦ hon (by rw [hf]; rfl))).symm
  · obtain rfl := Option.some.inj hV
    refine ⟨ne_nil_of_set htenant, ?_, rfl, rfl⟩
    rw [AzureEntraTokenVerifier.audience]
    cases huri : auth.azureIdentifierUri.filter (fun s ↦ !s.isEmpty) with
    | none => exact ne_nil_of_set hclient
    | some uri =>
      have hne := (Option.filter_eq_some_iff.mp huri).2
      simpa using hne

end Provider

section Started

/-- What a start that has succeeded leaves: its configuration, and the provider built from it. -/
structure Started (P : Packages) (F : Loader) (environ : Dict Str) (state : AppState) : Prop where
  config : loadedConfig F environ = .ok state.config
  authProvider : buildAuthProvider P state.config.auth = .ok state.authProvider
  registeredTools : state.registeredTools =
    (registerSqlTools state.config.policy (listEnabledInstances (AppConfig.instanceConfigs state.config))).registered

theorem construct_ok {cfg : AppConfig} {state : AppState} (hcfg : loadedConfig F environ = .ok cfg)
    (h : construct P environ cfg = .ok state) : Started P F environ state := by
  obtain ⟨limiter, -, h⟩ := exists_of_bind_ok h
  obtain ⟨⟨⟩, -, h⟩ := exists_of_bind_ok h
  obtain ⟨⟨⟩, -, h⟩ := exists_of_bind_ok h
  obtain ⟨authProvider, hprovider, h⟩ := exists_of_bind_ok h
  obtain ⟨⟨⟩, -, h⟩ := exists_of_bind_ok h
  obtain ⟨⟨⟩, -, h⟩ := exists_of_bind_ok h
  obtain ⟨⟨⟩, -, h⟩ := exists_of_bind_ok h
  obtain rfl := Except.ok.inj h
  exact ⟨hcfg, hprovider, rfl⟩

theorem buildFastapiApp_started : Triple (fun _ ↦ True) (buildFastapiApp P F environ)
    (fun state _ ↦ Started P F environ state) (fun _ _ ↦ True) := by
  have hany {γ : Type} (m : StartM γ) : Triple (fun _ ↦ True) m (fun _ _ ↦ True) (fun _ _ ↦ True) :=
    .of_forall (fun _ _ ↦ trivial) (fun _ _ ↦ trivial)
  refine .bind (R := fun cfg _ ↦ loadedConfig F environ = .ok cfg ∧ True)
    (.ofExcept (fun _ _ h _ ↦ ⟨h, trivial⟩) (fun _ _ _ _ ↦ trivial)) (fun cfg ↦ .extract (fun hcfg ↦ ?_))
  refine .bind (hany _) (fun _ ↦ .bind (R := fun state _ ↦ Started P F environ state ∧ True) ?_ (fun state ↦ ?_))
  · refine .catching (F := fun _ _ ↦ True) (.ofExcept (fun state _ h _ ↦ ⟨construct_ok hcfg h, trivial⟩)
      (fun _ _ _ _ ↦ trivial)) (fun e ↦ ?_)
    split
    · exact .bind (hany _) (fun _ ↦ .raise (fun _ _ ↦ trivial))
    · exact .raise (fun _ _ ↦ trivial)
  · refine .extract (fun hstarted ↦ .bind (hany _) (fun _ ↦ .bind (hany _) (fun _ ↦ ?_)))
    exact .pure (fun _ _ ↦ hstarted)

end Started

section Calls

variable {β : Type} {S : Site β}

/-- Where authorization is enforced, a call without a token sends no query. -/
theorem noQuery_of_noToken (hauth : authEnforced S.auth = true) (htoken : S.token = none) (b : Binding) (o : Overrides)
    (req : Request) (w : World β) : Every (fun e ↦ e.isQuery = false) (invoke S b o req w).2 := by
  by_cases hs : req.sendsSql = true
  · intro e he
    by_contra hquery
    obtain ⟨pre, post, ht⟩ := List.append_of_mem he
    obtain ⟨actor, -, hgranted⟩ := (runRequest_gateTrace S (b.override o) w hs).gateOrder.before_query pre e post ht
      (Bool.eq_true_of_not_eq_false hquery)
    obtain ⟨authCtx, hauthorized⟩ := hgranted (.authorize req.required actor) List.mem_cons_self
    cases hcfg : S.auth with
    | none =>
      rw [hcfg] at hauth
      cases hauth
    | some cfg =>
      rw [hcfg] at hauth hauthorized
      rw [htoken] at hauthorized
      unfold authorize at hauthorized
      dsimp only at hauthorized
      rw [hauth] at hauthorized
      cases hauthorized
  · cases req with
    | latencyReport args => exact fun e he ↦ absurd he List.not_mem_nil
    | _ => exact absurd rfl hs

end Calls

section Environment

/-- The environment asks for authorization by one of the two variables that enforce it. -/
def AsksForAuth (environ : Dict Str) : Prop :=
  (∃ raw, given environ "FASTMCP_AZURE_AUTH_ENABLED".toList = some raw ∧
    parseBoolValue "FASTMCP_AZURE_AUTH_ENABLED".toList raw = .ok true) ∨
  ∃ raw, given environ "FASTMCP_AUTH_MODE".toList = some raw ∧ strip raw = "azure_token_verifier".toList

omit [UnicodeData] in
theorem environmentOr_none (environ : Dict Str) : environmentOr environ none = environ := rfl

theorem enforced_of_asked {cfg : AppConfig} (h : loadedConfig F environ = .ok cfg) (hasks : AsksForAuth environ) :
    authEnforced (some cfg.auth.toAuthConfig) = true := by
  obtain ⟨-, -, authFile, -, -, hauth, -⟩ := loadConfig_ok h
  obtain ⟨us, hus, hcopy⟩ := exists_of_map_ok hauth
  have hget := copyWith_get authSettings_apart hus authFile
  rw [hcopy, environmentOr_none] at hget
  simp only [authSettings, List.forall_mem_cons] at hget
  obtain ⟨⟨-, hmode⟩, ⟨-, henabled⟩, -⟩ := hget
  rw [authEnforced]
  rcases hasks with ⟨raw, hraw, hparse⟩ | ⟨raw, hraw, hparse⟩
  · have hvalue : cfg.auth.azureAuthEnabled = true := Except.ok.inj ((henabled raw hraw).symm.trans hparse)
    rw [hvalue, Bool.true_or]
  · have hvalue : strip raw = cfg.auth.authMode := Except.ok.inj (hmode raw hraw)
    rw [← hvalue, hparse, decide_eq_true rfl, Bool.or_true]

/-- A server that starts has a token verifier exactly where its tools enforce authorization,
always so where the environment asks for it; and then a call without a token sends no query. -/
theorem started_guarded {β : Type} {state : AppState} {log log' : List ClientEvent}
    (h : buildFastapiApp P F environ log = (.ok state, log')) :
    (AsksForAuth environ → state.authProvider.isSome = true) ∧
      state.authProvider.isSome = authEnforced (some state.config.auth.toAuthConfig) ∧
      ∀ V, state.authProvider = some V → Guards state.config.auth V ∧
        ∀ S : Site β, S.auth = some state.config.auth.toAuthConfig → S.token = none →
          ∀ b o req w, Every (fun e ↦ e.isQuery = false) (invoke S b o req w).2 := by
  have hend : Ends (fun state _ ↦ Started P F environ state) (fun _ _ ↦ True) (buildFastapiApp P F environ log) :=
    buildFastapiApp_started log trivial
  rw [h] at hend
  have hstarted : Started P F environ state := hend
  obtain ⟨henforced, hguards⟩ := buildAuthProvider_ok hstarted.authProvider
  refine ⟨fun hasks ↦ henforced.trans (enforced_of_asked hstarted.config hasks), henforced, fun V hV ↦ ?_⟩
  refine ⟨hguards V hV, fun S hauth htoken ↦ noQuery_of_noToken ?_ htoken⟩
  rw [hauth, ← henforced, hV, Option.isSome_some]

end Environment

def plainPackages : Packages where
  asyncClient _ _ _ := .ok ()
  compilePatterns _ := .ok ()
  makeParents _ := .ok ()
  redisScript _ := .ok ()
  tokenVerifier _ _ := .ok ()
  fastMcp _ := .ok ()
  mcpTools _ := .ok ()
  dashboardApp := .ok ()
  httpApp := .ok ()
  assemble := .ok ()
  aclose _ := .ok ()
  utcNow := []

def verifierEnvironment : Dict Str :=
  [("FASTMCP_CONFIG_PATH".toList, "instances.yaml".toList),
    ("FASTMCP_RATE_LIMIT_PATH".toList, "rate-limit.yaml".toList),
    ("FASTMCP_AUTH_MODE".toList, "azure_token_verifier".toList), ("FASTMCP_AZURE_TENANT_ID".toList, "t".toList),
    ("FASTMCP_AZURE_CLIENT_ID".toList, "c".toList)]

omit [UnicodeData] in
theorem started_guarded_verifier :
    let _ := asciiData
    ∃ state log, buildFastapiApp plainPackages sampleLoader verifierEnvironment [] = (.ok state, log) ∧
      ∃ V, state.authProvider = some V ∧ Guards state.config.auth V := by
  intro U
  have hok : (buildFastapiApp plainPackages sampleLoader verifierEnvironment []).1.toBool = true := by decide +kernel
  have henforced : AsksForAuth verifierEnvironment := .inr ⟨_, rfl, by decide +kernel⟩
  rcases h : buildFastapiApp plainPackages sampleLoader verifierEnvironment [] with ⟨r, log⟩
  rw [h] at hok
  cases r with
  | error e => cases hok
  | ok state =>
    obtain ⟨hprovider, -, hguards⟩ :=
      @started_guarded U plainPackages sampleLoader verifierEnvironment Unit state [] log h
    obtain ⟨V, hV⟩ := Option.isSome_iff_exists.mp (hprovider henforced)
    exact ⟨state, log, rfl, V, hV, (hguards V hV).1⟩

end McpSqlServer.App

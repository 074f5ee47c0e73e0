import McpSqlServer.ConfigLoader
import McpSqlServer.Library.Python.ParseInt
import McpSqlServer.Library.Text.Split
import McpSqlServer.Library.Text.Strip

namespace McpSqlServer

open Library.Text Library.Python Library.Overlay

section Ranges

variable [UnicodeData]

def Trimmed (s : Str) : Prop := strip s = s

def CsvItems (l : List Str) : Prop := ∀ item ∈ l, item ≠ [] ∧ Trimmed item ∧ ',' ∉ item

def Readable (n : ℤ) : Prop := (intText n.natAbs).length ≤ 4300

/-- The values that a function reads from texts that are not empty. -/
def ReadsAs {A : Type} (parse : Str → Except Exc A) (a : A) : Prop := ∃ raw, raw ≠ [] ∧ parse raw = .ok a

theorem exists_strip_iff {s : Str} : (∃ raw, raw ≠ [] ∧ strip raw = s) ↔ Trimmed s := by
  constructor
  · rintro ⟨raw, -, rfl⟩
    exact strip_strip raw
  · intro h
    by_cases hs : s = []
    · rw [hs]
      exact ⟨[' '], List.cons_ne_nil _ _, rfl⟩
    · exact ⟨s, hs, h⟩

theorem reads_stripped {name s : Str} : ReadsAs (stripped name) s ↔ Trimmed s := by
  rw [← exists_strip_iff]
  simp [ReadsAs, stripped]

theorem reads_strippedOptional {name : Str} {s : Option Str} :
    ReadsAs (strippedOptional name) s ↔ ∃ t, s = some t ∧ Trimmed t := by
  constructor
  · rintro ⟨raw, -, h⟩
    exact ⟨strip raw, (Except.ok.inj h).symm, strip_strip raw⟩
  · rintro ⟨t, rfl, ht⟩
    obtain ⟨raw, hraw, rfl⟩ := exists_strip_iff.mpr ht
    exact ⟨raw, hraw, rfl⟩

theorem csvItems_parseCsvValues (raw : Str) : CsvItems (parseCsvValues raw) := by
  intro item hitem
  obtain ⟨hmem, hne⟩ := List.mem_filter.mp hitem
  obtain ⟨w, hw, rfl⟩ := List.mem_map.mp hmem
  refine ⟨by simpa using hne, strip_strip w, fun hc ↦ ?_⟩
  exact notMem_of_mem_splitOn hw ((strip_sublist w).subset hc)

theorem parseCsvValues_intercalate {l : List Str} (h : CsvItems l) (hne : l ≠ []) :
    parseCsvValues ([','].intercalate l) = l := by
  rw [parseCsvValues, List.splitOn_intercalate _ (fun item hitem ↦ (h item hitem).2.2) hne]
  have hmap : l.map strip = l := by
    conv_rhs => rw [← List.map_id l]
    exact List.map_congr_left (fun item hitem ↦ (h item hitem).2.1)
  rw [hmap]
  refine List.filter_eq_self.mpr (fun item hitem ↦ ?_)
  simpa using (h item hitem).1

theorem reads_csvValues {name : Str} {l : List Str} : ReadsAs (csvValues name) l ↔ CsvItems l := by
  constructor
  · rintro ⟨raw, -, h⟩
    rw [← Except.ok.inj h]
    exact csvItems_parseCsvValues raw
  · intro h
    by_cases hl : l = []
    · rw [hl]
      exact ⟨[','], List.cons_ne_nil _ _, rfl⟩
    · have hparse := parseCsvValues_intercalate h hl
      refine ⟨[','].intercalate l, fun hnil ↦ hl ?_, congrArg Except.ok hparse⟩
      rw [← hparse, hnil]
      rfl

theorem reads_parseBoolValue {name : Str} (b : Bool) : ReadsAs (parseBoolValue name) b := by
  cases b with
  | true => exact ⟨"true".toList, by decide, rfl⟩
  | false => exact ⟨"false".toList, by decide, rfl⟩

theorem reads_parseIntValue (hdecimal : ∀ c, isDecimal c = true → decimalValue c ≤ 9) {name : Str} {n : ℤ} :
    ReadsAs (parseIntValue name) n ↔ Readable n := by
  constructor
  · rintro ⟨raw, -, h⟩
    rw [parseIntValue] at h
    split at h
    · rename_i m hm
      rw [← Except.ok.inj h]
      exact length_of_parseInt hdecimal hm
    · cases h
  · intro h
    refine ⟨intText n, ?_, ?_⟩
    · rw [intText_eq]
      simp [Nat.toDigits_ne_nil]
    · rw [parseIntValue, parseInt_intText h]

end Ranges

section Forcing

variable [UnicodeData]

/-- The configurations that variables can spell out in full: an absent tenant or client cannot be asked for, and a
text has no white space at its ends. -/
structure AuthConfig.Complete.Expressible (auth : AuthConfig.Complete) : Prop where
  authMode : Trimmed auth.authMode
  azureTenantId : ∃ s, auth.azureTenantId = some s ∧ Trimmed s
  azureClientId : ∃ s, auth.azureClientId = some s ∧ Trimmed s
  azureClientSecretRef : ∃ s, auth.azureClientSecretRef = some s ∧ Trimmed s
  azureRequiredScopes : CsvItems auth.azureRequiredScopes
  azureBaseUrl : ∃ s, auth.azureBaseUrl = some s ∧ Trimmed s
  azureIdentifierUri : ∃ s, auth.azureIdentifierUri = some s ∧ Trimmed s
  azureGroupClaimName : Trimmed auth.azureGroupClaimName
  azureReadGroups : CsvItems auth.azureReadGroups
  azureWriteGroups : CsvItems auth.azureWriteGroups
  poolMaxConnections : Readable auth.poolMaxConnections
  poolMaxKeepaliveConnections : Readable auth.poolMaxKeepaliveConnections
  poolTimeoutSeconds : Readable auth.poolTimeoutSeconds

theorem expressible_iff (hdecimal : ∀ c, isDecimal c = true → decimalValue c ≤ 9) {auth : AuthConfig.Complete} :
    auth.Expressible ↔ ∀ s ∈ authSettings, ReadsAs s.parse (s.field.get auth) := by
  simp only [authSettings, Setting.read, List.forall_mem_cons, reads_stripped, reads_strippedOptional,
    reads_csvValues, reads_parseBoolValue, reads_parseIntValue hdecimal, true_and]
  constructor
  · rintro ⟨h₁, h₂, h₃, h₄, h₅, h₆, h₇, h₈, h₉, h₁₀, h₁₁, h₁₂, h₁₃⟩
    exact ⟨h₁, h₂, h₃, h₄, h₅, h₆, h₇, h₈, h₉, h₁₀, h₁₁, h₁₂, h₁₃, fun s hs ↦ absurd hs List.not_mem_nil⟩
  · rintro ⟨h₁, h₂, h₃, h₄, h₅, h₆, h₇, h₈, h₉, h₁₀, h₁₁, h₁₂, h₁₃, -⟩
    exact ⟨h₁, h₂, h₃, h₄, h₅, h₆, h₇, h₈, h₉, h₁₀, h₁₁, h₁₂, h₁₃⟩

theorem authSettings_many : ∀ s ∈ authSettings, ∀ a : s.Carrier, ∃ b, b ≠ a := by
  have htext (s : Str) : ∃ t, t ≠ s := ⟨' ' :: s, List.cons_ne_self _ _⟩
  have hlist (l : List Str) : ∃ m, m ≠ l := ⟨[] :: l, List.cons_ne_self _ _⟩
  have hoption (o : Option Str) : ∃ p, p ≠ o := by
    cases o with
    | none => exact ⟨some [], Option.some_ne_none _⟩
    | some s => exact ⟨none, (Option.some_ne_none _).symm⟩
  simp only [authSettings, Setting.read, List.forall_mem_cons]
  exact ⟨htext, exists_ne, exists_ne, hoption, hoption, hoption, hlist, hoption, hoption, htext, hlist, hlist,
    exists_ne, exists_ne, exists_ne, fun s hs ↦ absurd hs List.not_mem_nil⟩

omit [UnicodeData] in
theorem environmentOr_self (env : Dict Str) : environmentOr env (some env) = env := by
  rw [environmentOr]
  split <;> simp_all

omit [UnicodeData] in
theorem environmentOr_of_ne {env : Dict Str} (h : env ≠ []) (environ : Dict Str) :
    environmentOr environ (some env) = env := if_neg h

/-- What an environment can make of every configuration. -/
theorem auth_forced_iff (hdecimal : ∀ c, isDecimal c = true → decimalValue c ≤ 9) (auth : AuthConfig.Complete) :
    (∃ env, ∀ environ base, applyAuthEnvOverrides environ base (some env) = .ok auth) ↔ auth.Expressible := by
  rw [expressible_iff hdecimal]
  constructor
  · intro ⟨env, henv⟩ s hs
    obtain ⟨us, hus, -⟩ := exists_of_map_ok (henv env auth)
    rw [environmentOr_self] at hus
    refine exists_text_of_forced authSettings_apart hus (fun base ↦ ?_) hs (authSettings_many s hs)
    have h := henv env base
    rw [applyAuthEnvOverrides, environmentOr_self, hus] at h
    exact Except.ok.inj h
  · intro h
    have htext : ∀ s : Setting AuthConfig.Complete, ∃ raw, s ∈ authSettings → raw ≠ [] ∧
        s.parse raw = .ok (s.field.get auth) := by
      intro s
      by_cases hs : s ∈ authSettings
      · exact (h s hs).imp (fun raw hraw _ ↦ hraw)
      · exact ⟨[], fun hs' ↦ absurd hs' hs⟩
    choose text htext using htext
    obtain ⟨us, hus, hforced⟩ := forced_of_texts authSettings_apart authSettings_names authSettings_covers htext
    have hne : environment authSettings text ≠ [] := List.cons_ne_nil _ _
    refine ⟨environment authSettings text, fun environ base ↦ ?_⟩
    rw [applyAuthEnvOverrides, environmentOr_of_ne hne, hus]
    exact congrArg Except.ok (hforced base)

end Forcing

def verifierSettings : AuthConfig.Complete where
  authMode := "azure_token_verifier".toList
  azureAuthEnabled := true
  azureTenantId := some "tenant".toList
  azureClientId := some "client".toList
  azureClientSecretRef := some []
  azureRequiredScopes := ["read".toList, "write".toList]
  azureBaseUrl := some []
  azureIdentifierUri := some []
  poolTimeoutSeconds := -12

theorem decimalValue_le_asciiData :
    let _ := asciiData
    ∀ c, isDecimal c = true → decimalValue c ≤ 9 := by
  intro U c hc
  rw [isDecimal] at hc
  split at hc
  · rename_i hascii
    have hr : 48 ≤ c.toNat ∧ c.toNat ≤ 57 := Char.isDigit_iff_toNat.mp hc
    rw [decimalValue, if_pos hascii]
    omega
  · cases hc

theorem auth_forced_verifier :
    let _ := asciiData
    ∃ env, ∀ environ base, applyAuthEnvOverrides environ base (some env) = .ok verifierSettings := by
  intro U
  have hnone : CsvItems [] := fun item hitem ↦ absurd hitem List.not_mem_nil
  have hscopes : CsvItems ["read".toList, "write".toList] := by
    refine List.forall_mem_cons.mpr ⟨⟨by decide, rfl, by decide⟩, ?_⟩
    exact List.forall_mem_cons.mpr ⟨⟨by decide, rfl, by decide⟩, hnone⟩
  refine (auth_forced_iff decimalValue_le_asciiData verifierSettings).mpr ?_
  exact ⟨rfl, ⟨_, rfl, rfl⟩, ⟨_, rfl, rfl⟩, ⟨_, rfl, rfl⟩, hscopes, ⟨_, rfl, rfl⟩, ⟨_, rfl, rfl⟩, rfl, hnone, hnone,
    Nat.le_of_ble_eq_true rfl, Nat.le_of_ble_eq_true rfl, Nat.le_of_ble_eq_true rfl⟩

section Composition

variable [UnicodeData] {environ environ' environ'' : Dict Str} {env env' env'' : Option (Dict Str)}

/-- Each variable has the text of the second environment, or else that of the first. -/
def Combines (first second both : Dict Str) : Prop :=
  ∀ name, given both name = (given second name).or (given first name)

/-- What the three functions do, for one environment. -/
structure Overridden (environ : Dict Str) (env : Option (Dict Str)) (cfg cfg' : AppConfig) : Prop where
  instances : applyInstanceEnvOverrides environ cfg.instances env = .ok cfg'.instances
  policy : applyPolicyEnvOverrides environ cfg.policy env = .ok cfg'.policy
  auth : applyAuthEnvOverrides environ cfg.auth env = .ok cfg'.auth
  rateLimit : cfg'.rateLimit = cfg.rateLimit

/-- Overrides after overrides are overrides, of the combined environment. -/
theorem overridden_trans {cfg cfg' cfg'' : AppConfig} (h : Overridden environ env cfg cfg')
    (h' : Overridden environ' env' cfg' cfg'')
    (hboth : Combines (environmentOr environ env) (environmentOr environ' env') (environmentOr environ'' env'')) :
    Overridden environ'' env'' cfg cfg'' := by
  obtain ⟨hinstances, hpolicy, hauth, hrate⟩ := h
  obtain ⟨hinstances', hpolicy', hauth', hrate'⟩ := h'
  refine ⟨?_, ?_, ?_, hrate'.trans hrate⟩
  · obtain ⟨us, hus, heq⟩ := exists_of_map_ok hinstances
    obtain ⟨us', hus', heq'⟩ := exists_of_map_ok hinstances'
    obtain ⟨us'', hus'', hcopy⟩ := updates_updates instanceSettings_apart hus hus' (fun s _ ↦ hboth s.name)
    rw [applyInstanceEnvOverrides, hus'', ← heq', ← heq]
    simp only [Except.map, List.map_map, Except.ok.injEq]
    exact List.map_congr_left (fun inst _ ↦ hcopy inst)
  · obtain ⟨us, hus, heq⟩ := exists_of_map_ok hpolicy
    obtain ⟨us', hus', heq'⟩ := exists_of_map_ok hpolicy'
    obtain ⟨us'', hus'', hcopy⟩ := updates_updates policySettings_apart hus hus' (fun s _ ↦ hboth s.name)
    rw [applyPolicyEnvOverrides, hus'', ← heq', ← heq]
    exact congrArg Except.ok (hcopy cfg.policy)
  · obtain ⟨us, hus, heq⟩ := exists_of_map_ok hauth
    obtain ⟨us', hus', heq'⟩ := exists_of_map_ok hauth'
    obtain ⟨us'', hus'', hcopy⟩ := updates_updates authSettings_apart hus hus' (fun s _ ↦ hboth s.name)
    rw [applyAuthEnvOverrides, hus'', ← heq', ← heq]
    exact congrArg Except.ok (hcopy cfg.auth)

end Composition

def pooledConfig (poolMax : ℤ) : AppConfig where
  instances := [{ id := "primary".toList, host := [], database := [], authSecretRef := [], poolMax }]
  policy := {}
  rateLimit := ⟨⟨1, 1⟩, ⟨1, 1⟩, {}⟩
  auth := {}

def poolMaxVariable (text : Str) : Dict Str := [("FASTMCP_SQL_POOL_MAX".toList, text)]

theorem combines_poolMaxVariable {text text' : Str} (h : text' ≠ []) :
    Combines (poolMaxVariable text) (poolMaxVariable text') (poolMaxVariable text') := by
  intro name
  rw [given, given, poolMaxVariable, poolMaxVariable, lookup_cons_eq, lookup_cons_eq]
  split
  · rw [Option.filter_some, if_pos (by simpa using h), Option.some_or]
  · rw [List.lookup_nil, Option.filter_none, Option.or_none]

theorem overridden_trans_pool :
    let _ := asciiData
    Overridden [] (some (poolMaxVariable " 3 ".toList)) (pooledConfig 20) (pooledConfig 3) := by
  intro U
  have h : Overridden [] (some (poolMaxVariable "7".toList)) (pooledConfig 20) (pooledConfig 7) := ⟨rfl, rfl, rfl, rfl⟩
  have h' : Overridden [] (some (poolMaxVariable " 3 ".toList)) (pooledConfig 7) (pooledConfig 3) :=
    ⟨rfl, rfl, rfl, rfl⟩
  exact overridden_trans h h' (combines_poolMaxVariable (by decide))

end McpSqlServer

import McpSqlServer.ConfigLoader.Overrides
import McpSqlServer.Tools.Registration

namespace McpSqlServer

open Library.Text Library.Python Library.Overlay

section Texts

theorem foldlM_copyEntries {α : Type} {entry : Value → Except Exc α} {embed : α → Value} {d done : Dict α}
    (hd : Dict.Unique (done ++ d)) (h : ∀ e ∈ d, entry (embed e.2) = .ok e.2) :
    (d.map (fun e ↦ (e.1, embed e.2))).foldlM (fun parsed e ↦ (entry e.2).map (fun a ↦ setItem e.1 a parsed)) done =
      .ok (done ++ d) := by
  induction d generalizing done with
  | nil =>
    rw [List.append_nil]
    rfl
  | cons e d ih =>
    obtain ⟨k, a⟩ := e
    obtain ⟨ha, h⟩ := List.forall_mem_cons.mp h
    have hk : k ∉ Dict.keys done := by
      rw [Dict.Unique, Dict.keys, List.map_append] at hd
      intro hk
      exact (List.nodup_append.mp hd).2.2 k hk k List.mem_cons_self rfl
    rw [← List.singleton_append, ← List.append_assoc] at hd
    rw [List.map_cons, List.foldlM_cons, ha, ← List.singleton_append, ← List.append_assoc, ← ih hd h,
      ← setItem_of_notMem hk]
    rfl

theorem copyEntries_map {α : Type} {entry : Value → Except Exc α} {embed : α → Value} {d : Dict α}
    (hd : Dict.Unique d) (h : ∀ e ∈ d, entry (embed e.2) = .ok e.2) :
    copyEntries entry (d.map (fun e ↦ (e.1, embed e.2))) = .ok d :=
  @foldlM_copyEntries _ _ _ d [] hd h

def flagsValue (flags : Dict Bool) : Value := .dict (flags.map (fun e ↦ (e.1, .bool e.2)))

def nestedFlagsValue (flags : Dict (Dict Bool)) : Value := .dict (flags.map (fun e ↦ (e.1, flagsValue e.2)))

theorem exists_dumps_dict {d : Dict Value} (h : ∀ e ∈ d, ∃ t, Json.dumps e.2 = some t) :
    ∃ t, Json.dumps (.dict d) = some t := by
  have hitems : ∃ items, Json.dumpsEntries d = some items := by
    induction d with
    | nil => exact ⟨[], rfl⟩
    | cons e d ih =>
      obtain ⟨⟨t, ht⟩, h⟩ := List.forall_mem_cons.mp h
      obtain ⟨items, hitems⟩ := ih h
      exact ⟨_, by rw [Json.dumpsEntries, ht, hitems]; rfl⟩
  obtain ⟨items, hitems⟩ := hitems
  exact ⟨_, by rw [Json.dumps, hitems]; rfl⟩

theorem wellFormed_flagsValue {flags : Dict Bool} (h : Dict.Unique flags) : Json.WellFormed (flagsValue flags) := by
  refine .dict ?_ (List.forall_mem_map.mpr (fun e _ ↦ .bool e.2))
  rw [Dict.Unique, keys_mapValues]
  exact h

theorem exists_dumps_flagsValue (flags : Dict Bool) : ∃ t, Json.dumps (flagsValue flags) = some t :=
  exists_dumps_dict (List.forall_mem_map.mpr (fun _ _ ↦ ⟨_, rfl⟩))

theorem exists_flagsText {flags : Dict (Dict Bool)} (hu : Dict.Unique flags) (h : ∀ e ∈ flags, Dict.Unique e.2) :
    ∃ text, text ≠ [] ∧ Json.Printable text ∧ ∀ name, parseNestedBoolMap name text = .ok flags := by
  have hwell : Json.WellFormed (nestedFlagsValue flags) := by
    refine .dict ?_ (List.forall_mem_map.mpr (fun e he ↦ wellFormed_flagsValue (h e he)))
    rw [Dict.Unique, keys_mapValues]
    exact hu
  obtain ⟨text, htext⟩ : ∃ t, Json.dumps (nestedFlagsValue flags) = some t :=
    exists_dumps_dict (List.forall_mem_map.mpr (fun e _ ↦ exists_dumps_flagsValue e.2))
  refine ⟨text, ?_, Json.printable_dumps hwell htext, fun name ↦ ?_⟩
  · obtain ⟨c, s, rfl, -⟩ := Json.dumps_opens htext
    exact List.cons_ne_nil c s
  · have hobject : loadsObject name text = .ok (flags.map (fun e ↦ (e.1, flagsValue e.2))) := by
      rw [loadsObject, Json.loads_dumps hwell htext]
      rfl
    rw [parseNestedBoolMap, hobject]
    exact copyEntries_map hu (fun e he ↦ copyEntries_map (h e he) (fun _ _ ↦ rfl))

end Texts

section Loading

variable [UnicodeData] {F : Loader} {environ environ' : Dict Str} {p q r : Str} {cfg : AppConfig}

theorem loadConfig_ok (h : loadConfig F environ p q r = .ok cfg) : ∃ validated policyFile authFile,
    applyInstanceEnvOverrides environ validated none = .ok cfg.instances ∧
    applyPolicyEnvOverrides environ policyFile none = .ok cfg.policy ∧
    applyAuthEnvOverrides environ authFile none = .ok cfg.auth ∧
    ∀ environ' policy, applyInstanceEnvOverrides environ' validated none = .ok cfg.instances →
      applyPolicyEnvOverrides environ' policyFile none = .ok policy →
      applyAuthEnvOverrides environ' authFile none = .ok cfg.auth →
      loadConfig F environ' p q r = .ok { cfg with policy } := by
  rw [loadConfig] at h
  obtain ⟨instancesRaw, hinstances, h⟩ := exists_of_bind_ok h
  obtain ⟨policyRaw, hpolicy, h⟩ := exists_of_bind_ok h
  obtain ⟨rateLimitRaw, hrate, h⟩ := exists_of_bind_ok h
  obtain ⟨items, hitems, h⟩ := exists_of_bind_ok h
  obtain ⟨validated, hvalid, h⟩ := exists_of_bind_ok h
  obtain ⟨instances, hover, h⟩ := exists_of_bind_ok h
  by_cases hne : instances = []
  · rw [if_pos hne] at h
    cases h
  rw [if_neg hne] at h
  obtain ⟨policyFile, hfile, h⟩ := exists_of_bind_ok h
  obtain ⟨policy, hflags, h⟩ := exists_of_bind_ok h
  obtain ⟨authFile, hauthFile, h⟩ := exists_of_bind_ok h
  obtain ⟨auth, hauth, h⟩ := exists_of_bind_ok h
  obtain ⟨rateLimit, hlimit, h⟩ := exists_of_bind_ok h
  obtain rfl := Except.ok.inj h
  refine ⟨validated, policyFile, authFile, hover, hflags, hauth, fun environ' policy' hover' hflags' hauth' ↦ ?_⟩
  rw [loadConfig, hinstances, ok_bind, hpolicy, ok_bind, hrate, ok_bind, hitems, ok_bind, hvalid, ok_bind, hover',
    ok_bind, if_neg hne, hfile, ok_bind, hflags', ok_bind, hauthFile, ok_bind, hauth', ok_bind, hlimit, ok_bind]
  rfl

def instanceFlagsVariable : Str := "FASTMCP_INSTANCE_TOOL_ENABLE_FLAGS_JSON".toList

omit [UnicodeData] in
theorem given_other {name text : Str} (h : name ≠ instanceFlagsVariable) :
    given (setItem instanceFlagsVariable text environ) name = given environ name := by
  rw [given_setItem, if_neg h]

theorem instanceSettings_other : ∀ s ∈ instanceSettings, s.name ≠ instanceFlagsVariable := by
  simp only [instanceSettings, Setting.read, List.forall_mem_cons]
  exact ⟨by decide, by decide, by decide, by decide, fun s hs ↦ absurd hs List.not_mem_nil⟩

theorem authSettings_other : ∀ s ∈ authSettings, s.name ≠ instanceFlagsVariable := by
  simp only [authSettings, Setting.read, List.forall_mem_cons]
  exact ⟨by decide, by decide, by decide, by decide, by decide, by decide, by decide, by decide, by decide, by decide,
    by decide, by decide, by decide, by decide, by decide, fun s hs ↦ absurd hs List.not_mem_nil⟩

omit [UnicodeData] in
theorem applyPolicyEnvOverrides_flags {base policy : RuntimePolicy} {text : Str} {flags : Dict (Dict Bool)}
    (h : applyPolicyEnvOverrides environ base none = .ok policy) (hne : text ≠ [])
    (hread : ∀ name, parseNestedBoolMap name text = .ok flags) :
    applyPolicyEnvOverrides (setItem instanceFlagsVariable text environ) base none =
      .ok { policy with instanceToolEnableFlags := flags } := by
  obtain ⟨us, hus, rfl⟩ := exists_of_map_ok h
  have hlast : policySettings.getLast (List.cons_ne_nil _ _) ∈ policySettings := List.getLast_mem _
  obtain ⟨us', hus', hcopy⟩ := updates_setItem policySettings_apart policySettings_names hus hlast hne
    (hread instanceFlagsVariable)
  rw [applyPolicyEnvOverrides, environmentOr]
  show (updates policySettings (setItem instanceFlagsVariable text environ)).map _ = _
  rw [show updates policySettings (setItem instanceFlagsVariable text environ) = .ok us' from hus']
  exact congrArg Except.ok (hcopy base)

end Loading

section Tools

variable {policy : RuntimePolicy} {ids : List Str} {want : Str → Str → Bool} {i t name : Str}

/-- The tools that flags decide about. -/
def gatedTools : List Str := namedTools ++ analysisTools

def flagsFor (ids : List Str) (want : Str → Str → Bool) : Dict (Dict Bool) :=
  ids.map (fun i ↦ (i, gatedTools.map (fun t ↦ (t, want i t))))

theorem keys_table {α : Type} (f : Str → α) (l : List Str) : Dict.keys (l.map (fun k ↦ (k, f k))) = l := by
  rw [Dict.keys, List.map_map]
  exact List.map_id l

theorem gatedTools_nodup : gatedTools.Nodup := by decide

theorem isToolEnabled_of_flags (hids : ids.Nodup) (h : policy.instanceToolEnableFlags = flagsFor ids want)
    (hi : i ∈ ids) (ht : t ∈ gatedTools) : isToolEnabled policy i t = want i t := by
  have hu : Dict.Unique (flagsFor ids want) := by
    rw [Dict.Unique, flagsFor, keys_table]
    exact hids
  have hinner : Dict.Unique (gatedTools.map (fun t ↦ (t, want i t))) := by
    rw [Dict.Unique, keys_table]
    exact gatedTools_nodup
  rw [isToolEnabled, h, hu.lookup_of_mem (List.mem_map_of_mem hi), Option.getD_some,
    hinner.lookup_of_mem (List.mem_map_of_mem ht)]

theorem mem_mcpTools_of_flags (hids : ids.Nodup) (h : policy.instanceToolEnableFlags = flagsFor ids want) :
    name ∈ (registerSqlTools policy ids).mcpTools ↔
      (∃ i ∈ ids, ∃ t ∈ namedTools, want i t = true ∧ toolName i t = name) ∨
        ∃ e ∈ numberByInstance ids, ∃ t, (t ∈ discoveryTools ∨ t ∈ analysisTools ∧ want e.1 t = true) ∧
          toolName (intText e.2) t = name := by
  rw [mem_mcpTools]
  refine or_congr ?_ ?_
  · refine exists_congr (fun i ↦ and_congr_right (fun hi ↦ exists_congr (fun t ↦ and_congr_right (fun ht ↦ ?_))))
    rw [isToolEnabled_of_flags hids h hi (List.mem_append_left _ ht)]
  · refine exists_congr (fun e ↦ and_congr_right (fun he ↦ exists_congr (fun t ↦ and_congr_left (fun _ ↦ ?_))))
    rw [numberedFor, List.mem_append, List.mem_filter]
    refine or_congr_right (and_congr_right (fun ht ↦ ?_))
    rw [isToolEnabled_of_flags hids h (instance_of_number he) (List.mem_append_right _ ht)]

/-- One variable decides which tools a server has, whatever its files and its other variables say: all but the four
of discovery, which every server has. Of the configuration it changes the flags of the instances and nothing else. -/
theorem flags_decide_tools [UnicodeData] {F : Loader} {environ : Dict Str} {p q r : Str} {cfg : AppConfig}
    (h : loadConfig F environ p q r = .ok cfg) (want : Str → Str → Bool) :
    ∃ text flags cfg', Json.Printable text ∧
      loadConfig F (setItem instanceFlagsVariable text environ) p q r = .ok cfg' ∧
      cfg' = { cfg with policy := { cfg.policy with instanceToolEnableFlags := flags } } ∧
      ∀ ids, ids = listEnabledInstances (cfg'.instances.map (·.toSqlInstanceConfig)) → ∀ name,
        name ∈ (registerSqlTools cfg'.policy ids).mcpTools ↔
          (∃ i ∈ ids, ∃ t ∈ namedTools, want i t = true ∧ toolName i t = name) ∨
            ∃ e ∈ numberByInstance ids, ∃ t, (t ∈ discoveryTools ∨ t ∈ analysisTools ∧ want e.1 t = true) ∧
              toolName (intText e.2) t = name := by
  obtain ⟨validated, policyFile, authFile, hinstances, hpolicy, hauth, hload⟩ := loadConfig_ok h
  have hids := listEnabledInstances_nodup (cfg.instances.map (·.toSqlInstanceConfig))
  have hflags : Dict.Unique (flagsFor (listEnabledInstances (cfg.instances.map (·.toSqlInstanceConfig))) want) := by
    rw [Dict.Unique, flagsFor, keys_table]
    exact hids
  have hinner : ∀ e ∈ flagsFor (listEnabledInstances (cfg.instances.map (·.toSqlInstanceConfig))) want,
      Dict.Unique e.2 := by
    refine List.forall_mem_map.mpr (fun i _ ↦ ?_)
    rw [Dict.Unique, keys_table]
    exact gatedTools_nodup
  obtain ⟨text, hne, hprintable, hread⟩ := exists_flagsText hflags hinner
  refine ⟨text, _, _, hprintable, hload _ _ ?_ (applyPolicyEnvOverrides_flags hpolicy hne hread) ?_, rfl, ?_⟩
  · rw [applyInstanceEnvOverrides, environmentOr] at hinstances ⊢
    rw [updates_congr (fun s hs ↦ given_other (instanceSettings_other s hs))]
    exact hinstances
  · rw [applyAuthEnvOverrides, environmentOr] at hauth ⊢
    rw [updates_congr (fun s hs ↦ given_other (authSettings_other s hs))]
    exact hauth
  · rintro ids rfl name
    exact mem_mcpTools_of_flags hids rfl

end Tools

def sampleLoader : Loader where
  safeLoad path :=
    if path = "instances.yaml".toList then .ok (.dict [("instances".toList, .list [.dict [("id".toList,
      .str "primary".toList)]])])
    else if path = "rate-limit.yaml".toList then .ok (.dict [("global".toList, .int 1)])
    else .ok .none
  pathText := id
  items _ := .ok []
  sqlInstanceConfig _ := .ok { id := "primary".toList, host := [], database := [], authSecretRef := [] }
  runtimePolicy _ := .ok {}
  authConfig _ := .ok {}
  rateLimitConfig _ := .ok ⟨⟨1, 1⟩, ⟨1, 1⟩, {}⟩

theorem flags_decide_tools_sample :
    let _ := asciiData
    ∃ text cfg', Json.Printable text ∧
      loadConfig sampleLoader (setItem instanceFlagsVariable text []) "instances.yaml".toList "policy.yaml".toList
        "rate-limit.yaml".toList = .ok cfg' ∧ cfg'.rateLimit = (pooledConfig 20).rateLimit ∧
      toolName "primary".toList "select".toList ∉ (registerSqlTools cfg'.policy
        (listEnabledInstances (cfg'.instances.map (·.toSqlInstanceConfig)))).mcpTools := by
  intro U
  have h : loadConfig sampleLoader [] "instances.yaml".toList "policy.yaml".toList "rate-limit.yaml".toList =
      .ok (pooledConfig 20) := rfl
  obtain ⟨text, flags, cfg', hprintable, hload, hcfg, hmem⟩ := flags_decide_tools h (fun _ _ ↦ false)
  refine ⟨text, cfg', hprintable, hload, by rw [hcfg], fun hname ↦ ?_⟩
  rcases (hmem _ rfl _).mp hname with ⟨i, -, t, -, hfalse, -⟩ | ⟨e, -, t, ht, hname⟩
  · cases hfalse
  · have ht : t ∈ discoveryTools := ht.resolve_right (fun h ↦ Bool.false_ne_true h.2)
    have h9 := nine_notMem_numbered (List.mem_append_left analysisTools ht)
    obtain ⟨-, rfl⟩ := toolName_inj h9 (by decide) hname
    exact absurd ht (by decide)

end McpSqlServer

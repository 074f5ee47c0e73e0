import McpSqlServer.Library.Python.Dict
import McpSqlServer.Library.Python.IntText
import McpSqlServer.Library.Text.Split
import McpSqlServer.Models
import Mathlib.Data.List.ProdSigma

namespace McpSqlServer

open Library.Text Library.Python

def isToolEnabled (policy : RuntimePolicy) (instanceId toolname : Str) : Bool :=
  let perInstance := (policy.instanceToolEnableFlags.lookup instanceId).getD []
  match perInstance.lookup toolname with
  | some enabled => enabled
  | none => (policy.toolEnableFlags.lookup toolname).getD true

structure ToolSpec where
  instanceId : Str
  toolname : Str

/-- `f"db_{owner}_sql2019_{toolname}"`, of an instance id or of an instance number. -/
def toolName (owner toolname : Str) : Str := "db_".toList ++ owner ++ "_sql2019_".toList ++ toolname

def ToolSpec.fullName (spec : ToolSpec) : Str := toolName spec.instanceId spec.toolname

def namedTools : List Str :=
  ["select".toList, "exec_proc".toList, "latency_report".toList, "block_report".toList, "top_queries_report".toList,
    "active_sessions_report".toList, "index_health_report".toList]

def analysisTools : List Str :=
  ["analyze_tab_health".toList, "analyze_db_data_model".toList, "analyze_sec_config".toList,
    "sessions_dashboard".toList, "top_statements".toList]

/-- The tools that the second loop defines without a look at the flags. -/
def discoveryTools : List Str := ["ping".toList, "list_tools".toList, "list_object".toList, "execute_query".toList]

def generateToolSpecs (enabledInstances : List Str) : List ToolSpec :=
  enabledInstances.flatMap (fun instanceId ↦ (namedTools ++ analysisTools).map (fun toolname ↦ ⟨instanceId, toolname⟩))

/-- The names given to `mcp.tool`, and the list that `register_sql_tools` returns. -/
structure Registration where
  mcpTools : List Str := []
  registered : List Str := []

def Registration.mcpTool (r : Registration) (name : Str) : Registration := { r with mcpTools := r.mcpTools ++ [name] }

def Registration.append (r : Registration) (name : Str) : Registration := { r with registered := r.registered ++ [name] }

def registerSpec (policy : RuntimePolicy) (r : Registration) (spec : ToolSpec) : Registration :=
  if !isToolEnabled policy spec.instanceId spec.toolname then r
  else if spec.toolname ∈ namedTools then (r.mcpTool spec.fullName).append spec.fullName
  else r.append spec.fullName

def registerDiscovery (number : Str) (r : Registration) (toolname : Str) : Registration :=
  (r.mcpTool (toolName number toolname)).append (toolName number toolname)

def registerAnalysis (policy : RuntimePolicy) (instanceId number : Str) (r : Registration) (toolname : Str) :
    Registration :=
  if isToolEnabled policy instanceId toolname then
    (r.mcpTool (toolName number toolname)).append (toolName number toolname)
  else r

def registerNumbered (policy : RuntimePolicy) (r : Registration) (entry : Str × ℕ) : Registration :=
  let number := intText entry.2
  analysisTools.foldl (registerAnalysis policy entry.1 number) (discoveryTools.foldl (registerDiscovery number) r)

def numberByInstance (instanceIds : List Str) : List (Str × ℕ) := instanceIds.zipIdx 1

def registerSqlTools (policy : RuntimePolicy) (instanceIds : List Str) : Registration :=
  (numberByInstance instanceIds).foldl (registerNumbered policy)
    ((generateToolSpecs instanceIds).foldl (registerSpec policy) {})

def listEnabledInstances (instances : List SqlInstanceConfig) : List Str :=
  Dict.keys ((instances.filter SqlInstanceConfig.enabled).foldl (fun d item ↦ setItem item.id item d) [])

/-- One list of tools: what is returned is what is registered, each name once, and the flags
of an instance decide over each of its tools. -/
structure OneToolList (policy : RuntimePolicy) (instanceIds : List Str) : Prop where
  nodup : (registerSqlTools policy instanceIds).registered.Nodup
  same : ∀ name, name ∈ (registerSqlTools policy instanceIds).registered ↔
    name ∈ (registerSqlTools policy instanceIds).mcpTools
  named : ∀ i ∈ instanceIds, ∀ t ∈ namedTools,
    toolName i t ∈ (registerSqlTools policy instanceIds).mcpTools ↔ isToolEnabled policy i t = true
  numbered : ∀ entry ∈ numberByInstance instanceIds, ∀ t ∈ discoveryTools ++ analysisTools,
    toolName (intText entry.2) t ∈ (registerSqlTools policy instanceIds).mcpTools ↔
      isToolEnabled policy entry.1 t = true

section Names

variable {o o' t t' : Str}

theorem nine_notMem_of_mem_tools : ∀ t ∈ namedTools ++ analysisTools ++ discoveryTools, '9' ∉ t := by decide

theorem toolName_inj (ht : '9' ∉ t) (ht' : '9' ∉ t') (h : toolName o t = toolName o' t') : o = o' ∧ t = t' := by
  have hsplit (o t : Str) : toolName o t = ("db_".toList ++ o ++ "_sql201".toList) ++ '9' :: ('_' :: t) := by
    simp [toolName]
  rw [hsplit, hsplit] at h
  obtain ⟨ho, ht⟩ := append_sep_inj (by simpa using ht) (by simpa using ht') h
  rw [List.append_cancel_right_eq, List.append_cancel_left_eq] at ho
  exact ⟨ho, (List.cons.inj ht).2⟩

theorem nodup_toolNames {α : Type} {entries : List α} {owner : α → Str} {tools : α → List Str}
    (ho : (entries.map owner).Nodup) (ht : ∀ e, (tools e).Nodup) (h9 : ∀ e, ∀ t ∈ tools e, '9' ∉ t) :
    (entries.flatMap (fun e ↦ (tools e).map (toolName (owner e)))).Nodup := by
  refine List.nodup_flatMap.mpr ⟨fun e _ ↦ ?_, ?_⟩
  · apply (ht e).map_on
    intro t htm t' htm' h
    exact (toolName_inj (h9 e t htm) (h9 e t' htm') h).2
  · refine (List.pairwise_map.mp ho).imp (fun {e e'} hne ↦ List.disjoint_left.mpr (fun name hn hn' ↦ ?_))
    obtain ⟨t, htm, rfl⟩ := List.mem_map.mp hn
    obtain ⟨t', htm', h⟩ := List.mem_map.mp hn'
    exact hne (toolName_inj (h9 e' t' htm') (h9 e t htm) h).1.symm

end Names

section Loops

variable {policy : RuntimePolicy} {instanceIds : List Str} {i name : Str} {r : Registration}

theorem foldl_registerSpec (tools : List Str) (r : Registration) :
    (tools.map (ToolSpec.mk i)).foldl (registerSpec policy) r =
      ⟨r.mcpTools ++ (tools.filter (fun t ↦ isToolEnabled policy i t && t ∈ namedTools)).map (toolName i),
        r.registered ++ (tools.filter (isToolEnabled policy i)).map (toolName i)⟩ := by
  induction tools generalizing r with
  | nil => simp
  | cons t tools ih =>
    rw [List.map_cons, List.foldl_cons, ih, registerSpec]
    cases he : isToolEnabled policy i t with
    | false => simp [he]
    | true =>
      by_cases hn : t ∈ namedTools
      · simp [he, hn, Registration.mcpTool, Registration.append, ToolSpec.fullName]
      · simp [he, hn, Registration.append, ToolSpec.fullName]

theorem foldl_specs (instanceIds : List Str) (r : Registration) :
    (generateToolSpecs instanceIds).foldl (registerSpec policy) r =
      ⟨r.mcpTools ++ instanceIds.flatMap (fun i ↦ ((namedTools ++ analysisTools).filter
          (fun t ↦ isToolEnabled policy i t && t ∈ namedTools)).map (toolName i)),
        r.registered ++ instanceIds.flatMap (fun i ↦
          ((namedTools ++ analysisTools).filter (isToolEnabled policy i)).map (toolName i))⟩ := by
  induction instanceIds generalizing r with
  | nil => simp [generateToolSpecs]
  | cons i ids ih =>
    rw [generateToolSpecs, List.flatMap_cons, List.foldl_append, foldl_registerSpec]
    have ih := ih ⟨r.mcpTools ++ ((namedTools ++ analysisTools).filter
      (fun t ↦ isToolEnabled policy i t && t ∈ namedTools)).map (toolName i),
      r.registered ++ ((namedTools ++ analysisTools).filter (isToolEnabled policy i)).map (toolName i)⟩
    rw [generateToolSpecs] at ih
    rw [ih, List.flatMap_cons, List.flatMap_cons, List.append_assoc, List.append_assoc]

theorem foldl_registerDiscovery (number : Str) (tools : List Str) (r : Registration) :
    tools.foldl (registerDiscovery number) r =
      ⟨r.mcpTools ++ tools.map (toolName number), r.registered ++ tools.map (toolName number)⟩ := by
  induction tools generalizing r with
  | nil => simp
  | cons t tools ih =>
    rw [List.foldl_cons, ih]
    simp [registerDiscovery, Registration.mcpTool, Registration.append]

theorem foldl_registerAnalysis (number : Str) (tools : List Str) (r : Registration) :
    tools.foldl (registerAnalysis policy i number) r =
      ⟨r.mcpTools ++ (tools.filter (isToolEnabled policy i)).map (toolName number),
        r.registered ++ (tools.filter (isToolEnabled policy i)).map (toolName number)⟩ := by
  induction tools generalizing r with
  | nil => simp
  | cons t tools ih =>
    rw [List.foldl_cons, ih, registerAnalysis]
    cases he : isToolEnabled policy i t with
    | false => simp [he]
    | true => simp [he, Registration.mcpTool, Registration.append]

def numberedFor (policy : RuntimePolicy) (entry : Str × ℕ) : List Str :=
  discoveryTools ++ analysisTools.filter (isToolEnabled policy entry.1)

theorem foldl_registerNumbered (entries : List (Str × ℕ)) (r : Registration) :
    entries.foldl (registerNumbered policy) r =
      ⟨r.mcpTools ++ entries.flatMap (fun e ↦ (numberedFor policy e).map (toolName (intText e.2))),
        r.registered ++ entries.flatMap (fun e ↦ (numberedFor policy e).map (toolName (intText e.2)))⟩ := by
  induction entries generalizing r with
  | nil => simp
  | cons e entries ih =>
    rw [List.foldl_cons, ih, registerNumbered, foldl_registerDiscovery, foldl_registerAnalysis]
    simp [numberedFor]

theorem mem_mcpTools : name ∈ (registerSqlTools policy instanceIds).mcpTools ↔
    (∃ i ∈ instanceIds, ∃ t ∈ namedTools, isToolEnabled policy i t = true ∧ toolName i t = name) ∨
      ∃ e ∈ numberByInstance instanceIds, ∃ t ∈ numberedFor policy e, toolName (intText e.2) t = name := by
  rw [registerSqlTools, foldl_registerNumbered, foldl_specs]
  simp only [List.nil_append, List.mem_append, List.mem_flatMap, List.mem_map, List.mem_filter, Bool.and_eq_true,
    decide_eq_true_eq]
  refine or_congr_left (exists_congr (fun i ↦ and_congr_right (fun _ ↦ exists_congr (fun t ↦ ?_))))
  constructor
  · rintro ⟨⟨-, he, hn⟩, h⟩
    exact ⟨hn, he, h⟩
  · rintro ⟨hn, he, h⟩
    exact ⟨⟨.inl hn, he, hn⟩, h⟩

theorem registered_eq : (registerSqlTools policy instanceIds).registered =
    instanceIds.flatMap (fun i ↦
      ((namedTools ++ analysisTools).filter (isToolEnabled policy i)).map (toolName i)) ++
    (numberByInstance instanceIds).flatMap (fun e ↦ (numberedFor policy e).map (toolName (intText e.2))) := by
  rw [registerSqlTools, foldl_registerNumbered, foldl_specs]
  rfl

end Loops

section Numbers

variable {instanceIds : List Str} {i j : Str} {n : ℕ}

theorem exists_number (h : i ∈ instanceIds) : ∃ n, (i, n) ∈ numberByInstance instanceIds := by
  obtain ⟨k, hk⟩ := List.mem_iff_getElem?.mp h
  refine ⟨k + 1, ?_⟩
  rw [numberByInstance, List.mk_mem_zipIdx_iff_le_and_getElem?_sub]
  exact ⟨by omega, by simpa using hk⟩

theorem instance_of_number (h : (i, n) ∈ numberByInstance instanceIds) : i ∈ instanceIds := by
  rw [numberByInstance, List.mk_mem_zipIdx_iff_le_and_getElem?_sub] at h
  exact List.mem_of_getElem? h.2

theorem number_inj (h : (i, n) ∈ numberByInstance instanceIds) (h' : (j, n) ∈ numberByInstance instanceIds) : i = j := by
  rw [numberByInstance, List.mk_mem_zipIdx_iff_le_and_getElem?_sub] at h h'
  exact Option.some.inj (h.2.symm.trans h'.2)

theorem numbers_nodup (instanceIds : List Str) :
    ((numberByInstance instanceIds).map (fun e ↦ intText e.2)).Nodup := by
  have hsnd : ((numberByInstance instanceIds).map Prod.snd).Nodup := by
    rw [numberByInstance, List.zipIdx_map_snd]
    exact List.nodup_range' 1
  have h := hsnd.map (f := fun n : ℕ ↦ intText n) (fun m n hmn ↦ intText_inj hmn)
  rwa [List.map_map] at h

theorem listEnabledInstances_nodup (instances : List SqlInstanceConfig) : (listEnabledInstances instances).Nodup := by
  have hfold : ∀ (items : List SqlInstanceConfig) (d : Dict SqlInstanceConfig), Dict.Unique d →
      Dict.Unique (items.foldl (fun d item ↦ setItem item.id item d) d) := by
    intro items
    induction items with
    | nil => exact fun d hd ↦ hd
    | cons item items ih => exact fun d hd ↦ ih _ (hd.setItem item.id item)
  exact hfold _ [] List.nodup_nil

end Numbers

section Flags

variable {policy : RuntimePolicy} {instanceIds : List Str} {i t : Str} {e : Str × ℕ}

theorem named_notMem_numbered : ∀ t ∈ namedTools, t ∉ discoveryTools ++ analysisTools := by decide

theorem analysis_notMem_discovery : ∀ t ∈ analysisTools, t ∉ discoveryTools := by decide

theorem nine_notMem_named (h : t ∈ namedTools ++ analysisTools) : '9' ∉ t :=
  nine_notMem_of_mem_tools t (List.mem_append_left _ h)

theorem nine_notMem_numbered (h : t ∈ discoveryTools ++ analysisTools) : '9' ∉ t := by
  apply nine_notMem_of_mem_tools
  rcases List.mem_append.mp h with h | h
  · exact List.mem_append_right _ h
  · exact List.mem_append_left _ (List.mem_append_right _ h)

theorem numberedFor_subset (h : t ∈ numberedFor policy e) : t ∈ discoveryTools ++ analysisTools := by
  rcases List.mem_append.mp h with h | h
  · exact List.mem_append_left _ h
  · exact List.mem_append_right _ (List.mem_of_mem_filter h)

theorem named_mem_mcpTools (hi : i ∈ instanceIds) (ht : t ∈ namedTools) :
    toolName i t ∈ (registerSqlTools policy instanceIds).mcpTools ↔ isToolEnabled policy i t = true := by
  have h9 := nine_notMem_named (List.mem_append_left _ ht)
  rw [mem_mcpTools]
  constructor
  · rintro (⟨j, -, u, hu, he, h⟩ | ⟨e, -, u, hu, h⟩)
    · obtain ⟨rfl, rfl⟩ := toolName_inj (nine_notMem_named (List.mem_append_left _ hu)) h9 h
      exact he
    · obtain ⟨-, rfl⟩ := toolName_inj (nine_notMem_numbered (numberedFor_subset hu)) h9 h
      exact absurd (numberedFor_subset hu) (named_notMem_numbered u ht)
  · intro he
    exact .inl ⟨i, hi, t, ht, he, rfl⟩

theorem numbered_mem_mcpTools (he : e ∈ numberByInstance instanceIds) (ht : t ∈ discoveryTools ++ analysisTools) :
    toolName (intText e.2) t ∈ (registerSqlTools policy instanceIds).mcpTools ↔ t ∈ numberedFor policy e := by
  have h9 := nine_notMem_numbered ht
  rw [mem_mcpTools]
  constructor
  · rintro (⟨j, -, u, hu, -, h⟩ | ⟨d, hd, u, hu, h⟩)
    · obtain ⟨-, rfl⟩ := toolName_inj (nine_notMem_named (List.mem_append_left _ hu)) h9 h
      exact absurd ht (named_notMem_numbered u hu)
    · obtain ⟨hn, rfl⟩ := toolName_inj (nine_notMem_numbered (numberedFor_subset hu)) h9 h
      obtain ⟨j, n⟩ := d
      obtain ⟨i, m⟩ := e
      obtain rfl : n = m := intText_inj hn
      rwa [number_inj hd he] at hu
  · intro hu
    exact .inr ⟨e, he, t, hu, rfl⟩

theorem analysis_disabled_of_oneToolList (h : OneToolList policy instanceIds) (hi : i ∈ instanceIds)
    (ht : t ∈ analysisTools) : isToolEnabled policy i t = false := by
  by_contra he
  rw [Bool.not_eq_false] at he
  have h9 := nine_notMem_named (List.mem_append_right _ ht)
  have hfirst : toolName i t ∈ instanceIds.flatMap (fun i ↦
      ((namedTools ++ analysisTools).filter (isToolEnabled policy i)).map (toolName i)) := by
    refine List.mem_flatMap.mpr ⟨i, hi, List.mem_map_of_mem ?_⟩
    exact List.mem_filter.mpr ⟨List.mem_append_right _ ht, he⟩
  have hmcp : toolName i t ∈ (registerSqlTools policy instanceIds).mcpTools := by
    rw [← h.same, registered_eq]
    exact List.mem_append_left _ hfirst
  rcases mem_mcpTools.mp hmcp with ⟨j, -, u, hu, -, hname⟩ | ⟨e, hen, u, hu, hname⟩
  · obtain ⟨-, rfl⟩ := toolName_inj (nine_notMem_named (List.mem_append_left _ hu)) h9 hname
    exact named_notMem_numbered u hu (List.mem_append_right _ ht)
  · have hnodup := h.nodup
    rw [registered_eq] at hnodup
    refine (List.nodup_append.mp hnodup).2.2 _ hfirst (toolName i t) ?_ rfl
    rw [← hname]
    exact List.mem_flatMap.mpr ⟨e, hen, List.mem_map_of_mem hu⟩

theorem discovery_enabled_of_oneToolList (h : OneToolList policy instanceIds) (hi : i ∈ instanceIds)
    (ht : t ∈ discoveryTools) : isToolEnabled policy i t = true := by
  obtain ⟨n, hn⟩ := exists_number hi
  have hd := List.mem_append_left analysisTools ht
  rw [← h.numbered _ hn t hd, numbered_mem_mcpTools hn hd]
  exact List.mem_append_left _ ht

theorem numberedNames_nodup (policy : RuntimePolicy) (instanceIds : List Str) :
    ((numberByInstance instanceIds).flatMap
      (fun e ↦ (numberedFor policy e).map (toolName (intText e.2)))).Nodup := by
  apply nodup_toolNames (numbers_nodup instanceIds)
  · intro e
    refine List.nodup_append.mpr ⟨by decide, List.Nodup.filter _ (by decide), ?_⟩
    rintro t ht u hu rfl
    exact analysis_notMem_discovery t (List.mem_of_mem_filter hu) ht
  · intro e t ht
    exact nine_notMem_numbered (numberedFor_subset ht)

theorem namedNames_nodup (policy : RuntimePolicy) (hi : instanceIds.Nodup) :
    (instanceIds.flatMap (fun i ↦ (namedTools.filter (isToolEnabled policy i)).map (toolName i))).Nodup := by
  refine @nodup_toolNames _ _ id _ ?_ ?_ ?_
  · rwa [List.map_id]
  · intro i
    exact List.Nodup.filter _ (by decide)
  · intro i t ht
    exact nine_notMem_named (List.mem_append_left _ (List.mem_of_mem_filter ht))

theorem oneToolList_of_flags (hi : instanceIds.Nodup)
    (ha : ∀ i ∈ instanceIds, ∀ t ∈ analysisTools, isToolEnabled policy i t = false)
    (hd : ∀ i ∈ instanceIds, ∀ t ∈ discoveryTools, isToolEnabled policy i t = true) :
    OneToolList policy instanceIds := by
  have hnames : instanceIds.flatMap (fun i ↦
      ((namedTools ++ analysisTools).filter (isToolEnabled policy i)).map (toolName i)) =
      instanceIds.flatMap (fun i ↦ (namedTools.filter (isToolEnabled policy i)).map (toolName i)) := by
    refine List.flatMap_congr (fun i hi ↦ ?_)
    have hnone : analysisTools.filter (isToolEnabled policy i) = [] := by
      apply List.filter_eq_nil_iff.mpr
      intro t ht
      simp [ha i hi t ht]
    rw [List.filter_append, hnone, List.append_nil]
  refine ⟨?_, fun name ↦ ?_, fun i hi t ht ↦ named_mem_mcpTools hi ht, fun e he t ht ↦ ?_⟩
  · rw [registered_eq, hnames]
    refine List.nodup_append.mpr ⟨namedNames_nodup policy hi, numberedNames_nodup policy instanceIds, ?_⟩
    rintro name hn name' hn' rfl
    obtain ⟨i, -, hn⟩ := List.mem_flatMap.mp hn
    obtain ⟨t, ht, rfl⟩ := List.mem_map.mp hn
    obtain ⟨e, -, hn'⟩ := List.mem_flatMap.mp hn'
    obtain ⟨u, hu, hname⟩ := List.mem_map.mp hn'
    have ht := List.mem_of_mem_filter ht
    have h9 := nine_notMem_named (List.mem_append_left _ ht)
    obtain ⟨-, rfl⟩ := toolName_inj (nine_notMem_numbered (numberedFor_subset hu)) h9 hname
    exact named_notMem_numbered u ht (numberedFor_subset hu)
  · rw [registered_eq, hnames, mem_mcpTools, List.mem_append]
    simp only [List.mem_flatMap, List.mem_map, List.mem_filter, and_assoc]
  · rw [numbered_mem_mcpTools he ht]
    have hi := instance_of_number he
    rcases List.mem_append.mp ht with hdt | hat
    · exact iff_of_true (List.mem_append_left _ hdt) (hd e.1 hi t hdt)
    · have hfalse := ha e.1 hi t hat
      apply iff_of_false
      · intro hn
        rcases List.mem_append.mp hn with hn | hn
        · exact analysis_notMem_discovery t hat hn
        · rw [List.mem_filter, hfalse] at hn
          cases hn.2
      · simp [hfalse]

/-- The first loop appends the names of five tools that it does not register, and the second
one registers four tools whatever the flags say. -/
theorem oneToolList_iff (policy : RuntimePolicy) (instances : List SqlInstanceConfig) :
    OneToolList policy (listEnabledInstances instances) ↔ ∀ i ∈ listEnabledInstances instances,
      (∀ t ∈ analysisTools, isToolEnabled policy i t = false) ∧
        (∀ t ∈ discoveryTools, isToolEnabled policy i t = true) := by
  constructor
  · intro h i hi
    exact ⟨fun t ht ↦ analysis_disabled_of_oneToolList h hi ht, fun t ht ↦ discovery_enabled_of_oneToolList h hi ht⟩
  · intro h
    have hnodup := listEnabledInstances_nodup instances
    exact oneToolList_of_flags hnodup (fun i hi ↦ (h i hi).1) (fun i hi ↦ (h i hi).2)

end Flags

def primaryOnly : List SqlInstanceConfig :=
  [{ id := "primary".toList, host := [], database := [], authSecretRef := [] }]

/-- With every tool enabled a name is returned that nobody can call, and a disabled tool is still called. -/
theorem registered_phantom :
    toolName "primary".toList "top_statements".toList ∈
      (registerSqlTools {} (listEnabledInstances primaryOnly)).registered ∧
    toolName "primary".toList "top_statements".toList ∉
      (registerSqlTools {} (listEnabledInstances primaryOnly)).mcpTools ∧
    isToolEnabled { toolEnableFlags := [("execute_query".toList, false)] } "primary".toList
      "execute_query".toList = false ∧
    toolName "1".toList "execute_query".toList ∈ (registerSqlTools
      { toolEnableFlags := [("execute_query".toList, false)] } (listEnabledInstances primaryOnly)).mcpTools := by
  decide +kernel

end McpSqlServer

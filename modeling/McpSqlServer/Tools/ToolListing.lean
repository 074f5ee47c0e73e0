import McpSqlServer.Tools.Registration
import McpSqlServer.Tools.ReportRefinement

namespace McpSqlServer

open Library Library.Text Library.Python

section Names

variable {owner number t : Str} {n m : ℕ}

def showsTo (number owner : Str) : Bool :=
  owner = number || (number ++ "_sql2019_".toList).isPrefixOf (owner ++ ['_'])

theorem prefix_of_append_eq {u v x y : Str} (h : u ++ ['_'] ++ x = v ++ ['_'] ++ y) (hy : '_' ∉ y) :
    u ++ ['_'] <+: v ++ ['_'] := by
  rcases List.append_eq_append_iff.mp h with ⟨z, hv, -⟩ | ⟨z, hu, hy'⟩
  · exact ⟨z, hv.symm⟩
  · cases z using List.reverseRecOn with
    | nil => exact ⟨[], by rw [hu, List.append_nil, List.append_nil]⟩
    | append_singleton z c =>
      refine absurd ?_ hy
      rw [← List.append_assoc] at hu
      have hc := (List.append_inj' hu rfl).2
      rw [hy', ← hc]
      exact List.mem_append_left _ (List.mem_append_right _ (List.mem_singleton_self _))

theorem exists_last_of_mem {c : Char} {l : Str} (h : c ∈ l) : ∃ u v, l = u ++ c :: v ∧ c ∉ v := by
  obtain ⟨v, u, hl, hv⟩ := List.eq_append_cons_of_mem (List.mem_reverse.mpr h)
  refine ⟨u.reverse, v.reverse, ?_, fun hm ↦ hv (List.mem_reverse.mp hm)⟩
  rw [← List.reverse_reverse l, hl, List.reverse_append, List.reverse_cons, List.append_assoc, List.singleton_append]

theorem toolName_append (owner t x : Str) : toolName owner t ++ x = toolName owner (t ++ x) := by
  simp only [toolName, List.append_assoc]

theorem isPrefixOf_toolName (ht : '9' ∉ t) :
    (toolName number []).isPrefixOf (toolName owner t) = showsTo number owner := by
  rw [Bool.eq_iff_iff, List.isPrefixOf_iff_prefix, showsTo, Bool.or_eq_true, decide_eq_true_iff,
    List.isPrefixOf_iff_prefix]
  constructor
  · rintro ⟨x, hx⟩
    rw [toolName_append, List.nil_append] at hx
    by_cases h9 : '9' ∈ x
    · obtain ⟨x₁, x₂, rfl, hlast⟩ := exists_last_of_mem h9
      have hsplit : ("db_".toList ++ number ++ "_sql2019_".toList ++ x₁) ++ '9' :: x₂ =
          ("db_".toList ++ owner ++ "_sql201".toList) ++ '9' :: ('_' :: t) := by
        simpa [toolName] using hx
      have hhead := (append_sep_inj hlast (by simpa using ht) hsplit).1
      have hstart : number ++ "_sql2019".toList ++ ['_'] ++ x₁ = owner ++ ['_'] ++ "sql201".toList := by
        simpa using hhead
      have hprefix := prefix_of_append_eq hstart (by decide)
      rw [List.append_assoc] at hprefix
      exact .inr hprefix
    · exact .inl (toolName_inj h9 ht hx).1.symm
  · rintro (rfl | ⟨z, hz⟩)
    · exact ⟨t, by rw [toolName_append, List.nil_append]⟩
    · refine ⟨z ++ "sql2019_".toList ++ t, ?_⟩
      have hname : toolName owner t = "db_".toList ++ (owner ++ ['_']) ++ "sql2019_".toList ++ t := by
        simp [toolName]
      rw [hname, ← hz]
      simp [toolName]

theorem showsTo_intText : showsTo (intText n) (intText m) = decide (m = n) := by
  have hs : 's' ∉ intText m ++ ['_'] := by
    rw [List.mem_append, not_or]
    exact ⟨notMem_intText (by decide) (by decide) m, by decide⟩
  rw [Bool.eq_iff_iff, showsTo, Bool.or_eq_true, decide_eq_true_iff, List.isPrefixOf_iff_prefix, decide_eq_true_iff]
  constructor
  · rintro (h | h)
    · exact intText_inj h
    · exact absurd (h.subset (List.mem_append_right _ (by decide))) hs
  · rintro rfl
    exact .inl rfl

end Names

section Registered

variable {policy : RuntimePolicy} {ids : List Str} {n : ℕ} {entry : Str × ℕ}

theorem numberByInstance_filter (he : entry ∈ numberByInstance ids) :
    (numberByInstance ids).filter (fun e ↦ decide (e.2 = entry.2)) = [entry] := by
  have hnodup : (numberByInstance ids).Nodup := (numbers_nodup ids).of_map _
  have hsame : ∀ e ∈ numberByInstance ids, decide (e.2 = entry.2) = (e == entry) := by
    rintro ⟨i, m⟩ hm
    obtain ⟨j, k⟩ := entry
    rw [Bool.eq_iff_iff, decide_eq_true_iff, beq_iff_eq, Prod.mk.injEq]
    refine ⟨fun h ↦ ?_, fun h ↦ h.2⟩
    obtain rfl : m = k := h
    exact ⟨number_inj hm he, rfl⟩
  rw [List.filter_congr hsame, List.filter_beq, List.count_eq_one_of_mem hnodup he]
  rfl

theorem filter_toolNames {number owner : Str} {tools : List Str} (h9 : ∀ t ∈ tools, '9' ∉ t) :
    (tools.map (toolName owner)).filter (fun name ↦ (toolName number []).isPrefixOf name) =
      if showsTo number owner then tools.map (toolName owner) else [] := by
  have hall : ∀ name ∈ tools.map (toolName owner),
      (toolName number []).isPrefixOf name = showsTo number owner := by
    intro name hname
    obtain ⟨t, ht, rfl⟩ := List.mem_map.mp hname
    exact isPrefixOf_toolName (h9 t ht)
  rw [List.filter_congr hall]
  cases showsTo number owner with
  | true => exact List.filter_true _
  | false => exact List.filter_false _

theorem flatMap_if {α β : Type} (p : α → Bool) (f : α → List β) (l : List α) :
    l.flatMap (fun a ↦ if p a then f a else []) = (l.filter p).flatMap f := by
  induction l with
  | nil => rfl
  | cons a l ih =>
    rw [List.flatMap_cons, ih, List.filter_cons]
    cases p a with
    | true => rw [if_pos rfl, if_pos rfl, List.flatMap_cons]
    | false => rfl

theorem registered_filter (policy : RuntimePolicy) (he : entry ∈ numberByInstance ids) :
    (registerSqlTools policy ids).registered.filter (fun name ↦ (toolName (intText entry.2) []).isPrefixOf name) =
      (ids.filter (showsTo (intText entry.2))).flatMap (fun i ↦
        ((namedTools ++ analysisTools).filter (isToolEnabled policy i)).map (toolName i)) ++
      (numberedFor policy entry).map (toolName (intText entry.2)) := by
  rw [registered_eq, List.filter_append, List.filter_flatMap, List.filter_flatMap]
  refine congrArg₂ _ ?_ ?_
  · rw [← flatMap_if]
    refine List.flatMap_congr (fun i _ ↦ filter_toolNames (fun t ht ↦ ?_))
    exact nine_notMem_named (List.mem_of_mem_filter ht)
  · have hown : ∀ e ∈ numberByInstance ids, ((numberedFor policy e).map (toolName (intText e.2))).filter
        (fun name ↦ (toolName (intText entry.2) []).isPrefixOf name) =
          if decide (e.2 = entry.2) then (numberedFor policy e).map (toolName (intText e.2)) else [] := by
      intro e _
      rw [filter_toolNames (fun t ht ↦ nine_notMem_numbered (numberedFor_subset ht)), showsTo_intText]
    rw [List.flatMap_congr hown, flatMap_if, numberByInstance_filter he, List.flatMap_singleton]

end Registered

section Listing

variable {β α : Type} [UnicodeData] {S : Site β} {ids : List Str} {b : Binding} {n : ℕ} {w : World β}

/-- What a value tells that is returned behind the gates of a tool. -/
theorem runTool_returned {p : Value → Prop} {call : ToolCall α} {body : α → Option Str → ToolM β Value}
    (plain : List ExcKind)
    (hbody : ∀ input db, Triple (fun _ ↦ True) (body input db) (fun v _ ↦ p v) (fun _ _ ↦ True)) :
    Triple (fun _ ↦ True) (runTool S call (wrapLadder S plain) body) (fun v _ ↦ p v) (fun _ _ ↦ True) := by
  have hany {γ : Type} (m : ToolM β γ) : Triple (fun _ ↦ True) m (fun _ _ ↦ True) (fun _ _ ↦ True) :=
    .of_forall (fun _ _ ↦ trivial) (fun _ _ ↦ trivial)
  have hstages : GateStages S call (fun _ ↦ True) (fun _ ↦ True) (fun _ ↦ True) (fun _ ↦ True) (fun _ ↦ True)
      (fun _ _ ↦ True) :=
    { notified := hany _, checked := fun _ _ _ _ ↦ trivial, resolved := hany _, touched := hany _,
      touched_notified := hany _, allowed := hany _, allowed_notified := hany _, guarded := hany _,
      guarded_notified := hany _, targeted := fun _ _ _ _ ↦ trivial }
  refine .bind (R := fun _ _ ↦ True) (hany _) (fun _ ↦ .ensuring (.catching (tryBlock_triple hstages
    (fun input db _ _ ↦ hbody input db) (fun v ↦ kept_triple (hany _))) (fun e ↦ ?_)) (fun v ↦ kept_triple (hany _))
    (fun e ↦ hany _))
  exact (wrapLadder_raises plain e).mono (fun _ h ↦ h) (fun _ _ h ↦ h.elim) (fun _ _ h ↦ h)

omit [UnicodeData] in
def listedNames : Value → List Str
  | .dict reply =>
    match reply.lookup "tools".toList with
    | some (.list tools) => tools.filterMap (fun
      | .dict tool =>
        match tool.lookup "name".toList with
        | some (.str name) => some name
        | _ => none
      | _ => none)
    | _ => []
  | _ => []

/-- `list_tools` names the tools that are registered under the number of its instance and, of those registered under
the id of an instance, only the ones whose id is like that number, be it this instance or another one. -/
theorem listTools_exact (hr : S.registeredTools = (registerSqlTools S.policy ids).registered)
    (he : (b.instanceId, n) ∈ numberByInstance ids) (hn : b.instanceNumber = n) (args : ActorArgs) {v : Value}
    (hv : (listTools S b args w).1 = .ok v) :
    listedNames v = (ids.filter (showsTo (intText n))).flatMap (fun i ↦
        ((namedTools ++ analysisTools).filter (isToolEnabled S.policy i)).map (toolName i)) ++
      (numberedFor S.policy (b.instanceId, n)).map (toolName (intText n)) := by
  rw [← registered_filter S.policy he, ← hr]
  have hrun : Triple (fun _ ↦ True) (listTools S b args) (fun v _ ↦ listedNames v = S.registeredTools.filter
      (fun name ↦ (toolName (intText n) []).isPrefixOf name)) (fun _ _ ↦ True) := by
    refine runTool_returned [] (fun _ _ ↦ ?_)
    refine .bind (R := fun _ _ ↦ True) (.of_forall (fun _ _ ↦ trivial) (fun _ _ ↦ trivial)) (fun info ↦ ?_)
    refine .bind (R := fun _ _ ↦ True) (.of_forall (fun _ _ ↦ trivial) (fun _ _ ↦ trivial)) (fun _ ↦ .pure ?_)
    intro w _
    have hstart : toolName (intText n) [] = "db_".toList ++ intText b.instanceNumber ++ "_sql2019_".toList := by
      rw [hn, toolName, List.append_nil]
    rw [hstart]
    exact (List.filterMap_map ..).trans List.filterMap_some
  have hend := hrun w trivial
  rcases hw : listTools S b args w with ⟨r, w'⟩
  rw [hw] at hend hv
  rw [show r = .ok v from hv] at hend
  exact hend

end Listing

/-- Two instances, of which each has the number of the other one as its id. -/
def swappedIds : List Str := [['2'], ['1']]

def swappedSite : Site Unit :=
  { openSite {} (swappedIds.map (fun i ↦ { id := i, host := [], database := [], authSecretRef := [] })) with
    registeredTools := (registerSqlTools {} swappedIds).registered }

def swappedBinding : Binding := ⟨"list_tools".toList, ['2'], 1⟩

theorem listTools_exact_swapped : let _ := asciiData
    ∃ v, (listTools swappedSite swappedBinding {} freshWorld).1 = .ok v ∧
      toolName ['1'] "select".toList ∈ listedNames v ∧ toolName ['2'] "select".toList ∉ listedNames v := by
  intro U
  obtain ⟨v, hv⟩ : ∃ v, (listTools swappedSite swappedBinding {} freshWorld).1 = .ok v := ⟨_, rfl⟩
  have hr : swappedSite.registeredTools = (registerSqlTools swappedSite.policy swappedIds).registered := rfl
  have he : (swappedBinding.instanceId, 1) ∈ numberByInstance swappedIds := by decide
  refine ⟨v, hv, ?_⟩
  rw [listTools_exact hr he rfl {} hv]
  decide +kernel

end McpSqlServer

import McpSqlServer.Library.Python.Set
import McpSqlServer.Library.Text.Split
import McpSqlServer.Security
import Mathlib.Data.List.Sort

namespace McpSqlServer

open Library.Text Library.Python

def ClaimValue.names : ClaimValue → Option (List Str)
  | .null => some []
  | .text s => some (s.splitOn ',')
  | .items l => some l
  | .other _ _ => none

def Privilege.rank : Privilege → ℕ
  | .none => 0
  | .read => 1
  | .write => 2

section UnicodeData

variable [UnicodeData] {groups groups' reads writes a a' b b' : List Str} {claim : ClaimValue} {s t w : Str}

/-- Some name of the first list that is not blank is, stripped and in lower case, one of the second. -/
def CommonGroup (a b : List Str) : Prop := ∃ g ∈ a, ∃ h ∈ b, strip g ≠ [] ∧ lower (strip g) = lower (strip h)

instance (a b : List Str) : Decidable (CommonGroup a b) := inferInstanceAs (Decidable (∃ g ∈ a, ∃ h ∈ b, _))

def grantedPrivilege (groups reads writes : List Str) : Privilege :=
  if CommonGroup groups writes then .write else if CommonGroup groups reads then .read else .none

def SameName (s t : Str) : Prop := SameLetters (strip s) (strip t)

def Covers (a b : List Str) : Prop := ∀ s ∈ a, strip s ≠ [] → ∃ t ∈ b, SameName s t

def SameNames (a b : List Str) : Prop := Covers a b ∧ Covers b a

/-- What is to hold of the privilege that a claim with these names resolves to. -/
structure ResolvesTo (claim : ClaimValue) (groups reads writes : List Str) : Prop where
  exact : ∃ found, resolveGroupPrivilege claim reads writes true = .ok (grantedPrivilege groups reads writes, found)
  represented : ∀ claim' groups' reads' writes', claim'.names = some groups' → SameNames groups groups' →
    SameNames reads reads' → SameNames writes writes' →
    resolveGroupPrivilege claim' reads' writes' true = resolveGroupPrivilege claim reads writes true
  joined : (∀ w ∈ groups, ',' ∉ w) → resolveGroupPrivilege (.text ([','].intercalate groups)) reads writes true =
    resolveGroupPrivilege (.items groups) reads writes true
  monotone : ∀ claim' groups' p found, claim'.names = some groups' → groups ⊆ groups' →
    resolveGroupPrivilege claim' reads writes true = .ok (p, found) →
    (grantedPrivilege groups reads writes).rank ≤ p.rank

section Normalised

theorem normalizeGroups_of_names (h : claim.names = some groups) :
    normalizeGroups claim = .ok (normalizeGroupNames groups) := by
  cases claim with
  | null =>
    cases h
    rfl
  | text s =>
    cases h
    rfl
  | items l =>
    cases h
    rfl
  | other b n => cases h

theorem mem_normalizeGroupNames :
    w ∈ normalizeGroupNames a ↔ ∃ s ∈ a, strip s ≠ [] ∧ lower (strip s) = w := by
  simp only [normalizeGroupNames, List.mem_map, List.mem_filter, Bool.not_eq_true', List.isEmpty_eq_false_iff]
  constructor
  · rintro ⟨v, ⟨⟨s, hs, rfl⟩, hne⟩, hw⟩
    exact ⟨s, hs, hne, hw⟩
  · rintro ⟨s, hs, hne, hw⟩
    exact ⟨strip s, ⟨⟨s, hs, rfl⟩, hne⟩, hw⟩

theorem SameName.strip_ne_nil (h : SameName s t) (hs : strip s ≠ []) : strip t ≠ [] := by
  intro ht
  rw [SameName, ht] at h
  cases hc : strip s with
  | nil => exact hs hc
  | cons c u =>
    rw [hc] at h
    cases h

theorem Covers.mem (h : Covers a b) (hw : w ∈ normalizeGroupNames a) : w ∈ normalizeGroupNames b := by
  obtain ⟨s, hs, hne, rfl⟩ := mem_normalizeGroupNames.mp hw
  obtain ⟨t, ht, hst⟩ := h s hs hne
  exact mem_normalizeGroupNames.mpr ⟨t, ht, hst.strip_ne_nil hne, (lower_congr hst).symm⟩

theorem SameNames.mem_iff (h : SameNames a b) (w : Str) : w ∈ normalizeGroupNames a ↔ w ∈ normalizeGroupNames b :=
  ⟨h.1.mem, h.2.mem⟩

omit [UnicodeData] in
theorem mem_sortedIntersection : w ∈ sortedIntersection a b ↔ w ∈ a ∧ w ∈ b := by
  rw [sortedIntersection, List.mem_mergeSort, List.mem_dedup, List.mem_filter, decide_eq_true_iff]

omit [UnicodeData] in
theorem pairwise_sortedIntersection (a b : List Str) : (sortedIntersection a b).Pairwise (· < ·) :=
  pairwise_lt_mergeSort (List.nodup_dedup _)

omit [UnicodeData] in
theorem sortedIntersection_congr (ha : ∀ w, w ∈ a ↔ w ∈ a') (hb : ∀ w, w ∈ b ↔ w ∈ b') :
    sortedIntersection a b = sortedIntersection a' b' := by
  refine List.Subset.antisymm_of_pairwise (pairwise_sortedIntersection a b) (pairwise_sortedIntersection a' b') ?_ ?_
  · intro w hw
    rw [mem_sortedIntersection, ha, hb] at hw
    exact mem_sortedIntersection.mpr hw
  · intro w hw
    rw [mem_sortedIntersection, ← ha, ← hb] at hw
    exact mem_sortedIntersection.mpr hw

theorem sortedIntersection_isEmpty_iff :
    (!(sortedIntersection (normalizeGroupNames a) (normalizeGroupNames b)).isEmpty) = true ↔ CommonGroup a b := by
  rw [Bool.not_eq_true', List.isEmpty_eq_false_iff_exists_mem]
  constructor
  · rintro ⟨w, hw⟩
    obtain ⟨ha, hb⟩ := mem_sortedIntersection.mp hw
    obtain ⟨s, hs, hne, rfl⟩ := mem_normalizeGroupNames.mp ha
    obtain ⟨t, ht, -, hlow⟩ := mem_normalizeGroupNames.mp hb
    exact ⟨s, hs, t, ht, hne, hlow.symm⟩
  · rintro ⟨s, hs, t, ht, hne, hlow⟩
    refine ⟨lower (strip s), mem_sortedIntersection.mpr ⟨mem_normalizeGroupNames.mpr ⟨s, hs, hne, rfl⟩, ?_⟩⟩
    refine mem_normalizeGroupNames.mpr ⟨t, ht, fun he ↦ hne ?_, hlow.symm⟩
    rw [he] at hlow
    exact (lower_image (strip s)).eq_nil_iff.mp hlow

end Normalised

theorem resolveGroupPrivilege_of_names (h : claim.names = some groups) (reads writes : List Str) :
    resolveGroupPrivilege claim reads writes true = .ok (grantedPrivilege groups reads writes,
      ⟨true, some (sortedIntersection (normalizeGroupNames groups) (normalizeGroupNames reads),
        sortedIntersection (normalizeGroupNames groups) (normalizeGroupNames writes))⟩) := by
  rw [resolveGroupPrivilege, normalizeGroups_of_names h]
  simp only [Bool.not_true, Bool.false_eq_true, if_false, sortedIntersection_isEmpty_iff, grantedPrivilege]

theorem CommonGroup.mono (h : CommonGroup a b) (hsub : a ⊆ a') : CommonGroup a' b := by
  obtain ⟨g, hg, v, hv, hne, heq⟩ := h
  exact ⟨g, hsub hg, v, hv, hne, heq⟩

theorem grantedPrivilege_mono (h : groups ⊆ groups') (reads writes : List Str) :
    (grantedPrivilege groups reads writes).rank ≤ (grantedPrivilege groups' reads writes).rank := by
  by_cases hwrite : CommonGroup groups writes
  · rw [grantedPrivilege, if_pos hwrite, grantedPrivilege, if_pos (hwrite.mono h)]
  · by_cases hread : CommonGroup groups reads
    · rw [grantedPrivilege, if_neg hwrite, if_pos hread, grantedPrivilege, if_pos (hread.mono h)]
      split
      · exact Nat.le_succ 1
      · exact Nat.le_refl 1
    · rw [grantedPrivilege, if_neg hwrite, if_neg hread]
      exact Nat.zero_le _

theorem SameNames.sortedIntersection_eq (ha : SameNames a a') (hb : SameNames b b') :
    sortedIntersection (normalizeGroupNames a) (normalizeGroupNames b) =
      sortedIntersection (normalizeGroupNames a') (normalizeGroupNames b') :=
  sortedIntersection_congr ha.mem_iff hb.mem_iff

theorem SameNames.commonGroup_iff (ha : SameNames a a') (hb : SameNames b b') : CommonGroup a b ↔ CommonGroup a' b' := by
  rw [← sortedIntersection_isEmpty_iff, ha.sortedIntersection_eq hb, sortedIntersection_isEmpty_iff]

theorem resolveGroupPrivilege_congr {claim' : ClaimValue} {reads' writes' : List Str} (h : claim.names = some groups)
    (h' : claim'.names = some groups') (hgroups : SameNames groups groups') (hreads : SameNames reads reads')
    (hwrites : SameNames writes writes') :
    resolveGroupPrivilege claim' reads' writes' true = resolveGroupPrivilege claim reads writes true := by
  rw [resolveGroupPrivilege_of_names h, resolveGroupPrivilege_of_names h', hgroups.sortedIntersection_eq hreads,
    hgroups.sortedIntersection_eq hwrites, grantedPrivilege, grantedPrivilege]
  simp only [hgroups.commonGroup_iff hreads, hgroups.commonGroup_iff hwrites]

theorem SameNames.refl (a : List Str) : SameNames a a := by
  have hcovers : Covers a a := fun s hs _ ↦ ⟨s, hs, List.forall₂_same.mpr (fun _ _ ↦ rfl)⟩
  exact ⟨hcovers, hcovers⟩

theorem resolveGroupPrivilege_joined (h : ∀ w ∈ groups, ',' ∉ w) :
    resolveGroupPrivilege (.text ([','].intercalate groups)) reads writes true =
      resolveGroupPrivilege (.items groups) reads writes true := by
  cases groups with
  | nil =>
    have hempty : SameNames ([] : List Str) [[]] := by
      refine ⟨fun s hs ↦ absurd hs List.not_mem_nil, fun s hs hne ↦ ?_⟩
      rw [List.mem_singleton.mp hs] at hne
      exact absurd rfl hne
    exact resolveGroupPrivilege_congr rfl rfl hempty (.refl reads) (.refl writes)
  | cons w l =>
    have hsplit : ([','].intercalate (w :: l)).splitOn ',' = w :: l :=
      List.splitOn_intercalate ',' h (List.cons_ne_nil w l)
    have hitems : (ClaimValue.items (w :: l)).names = some (w :: l) := rfl
    exact resolveGroupPrivilege_congr hitems (congrArg some hsplit) (.refl _) (.refl reads) (.refl writes)

/-- A group claim resolves to the privilege that its names earn, however it writes them. -/
theorem resolvesTo_of_names (h : claim.names = some groups) (reads writes : List Str) :
    ResolvesTo claim groups reads writes where
  exact := ⟨_, resolveGroupPrivilege_of_names h reads writes⟩
  represented _ _ _ _ h' hgroups hreads hwrites := resolveGroupPrivilege_congr h h' hgroups hreads hwrites
  joined hcomma := resolveGroupPrivilege_joined hcomma
  monotone claim' groups' p found h' hsub hp := by
    rw [resolveGroupPrivilege_of_names h', Except.ok.injEq, Prod.mk.injEq] at hp
    rw [← hp.1]
    exact grantedPrivilege_mono hsub reads writes

end UnicodeData

theorem resolvesTo_text : let _ := asciiData
    ResolvesTo (.text " Ops ,DBA".toList) [" Ops ".toList, "DBA".toList] ["ops".toList] ["dba".toList] := by
  intro U
  exact resolvesTo_of_names (by decide) _ _

end McpSqlServer

import McpSqlServer.Library.Python.Dict
import McpSqlServer.Library.Python.Exc

namespace McpSqlServer.Library.Overlay

open Text Python

/-- A field of a record, with the laws that reading and writing obey. -/
structure Field (C A : Type) where
  get : C → A
  set : A → C → C
  get_set : ∀ a c, get (set a c) = a
  set_get : ∀ c, set (get c) c = c
  set_set : ∀ a b c, set a (set b c) = set a c

def Field.Apart {A B C : Type} (f : Field C A) (g : Field C B) : Prop :=
  ∀ a b c, f.set a (g.set b c) = g.set b (f.set a c)

theorem Field.Apart.symm {A B C : Type} {f : Field C A} {g : Field C B} (h : f.Apart g) : g.Apart f :=
  fun b a c ↦ (h a b c).symm

theorem Field.Apart.get_set {A B C : Type} {f : Field C A} {g : Field C B} (h : f.Apart g) (b : B) (c : C) :
    f.get (g.set b c) = f.get c := by
  have hset : f.set (f.get c) (g.set b c) = g.set b c := by rw [h, f.set_get]
  rw [← hset, f.get_set]

/-- A variable of the environment, the field that it overrides, and how its text is read. -/
structure Setting (C : Type) where
  name : Str
  Carrier : Type
  field : Field C Carrier
  parse : Str → Except Exc Carrier

variable {C : Type} {settings : List (Setting C)} {s : Setting C} {env env' env'' : Dict Str} {us us' : List (C → C)}
  {c c' : C}

/-- The text of a variable; an empty one counts as absent. -/
def given (env : Dict Str) (name : Str) : Option Str := (env.lookup name).filter (fun raw ↦ !raw.isEmpty)

def Setting.update (s : Setting C) (env : Dict Str) : Option (Except Exc (C → C)) :=
  (given env s.name).map (fun raw ↦ (s.parse raw).map s.field.set)

/-- The updates of all variables; the first text that cannot be read is raised. -/
def updates : List (Setting C) → Dict Str → Except Exc (List (C → C))
  | [], _ => .ok []
  | s :: settings, env =>
    match s.update env with
    | none => updates settings env
    | some u => u.bind (fun f ↦ (updates settings env).map (f :: ·))

def copyWith (us : List (C → C)) (c : C) : C := us.foldl (fun c f ↦ f c) c

theorem given_ne_nil {name raw : Str} (h : given env name = some raw) : raw ≠ [] := by
  have hraw := (Option.filter_eq_some_iff.mp h).2
  simpa using hraw

theorem given_setItem (name key raw : Str) (env : Dict Str) :
    given (setItem key raw env) name = if name = key then (some raw).filter (fun raw ↦ !raw.isEmpty)
      else given env name := by
  rw [given, lookup_setItem]
  split <;> rfl

theorem given_single {name key raw : Str} (hraw : raw ≠ []) :
    given [(key, raw)] name = if name = key then some raw else none := by
  rw [given, List.lookup_cons]
  by_cases h : name = key
  · rw [if_pos h, beq_iff_eq.mpr h, Option.filter_some, if_pos (by simpa using hraw)]
  · rw [if_neg h, beq_eq_false_iff_ne.mpr h]
    rfl

theorem Setting.update_of_none (h : given env s.name = none) : s.update env = none := by
  rw [update, h]
  rfl

theorem Setting.update_of_some {raw : Str} (h : given env s.name = some raw) :
    s.update env = some ((s.parse raw).map s.field.set) := by
  rw [update, h]
  rfl

/-- Only the named variables are read. -/
theorem updates_congr (h : ∀ s ∈ settings, given env s.name = given env' s.name) :
    updates settings env = updates settings env' := by
  induction settings with
  | nil => rfl
  | cons s settings ih =>
    rw [updates, updates, ih (fun t ht ↦ h t (List.mem_cons_of_mem _ ht)), Setting.update, Setting.update,
      h s List.mem_cons_self]

/-- What is done to a record when a list of updates is read: one update after another. -/
theorem updates_cons (h : updates (s :: settings) env = .ok us) :
    (given env s.name = none ∧ updates settings env = .ok us) ∨
      ∃ raw a rest, given env s.name = some raw ∧ s.parse raw = .ok a ∧ updates settings env = .ok rest ∧
        us = s.field.set a :: rest := by
  rw [updates] at h
  cases hg : given env s.name with
  | none =>
    rw [Setting.update_of_none hg] at h
    exact .inl ⟨rfl, h⟩
  | some raw =>
    rw [Setting.update_of_some hg] at h
    obtain ⟨f, hf, h⟩ := exists_of_bind_ok h
    obtain ⟨a, ha, rfl⟩ := exists_of_map_ok hf
    obtain ⟨rest, hrest, rfl⟩ := exists_of_map_ok h
    exact .inr ⟨raw, a, rest, rfl, ha, hrest, rfl⟩

theorem updates_skip (h : given env s.name = none) : updates (s :: settings) env = updates settings env := by
  rw [updates, Setting.update_of_none h]

theorem updates_read {raw : Str} {a : s.Carrier} (h : given env s.name = some raw) (ha : s.parse raw = .ok a) :
    updates (s :: settings) env = (updates settings env).map (s.field.set a :: ·) := by
  rw [updates, Setting.update_of_some h, ha]
  rfl

theorem exists_updates (h : ∀ s ∈ settings, ∀ raw, given env s.name = some raw → ∃ a, s.parse raw = .ok a) :
    ∃ us, updates settings env = .ok us := by
  induction settings with
  | nil => exact ⟨[], rfl⟩
  | cons s settings ih =>
    obtain ⟨us, hus⟩ := ih (fun t ht ↦ h t (List.mem_cons_of_mem _ ht))
    cases hg : given env s.name with
    | none => exact ⟨us, by rw [updates_skip hg, hus]⟩
    | some raw =>
      obtain ⟨a, ha⟩ := h s List.mem_cons_self raw hg
      refine ⟨s.field.set a :: us, ?_⟩
      rw [updates_read hg ha, hus]
      rfl

section Fields

variable (apart : settings.Pairwise (fun s t ↦ s.field.Apart t.field))

/-- The updates of other fields commute with the update of a field. -/
theorem copyWith_set {s : Setting C} (hs : ∀ t ∈ settings, s.field.Apart t.field) (h : updates settings env = .ok us)
    (a : s.Carrier) (c : C) : copyWith us (s.field.set a c) = s.field.set a (copyWith us c) := by
  induction settings generalizing us c with
  | nil =>
    cases h
    rfl
  | cons t settings ih =>
    have htail := fun t ht ↦ hs t (List.mem_cons_of_mem _ ht)
    rcases updates_cons h with ⟨-, hr⟩ | ⟨raw, b, rest, -, -, hr, rfl⟩
    · exact ih htail hr c
    · show copyWith rest (t.field.set b (s.field.set a c)) = s.field.set a (copyWith rest (t.field.set b c))
      rw [← hs t List.mem_cons_self a b c, ih htail hr]

theorem get_copyWith {s : Setting C} (hs : ∀ t ∈ settings, s.field.Apart t.field) (h : updates settings env = .ok us)
    (c : C) : s.field.get (copyWith us c) = s.field.get c := by
  have hset := copyWith_set hs h (s.field.get c) c
  rw [s.field.set_get] at hset
  rw [hset, s.field.get_set]

include apart

/-- A field that is given has the value of its text; any other one keeps its own. -/
theorem copyWith_get (h : updates settings env = .ok us) (c : C) : ∀ s ∈ settings,
    (given env s.name = none → s.field.get (copyWith us c) = s.field.get c) ∧
      ∀ raw, given env s.name = some raw → s.parse raw = .ok (s.field.get (copyWith us c)) := by
  induction settings generalizing us c with
  | nil => exact fun s hs ↦ absurd hs List.not_mem_nil
  | cons t settings ih =>
    obtain ⟨ht, hrest⟩ := List.pairwise_cons.mp apart
    rcases updates_cons h with ⟨hnone, hr⟩ | ⟨raw, a, rest, hsome, ha, hr, rfl⟩
    · refine List.forall_mem_cons.mpr ⟨⟨fun _ ↦ get_copyWith ht hr c, fun raw hraw ↦ ?_⟩, ih hrest hr c⟩
      rw [hnone] at hraw
      cases hraw
    · have hvalue : t.field.get (copyWith rest (t.field.set a c)) = a := by
        rw [get_copyWith ht hr, t.field.get_set]
      refine List.forall_mem_cons.mpr ⟨⟨fun hnone ↦ ?_, fun raw' hraw' ↦ ?_⟩, fun s hs ↦ ?_⟩
      · rw [hsome] at hnone
        cases hnone
      · rw [hsome] at hraw'
        show t.parse raw' = .ok (t.field.get (copyWith rest (t.field.set a c)))
        rw [hvalue, ← Option.some.inj hraw', ha]
      · obtain ⟨hkeep, hread⟩ := ih hrest hr (t.field.set a c) s hs
        exact ⟨fun hnone ↦ (hkeep hnone).trans ((ht s hs).symm.get_set a c), hread⟩

/-- One environment after another is one environment, in which the later one goes first. -/
theorem updates_updates (h : updates settings env = .ok us) (h' : updates settings env' = .ok us')
    (hboth : ∀ s ∈ settings, given env'' s.name = (given env' s.name).or (given env s.name)) :
    ∃ us'', updates settings env'' = .ok us'' ∧ ∀ c, copyWith us'' c = copyWith us' (copyWith us c) := by
  induction settings generalizing us us' with
  | nil =>
    cases h
    cases h'
    exact ⟨[], rfl, fun _ ↦ rfl⟩
  | cons s settings ih =>
    obtain ⟨hs, hrest⟩ := List.pairwise_cons.mp apart
    obtain ⟨hgiven, hboth⟩ := List.forall_mem_cons.mp hboth
    rcases updates_cons h' with ⟨hg', hr'⟩ | ⟨raw', a', rest', hg', ha', hr', rfl⟩
    · rcases updates_cons h with ⟨hg, hr⟩ | ⟨raw, a, rest, hg, ha, hr, rfl⟩
      · obtain ⟨us'', hus, hcopy⟩ := ih hrest hr hr' hboth
        rw [hg, hg'] at hgiven
        exact ⟨us'', by rw [updates_skip hgiven, hus], hcopy⟩
      · obtain ⟨us'', hus, hcopy⟩ := ih hrest hr hr' hboth
        rw [hg, hg'] at hgiven
        refine ⟨s.field.set a :: us'', ?_, fun c ↦ hcopy (s.field.set a c)⟩
        rw [updates_read hgiven ha, hus]
        rfl
    · rw [hg'] at hgiven
      rcases updates_cons h with ⟨-, hr⟩ | ⟨raw, a, rest, -, -, hr, rfl⟩
      · obtain ⟨us'', hus, hcopy⟩ := ih hrest hr hr' hboth
        refine ⟨s.field.set a' :: us'', by rw [updates_read hgiven ha', hus]; rfl, fun c ↦ ?_⟩
        show copyWith us'' (s.field.set a' c) = copyWith rest' (s.field.set a' (copyWith us c))
        rw [hcopy, copyWith_set hs hr]
      · obtain ⟨us'', hus, hcopy⟩ := ih hrest hr hr' hboth
        refine ⟨s.field.set a' :: us'', by rw [updates_read hgiven ha', hus]; rfl, fun c ↦ ?_⟩
        -- the earlier value of the field is written over
        show copyWith us'' (s.field.set a' c) = copyWith rest' (s.field.set a' (copyWith rest (s.field.set a c)))
        rw [hcopy, ← copyWith_set hs hr, s.field.set_set]

omit apart in
theorem updates_absent (h : ∀ s ∈ settings, given env s.name = none) : updates settings env = .ok [] := by
  induction settings with
  | nil => rfl
  | cons s settings ih =>
    obtain ⟨hs, h⟩ := List.forall_mem_cons.mp h
    rw [updates_skip hs, ih h]

omit apart in
theorem updates_single (names : (settings.map Setting.name).Nodup) (hs : s ∈ settings) {raw : Str} {a : s.Carrier}
    (hne : raw ≠ []) (ha : s.parse raw = .ok a) : updates settings [(s.name, raw)] = .ok [s.field.set a] := by
  have hgiven : given [(s.name, raw)] s.name = some raw := by rw [given_single hne, if_pos rfl]
  induction settings with
  | nil => cases hs
  | cons t settings ih =>
    obtain ⟨hfresh, hnames⟩ := List.nodup_cons.mp names
    have hother : ∀ u : Setting C, u.name ≠ s.name → given [(s.name, raw)] u.name = none :=
      fun u hu ↦ by rw [given_single hne, if_neg hu]
    rcases List.mem_cons.mp hs with rfl | hs
    · have hrest : ∀ u ∈ settings, given [(s.name, raw)] u.name = none :=
        fun u hu ↦ hother u (fun he ↦ hfresh (he ▸ List.mem_map_of_mem hu))
      rw [updates_read hgiven ha, updates_absent hrest]
      rfl
    · rw [updates_skip (hother t (fun he ↦ hfresh (he ▸ List.mem_map_of_mem hs))), ih hnames hs]

theorem updates_setItem (names : (settings.map Setting.name).Nodup) (h : updates settings env = .ok us)
    (hs : s ∈ settings) {raw : Str} {a : s.Carrier} (hne : raw ≠ []) (ha : s.parse raw = .ok a) :
    ∃ us', updates settings (setItem s.name raw env) = .ok us' ∧ ∀ c, copyWith us' c = s.field.set a (copyWith us c) := by
  refine updates_updates apart h (updates_single names hs hne ha) (fun t _ ↦ ?_)
  rw [given_setItem, given_single hne]
  by_cases ht : t.name = s.name
  · rw [if_pos ht, if_pos ht, Option.filter_some, if_pos (by simpa using hne)]
    rfl
  · rw [if_neg ht, if_neg ht]
    rfl

end Fields

section Forcing

def Covers (settings : List (Setting C)) : Prop :=
  ∀ c c', (∀ s ∈ settings, s.field.get c = s.field.get c') → c = c'

def environment (settings : List (Setting C)) (text : Setting C → Str) : Dict Str :=
  settings.map (fun s ↦ (s.name, text s))

variable (apart : settings.Pairwise (fun s t ↦ s.field.Apart t.field))

theorem given_environment (names : (settings.map Setting.name).Nodup) {text : Setting C → Str} (hs : s ∈ settings)
    (ht : text s ≠ []) : given (environment settings text) s.name = some (text s) := by
  have hunique : Dict.Unique (environment settings text) := by
    rw [Dict.Unique, Dict.keys, environment, List.map_map]
    exact names
  have hmem : (s.name, text s) ∈ environment settings text := List.mem_map_of_mem hs
  rw [given, hunique.lookup_of_mem hmem, Option.filter_some, if_pos (by simpa using ht)]

include apart

theorem exists_text_of_forced (h : updates settings env = .ok us) (hforced : ∀ base, copyWith us base = c)
    (hs : s ∈ settings) (many : ∀ a : s.Carrier, ∃ b, b ≠ a) : ∃ raw, raw ≠ [] ∧ s.parse raw = .ok (s.field.get c) := by
  cases hg : given env s.name with
  | none =>
    obtain ⟨b, hb⟩ := many (s.field.get c)
    have hget := (copyWith_get apart h (s.field.set b c) s hs).1 hg
    rw [hforced, s.field.get_set] at hget
    exact absurd hget.symm hb
  | some raw =>
    have hread := (copyWith_get apart h c s hs).2 raw hg
    rw [hforced] at hread
    exact ⟨raw, given_ne_nil hg, hread⟩

theorem forced_of_texts (names : (settings.map Setting.name).Nodup) (covers : Covers settings)
    {text : Setting C → Str} (htext : ∀ s ∈ settings, text s ≠ [] ∧ s.parse (text s) = .ok (s.field.get c)) :
    ∃ us, updates settings (environment settings text) = .ok us ∧ ∀ base, copyWith us base = c := by
  have hgiven : ∀ s ∈ settings, given (environment settings text) s.name = some (text s) :=
    fun s hs ↦ given_environment names hs (htext s hs).1
  have hread : ∀ s ∈ settings, ∀ raw, given (environment settings text) s.name = some raw →
      s.parse raw = .ok (s.field.get c) := by
    intro s hs raw hraw
    rw [hgiven s hs] at hraw
    rw [← Option.some.inj hraw]
    exact (htext s hs).2
  obtain ⟨us, hus⟩ := exists_updates (fun s hs raw hraw ↦ ⟨_, hread s hs raw hraw⟩)
  refine ⟨us, hus, fun base ↦ covers _ _ (fun s hs ↦ ?_)⟩
  have hvalue := (copyWith_get apart hus base s hs).2 _ (hgiven s hs)
  rw [hread s hs _ (hgiven s hs)] at hvalue
  exact (Except.ok.inj hvalue).symm

end Forcing

end McpSqlServer.Library.Overlay

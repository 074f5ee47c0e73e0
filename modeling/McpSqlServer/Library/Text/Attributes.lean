import McpSqlServer.Library.Text.Str
import Mathlib.Data.List.TakeWhile

namespace McpSqlServer.Library.Text

/-- A braced value behind its opening brace: the value, with `}` for each `}}`, and what
follows the closing brace. -/
def bracedValue : Str → Option (Str × Str)
  | [] => none
  | [c] => if c = '}' then some ([], []) else none
  | c :: d :: s =>
    if c = '}' then if d = '}' then (bracedValue s).map (fun p ↦ ('}' :: p.1, p.2)) else some ([], d :: s)
    else (bracedValue (d :: s)).map (fun p ↦ (c :: p.1, p.2))

/-- The value at the front of a text and what follows the separator behind it. -/
def attributeValue (s : Str) : Option (Str × Str) :=
  if s.head? = some '{' then
    match bracedValue s.tail with
    | some (v, []) => some (v, [])
    | some (v, c :: r) => if c = ';' then some (v, r) else none
    | none => none
  else some (s.takeWhile (· ≠ ';'), (s.dropWhile (· ≠ ';')).tail)

def attributesWithin : ℕ → Str → Option (List (Str × Str))
  | _, [] => some []
  | 0, _ :: _ => none
  | n + 1, c :: s =>
    let key := (c :: s).takeWhile (fun c ↦ c ≠ '=' && c ≠ ';')
    match (c :: s).dropWhile (fun c ↦ c ≠ '=' && c ≠ ';') with
    | '=' :: s =>
      if key = [] then none
      else (attributeValue s).bind (fun p ↦ (attributesWithin n p.2).map (fun l ↦ (key, p.1) :: l))
    | _ => none

/-- The attributes of a connection string: `key=value`, separated by semicolons. -/
def attributes (s : Str) : Option (List (Str × Str)) := attributesWithin s.length s

/-- A text that stands for itself as a value: it neither opens a brace nor ends early. -/
def PlainValue (v : Str) : Prop := ';' ∉ v ∧ v.head? ≠ some '{'

instance (v : Str) : Decidable (PlainValue v) := inferInstanceAs (Decidable (_ ∧ _))

def IsKey (key : Str) : Prop := key ≠ [] ∧ '=' ∉ key ∧ ';' ∉ key

instance (key : Str) : Decidable (IsKey key) := inferInstanceAs (Decidable (_ ∧ _ ∧ _))

/-- An attribute as a program writes it, with braces around the value or without. -/
structure Attribute where
  key : Str
  value : Str
  braced : Bool := false

def Attribute.text (a : Attribute) : Str :=
  if a.braced then a.key ++ '=' :: '{' :: (a.value ++ ['}', ';']) else a.key ++ '=' :: (a.value ++ [';'])

def Attribute.Faithful (a : Attribute) : Prop := if a.braced then '}' ∉ a.value else PlainValue a.value

variable {v key rest r s : Str}

theorem bracedValue_cons {c : Char} (hc : c ≠ '}') (s : Str) :
    bracedValue (c :: s) = (bracedValue s).map (fun p ↦ (c :: p.1, p.2)) := by
  cases s with
  | nil => simp [bracedValue, hc]
  | cons d s => simp [bracedValue, hc]

theorem bracedValue_closed (h : '}' ∉ v) (rest : Str) :
    bracedValue (v ++ '}' :: ';' :: rest) = some (v, ';' :: rest) := by
  induction v with
  | nil => simp [bracedValue]
  | cons c v ih =>
    rw [List.mem_cons, not_or] at h
    rw [List.cons_append, bracedValue_cons (Ne.symm h.1), ih h.2]
    rfl

theorem bracedValue_length : ∀ {s v r : Str}, bracedValue s = some (v, r) → v.length + r.length < s.length
  | [], v, r, h => by cases h
  | [c], v, r, h => by
    unfold bracedValue at h
    split at h
    · cases h
      simp
    · cases h
  | c :: d :: s, v, r, h => by
    rw [bracedValue] at h
    split at h
    · split at h
      · obtain ⟨⟨v', r'⟩, hp, he⟩ := Option.map_eq_some_iff.mp h
        cases he
        have ih := bracedValue_length hp
        simp only [List.length_cons]
        omega
      · cases h
        simp
    · obtain ⟨⟨v', r'⟩, hp, he⟩ := Option.map_eq_some_iff.mp h
      cases he
      have ih := bracedValue_length hp
      simp only [List.length_cons] at ih ⊢
      omega

theorem attributeValue_length (h : attributeValue s = some (v, r)) : r.length ≤ s.length := by
  unfold attributeValue at h
  split at h
  · have htail : s.tail.length ≤ s.length := by simp
    split at h
    · cases h
      simp
    · rename_i v' c r' hb
      have hlen := bracedValue_length hb
      split at h
      · cases h
        simp only [List.length_cons] at hlen
        omega
      · cases h
    · cases h
  · cases h
    have hdrop := List.length_dropWhile_le (· ≠ ';') s
    simp only [List.length_tail]
    omega

def doubleBraces (v : Str) : Str := v.flatMap (fun c ↦ if c = '}' then ['}', '}'] else [c])

theorem doubleBraces_brace (v : Str) : doubleBraces ('}' :: v) = '}' :: '}' :: doubleBraces v := rfl

theorem doubleBraces_cons {c : Char} (hc : c ≠ '}') (v : Str) : doubleBraces (c :: v) = c :: doubleBraces v := by
  rw [doubleBraces, List.flatMap_cons, if_neg hc]
  rfl

theorem bracedValue_eq : ∀ {s v r : Str}, bracedValue s = some (v, r) → s = doubleBraces v ++ '}' :: r
  | [], v, r, h => by cases h
  | [c], v, r, h => by
    unfold bracedValue at h
    split at h
    · rename_i hc
      cases h
      rw [hc]
      rfl
    · cases h
  | c :: d :: s, v, r, h => by
    rw [bracedValue] at h
    split at h
    · rename_i hc
      split at h
      · rename_i hd
        obtain ⟨⟨v', r'⟩, hp, he⟩ := Option.map_eq_some_iff.mp h
        cases he
        rw [bracedValue_eq hp, hc, hd, doubleBraces_brace]
        rfl
      · cases h
        rw [hc]
        rfl
    · rename_i hc
      obtain ⟨⟨v', r'⟩, hp, he⟩ := Option.map_eq_some_iff.mp h
      cases he
      rw [bracedValue_eq hp, doubleBraces_cons hc]
      rfl

theorem replicate_doubleBraces_ne (k : ℕ) (v r rest : Str) :
    List.replicate (k + 1) '}' ++ (doubleBraces v ++ '}' :: r) ≠ v ++ '}' :: ';' :: rest := by
  induction v generalizing k with
  | nil =>
    intro h
    cases k with
    | zero => simp [doubleBraces] at h
    | succ k => simp [doubleBraces, List.replicate_succ] at h
  | cons c v ih =>
    intro h
    rw [List.replicate_succ, List.cons_append, List.cons_append] at h
    obtain ⟨hc, h⟩ := List.cons.inj h
    subst hc
    apply ih (k + 1)
    rw [← h, doubleBraces_brace]
    simp [List.replicate_succ']

theorem bracedValue_closed_iff : bracedValue (v ++ '}' :: ';' :: rest) = some (v, r) ↔
    '}' ∉ v ∧ r = ';' :: rest := by
  constructor
  · intro h
    have hv : '}' ∉ v := by
      have heq := bracedValue_eq h
      clear h
      induction v with
      | nil => exact List.not_mem_nil
      | cons c v ih =>
        by_cases hc : c = '}'
        · subst hc
          rw [doubleBraces_brace] at heq
          exact absurd (List.cons.inj heq).2.symm (replicate_doubleBraces_ne 0 v r rest)
        · rw [doubleBraces_cons hc] at heq
          rw [List.mem_cons, not_or]
          exact ⟨Ne.symm hc, ih (List.cons.inj heq).2⟩
    rw [bracedValue_closed hv] at h
    exact ⟨hv, (congrArg Prod.snd (Option.some.inj h)).symm⟩
  · intro ⟨hv, hr⟩
    rw [hr]
    exact bracedValue_closed hv rest

theorem attributeValue_braced : attributeValue ('{' :: (v ++ '}' :: ';' :: rest)) = some (v, r) ↔
    '}' ∉ v ∧ r = rest := by
  rw [attributeValue, if_pos List.head?_cons, List.tail_cons]
  constructor
  · intro h
    split at h
    · rename_i v' hb
      cases h
      cases (bracedValue_closed_iff.mp hb).2
    · rename_i v' c r' hb
      split at h
      · cases h
        obtain ⟨hv, hr⟩ := bracedValue_closed_iff.mp hb
        exact ⟨hv, (List.cons.inj hr).2⟩
      · cases h
    · cases h
  · intro ⟨hv, hr⟩
    rw [bracedValue_closed hv, hr]
    rfl

theorem doubleBraces_ne (v r rest : Str) : '{' :: (doubleBraces v ++ '}' :: r) ≠ v ++ ';' :: rest := by
  induction v with
  | nil =>
    intro h
    cases (List.cons.inj h).1
  | cons c v ih =>
    intro h
    obtain ⟨hc, h⟩ := List.cons.inj h
    subst hc
    exact ih h

theorem decide_ne_of_notMem {d : Char} (h : d ∉ v) : ∀ c ∈ v, decide (c ≠ d) = true := by
  intro c hc
  exact decide_eq_true (fun he ↦ h (he ▸ hc))

theorem attributeValue_plain : attributeValue (v ++ ';' :: rest) = some (v, r) ↔ PlainValue v ∧ r = rest := by
  have hhead : (v ++ ';' :: rest).head? = some '{' ↔ v.head? = some '{' := by
    cases v with
    | nil => simp
    | cons c v => exact Iff.rfl
  have hstop : v ++ ';' :: rest = v ++ (';' :: rest) := rfl
  rw [attributeValue]
  split
  · rename_i hb
    rw [hhead] at hb
    refine iff_of_false (fun h ↦ ?_) (fun h ↦ h.1.2 hb)
    obtain ⟨t, rfl⟩ : ∃ t, v = '{' :: t := by
      cases v with
      | nil => cases hb
      | cons c t => exact ⟨t, congrArg (· :: t) (Option.some.inj hb)⟩
    have hno : ∀ r, bracedValue (t ++ ';' :: rest) ≠ some ('{' :: t, r) := by
      intro r hr
      exact doubleBraces_ne t r rest (bracedValue_eq hr).symm
    split at h
    · rename_i hr
      cases h
      exact hno _ hr
    · rename_i hr
      split at h
      · cases h
        exact hno _ hr
      · cases h
    · cases h
  · rename_i hb
    rw [hhead] at hb
    constructor
    · intro h
      obtain ⟨hv, hr⟩ := Prod.mk.inj (Option.some.inj h)
      have hsemi : ';' ∉ v := by
        intro hm
        rw [← hv] at hm
        have himp := List.mem_takeWhile_imp hm
        simp at himp
      refine ⟨⟨hsemi, hb⟩, ?_⟩
      rw [← hr, List.dropWhile_append_of_pos (decide_ne_of_notMem hsemi)]
      simp
    · intro ⟨⟨hsemi, _⟩, hr⟩
      have hkeep := decide_ne_of_notMem hsemi
      rw [List.takeWhile_append_of_pos hkeep, List.dropWhile_append_of_pos hkeep, hr]
      simp

theorem attributeValue_rest (h : ';' ∉ s) (hv : attributeValue s = some (v, r)) : r = [] := by
  unfold attributeValue at hv
  split at hv
  · split at hv
    · cases hv
      rfl
    · rename_i v' c r' hb
      split at hv
      · rename_i hc
        have hmem : ';' ∈ s.tail := by
          rw [bracedValue_eq hb, ← hc]
          simp
        exact absurd (List.mem_of_mem_tail hmem) h
      · cases hv
    · cases hv
  · cases hv
    have hall : s.dropWhile (· ≠ ';') = [] := List.dropWhile_eq_nil_iff.mpr (decide_ne_of_notMem h)
    rw [hall]
    rfl

theorem attributesWithin_of_length {n : ℕ} (h : s.length ≤ n) : attributesWithin n s = attributes s := by
  have key : ∀ {m n : ℕ} {s : Str}, s.length ≤ m → s.length ≤ n → attributesWithin m s = attributesWithin n s := by
    intro m
    induction m with
    | zero =>
      intro n s hm hn
      rw [List.length_eq_zero_iff.mp (Nat.le_zero.mp hm)]
      cases n <;> rfl
    | succ m ih =>
      intro n s hm hn
      cases s with
      | nil => cases n <;> rfl
      | cons c s =>
        cases n with
        | zero => simp at hn
        | succ n =>
          rw [attributesWithin, attributesWithin]
          have hlen := List.length_dropWhile_le (fun c ↦ c ≠ '=' && c ≠ ';') (c :: s)
          split
          · rename_i t ht
            split
            · rfl
            · cases hv : attributeValue t with
              | none => rfl
              | some p =>
                obtain ⟨v, r⟩ := p
                have hr := attributeValue_length hv
                rw [ht] at hlen
                simp only [List.length_cons] at hm hn hlen
                have hrest : attributesWithin m r = attributesWithin n r := ih (by omega) (by omega)
                rw [Option.bind_some, Option.bind_some, hrest]
          · rfl
  exact key h le_rfl

theorem attributes_cons (h : IsKey key) (s : Str) : attributes (key ++ '=' :: s) =
    (attributeValue s).bind (fun p ↦ (attributes p.2).map (fun l ↦ (key, p.1) :: l)) := by
  obtain ⟨c, key', rfl⟩ := List.exists_cons_of_ne_nil h.1
  have hkeep : ∀ d ∈ c :: key', (d ≠ '=' && d ≠ ';') = true := by
    intro d hd
    have he : d ≠ '=' := fun he ↦ h.2.1 (he ▸ hd)
    have hs : d ≠ ';' := fun he ↦ h.2.2 (he ▸ hd)
    simp [he, hs]
  have htake : (c :: (key' ++ '=' :: s)).takeWhile (fun c ↦ c ≠ '=' && c ≠ ';') = c :: key' := by
    rw [← List.cons_append, List.takeWhile_append_of_pos hkeep]
    simp
  have hdrop : (c :: (key' ++ '=' :: s)).dropWhile (fun c ↦ c ≠ '=' && c ≠ ';') = '=' :: s := by
    rw [← List.cons_append, List.dropWhile_append_of_pos hkeep]
    simp
  rw [attributes, List.cons_append, List.length_cons, attributesWithin]
  simp only [htake, hdrop, reduceCtorEq, if_false]
  cases hv : attributeValue s with
  | none => rfl
  | some p =>
    obtain ⟨v, r⟩ := p
    have hr := attributeValue_length hv
    have hlen : r.length ≤ (key' ++ '=' :: s).length := by
      simp only [List.length_append, List.length_cons]
      omega
    rw [Option.bind_some, Option.bind_some, attributesWithin_of_length hlen]

theorem attributes_single (hkey : IsKey key) (h : ';' ∉ v) {l : List (Str × Str)}
    (hl : attributes (key ++ '=' :: v) = some l) : l.length = 1 := by
  rw [attributes_cons hkey] at hl
  obtain ⟨⟨v', r⟩, hv, hr⟩ := Option.bind_eq_some_iff.mp hl
  obtain ⟨l', hl', rfl⟩ := Option.map_eq_some_iff.mp hr
  rw [attributeValue_rest h hv] at hl'
  cases hl'
  rfl

theorem attributes_plain (h : IsKey key) {l : List (Str × Str)} :
    attributes (key ++ '=' :: (v ++ ';' :: rest)) = some ((key, v) :: l) ↔ PlainValue v ∧ attributes rest = some l := by
  rw [attributes_cons h, Option.bind_eq_some_iff]
  constructor
  · intro ⟨⟨v', r⟩, hv, hr⟩
    obtain ⟨l', hl, he⟩ := Option.map_eq_some_iff.mp hr
    cases he
    obtain ⟨hp, rfl⟩ := attributeValue_plain.mp hv
    exact ⟨hp, hl⟩
  · intro ⟨hv, hr⟩
    exact ⟨(v, rest), attributeValue_plain.mpr ⟨hv, rfl⟩, by rw [hr]; rfl⟩

theorem attributes_braced (h : IsKey key) {l : List (Str × Str)} :
    attributes (key ++ '=' :: '{' :: (v ++ '}' :: ';' :: rest)) = some ((key, v) :: l) ↔
      '}' ∉ v ∧ attributes rest = some l := by
  rw [attributes_cons h, Option.bind_eq_some_iff]
  constructor
  · intro ⟨⟨v', r⟩, hv, hr⟩
    obtain ⟨l', hl, he⟩ := Option.map_eq_some_iff.mp hr
    cases he
    obtain ⟨hp, rfl⟩ := attributeValue_braced.mp hv
    exact ⟨hp, hl⟩
  · intro ⟨hv, hr⟩
    exact ⟨(v, rest), attributeValue_braced.mpr ⟨hv, rfl⟩, by rw [hr]; rfl⟩

/-- A row of attributes is read as what it was written for when each value stands for itself. -/
theorem attributes_text {l : List Attribute} (h : ∀ a ∈ l, IsKey a.key) :
    attributes (l.flatMap Attribute.text) = some (l.map (fun a ↦ (a.key, a.value))) ↔ ∀ a ∈ l, a.Faithful := by
  induction l with
  | nil => exact iff_of_true rfl (fun a ha ↦ absurd ha List.not_mem_nil)
  | cons a l ih =>
    have ih := ih (fun b hb ↦ h b (List.mem_cons_of_mem _ hb))
    have hkey := h a List.mem_cons_self
    rw [List.flatMap_cons, List.map_cons, List.forall_mem_cons, ← ih]
    cases hb : a.braced with
    | true =>
      have htext : a.text ++ l.flatMap Attribute.text =
          a.key ++ '=' :: '{' :: (a.value ++ '}' :: ';' :: l.flatMap Attribute.text) := by
        simp [Attribute.text, hb]
      rw [htext, attributes_braced hkey, Attribute.Faithful, if_pos hb]
    | false =>
      have htext : a.text ++ l.flatMap Attribute.text =
          a.key ++ '=' :: (a.value ++ ';' :: l.flatMap Attribute.text) := by
        simp [Attribute.text, hb]
      rw [htext, attributes_plain hkey, Attribute.Faithful, if_neg (by simp [hb])]

end McpSqlServer.Library.Text

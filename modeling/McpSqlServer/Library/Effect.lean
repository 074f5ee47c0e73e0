namespace McpSqlServer.Library

variable {σ ε α β : Type}

/-- A computation on a state that ends in a value or in an exception. What it did to the
state stays in both cases. -/
def Act (σ ε α : Type) : Type := σ → Except ε α × σ

namespace Act

instance : Monad (Act σ ε) where
  pure a := fun s ↦ (.ok a, s)
  bind m f := fun s ↦ match m s with
    | (.ok a, s) => f a s
    | (.error e, s) => (.error e, s)

def raise (e : ε) : Act σ ε α := fun s ↦ (.error e, s)

def catching (m : Act σ ε α) (handler : ε → Act σ ε α) : Act σ ε α := fun s ↦ match m s with
  | (.ok a, s) => (.ok a, s)
  | (.error e, s) => handler e s

/-- `try: m finally: cleanup`; an exception of the cleanup replaces the result. -/
def ensuring (m : Act σ ε α) (cleanup : Act σ ε Unit) : Act σ ε α := fun s ↦ match m s with
  | (r, s) => match cleanup s with
    | (.ok _, s) => (r, s)
    | (.error e, s) => (.error e, s)

def read (f : σ → α) : Act σ ε α := fun s ↦ (.ok (f s), s)

def modify (f : σ → σ) : Act σ ε Unit := fun s ↦ (.ok (), f s)

def ofExcept (r : Except ε α) : Act σ ε α := fun s ↦ (r, s)

def onFst {τ : Type} (m : Act σ ε α) : Act (σ × τ) ε α := fun s ↦ ((m s.1).1, (m s.1).2, s.2)

def onSnd {τ : Type} (m : Act τ ε α) : Act (σ × τ) ε α := fun s ↦ ((m s.2).1, s.1, (m s.2).2)

def each (f : α → Act σ ε β) : List α → Act σ ε (List β)
  | [] => pure []
  | a :: l => do
    let b ← f a
    let bs ← each f l
    pure (b :: bs)

theorem bind_assoc {γ : Type} (m : Act σ ε α) (f : α → Act σ ε β) (g : β → Act σ ε γ) :
    (m >>= f) >>= g = m >>= fun a ↦ f a >>= g := by
  funext s
  show (match (match m s with | (.ok a, s) => f a s | (.error e, s) => (.error e, s)) with
      | (.ok b, s) => g b s | (.error e, s) => (.error e, s)) =
    (match m s with | (.ok a, s) => (f a >>= g) s | (.error e, s) => (.error e, s))
  rcases m s with ⟨r, s'⟩
  cases r with
  | ok a => rfl
  | error e => rfl

theorem pure_bind (a : α) (f : α → Act σ ε β) : (pure a : Act σ ε α) >>= f = f a := rfl

theorem bind_pure_apply (m : Act σ ε α) (f : α → β) (s : σ) :
    (m >>= fun a ↦ pure (f a)) s = ((m s).1.map f, (m s).2) := by
  show (match m s with | (.ok a, s) => (Except.ok (f a), s) | (.error e, s) => (.error e, s)) = _
  rcases m s with ⟨r, s'⟩
  cases r with
  | ok a => rfl
  | error e => rfl

theorem bind_of_ok {m : Act σ ε α} {a : α} {s s' : σ} (h : m s = (.ok a, s')) (f : α → Act σ ε β) :
    (m >>= f) s = f a s' := by
  show (match m s with | (.ok a, s) => f a s | (.error e, s) => (.error e, s)) = f a s'
  rw [h]

theorem bind_of_error {m : Act σ ε α} {e : ε} {s s' : σ} (h : m s = (.error e, s')) (f : α → Act σ ε β) :
    (m >>= f) s = (.error e, s') := by
  show (match m s with | (.ok a, s) => f a s | (.error e, s) => (.error e, s)) = (.error e, s')
  rw [h]

theorem catching_of_ok {m : Act σ ε α} {handler : ε → Act σ ε α} {a : α} {s s' : σ} (h : m s = (.ok a, s')) :
    catching m handler s = (.ok a, s') := by
  simp only [catching, h]

theorem catching_of_error {m : Act σ ε α} {handler : ε → Act σ ε α} {e : ε} {s s' : σ} (h : m s = (.error e, s')) :
    catching m handler s = handler e s' := by
  simp only [catching, h]

theorem ensuring_of_ok {m : Act σ ε α} {cleanup : Act σ ε Unit} {r : Except ε α} {u : Unit} {s s₁ s₂ : σ}
    (h : m s = (r, s₁)) (hc : cleanup s₁ = (.ok u, s₂)) : ensuring m cleanup s = (r, s₂) := by
  simp only [ensuring, h, hc]

theorem ensuring_of_error {m : Act σ ε α} {cleanup : Act σ ε Unit} {r : Except ε α} {e : ε} {s s₁ s₂ : σ}
    (h : m s = (r, s₁)) (hc : cleanup s₁ = (.error e, s₂)) : ensuring m cleanup s = (.error e, s₂) := by
  simp only [ensuring, h, hc]

theorem onFst_bind {τ : Type} (m : Act σ ε α) (f : α → Act σ ε β) :
    (onFst (m >>= f) : Act (σ × τ) ε β) = onFst m >>= fun a ↦ onFst (f a) := by
  funext ⟨s, t⟩
  rcases hm : m s with ⟨r, s'⟩
  cases r with
  | ok a =>
    have hf : onFst (m >>= f) (s, t) = onFst (f a) (s', t) := by simp only [onFst, bind_of_ok hm]
    have hm' : onFst m (s, t) = (.ok a, s', t) := by simp only [onFst, hm]
    rw [hf, bind_of_ok hm']
  | error e =>
    have hf : onFst (m >>= f) (s, t) = (.error e, s', t) := by simp only [onFst, bind_of_error hm]
    have hm' : onFst m (s, t) = (.error e, s', t) := by simp only [onFst, hm]
    rw [hf, bind_of_error hm']

theorem onFst_of {τ : Type} {m : Act σ ε α} {r : Except ε α} {s s' : σ} (h : m s = (r, s')) (t : τ) :
    onFst m (s, t) = (r, s', t) := by
  simp only [onFst, h]

theorem onSnd_of {τ : Type} {m : Act τ ε α} {r : Except ε α} {t t' : τ} (h : m t = (r, t')) (s : σ) :
    onSnd m (s, t) = (r, s, t') := by
  simp only [onSnd, h]

end Act

def Ends (Q : α → σ → Prop) (E : ε → σ → Prop) : Except ε α × σ → Prop
  | (.ok a, s) => Q a s
  | (.error e, s) => E e s

/-- From every state in `P` the computation ends with a value in `Q` or with an exception in `E`. -/
def Triple (P : σ → Prop) (m : Act σ ε α) (Q : α → σ → Prop) (E : ε → σ → Prop) : Prop :=
  ∀ s, P s → Ends Q E (m s)

variable {P P' : σ → Prop} {Q Q' : α → σ → Prop} {E E' F : ε → σ → Prop} {R : β → σ → Prop}
  {m : Act σ ε α} {n : Act σ ε β} {I : σ → Prop}

theorem Ends.mono {r : Except ε α × σ} (h : Ends Q E r) (hQ : ∀ a s, Q a s → Q' a s) (hE : ∀ e s, E e s → E' e s) :
    Ends Q' E' r := by
  obtain ⟨r, s⟩ := r
  cases r with
  | ok a => exact hQ a s h
  | error e => exact hE e s h

theorem Ends.snd {r : Except ε α × σ} (h : Ends Q E r) (hQ : ∀ a s, Q a s → I s) (hE : ∀ e s, E e s → I s) : I r.2 := by
  obtain ⟨r, s⟩ := r
  cases r with
  | ok a => exact hQ a s h
  | error e => exact hE e s h

theorem Ends.result {K : Except ε α → σ → Prop} {r : Except ε α × σ}
    (h : Ends (fun a ↦ K (.ok a)) (fun e ↦ K (.error e)) r) : K r.1 r.2 := by
  obtain ⟨r, s⟩ := r
  cases r with
  | ok a => exact h
  | error e => exact h

namespace Triple

theorem mono (h : Triple P m Q E) (hP : ∀ s, P' s → P s) (hQ : ∀ a s, Q a s → Q' a s)
    (hE : ∀ e s, E e s → E' e s) : Triple P' m Q' E' :=
  fun s hs ↦ (h s (hP s hs)).mono hQ hE

theorem and {F : ε → σ → Prop} (h : Triple P m Q E) (h' : Triple P m Q' F) :
    Triple P m (fun a s ↦ Q a s ∧ Q' a s) (fun e s ↦ E e s ∧ F e s) := by
  intro s hs
  have hq := h s hs
  have hq' := h' s hs
  rcases hr : m s with ⟨r, s'⟩
  rw [hr] at hq hq'
  cases r with
  | ok a => exact ⟨hq, hq'⟩
  | error e => exact ⟨hq, hq'⟩

theorem of_forall (hQ : ∀ a s, Q a s) (hE : ∀ e s, E e s) : Triple P m Q E := by
  intro s _
  rcases m s with ⟨r, s'⟩
  cases r with
  | ok a => exact hQ a s'
  | error e => exact hE e s'

/-- A fact that does not speak of the state moves out of the precondition. -/
theorem extract {p : Prop} (h : p → Triple P m Q E) : Triple (fun s ↦ p ∧ P s) m Q E := fun s hs ↦ h hs.1 s hs.2

theorem pure {a : α} (h : ∀ s, P s → Q a s) : Triple (ε := ε) P (pure a) Q E := h

theorem bind {f : β → Act σ ε α} (hn : Triple P n R E) (hf : ∀ b, Triple (R b) (f b) Q E) : Triple P (n >>= f) Q E := by
  intro s hs
  have h := hn s hs
  show Ends Q E (match n s with | (.ok b, s) => f b s | (.error e, s) => (.error e, s))
  rcases hr : n s with ⟨r, s'⟩
  rw [hr] at h
  cases r with
  | ok b => exact hf b s' h
  | error e => exact h

theorem bind_congr {f g : β → Act σ ε α} {s : σ} (hn : Triple P n R (fun _ _ ↦ True))
    (hfg : ∀ b s, R b s → f b s = g b s) (hs : P s) : (n >>= f) s = (n >>= g) s := by
  have h := hn s hs
  show (match n s with | (.ok b, s) => f b s | (.error e, s) => (.error e, s)) =
    (match n s with | (.ok b, s) => g b s | (.error e, s) => (.error e, s))
  rcases hr : n s with ⟨r, s'⟩
  rw [hr] at h
  cases r with
  | ok b => exact hfg b s' h
  | error e => rfl

theorem raise {e : ε} (h : ∀ s, P s → E e s) : Triple P (Act.raise e) Q E := h

theorem catching {handler : ε → Act σ ε α} (hm : Triple P m Q F) (hh : ∀ e, Triple (F e) (handler e) Q E) :
    Triple P (Act.catching m handler) Q E := by
  intro s hs
  have h := hm s hs
  unfold Act.catching
  rcases hr : m s with ⟨r, s'⟩
  rw [hr] at h
  cases r with
  | ok a => exact h
  | error e => exact hh e s' h

theorem ensuring {cleanup : Act σ ε Unit} (hm : Triple P m Q F) (hQ : ∀ a, Triple (Q a) cleanup (fun _ ↦ Q' a) E)
    (hF : ∀ e, Triple (F e) cleanup (fun _ ↦ E e) E) : Triple P (Act.ensuring m cleanup) Q' E := by
  intro s hs
  have h := hm s hs
  unfold Act.ensuring
  rcases hr : m s with ⟨r, s'⟩
  rw [hr] at h
  cases r with
  | ok a =>
    have hc := hQ a s' h
    simp only
    rcases hc' : cleanup s' with ⟨r, s''⟩
    rw [hc'] at hc
    cases r with
    | ok => exact hc
    | error e => exact hc
  | error e =>
    have hc := hF e s' h
    simp only
    rcases hc' : cleanup s' with ⟨r, s''⟩
    rw [hc'] at hc
    cases r with
    | ok => exact hc
    | error e => exact hc

theorem read {f : σ → α} (h : ∀ s, P s → Q (f s) s) : Triple (ε := ε) P (Act.read f) Q E := h

theorem modify {f : σ → σ} {Q : Unit → σ → Prop} (h : ∀ s, P s → Q () (f s)) :
    Triple (ε := ε) P (Act.modify f) Q E := h

theorem modify_bind {f : σ → σ} {g : Unit → Act σ ε α} (h : ∀ s, P s → I (f s)) (hg : Triple I (g ()) Q E) :
    Triple P (Act.modify f >>= g) Q E := bind (R := fun _ ↦ I) (modify h) (fun _ ↦ hg)

theorem read_bind {f : σ → β} {g : β → Act σ ε α} (hg : ∀ s, P s → Triple (fun s' ↦ s' = s) (g (f s)) Q E) :
    Triple P (Act.read f >>= g) Q E := fun s hs ↦ hg s hs s rfl

theorem ofExcept {r : Except ε α} (hQ : ∀ a s, r = .ok a → P s → Q a s) (hE : ∀ e s, r = .error e → P s → E e s) :
    Triple P (Act.ofExcept r) Q E := by
  intro s hs
  cases r with
  | ok a => exact hQ a s rfl hs
  | error e => exact hE e s rfl hs

end Triple

def Invariant (I : σ → Prop) (m : Act σ ε α) : Prop := Triple I m (fun _ ↦ I) (fun _ ↦ I)

namespace Invariant

theorem pure (a : α) : Invariant (ε := ε) I (pure a) := Triple.pure (fun _ h ↦ h)

theorem bind {f : β → Act σ ε α} (hn : Invariant I n) (hf : ∀ b, Invariant I (f b)) : Invariant I (n >>= f) :=
  Triple.bind hn hf

theorem raise (e : ε) : Invariant (α := α) I (Act.raise e) := Triple.raise (fun _ h ↦ h)

theorem catching {handler : ε → Act σ ε α} (hm : Invariant I m) (hh : ∀ e, Invariant I (handler e)) :
    Invariant I (Act.catching m handler) := Triple.catching hm hh

theorem ensuring {cleanup : Act σ ε Unit} (hm : Invariant I m) (hc : Invariant I cleanup) :
    Invariant I (Act.ensuring m cleanup) := Triple.ensuring hm (fun _ ↦ hc) (fun _ ↦ hc)

theorem read (f : σ → α) : Invariant (ε := ε) I (Act.read f) := Triple.read (fun _ h ↦ h)

theorem modify {f : σ → σ} (h : ∀ s, I s → I (f s)) : Invariant (ε := ε) I (Act.modify f) := Triple.modify h

theorem ofExcept (r : Except ε α) : Invariant I (Act.ofExcept (σ := σ) r) :=
  Triple.ofExcept (fun _ _ _ h ↦ h) (fun _ _ _ h ↦ h)

theorem each_of_mem {f : β → Act σ ε α} {l : List β} (hf : ∀ b ∈ l, Invariant I (f b)) : Invariant I (Act.each f l) := by
  induction l with
  | nil => exact pure []
  | cons b l ih =>
    have ih := ih (fun d hd ↦ hf d (List.mem_cons_of_mem _ hd))
    exact bind (hf b List.mem_cons_self) (fun a ↦ bind ih (fun bs ↦ pure (a :: bs)))

theorem each {f : β → Act σ ε α} (hf : ∀ b, Invariant I (f b)) (l : List β) : Invariant I (Act.each f l) :=
  each_of_mem (fun b _ ↦ hf b)

end Invariant

/-- From every state the computation ends in `r`. -/
def EndsIn (m : Act σ ε α) (r : Except ε α) : Prop := ∀ s, (m s).1 = r

namespace EndsIn

theorem pure (a : α) : EndsIn (pure a : Act σ ε α) (.ok a) := fun _ ↦ rfl

theorem raise (e : ε) : EndsIn (Act.raise e : Act σ ε α) (.error e) := fun _ ↦ rfl

theorem ofExcept (r : Except ε α) : EndsIn (Act.ofExcept (σ := σ) r) r := fun _ ↦ rfl

theorem bind {r : Except ε β} {f : β → Act σ ε α} {g : β → Except ε α} (hn : EndsIn n r)
    (hf : ∀ b, EndsIn (f b) (g b)) : EndsIn (n >>= f) (r >>= g) := by
  intro s
  obtain rfl := hn s
  rcases hs : n s with ⟨r, s'⟩
  cases r with
  | ok b => rw [Act.bind_of_ok hs, hf b s']; rfl
  | error e => rw [Act.bind_of_error hs]; rfl

theorem catching {r : Except ε α} {handler : ε → Act σ ε α} {g : ε → Except ε α} (hm : EndsIn m r)
    (hh : ∀ e, EndsIn (handler e) (g e)) : EndsIn (Act.catching m handler) (tryCatch r g) := by
  intro s
  obtain rfl := hm s
  rcases hs : m s with ⟨r, s'⟩
  cases r with
  | ok a => rw [Act.catching_of_ok hs]; rfl
  | error e => rw [Act.catching_of_error hs, hh e s']; rfl

end EndsIn

section Views

variable {σ ε α δ γ : Type} {m : Act σ ε α} {r : Except ε δ} {view : α → δ}

/-- From every state the computation ends in `r`, as far as `view` shows its value. -/
def Shows (view : α → δ) (m : Act σ ε α) (r : Except ε δ) : Prop := ∀ s, (m s).1.map view = r

theorem Shows.pure (a : α) : Shows view (pure a : Act σ ε α) (.ok (view a)) := fun _ ↦ rfl

theorem Shows.bind {f : α → Act σ ε γ} {g : δ → Except ε γ} (hm : Shows view m r)
    (hf : ∀ a, EndsIn (f a) (g (view a))) : EndsIn (m >>= f) (r >>= g) := by
  intro s
  rw [← hm s]
  rcases hs : m s with ⟨r, s'⟩
  cases r with
  | ok a => rw [Act.bind_of_ok hs, hf a s']; rfl
  | error e => rw [Act.bind_of_error hs]; rfl

theorem Shows.cons {m' : Act σ ε (List α)} {r' : Except ε (List δ)} (hm : Shows view m r)
    (hm' : Shows (List.map view) m' r') :
    Shows (List.map view) (do
      let a ← m
      let l ← m'
      Pure.pure (a :: l)) (do
      let d ← r
      let l ← r'
      Pure.pure (d :: l)) := by
  intro s
  rw [← hm s]
  rcases hs : m s with ⟨r, s'⟩
  cases r with
  | error e => rw [Act.bind_of_error hs]; rfl
  | ok a =>
    rw [Act.bind_of_ok hs, ← hm' s']
    rcases hs' : m' s' with ⟨r', s''⟩
    cases r' with
    | error e => rw [Act.bind_of_error hs']; rfl
    | ok l => rw [Act.bind_of_ok hs']; rfl

theorem EndsIn.each {ι : Type} {f : ι → Act σ ε α} {g : ι → Except ε α} (h : ∀ i, EndsIn (f i) (g i)) (l : List ι) :
    EndsIn (Act.each f l) (l.mapM g) := by
  induction l with
  | nil => exact .pure []
  | cons i l ih =>
    rw [List.mapM_cons]
    exact (h i).bind (fun a ↦ ih.bind (fun l ↦ .pure (a :: l)))

theorem Shows.each {ι : Type} {f : ι → Act σ ε α} {g : ι → Except ε δ} (h : ∀ i, Shows view (f i) (g i)) (l : List ι) :
    Shows (List.map view) (Act.each f l) (l.mapM g) := by
  induction l with
  | nil => exact .pure []
  | cons i l ih =>
    rw [List.mapM_cons]
    exact .cons (h i) ih

end Views

end McpSqlServer.Library

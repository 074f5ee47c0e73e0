import McpSqlServer.Library.Text.Str
import Mathlib.Data.List.Forall2

namespace McpSqlServer.Library.Python

open Library.Text

/-- The exception classes that `except` clauses tell apart; `cancelled` is a
`BaseException` that no `except Exception` catches. -/
inductive ExcKind
  | permissionError
  | valueError
  | other
  | cancelled
  deriving DecidableEq

/-- An exception: its class, `str()` of its arguments and of itself, and the `sqlstate`
attribute that some drivers set. -/
structure Exc where
  kind : ExcKind
  className : Str
  args : List Str
  text : Str
  sqlstate : Option Str := none
  deriving DecidableEq

def Exc.ofMessage (kind : ExcKind) (className message : Str) : Exc where
  kind := kind
  className := className
  args := [message]
  text := message

def permissionError (message : Str) : Exc := .ofMessage .permissionError "PermissionError".toList message

def valueError (message : Str) : Exc := .ofMessage .valueError "ValueError".toList message

def runtimeError (message : Str) : Exc := .ofMessage .other "RuntimeError".toList message

def typeError (message : Str) : Exc := .ofMessage .other "TypeError".toList message

def overflowError (message : Str) : Exc := .ofMessage .other "OverflowError".toList message

def keyError (key : Str) : Exc where
  kind := .other
  className := "KeyError".toList
  args := [key]
  text := ['\''] ++ key ++ ['\'']

def httpException (statusCode detail : Str) : Exc where
  kind := .other
  className := "HTTPException".toList
  args := [statusCode, detail]
  text := statusCode ++ ": ".toList ++ detail

def Exc.caught (e : Exc) : Bool := e.kind ≠ .cancelled

/-- What `except (TypeError, ValueError)` catches. -/
def Exc.ofConversion (e : Exc) : Bool := e.kind = .valueError || e.className = "TypeError".toList

def OnlyExceptions {α : Type} (r : Except Exc α) : Prop := ∀ e, r = .error e → e.caught = true

namespace OnlyExceptions

variable {α β : Type} {r : Except Exc α}

theorem ok (a : α) : OnlyExceptions (.ok a) := fun e h ↦ by cases h

theorem error {e : Exc} (he : e.caught = true) : OnlyExceptions (α := α) (.error e) := fun e' h ↦ by
  cases h
  exact he

theorem bind {f : α → Except Exc β} (hr : OnlyExceptions r) (hf : ∀ a, OnlyExceptions (f a)) :
    OnlyExceptions (r.bind f) := by
  cases r with
  | ok a => exact hf a
  | error e => exact error (hr e rfl)

end OnlyExceptions

theorem exists_of_map_ok {α β : Type} {r : Except Exc α} {f : α → β} {b : β} (h : r.map f = .ok b) :
    ∃ a, r = .ok a ∧ f a = b := by
  cases r with
  | ok a => exact ⟨a, rfl, Except.ok.inj h⟩
  | error e => cases h

theorem exists_of_bind_ok {α β : Type} {r : Except Exc α} {f : α → Except Exc β} {b : β} (h : r.bind f = .ok b) :
    ∃ a, r = .ok a ∧ f a = .ok b := by
  cases r with
  | ok a => exact ⟨a, rfl, h⟩
  | error e => cases h

theorem ok_bind {α β : Type} (a : α) (f : α → Except Exc β) : (.ok a : Except Exc α) >>= f = f a := rfl

theorem mapM_eq_ok {α β : Type} {f : α → Except Exc β} {g : α → β} (h : ∀ a, f a = .ok (g a)) (l : List α) :
    l.mapM f = .ok (l.map g) := by
  induction l with
  | nil => rfl
  | cons a l ih =>
    rw [List.mapM_cons, h, ih]
    rfl

theorem error_bind {α β : Type} {r : Except Exc α} {e : Exc} (h : r = .error e) (f : α → Except Exc β) :
    r >>= f = .error e := by
  rw [h]
  rfl

theorem bind_pure_eq_map {α β : Type} (r : Except Exc α) (f : α → β) : (r >>= fun a ↦ pure (f a)) = r.map f := by
  cases r <;> rfl

theorem map_bind_except {α β γ : Type} (r : Except Exc α) (f : α → Except Exc β) (g : β → γ) :
    (r >>= f).map g = r >>= fun a ↦ (f a).map g := by
  cases r <;> rfl

theorem map_fst_except {α β γ : Type} (r : Except Exc α) (f : α → β) (g : α → γ) :
    (r.map (fun a ↦ (f a, g a))).map Prod.fst = r.map f := by
  cases r <;> rfl

theorem exists_mapM_forall₂ {α β : Type} {f : α → Except Exc β} {R : α → β → Prop} {l : List α}
    (h : ∀ a ∈ l, ∃ b, f a = .ok b ∧ R a b) : ∃ bs, l.mapM f = .ok bs ∧ List.Forall₂ R l bs := by
  induction l with
  | nil => exact ⟨[], rfl, .nil⟩
  | cons a l ih =>
    obtain ⟨b, hb, hab⟩ := h a List.mem_cons_self
    obtain ⟨bs, hbs, hall⟩ := ih (fun a ha ↦ h a (List.mem_cons_of_mem _ ha))
    refine ⟨b :: bs, ?_, .cons hab hall⟩
    rw [List.mapM_cons, hb, hbs]
    rfl

theorem exists_mapM_ok {α β : Type} {f : α → Except Exc β} {l : List α} (h : ∀ a ∈ l, ∃ b, f a = .ok b) :
    ∃ bs, l.mapM f = .ok bs := by
  have hR : ∀ a ∈ l, ∃ b, f a = .ok b ∧ True := fun a ha ↦ (h a ha).imp (fun b hb ↦ ⟨hb, trivial⟩)
  obtain ⟨bs, hbs, -⟩ := exists_mapM_forall₂ (R := fun _ _ ↦ True) hR
  exact ⟨bs, hbs⟩

/-- Two computations that raise the same exception or return related values. -/
inductive SameOutcome {α β : Type} (R : α → β → Prop) : Except Exc α → Except Exc β → Prop
  | ok {a : α} {b : β} (h : R a b) : SameOutcome R (.ok a) (.ok b)
  | error (e : Exc) : SameOutcome R (.error e) (.error e)

namespace SameOutcome

variable {α β γ δ : Type} {R : α → β → Prop} {S : γ → δ → Prop} {m : Except Exc α} {m' : Except Exc β}

theorem bind {f : α → Except Exc γ} {g : β → Except Exc δ} (h : SameOutcome R m m')
    (hfg : ∀ a b, R a b → SameOutcome S (f a) (g b)) : SameOutcome S (m >>= f) (m' >>= g) := by
  cases h with
  | ok hab => exact hfg _ _ hab
  | error e => exact .error e

theorem mapM {f : α → Except Exc γ} {g : β → Except Exc δ} {l : List α} {l' : List β} (h : List.Forall₂ R l l')
    (hfg : ∀ a b, R a b → SameOutcome S (f a) (g b)) : SameOutcome (List.Forall₂ S) (l.mapM f) (l'.mapM g) := by
  induction h with
  | nil => exact .ok .nil
  | cons hab _ ih =>
    rw [List.mapM_cons, List.mapM_cons]
    exact (hfg _ _ hab).bind (fun c d hcd ↦ ih.bind (fun cs ds hcds ↦ .ok (.cons hcd hcds)))

theorem foldlM {f : γ → α → Except Exc γ} {g : δ → β → Except Exc δ} {l : List α} {l' : List β} {c : γ} {d : δ}
    (h : List.Forall₂ R l l') (hcd : S c d)
    (hfg : ∀ c d a b, S c d → R a b → SameOutcome S (f c a) (g d b)) : SameOutcome S (l.foldlM f c) (l'.foldlM g d) := by
  induction h generalizing c d with
  | nil => exact .ok hcd
  | cons hab _ ih =>
    rw [List.foldlM_cons, List.foldlM_cons]
    exact (hfg c d _ _ hcd hab).bind (fun c' d' h ↦ ih h)

end SameOutcome

end McpSqlServer.Library.Python

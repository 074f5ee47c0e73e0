import McpSqlServer.Library.Python.IntText
import Mathlib.Data.List.TakeWhile

namespace McpSqlServer.Library.Python

open Text

/-- A piece of an f-string: a text, or an integer argument times a constant. -/
inductive Piece (κ : Type)
  | text (s : String)
  | hole (p : κ) (factor : ℕ)

abbrev FString (κ : Type) := List (Piece κ)

variable {κ : Type}

def Piece.render (a : κ → ℤ) : Piece κ → Str
  | .text s => s.toList
  | .hole p k => intText (a p * k)

def inNumber (c : Char) : Bool := c.isDigit || c = '-'

namespace FString

def render (a : κ → ℤ) (t : FString κ) : Str := t.flatMap (Piece.render a)

def holes : FString κ → List κ
  | [] => []
  | .text _ :: t => holes t
  | .hole p _ :: t => p :: holes t

/-- Behind each argument comes a text that cannot continue a number. -/
inductive Separated : FString κ → Prop
  | nil : Separated []
  | text {s : String} {t : FString κ} : Separated t → Separated (.text s :: t)
  | hole {p : κ} {k : ℕ} {s : String} {c : Char} {l : Str} {t : FString κ} : 0 < k → s = String.ofList (c :: l) →
      inNumber c = false → Separated t → Separated (.hole p k :: .text s :: t)

inductive Free (bad : Char → Bool) : FString κ → Prop
  | nil : Free bad []
  | text {s : String} {l : Str} {t : FString κ} : s = String.ofList l → (l.all fun c ↦ !bad c) = true → Free bad t →
      Free bad (.text s :: t)
  | hole {p : κ} {k : ℕ} {t : FString κ} : Free bad t → Free bad (.hole p k :: t)

variable {a b : κ → ℤ} {t : FString κ} {c : Char}

theorem render_cons (a : κ → ℤ) (x : Piece κ) (t : FString κ) : render a (x :: t) = x.render a ++ render a t := rfl

theorem inNumber_of_mem_intText {n : ℤ} (h : c ∈ intText n) : inNumber c = true := by
  rw [inNumber, Bool.or_eq_true, decide_eq_true_iff]
  exact (mem_intText h).symm

theorem intText_append_inj {m n : ℤ} {u v : Str} (hc : inNumber c = false)
    (h : intText m ++ c :: u = intText n ++ c :: v) : m = n ∧ u = v := by
  have hspan : ∀ (i : ℤ) (w : Str), (intText i ++ c :: w).takeWhile inNumber = intText i := by
    intro i w
    rw [List.takeWhile_append_of_pos (fun _ hd ↦ inNumber_of_mem_intText hd),
      List.takeWhile_cons_of_neg (by rw [hc]; exact Bool.false_ne_true), List.append_nil]
  have hnum : intText m = intText n := by rw [← hspan m u, h, hspan n v]
  rw [hnum] at h
  exact ⟨intText_injective hnum, (List.cons.inj (List.append_cancel_left h)).2⟩

theorem Free.notMem_render {bad : Char → Bool} (h : Free bad t) (hnum : ∀ c, inNumber c = true → bad c = false)
    (hc : bad c = true) : c ∉ render a t := by
  induction h with
  | nil => exact List.not_mem_nil
  | @text s l t hs hl _ ih =>
    rw [render_cons, List.mem_append, not_or]
    refine ⟨fun hmem ↦ ?_, ih⟩
    rw [Piece.render, hs, String.toList_ofList] at hmem
    have hgood := List.all_eq_true.mp hl c hmem
    rw [hc] at hgood
    cases hgood
  | hole _ ih =>
    rw [render_cons, List.mem_append, not_or]
    refine ⟨fun hmem ↦ ?_, ih⟩
    rw [hnum c (inNumber_of_mem_intText hmem)] at hc
    cases hc

theorem mem_render_of_text {s : String} (h : .text s ∈ t) (hc : c ∈ s.toList) : c ∈ render a t :=
  List.mem_flatMap.mpr ⟨.text s, h, hc⟩

theorem mem_toList {s : String} {l : Str} (h : s = String.ofList l) (hc : l.elem c = true) : c ∈ s.toList := by
  rw [h, String.toList_ofList]
  exact List.elem_iff.mp hc

/-- Two lists of arguments give one text exactly if they agree on the arguments that occur. -/
theorem Separated.render_eq_iff (h : Separated t) : render a t = render b t ↔ ∀ p ∈ holes t, a p = b p := by
  induction h with
  | nil => exact iff_of_true rfl (fun p hp ↦ absurd hp List.not_mem_nil)
  | text _ ih => rw [render_cons, render_cons, Piece.render, Piece.render, List.append_cancel_left_eq, ih, holes]
  | @hole p k s c l t hk hs hc _ ih =>
    have hk' : (k : ℤ) ≠ 0 := Int.natCast_ne_zero_iff_pos.mpr hk
    rw [holes, holes, List.forall_mem_cons, ← ih, render_cons, render_cons, render_cons, render_cons, Piece.render,
      Piece.render, Piece.render, Piece.render, hs, String.toList_ofList, List.cons_append, List.cons_append]
    constructor
    · intro heq
      obtain ⟨hp, hrest⟩ := intText_append_inj hc heq
      exact ⟨Int.eq_of_mul_eq_mul_right hk' hp, List.append_cancel_left hrest⟩
    · intro ⟨hp, hrest⟩
      rw [hp, hrest]

end FString

end McpSqlServer.Library.Python

import McpSqlServer.Library.Text.Str
import Mathlib.Logic.Function.Basic
import Mathlib.Algebra.Order.Ring.Int

namespace McpSqlServer.Library.SortedSets

open Text

/-! Sorted sets under expiring keys: what Redis documents of four commands, and a store that behaves so. -/

/-- The members of a sorted set, each once, with their scores. -/
abbrev SortedSet := List (Str × ℤ)

/-- A key with an empty set does not exist. Times are in milliseconds. -/
structure Entry where
  members : SortedSet := []
  expireAt : Option ℤ := none

/-- What a command finds under a key: nothing, once its time to live is over. -/
def Entry.live (clock : ℤ) (e : Entry) : Entry :=
  match e.expireAt with
  | some t => if t ≤ clock then {} else e
  | none => e

/-- A key whose set a command leaves empty is removed, with its time to live. -/
def Entry.settle (e : Entry) : Entry := if e.members.isEmpty then {} else e

def Entry.remove (low high : ℤ) (e : Entry) : Entry :=
  ({ e with members := e.members.filter (fun m ↦ ¬ (low ≤ m.2 ∧ m.2 ≤ high)) } : Entry).settle

/-- A member that is there already gets the new score. -/
def Entry.add (score : ℤ) (member : Str) (e : Entry) : Entry :=
  ({ e with members := e.members.filter (fun m ↦ m.1 ≠ member) ++ [(member, score)] } : Entry).settle

def Entry.lasting (t : ℤ) (e : Entry) : Entry := ({ e with expireAt := some t } : Entry).settle

def Entry.renewed (clock seconds : ℤ) (member : Str) (e : Entry) : Entry :=
  (((e.live clock).add clock member).live clock).lasting (clock + 1000 * seconds)

/-- The same members with the same scores, in whatever order, and the same time to live. -/
def Entry.Alike (e e' : Entry) : Prop := e.members.Perm e'.members ∧ e.expireAt = e'.expireAt

/-- A server with the commands, each at a time of its clock, and the laws that Redis documents for them. -/
class Redis (σ : Type) where
  empty : σ
  zremrangebyscore (clock : ℤ) (key : Str) (low high : ℤ) : σ → σ
  zcard (clock : ℤ) (key : Str) : σ → ℕ
  zadd (clock : ℤ) (key : Str) (score : ℤ) (member : Str) : σ → σ
  expire (clock : ℤ) (key : Str) (seconds : ℤ) : σ → σ
  /-- What the server keeps under a key. -/
  entry : σ → Str → Entry
  entry_empty : ∀ key, entry empty key = {}
  zcard_eq : ∀ clock key s, zcard clock key s = ((entry s key).live clock).members.length
  zremrangebyscore_self : ∀ clock key low high s,
    (entry (zremrangebyscore clock key low high s) key).Alike (((entry s key).live clock).remove low high)
  zadd_self : ∀ clock key score member s,
    (entry (zadd clock key score member s) key).Alike (((entry s key).live clock).add score member)
  expire_self : ∀ clock key seconds s,
    (entry (expire clock key seconds s) key).Alike (((entry s key).live clock).lasting (clock + 1000 * seconds))
  zremrangebyscore_of_ne : ∀ clock key low high s k, k ≠ key →
    entry (zremrangebyscore clock key low high s) k = entry s k
  zadd_of_ne : ∀ clock key score member s k, k ≠ key → entry (zadd clock key score member s) k = entry s k
  expire_of_ne : ∀ clock key seconds s k, k ≠ key → entry (expire clock key seconds s) k = entry s k

variable {clock : ℤ} {e e' e'' : Entry}

theorem Entry.Alike.refl (e : Entry) : e.Alike e := ⟨.refl _, rfl⟩

theorem Entry.Alike.trans (h : e.Alike e') (h' : e'.Alike e'') : e.Alike e'' := ⟨h.1.trans h'.1, h.2.trans h'.2⟩

theorem Entry.Alike.settle (h : e.Alike e') : e.settle.Alike e'.settle := by
  have hempty : e.members.isEmpty = e'.members.isEmpty := by
    rw [Bool.eq_iff_iff, List.isEmpty_iff_length_eq_zero, List.isEmpty_iff_length_eq_zero, h.1.length_eq]
  unfold Entry.settle
  rw [hempty]
  split
  · exact .refl _
  · exact h

theorem Entry.Alike.live (h : e.Alike e') : (e.live clock).Alike (e'.live clock) := by
  unfold Entry.live
  rw [← h.2]
  split
  · split
    · exact .refl _
    · exact h
  · exact h

theorem Entry.Alike.lasting (h : e.Alike e') (t : ℤ) : (e.lasting t).Alike (e'.lasting t) :=
  Entry.Alike.settle (e := { e with expireAt := some t }) ⟨h.1, rfl⟩

@[simp] theorem Entry.settle_members (e : Entry) : e.settle.members = e.members := by
  unfold settle
  split
  · rename_i h
    exact (List.isEmpty_iff.mp h).symm
  · rfl

theorem Entry.settle_of_ne_nil (h : e.members ≠ []) : e.settle = e := by
  unfold settle
  rw [if_neg (fun hn ↦ h (List.isEmpty_iff.mp hn))]

theorem Entry.expireAt_of_settle {t : ℤ} (h : e.settle.expireAt = some t) : e.expireAt = some t := by
  unfold settle at h
  split at h
  · cases h
  · exact h

theorem Entry.live_of_lt (h : ∀ t, e.expireAt = some t → clock < t) : e.live clock = e := by
  unfold live
  split
  · rename_i t ht
    rw [if_neg (not_le.mpr (h t ht))]
  · rfl

theorem Entry.lt_of_live {t : ℤ} (h : (e.live clock).expireAt = some t) : clock < t := by
  unfold live at h
  split at h
  · rename_i u hu
    split at h
    · cases h
    · rename_i hlt
      rw [hu] at h
      cases h
      exact not_le.mp hlt
  · rename_i hn
    rw [hn] at h
    cases h

section Store

/-- A store that keeps the members in the order in which they were added. -/
abbrev Store := Str → Entry

def Store.modify (clock : ℤ) (key : Str) (f : Entry → Entry) (store : Store) : Store :=
  Function.update store key (f ((store key).live clock))

theorem Store.modify_self (clock : ℤ) (key : Str) (f : Entry → Entry) (store : Store) :
    (store.modify clock key f key).Alike (f ((store key).live clock)) := by
  rw [modify, Function.update_self]
  exact .refl _

theorem Store.modify_of_ne (clock : ℤ) (key : Str) (f : Entry → Entry) (store : Store) (k : Str) (h : k ≠ key) :
    store.modify clock key f k = store k := Function.update_of_ne h _ _

instance : Redis Store where
  empty _ := {}
  zremrangebyscore clock key low high := Store.modify clock key (Entry.remove low high)
  zcard clock key store := ((store key).live clock).members.length
  zadd clock key score member := Store.modify clock key (Entry.add score member)
  expire clock key seconds := Store.modify clock key (Entry.lasting (clock + 1000 * seconds))
  entry store key := store key
  entry_empty _ := rfl
  zcard_eq _ _ _ := rfl
  zremrangebyscore_self clock key _ _ store := Store.modify_self clock key _ store
  zadd_self clock key _ _ store := Store.modify_self clock key _ store
  expire_self clock key _ store := Store.modify_self clock key _ store
  zremrangebyscore_of_ne clock key _ _ store := Store.modify_of_ne clock key _ store
  zadd_of_ne clock key _ _ store := Store.modify_of_ne clock key _ store
  expire_of_ne clock key _ store := Store.modify_of_ne clock key _ store

end Store

/-- A set whose members have scores in a window, and lasts until they have left it. -/
structure Entry.Retains (e : Entry) (history : SortedSet) (cutoff lifetime : ℤ) : Prop where
  members : e.members.Perm (history.filter (fun m ↦ cutoff < m.2))
  expiry : ∀ t, e.expireAt = some t → ∀ m ∈ history, m.2 + lifetime ≤ t

theorem Entry.Retains.of_alike {history : SortedSet} {cutoff lifetime : ℤ} (h : e'.Retains history cutoff lifetime)
    (ha : e.Alike e') : e.Retains history cutoff lifetime where
  members := ha.1.trans h.members
  expiry t ht := h.expiry t (ha.2.symm.trans ht)

theorem Entry.Retains.live {history : SortedSet} {cutoff window lifetime : ℤ} (h : e.Retains history cutoff lifetime)
    (hw : window ≤ lifetime) :
    (e.live clock).Retains history cutoff lifetime ∨ (e.live clock).Retains history (clock - window) lifetime := by
  by_cases hl : ∀ t, e.expireAt = some t → clock < t
  · rw [live_of_lt hl]
    exact .inl h
  · simp only [not_forall, not_lt] at hl
    obtain ⟨t, ht, hle⟩ := hl
    have hlive : e.live clock = {} := by
      unfold Entry.live
      simp only [ht, if_pos hle]
    have hgone : history.filter (fun m ↦ clock - window < m.2) = [] := by
      refine List.filter_eq_nil_iff.mpr (fun m hm hlt ↦ ?_)
      have hexp := h.expiry t ht m hm
      simp only [decide_eq_true_eq] at hlt
      omega
    rw [hlive]
    refine .inr ⟨?_, fun t ht ↦ ?_⟩
    · rw [hgone]
    · cases ht

theorem Entry.Retains.remove {history : SortedSet} {cutoff high lifetime : ℤ} (h : e.Retains history cutoff lifetime)
    (hs : ∀ m ∈ history, 0 ≤ m.2) (hc : cutoff ≤ high) : (e.remove 0 high).Retains history high lifetime := by
  refine ⟨?_, fun t ht ↦ ?_⟩
  case refine_2 =>
    have ht' := expireAt_of_settle ht
    exact h.expiry t ht'
  have hkeep : (history.filter (fun m ↦ cutoff < m.2)).filter (fun m ↦ ¬ (0 ≤ m.2 ∧ m.2 ≤ high)) =
      history.filter (fun m ↦ high < m.2) := by
    rw [List.filter_filter]
    refine List.filter_congr (fun m hm ↦ ?_)
    have h0 := hs m hm
    by_cases hh : high < m.2
    · have hcm : cutoff < m.2 := by omega
      simp [h0, hh, hcm]
    · simp [h0, hh, not_lt.mp hh]
  rw [Entry.remove, settle_members, ← hkeep]
  exact h.members.filter _

theorem Entry.Retains.add {history : SortedSet} {cutoff seconds : ℤ} {member : Str} {lifetime : ℤ}
    (h : e.Retains history cutoff lifetime) (hl : ∀ t, e.expireAt = some t → clock < t)
    (hm : ∀ m ∈ history, m.1 ≠ member) (hs : ∀ m ∈ history, m.2 ≤ clock) (hc : cutoff < clock) :
    (((e.add clock member).live clock).lasting (clock + 1000 * seconds)).Retains (history ++ [(member, clock)]) cutoff
      (1000 * seconds) := by
  have hne : e.members.filter (fun m ↦ m.1 ≠ member) ++ [(member, clock)] ≠ [] :=
    List.append_ne_nil_of_right_ne_nil _ (List.cons_ne_nil _ _)
  have hadded (t : Option ℤ) : (Entry.mk (e.members.filter (fun m ↦ m.1 ≠ member) ++ [(member, clock)]) t).settle =
      ⟨e.members.filter (fun m ↦ m.1 ≠ member) ++ [(member, clock)], t⟩ := settle_of_ne_nil hne
  have hlive : (Entry.mk (e.members.filter (fun m ↦ m.1 ≠ member) ++ [(member, clock)]) e.expireAt).live clock =
      ⟨e.members.filter (fun m ↦ m.1 ≠ member) ++ [(member, clock)], e.expireAt⟩ := live_of_lt hl
  rw [Entry.add, hadded, hlive, lasting, hadded]
  constructor
  · have hkeep : e.members.filter (fun m ↦ m.1 ≠ member) = e.members := by
      rw [List.filter_eq_self]
      intro m hm'
      simpa using hm m (List.mem_filter.mp (h.members.mem_iff.mp hm')).1
    rw [hkeep, List.filter_append, List.filter_singleton]
    simpa [hc] using h.members.append_right [(member, clock)]
  · intro t ht m hm'
    cases ht
    rcases List.mem_append.mp hm' with hm' | hm'
    · exact add_le_add (hs m hm') le_rfl
    · rw [List.mem_singleton.mp hm']

end McpSqlServer.Library.SortedSets

import McpSqlServer.Library.Python.Exc
import McpSqlServer.Library.Python.Value

namespace McpSqlServer.Library.Python

open Text

/-- The objects that `copy.deepcopy` cannot copy, and what it raises for them. -/
abbrev Uncopyable := Str → Option Exc

variable (U : Uncopyable)

mutual

/-- `copy.deepcopy(v)`. The objects are dates and numbers, whose copies are equal to them. -/
def deepcopy : Value → Except Exc Value
  | .none => .ok .none
  | .bool b => .ok (.bool b)
  | .int n => .ok (.int n)
  | .str s => .ok (.str s)
  | .list l => (deepcopyItems l).map .list
  | .dict d => (deepcopyDict d).map .dict
  | .object text =>
    match U text with
    | none => .ok (.object text)
    | some e => .error e

def deepcopyItems : List Value → Except Exc (List Value)
  | [] => .ok []
  | v :: l => (deepcopy v).bind (fun v ↦ (deepcopyItems l).map (v :: ·))

def deepcopyDict : List (Str × Value) → Except Exc (List (Str × Value))
  | [] => .ok []
  | (k, v) :: d => (deepcopy v).bind (fun v ↦ (deepcopyDict d).map ((k, v) :: ·))

end

variable {U}

mutual

theorem eq_of_deepcopy {v copy : Value} (h : deepcopy U v = .ok copy) : copy = v := by
  cases v with
  | none | bool b | int n | str s => exact (Except.ok.inj h).symm
  | list l =>
    obtain ⟨items, hl, rfl⟩ := exists_of_map_ok h
    rw [eq_of_deepcopyItems hl]
  | dict d =>
    obtain ⟨entries, hd, rfl⟩ := exists_of_map_ok h
    rw [eq_of_deepcopyDict hd]
  | object text =>
    rw [deepcopy] at h
    cases ht : U text with
    | none =>
      rw [ht] at h
      exact (Except.ok.inj h).symm
    | some e =>
      rw [ht] at h
      cases h

theorem eq_of_deepcopyItems {l copies : List Value} (h : deepcopyItems U l = .ok copies) : copies = l := by
  cases l with
  | nil => exact (Except.ok.inj h).symm
  | cons v l =>
    obtain ⟨copy, hv, h⟩ := exists_of_bind_ok h
    obtain ⟨rest, hl, rfl⟩ := exists_of_map_ok h
    rw [eq_of_deepcopy hv, eq_of_deepcopyItems hl]

theorem eq_of_deepcopyDict {d copies : List (Str × Value)} (h : deepcopyDict U d = .ok copies) : copies = d := by
  cases d with
  | nil => exact (Except.ok.inj h).symm
  | cons entry d =>
    obtain ⟨k, v⟩ := entry
    obtain ⟨copy, hv, h⟩ := exists_of_bind_ok h
    obtain ⟨rest, hd, rfl⟩ := exists_of_map_ok h
    rw [eq_of_deepcopy hv, eq_of_deepcopyDict hd]

end

end McpSqlServer.Library.Python

/-! Finite maps with texts as keys, kept in the order of the keys so that a map has one form. -/
namespace CredentialIssuer

structure Keyed (α : Type) where
  entries : List (String × α)
  ordered : entries.Pairwise fun a b => a.1 < b.1
  deriving Repr

namespace Keyed

variable {α : Type}

def empty : Keyed α := ⟨[], .nil⟩

def put (key : String) (value : α) : List (String × α) → List (String × α)
  | [] => [(key, value)]
  | (k, v) :: rest =>
    if key < k then (key, value) :: (k, v) :: rest
    else if key = k then (key, value) :: rest
    else (k, v) :: put key value rest

private theorem mem_put {key : String} {value : α} {e : String × α} {l : List (String × α)}
    (h : e ∈ put key value l) : e = (key, value) ∨ e ∈ l := by
  induction l with
  | nil => simpa [put] using h
  | cons a rest ih =>
    obtain ⟨k, v⟩ := a
    simp only [put] at h
    split at h
    · simpa using h
    · split at h <;> grind

private theorem put_ordered (key : String) (value : α) {l : List (String × α)}
    (h : l.Pairwise fun a b => a.1 < b.1) : (put key value l).Pairwise fun a b => a.1 < b.1 := by
  induction l with
  | nil => simp [put]
  | cons a rest ih =>
    obtain ⟨k, v⟩ := a
    obtain ⟨below, tail⟩ := List.pairwise_cons.1 h
    simp only [put]
    split
    · rename_i lt
      refine .cons (fun e he => ?_) h
      rcases List.mem_cons.1 he with rfl | he
      · exact lt
      · exact String.lt_trans lt (below e he)
    · split
      · rename_i eq
        exact .cons (fun e he => eq ▸ below e he) tail
      · rename_i nlt ne
        refine .cons (fun e he => ?_) (ih tail)
        rcases mem_put he with rfl | he
        · exact Std.lt_of_le_of_ne (String.not_lt.1 nlt) (Ne.symm ne)
        · exact below e he

/-- Replaces what was there under the key. -/
def insert (m : Keyed α) (key : String) (value : α) : Keyed α :=
  ⟨put key value m.entries, put_ordered key value m.ordered⟩

def erase (m : Keyed α) (key : String) : Keyed α :=
  ⟨m.entries.filter fun e => e.1 ≠ key, m.ordered.filter _⟩

def find? (m : Keyed α) (key : String) : Option α := m.entries.lookup key

def size (m : Keyed α) : Nat := m.entries.length

def isEmpty (m : Keyed α) : Bool := m.entries.isEmpty

/-- Of entries with one key the last stays. -/
def ofList (entries : List (String × α)) : Keyed α :=
  entries.foldl (fun m e => m.insert e.1 e.2) empty

end Keyed

end CredentialIssuer

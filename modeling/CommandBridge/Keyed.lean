/-!
# Lists of entries under text keys

A keyed list holds at most one entry per key when it is built by `insert`, and its
keys then increase in code-point order. Several entries of one key may stand in a
list that comes from outside; `sort` keeps the last of them.
-/

set_option autoImplicit false

namespace CommandBridge.Keyed

variable {α : Type}

/-- Puts an entry in its place, replacing one of the same key. -/
def insert (key : String) (value : α) : List (String × α) → List (String × α)
  | [] => [(key, value)]
  | (k, v) :: rest =>
    if key < k then (key, value) :: (k, v) :: rest
    else if key = k then (key, value) :: rest
    else (k, v) :: insert key value rest

def sort (entries : List (String × α)) : List (String × α) :=
  entries.foldl (fun sorted m => insert m.1 m.2 sorted) []

def lookup (key : String) : List (String × α) → Option α
  | [] => none
  | (k, v) :: rest => if k = key then some v else lookup key rest

def erase (key : String) (entries : List (String × α)) : List (String × α) :=
  entries.filter fun m => decide (m.1 ≠ key)

def keys (entries : List (String × α)) : List String := entries.map Prod.fst

def contains (key : String) (entries : List (String × α)) : Bool := (lookup key entries).isSome

def Sorted : List (String × α) → Prop
  | [] => True
  | [_] => True
  | a :: b :: rest => a.1 < b.1 ∧ Sorted (b :: rest)

theorem mem_of_lookup {key : String} {v : α} {entries : List (String × α)}
    (h : lookup key entries = some v) : (key, v) ∈ entries := by
  induction entries with
  | nil => simp [lookup] at h
  | cons m rest ih =>
    obtain ⟨k, w⟩ := m
    simp only [lookup] at h
    split at h
    · next e => cases h; subst e; simp
    · exact List.mem_cons_of_mem _ (ih h)

theorem sizeOf_lookup_lt [SizeOf α] {key : String} {v : α} {entries : List (String × α)}
    (h : lookup key entries = some v) : sizeOf v < sizeOf entries := by
  have hm := List.sizeOf_lt_of_mem (mem_of_lookup h)
  have : sizeOf (key, v) = 1 + sizeOf key + sizeOf v := rfl
  omega

theorem lookup_insert_self (key : String) (v : α) (entries : List (String × α)) :
    lookup key (insert key v entries) = some v := by
  induction entries with
  | nil => simp [insert, lookup]
  | cons m rest ih =>
    obtain ⟨k, w⟩ := m
    simp only [insert]
    split
    · simp [lookup]
    · split
      · simp [lookup]
      · next h => simp [lookup, Ne.symm h, ih]

theorem lookup_insert_of_ne {key other : String} (h : other ≠ key) (v : α)
    (entries : List (String × α)) :
    lookup other (insert key v entries) = lookup other entries := by
  induction entries with
  | nil => simp [insert, lookup, Ne.symm h]
  | cons m rest ih =>
    obtain ⟨k, w⟩ := m
    simp only [insert]
    split
    · simp [lookup, Ne.symm h]
    · split
      · next e => subst e; simp [lookup, Ne.symm h]
      · simp only [lookup, ih]

end CommandBridge.Keyed

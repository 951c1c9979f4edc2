import CommandBridge.Files.Tree
import Mathlib.Data.List.Basic
import Mathlib.Tactic.Common

/-!
# Laws of all file systems

The full name of an entry is that of its directory with its own name behind it. Paths are read so
in every file system that can say where the pieces of a path lead.
-/

set_option autoImplicit false

namespace CommandBridge

open FileTree (Place Target key)

namespace Path

def fileName (p : Path) : String := p.pieces.getLast?.getD ""

def front (p : Path) : List String := p.pieces.dropLast

/-- A piece that names an entry, and no way to walk on or back. -/
def Names (piece : String) : Prop := isIdle piece = false ∧ piece ≠ ".."

instance (piece : String) : Decidable (Names piece) := inferInstanceAs (Decidable (_ ∧ _))

variable {p : Path}

@[simp] theorem fileName_child (name : String) : (p.child name).fileName = name := by
  simp [fileName, child]

@[simp] theorem front_child (name : String) : (p.child name).front = p.pieces := by
  simp [front, child]

@[simp] theorem fileName_withEnding (ending : String) :
    (p.withEnding ending).fileName = p.fileName ++ ending := by
  simp [fileName, withEnding]

@[simp] theorem front_withEnding (ending : String) : (p.withEnding ending).front = p.front := by
  simp [front, withEnding]

/-- A path without pieces leads nowhere, as one with an empty piece. -/
theorem pieces_eq (p : Path) : p.pieces = p.front ++ [p.fileName] ∨ p.pieces = [] := by
  cases last : p.pieces.getLast? with
  | none => exact .inr (List.getLast?_eq_none_iff.mp last)
  | some piece =>
    left
    rw [front, fileName, last]
    exact (List.dropLast_append_getLast? piece last).symm

theorem directory_given (p : Path) : p.directory.pieces ≠ [] := by
  rw [directory]
  split
  · decide
  · next given => simpa using given

end Path

namespace FileTree

/-- The full names of the entries of one directory differ in the entries' own names. -/
theorem exists_key_child (dir : Place) :
    ∃ front : String, ∀ name, key (dir ++ [name]) = front ++ name := by
  induction dir with
  | nil => exact ⟨"", fun name => by simp [key]⟩
  | cons first rest ih =>
    obtain ⟨front, h⟩ := ih
    refine ⟨first ++ "/" ++ front, fun name => ?_⟩
    have longer : key (first :: (rest ++ [name])) = first ++ "/" ++ key (rest ++ [name]) := by
      cases rest <;> simp [key, String.intercalate_cons_cons]
    rw [List.cons_append, longer, h]
    simp only [String.append_assoc]

theorem key_child_inj {dir : Place} {name other : String} :
    key (dir ++ [name]) = key (dir ++ [other]) ↔ name = other := by
  obtain ⟨front, h⟩ := exists_key_child dir
  rw [h, h, String.append_right_inj]

def named? : Except FileFault Target → Option Place
  | .ok (.name place) => some place
  | _ => none

end FileTree

structure Naming (enter? : List String → Option Place) (fullName? : Path → Option String) : Prop where
  idle : ∀ pieces piece, Path.isIdle piece = true → enter? (pieces ++ [piece]) = enter? pieces
  fullName?_eq : ∀ p : Path, fullName? p =
    if Path.Names p.fileName then (enter? p.front).map fun dir => key (dir ++ [p.fileName]) else none

namespace Naming

variable {enter? : List String → Option Place} {fullName? : Path → Option String} {p : Path}

theorem enter?_dropIdle (naming : Naming enter? fullName?) (pieces : List String) :
    enter? (Path.dropIdle pieces).reverse = enter? pieces.reverse := by
  induction pieces with
  | nil => rfl
  | cons piece rest ih =>
    rw [Path.dropIdle]
    split
    · next idle => rw [ih, List.reverse_cons, naming.idle _ _ idle.1]
    · rfl

/-- The directory of a file that is named is where the pieces before the name lead. -/
theorem enter?_directory (naming : Naming enter? fullName?) (names : Path.Names p.fileName) :
    enter? p.directory.pieces = enter? p.front := by
  have parent : p.parent.pieces = (Path.dropIdle p.front.reverse).reverse := by
    rcases p.pieces_eq with pieces | empty
    · rw [Path.parent, pieces, List.reverse_concat, Path.dropIdle, if_neg (by simp [names.1])]
      rfl
    · exact absurd names (by simp [Path.fileName, empty, Path.Names, Path.isIdle])
  have led : enter? p.parent.pieces = enter? p.front := by
    rw [parent, naming.enter?_dropIdle, List.reverse_reverse]
  rw [Path.directory]
  split
  · next top =>
    rw [← led, List.isEmpty_iff.mp top]
    exact naming.idle [] "." (by decide)
  · exact led

end Naming

namespace FileStore

variable {F : Type} [FileStore F] {store store' : F} {p : Path}

/-- What every single directory that is made brings about, a whole path of them does. -/
theorem makeDirectories_related {R : F → F → Prop} (refl : ∀ s, R s s)
    (trans : ∀ s s' s'', R s s' → R s' s'' → R s s'')
    (step : ∀ s s' q, makeDirectory s q = .ok s' → R s s') (store : F) (p : Path) :
    R store (makeDirectories store p).1 := by
  fun_induction makeDirectories store p with
  | case1 | case3 | case4 => exact refl _
  | case2 p given store' made => exact step _ _ _ made
  | case5 p given absent shorter store' fault led ih
  | case7 p given absent shorter store' led fault failed there ih
  | case8 p given absent shorter store' led fault failed there ih =>
    rw [led] at ih
    exact ih
  | case6 p given absent shorter store' led store'' made ih =>
    rw [led] at ih
    exact trans _ _ _ ih (step _ _ _ made)

theorem isDirectory_of_makeDirectories
    (made : ∀ s s' : F, makeDirectory s p = .ok s' → isDirectory s' p = true)
    (h : makeDirectories store p = (store', none)) (given : p.pieces ≠ []) :
    isDirectory store' p = true := by
  rw [makeDirectories, dif_neg given] at h
  split at h
  · next done =>
    cases h
    exact made _ _ done
  · split at h
    · next there =>
      cases h
      exact there
    · cases h
  · split at h
    · cases h
    · split at h
      · next done =>
        cases h
        exact made _ _ done
      · split at h
        · next there =>
          cases h
          exact there
        · cases h

theorem makeDirectories_of_isDirectory (there : isDirectory store p = true)
    (refused : makeDirectory store p = .error .refused) (given : p.pieces ≠ []) :
    makeDirectories store p = (store, none) := by
  rw [makeDirectories, dif_neg given]
  simp only [refused, there, if_true]

end FileStore
end CommandBridge

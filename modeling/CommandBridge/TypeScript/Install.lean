import CommandBridge.Files.Store
import CommandBridge.TypeScript.Module
import CommandBridge.TypeScript.Support

/-!
# Installing a client

The client text and the support module beside it are staged in temporary siblings
and moved into place once both are written. Files that hold their text already are
left alone. When a step fails, what is still staged is removed.
-/

set_option autoImplicit false

namespace CommandBridge.TypeScript

open FileStore

variable {A : Application} {F : Type} [FileStore F]

inductive InstallError where
  | generate (error : GenerateError)
  | io (path : Path)
deriving DecidableEq, Repr

structure Staged where
  temporary : Path
  target : Path
deriving DecidableEq, Repr

abbrev Installed (F : Type) := F × Except InstallError Bool

def temporary (target : Path) : Path := target.withEnding ".tmp"

def discardAll (staged : List Staged) (store : F) : F :=
  staged.foldl (fun store s => discard store s.temporary) store

def moveAll : List Staged → F → F × Except InstallError Unit
  | [], store => (store, .ok ())
  | s :: rest, store =>
    match rename store s.temporary s.target with
    | .ok store => moveAll rest store
    | .error _ => (discardAll (s :: rest) store, .error (.io s.target))

def stageAll : List (Path × String) → List Staged → F → F × Except InstallError (List Staged)
  | [], staged, store => (store, .ok staged)
  | (target, text) :: rest, staged, store =>
    if read? store target = some text then stageAll rest staged store
    else
      match write store (temporary target) text with
      | .ok store => stageAll rest (staged ++ [⟨temporary target, target⟩]) store
      | .error _ => (discardAll staged store, .error (.io (temporary target)))

def installAll (files : List (Path × String)) (store : F) : Installed F :=
  match stageAll files [] store with
  | (store, .error e) => (store, .error e)
  | (store, .ok staged) =>
    match moveAll staged store with
    | (store, .error e) => (store, .error e)
    | (store, .ok ()) => (store, .ok (!staged.isEmpty))

/-- The two files of a client at a path. -/
def clientFiles (client : String) (p : Path) : List (Path × String) :=
  [(p, client), (p.directory.child supportFile, supportText)]

/-- Generates the client of a registry and installs it. -/
def install (r : Registry A) (p : Path) (store : F) : Installed F :=
  match generate r with
  | .error e => (store, .error (.generate e))
  | .ok client =>
    match makeDirectories store p.directory with
    | (store, some _) => (store, .error (.io p.directory))
    | (store, none) => installAll (clientFiles client p) store

end CommandBridge.TypeScript

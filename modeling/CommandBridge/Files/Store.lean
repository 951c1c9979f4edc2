import CommandBridge.Files.Path

/-!
# What is asked of a file system

Files are read, written, moved over others and removed by their paths, and directories are
made. An operation that fails leaves everything as it was.
-/

set_option autoImplicit false

namespace CommandBridge

inductive FileFault where
  | absent
  | refused
deriving DecidableEq, Repr

class FileStore (F : Type) where
  read? : F → Path → Option String
  write : F → Path → String → Except FileFault F
  /-- Moves a file over what stands at the other path, if that is no directory. -/
  rename : F → Path → Path → Except FileFault F
  discard : F → Path → F
  makeDirectory : F → Path → Except FileFault F
  isDirectory : F → Path → Bool

namespace FileStore

variable {F : Type} [FileStore F]

/-- Creates a directory and the directories that lead to it. What it created before a
failure stays. -/
def makeDirectories (store : F) (p : Path) : F × Option FileFault :=
  if h : p.pieces = [] then (store, none)
  else
    match makeDirectory store p with
    | .ok store => (store, none)
    | .error .refused => if isDirectory store p then (store, none) else (store, some .refused)
    | .error .absent =>
      have := Path.length_parent_lt h
      match makeDirectories store p.parent with
      | (store, some fault) => (store, some fault)
      | (store, none) =>
        match makeDirectory store p with
        | .ok store => (store, none)
        | .error fault => if isDirectory store p then (store, none) else (store, some fault)
termination_by p.pieces.length

end FileStore
end CommandBridge

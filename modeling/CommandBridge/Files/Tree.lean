import CommandBridge.Files.Store
import CommandBridge.Keyed

/-!
# A tree of files

Files and directories under one root directory, each under the names that lead to
it. An operation walks its path through directories that exist; it fails without a
trace when the walk or the last step is not possible.
-/

set_option autoImplicit false

namespace CommandBridge

inductive FileEntry where
  | file (text : String)
  | directory
deriving DecidableEq, Repr

/-- The entries under the names that lead to them, joined by slashes. -/
structure FileTree where
  entries : List (String × FileEntry)
deriving DecidableEq, Repr

namespace FileTree

def empty : FileTree := ⟨[]⟩

abbrev Place := List String

def key (place : Place) : String := String.intercalate "/" place

def at? (tree : FileTree) (place : Place) : Option FileEntry :=
  if place.isEmpty then some .directory else Keyed.lookup (key place) tree.entries

def put (tree : FileTree) (place : Place) (entry : FileEntry) : FileTree :=
  ⟨Keyed.insert (key place) entry tree.entries⟩

def remove (tree : FileTree) (place : Place) : FileTree :=
  ⟨Keyed.erase (key place) tree.entries⟩

/-- Where a path leads: to a name in a directory, or to a directory that it names by
where it is. -/
inductive Target where
  | name (place : Place)
  | directory (place : Place)
deriving DecidableEq, Repr

def Target.place : Target → Place
  | .name place => place
  | .directory place => place

def walk (tree : FileTree) (dir : Place) : List String → Except FileFault Target
  | [] => .ok (.directory dir)
  | piece :: rest =>
    if Path.isIdle piece then walk tree dir rest
    else if piece = ".." then
      if dir.isEmpty then .error .refused else walk tree dir.dropLast rest
    else if rest.isEmpty then .ok (.name (dir ++ [piece]))
    else
      match tree.at? (dir ++ [piece]) with
      | some .directory => walk tree (dir ++ [piece]) rest
      | some (.file _) => .error .refused
      | none => .error .absent

def locate (tree : FileTree) (p : Path) : Except FileFault Target :=
  if p.pieces = [""] ∨ p.pieces = [] then .error .absent else tree.walk [] p.pieces

def read? (tree : FileTree) (p : Path) : Option String :=
  match tree.locate p with
  | .ok (.name place) =>
    match tree.at? place with
    | some (.file text) => some text
    | _ => none
  | _ => none

def isDirectory (tree : FileTree) (p : Path) : Bool :=
  match tree.locate p with
  | .ok target => decide (tree.at? target.place = some .directory)
  | .error _ => false

def write (tree : FileTree) (p : Path) (text : String) : Except FileFault FileTree :=
  match tree.locate p with
  | .ok (.name place) =>
    if tree.at? place = some .directory then .error .refused else .ok (tree.put place (.file text))
  | .ok (.directory _) => .error .refused
  | .error fault => .error fault

def rename (tree : FileTree) (source target : Path) : Except FileFault FileTree :=
  match tree.locate source, tree.locate target with
  | .ok (.name s), .ok (.name t) =>
    match tree.at? s with
    | some (.file text) =>
      if tree.at? t = some .directory then .error .refused
      else .ok ((tree.remove s).put t (.file text))
    | some .directory => .error .refused
    | none => .error .absent
  | .error fault, _ => .error fault
  | _, .error fault => .error fault
  | _, _ => .error .refused

def discard (tree : FileTree) (p : Path) : FileTree :=
  match tree.locate p with
  | .ok (.name place) =>
    match tree.at? place with
    | some (.file _) => tree.remove place
    | _ => tree
  | _ => tree

def makeDirectory (tree : FileTree) (p : Path) : Except FileFault FileTree :=
  match tree.locate p with
  | .ok (.name place) =>
    if (tree.at? place).isSome then .error .refused else .ok (tree.put place .directory)
  | .ok (.directory _) => .error .refused
  | .error fault => .error fault

instance : FileStore FileTree :=
  { read?, write, rename, discard, makeDirectory, isDirectory }

def makeDirectories (tree : FileTree) (p : Path) : FileTree × Option FileFault :=
  FileStore.makeDirectories tree p

/-- Puts a file in place, with the directories that lead to it. -/
def place (tree : FileTree) (p : Path) (text : String) : FileTree :=
  let tree := (tree.makeDirectories p.parent).1
  (tree.write p text).toOption.getD tree

end FileTree
end CommandBridge

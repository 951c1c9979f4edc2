import CommandBridge.Files.Tree
import CommandBridge.Proofs.Keyed

/-!
# Volumes

A file system with all that may stand in it: directories, files, symbolic links and devices. A file
may have several names, need not hold text, and may be barred from being read or written. Paths
start at the root, and the links on the way are followed.
-/

set_option autoImplicit false

namespace CommandBridge

/-- What a name stands for; names with the same number are those of one file. -/
inductive Node where
  | directory
  | file (number : Nat)
  | link (target : String)
  | device
deriving DecidableEq, Repr

structure FileBody where
  contents : ByteArray
  readable : Bool
  writable : Bool

namespace FileBody

def fresh (text : String) : FileBody := ⟨text.toUTF8, true, true⟩

def text? (body : FileBody) : Option String :=
  if body.readable then String.fromUTF8? body.contents else none

end FileBody

structure Volume where
  nodes : List (String × Node)
  bodies : List FileBody
  housed : ∀ name number, Keyed.lookup name nodes = some (.file number) → number < bodies.length

def Node.within (bodies : Nat) : Node → Bool
  | .file number => number < bodies
  | _ => true

namespace Volume

open FileTree (Place Target key)

def ofNodes (nodes : List (String × Node)) (bodies : List FileBody)
    (h : nodes.all (fun m => m.2.within bodies.length) = true) : Volume where
  nodes := nodes
  bodies := bodies
  housed _ _ there := of_decide_eq_true (List.all_eq_true.mp h _ (Keyed.mem_of_lookup there))

def node? (vol : Volume) (place : Place) : Option Node :=
  if place.isEmpty then some .directory else Keyed.lookup (key place) vol.nodes

/-- How the last name of a path is taken: as that of a directory to enter, as it is, or for what it
leads to if it is a link. -/
inductive Last where
  | enter
  | keep
  | follow

def Last.stops : Last → Option Node → Bool
  | .enter, _ => false
  | .keep, _ => true
  | .follow, some (.link _) => false
  | .follow, _ => true

inductive Stop where
  | found (target : Target)
  | link (dir : Place) (text : String) (rest : List String)
  | fault (fault : FileFault)

/-- Walks to the next link. The root is its own parent. -/
def stretch (vol : Volume) (last : Last) (dir : Place) : List String → Stop
  | [] => .found (.directory dir)
  | piece :: rest =>
    if Path.isIdle piece then stretch vol last dir rest
    else if piece = ".." then stretch vol last dir.dropLast rest
    else if rest.isEmpty ∧ last.stops (vol.node? (dir ++ [piece])) then .found (.name (dir ++ [piece]))
    else
      match vol.node? (dir ++ [piece]) with
      | some .directory => stretch vol last (dir ++ [piece]) rest
      | some (.link text) => .link dir text rest
      | some _ => .fault .refused
      | none => .fault .absent

def origin (dir : Place) (text : String) : Place := if text.toList.head? = some '/' then [] else dir

def walk (vol : Volume) (last : Last) (links : Nat) (dir : Place) (pieces : List String) :
    Except FileFault Target :=
  match vol.stretch last dir pieces with
  | .found target => .ok target
  | .fault fault => .error fault
  | .link dir text rest =>
    match links with
    | 0 => .error .refused
    | links + 1 => vol.walk last links (origin dir text) (Text.cut '/' text ++ rest)

def linkLimit : Nat := 40

def reach (vol : Volume) (last : Last) (p : Path) : Except FileFault Target :=
  if p.pieces = [""] ∨ p.pieces = [] then .error .absent else vol.walk last linkLimit [] p.pieces

def create (vol : Volume) (name text : String) : Volume where
  nodes := Keyed.insert name (.file vol.bodies.length) vol.nodes
  bodies := vol.bodies ++ [.fresh text]
  housed other number h := by
    rw [Keyed.lookup_insert] at h
    rw [List.length_append, List.length_singleton]
    split at h
    · cases h
      exact Nat.lt_succ_self _
    · exact Nat.lt_succ_of_lt (vol.housed other number h)

def rewrite (vol : Volume) (number : Nat) (text : String) : Volume where
  nodes := vol.nodes
  bodies := vol.bodies.modify number fun body => { body with contents := text.toUTF8 }
  housed name other h := by
    rw [List.length_modify]
    exact vol.housed name other h

def remove (vol : Volume) (name : String) : Volume where
  nodes := Keyed.erase name vol.nodes
  bodies := vol.bodies
  housed other number h := by
    rw [Keyed.lookup_erase] at h
    split at h
    · cases h
    · exact vol.housed other number h

def addDirectory (vol : Volume) (name : String) : Volume where
  nodes := Keyed.insert name .directory vol.nodes
  bodies := vol.bodies
  housed other number h := by
    rw [Keyed.lookup_insert] at h
    split at h
    · cases h
    · exact vol.housed other number h

def move (vol : Volume) (source target : String) : Volume where
  nodes :=
    match Keyed.lookup source vol.nodes with
    | some node => Keyed.insert target node (Keyed.erase source vol.nodes)
    | none => vol.nodes
  bodies := vol.bodies
  housed other number h := by
    split at h
    · next node held =>
      rw [Keyed.lookup_insert, Keyed.lookup_erase] at h
      split at h
      · cases h
        exact vol.housed source number held
      split at h
      · cases h
      · exact vol.housed other number h
    · exact vol.housed other number h

def read? (vol : Volume) (p : Path) : Option String :=
  match vol.reach .follow p with
  | .ok (.name place) =>
    match vol.node? place with
    | some (.file number) => vol.bodies[number]?.bind FileBody.text?
    | _ => none
  | _ => none

/-- A device takes what is written and keeps nothing of it. -/
def write (vol : Volume) (p : Path) (text : String) : Except FileFault Volume :=
  match vol.reach .follow p with
  | .ok (.name place) =>
    match vol.node? place with
    | none => .ok (vol.create (key place) text)
    | some (.file number) =>
      if vol.bodies[number]?.any FileBody.writable then .ok (vol.rewrite number text)
      else .error .refused
    | some .device => .ok vol
    | some _ => .error .refused
  | .ok (.directory _) => .error .refused
  | .error fault => .error fault

def sameFile : Option Node → Option Node → Bool
  | some (.file number), some (.file other) => number = other
  | _, _ => false

/-- Moves a name, not what a link under it leads to. Where both names are of one file nothing
happens. -/
def rename (vol : Volume) (source target : Path) : Except FileFault Volume :=
  match vol.reach .keep source, vol.reach .keep target with
  | .ok (.name s), .ok (.name t) =>
    if vol.node? s = none then .error .absent
    else if vol.node? s = some .directory ∨ vol.node? t = some .directory then .error .refused
    else if sameFile (vol.node? s) (vol.node? t) then .ok vol
    else .ok (vol.move (key s) (key t))
  | .error fault, _ => .error fault
  | _, .error fault => .error fault
  | _, _ => .error .refused

def discard (vol : Volume) (p : Path) : Volume :=
  match vol.reach .keep p with
  | .ok (.name place) =>
    if vol.node? place = some .directory then vol else vol.remove (key place)
  | _ => vol

def makeDirectory (vol : Volume) (p : Path) : Except FileFault Volume :=
  match vol.reach .keep p with
  | .ok (.name place) =>
    if (vol.node? place).isSome then .error .refused else .ok (vol.addDirectory (key place))
  | .ok (.directory _) => .error .refused
  | .error fault => .error fault

def isDirectory (vol : Volume) (p : Path) : Bool := (vol.reach .enter p).isOk

instance : FileStore Volume :=
  { read?, write, rename, discard, makeDirectory, isDirectory }

end Volume
end CommandBridge

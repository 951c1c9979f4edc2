import CommandBridge.Text.Pieces

/-!
# Paths

A path is the pieces of its text between slashes, so empty pieces and dots stay
visible: a text that ends with a slash names a directory, and `..` is followed
when the path is walked and not before.
-/

set_option autoImplicit false

namespace CommandBridge

structure Path where
  pieces : List String
deriving DecidableEq, Repr

namespace Path

def ofText (text : String) : Path := ⟨Text.cut '/' text⟩

def text (p : Path) : String := String.intercalate "/" p.pieces

def here : Path := ⟨["."]⟩

def isIdle (piece : String) : Bool := piece = "" || piece = "."

/-- Drops idle pieces at the end of a reversed list of pieces; a dot that opens the
path counts. -/
def dropIdle : List String → List String
  | [] => []
  | piece :: rest =>
    if isIdle piece ∧ ¬(piece = "." ∧ rest = []) then dropIdle rest else piece :: rest

def parent (p : Path) : Path := ⟨(dropIdle (dropIdle p.pieces.reverse).tail).reverse⟩

def directory (p : Path) : Path := if p.parent.pieces.isEmpty then here else p.parent

def child (p : Path) (name : String) : Path := ⟨p.pieces ++ [name]⟩

def withEnding (p : Path) (ending : String) : Path :=
  ⟨p.pieces.dropLast ++ [p.pieces.getLast?.getD "" ++ ending]⟩

theorem length_dropIdle_le (pieces : List String) : (dropIdle pieces).length ≤ pieces.length := by
  induction pieces with
  | nil => simp [dropIdle]
  | cons piece rest ih =>
    simp only [dropIdle]
    split
    · simp only [List.length_cons]; omega
    · simp

theorem length_parent_lt {p : Path} (h : p.pieces ≠ []) :
    p.parent.pieces.length < p.pieces.length := by
  have outer := length_dropIdle_le (dropIdle p.pieces.reverse).tail
  have inner := length_dropIdle_le p.pieces.reverse
  have pos : 0 < p.pieces.length := List.length_pos_iff.2 h
  simp only [parent, List.length_reverse, List.length_tail] at *
  omega

end Path
end CommandBridge

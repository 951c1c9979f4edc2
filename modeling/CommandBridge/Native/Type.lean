import CommandBridge.Descriptor.Basic
import CommandBridge.Json.Basic

/-!
# Native types of handlers

The types in which handlers take arguments and give results. Each describes its
shape on the wire. Sharing and boxing do not show on the wire, so they have no form
of their own here.
-/

set_option autoImplicit false

namespace CommandBridge

structure IntFormat where
  name : String
  signed : Bool
  bits : Nat
deriving DecidableEq, Repr

namespace IntFormat

def i8 : IntFormat := ⟨"i8", true, 8⟩
def i16 : IntFormat := ⟨"i16", true, 16⟩
def i32 : IntFormat := ⟨"i32", true, 32⟩
def i64 : IntFormat := ⟨"i64", true, 64⟩
def i128 : IntFormat := ⟨"i128", true, 128⟩
def isize : IntFormat := ⟨"isize", true, 64⟩
def u8 : IntFormat := ⟨"u8", false, 8⟩
def u16 : IntFormat := ⟨"u16", false, 16⟩
def u32 : IntFormat := ⟨"u32", false, 32⟩
def u64 : IntFormat := ⟨"u64", false, 64⟩
def u128 : IntFormat := ⟨"u128", false, 128⟩
def usize : IntFormat := ⟨"usize", false, 64⟩

def all : List IntFormat := [i8, i16, i32, i64, i128, isize, u8, u16, u32, u64, u128, usize]

def holds (f : IntFormat) (n : Int) : Bool :=
  if f.signed then decide (-(Nat.pow 2 (f.bits - 1) : Int) ≤ n ∧ n < Nat.pow 2 (f.bits - 1))
  else decide (0 ≤ n ∧ n < Nat.pow 2 f.bits)

end IntFormat

structure MemberOf (T : Type) where
  name : String
  type : T
  default : Option Json

inductive NativeType where
  | text
  | character
  | integer (format : IntFormat)
  | float
  | boolean
  | unit
  | any
  | option (inner : NativeType)
  | list (item : NativeType)
  | map (key value : NativeType)
  | tuple (items : List NativeType)
  | structure (members : List (MemberOf NativeType))
  /-- An application's own type under the shape that it declares. -/
  | declared (shape : Descriptor)

namespace NativeType

instance : Inhabited NativeType := ⟨.any⟩

mutual
/-- The shape on the wire. A structure that declares no name of its own is any value. -/
def describe : NativeType → Descriptor
  | text | character => .string
  | integer _ => .integer
  | float => .float
  | boolean => .boolean
  | unit => .null
  | any => .unknown
  | option t => .optional (describe t)
  | list t => .sequence (describe t)
  | map k v => .mapping (describe k) (describe v)
  | tuple ts => .tuple (describeAll ts)
  | .structure _ => .unknown
  | declared shape => shape

def describeAll : List NativeType → List Descriptor
  | [] => []
  | t :: rest => describe t :: describeAll rest
end

end NativeType
end CommandBridge

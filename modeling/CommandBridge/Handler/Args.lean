import CommandBridge.Error
import CommandBridge.Native.Read

/-!
# Arguments of a handler

Validated arguments under their declared names. A handler reads each as a native
type; one that is missing reads as `null`.
-/

set_option autoImplicit false

namespace CommandBridge

structure Args where
  members : List (String × Json)
deriving DecidableEq

namespace Args

def toJson (args : Args) : Json := .object args.members

def contains (args : Args) (name : String) : Bool := Keyed.contains name args.members

def get (args : Args) (name : String) (t : NativeType) : Except CommandError Json :=
  match t.read ((Keyed.lookup name args.members).getD .null) with
  | .ok v => .ok v
  | .error e => .error (.invalidArgument ("argument '" ++ name ++ "': " ++ e.message))

def getOr (args : Args) (name : String) (t : NativeType) (default : Json) :
    Except CommandError Json :=
  if args.contains name then args.get name t else .ok default

/-- All arguments as one structure. -/
def parse (args : Args) (t : NativeType) : Except CommandError Json :=
  match t.read args.toJson with
  | .ok v => .ok v
  | .error e => .error (.invalidArgument ("arguments: " ++ e.message))

end Args
end CommandBridge

import CommandBridge.Json.Printer
import CommandBridge.Schema.Definitions
import CommandBridge.Text.KeyCase

/-!
# Type expressions

A descriptor is written as a TypeScript type. A stream has no expression; a reference
has one only when it is defined. `null` is added once, and a union lists each text
once.
-/

set_option autoImplicit false

namespace CommandBridge.TypeScript

inductive GenerateError where
  | unresolvedReference (owner : Owner) (name : String)
  | unrepresentable (owner : Owner) (path : String)
deriving DecidableEq, Repr

def GenerateError.message : GenerateError → String
  | unresolvedReference owner name =>
    owner.text ++ ": type '" ++ name ++ "' is referenced but never defined"
  | unrepresentable owner path =>
    owner.text ++ ": stream type is not representable at '" ++ path ++ "'"

def primitive : Primitive → String
  | .string | .bytes => "string"
  | .integer | .float => "number"
  | .boolean => "boolean"
  | .null => "null"
  | .unknown => "unknown"

def holds (part : List Char) : List Char → Bool
  | [] => part.isEmpty
  | c :: rest => part.isPrefixOf (c :: rest) || holds part rest

def nullable (inner : String) : String :=
  if inner = "null" ∨ " | null".toList.isSuffixOf inner.toList = true ∨ inner = "unknown" then
    inner
  else inner ++ " | null"

def arrayOf (item : String) : String :=
  if holds " | ".toList item.toList then "(" ++ item ++ ")[]" else item ++ "[]"

def keyType : Descriptor → String
  | .primitive .integer | .primitive .float => "number"
  | _ => "string"

/-- Drops later copies of a text. -/
def distinct : List String → List String
  | [] => []
  | t :: rest => t :: (distinct rest).filter fun u => decide (u ≠ t)

def unionOf (members : List String) : String :=
  if members.isEmpty then "never" else String.intercalate " | " (distinct members)

mutual
/-- The expression of a type. `owner` and `path` tell where it stands. -/
def expression (table : Definitions) (owner : Owner) (path : String) :
    Descriptor → Except GenerateError String
  | .primitive p => .ok (primitive p)
  | .optional t => (expression table owner path t).map nullable
  | .sequence t => (expression table owner (path ++ "[]") t).map arrayOf
  | .mapping k v =>
    (expression table owner (path ++ "\x7b\x7d") v).map fun v =>
      "Record<" ++ keyType k ++ ", " ++ v ++ ">"
  | .tuple ts =>
    (itemExpressions table owner path 0 ts).map fun items =>
      "[" ++ String.intercalate ", " items ++ "]"
  | .record name _ _ => .ok name
  | .enum shape => .ok shape.name
  | .reference name =>
    if table.contains name then .ok name else .error (.unresolvedReference owner name)
  | .union ts => (memberExpressions table owner path ts).map unionOf
  | .stream _ => .error (.unrepresentable owner path)

def itemExpressions (table : Definitions) (owner : Owner) (path : String) (index : Nat) :
    List Descriptor → Except GenerateError (List String)
  | [] => .ok []
  | t :: rest => do
    let e ← expression table owner (path ++ "[" ++ toString index ++ "]") t
    return e :: (← itemExpressions table owner path (index + 1) rest)

def memberExpressions (table : Definitions) (owner : Owner) (path : String) :
    List Descriptor → Except GenerateError (List String)
  | [] => .ok []
  | t :: rest => do
    let e ← expression table owner path t
    return e :: (← memberExpressions table owner path rest)
end

def stringLiteral (s : String) : String := String.ofList (Json.quote s)

def isIdentStart (c : Char) : Bool := c.isAlpha || c = '_' || c = '$'

def isIdentPart (c : Char) : Bool := c.isAlphanum || c = '_' || c = '$'

def isIdentifier (name : String) : Bool :=
  match name.toList with
  | [] => false
  | c :: rest => isIdentStart c && rest.all isIdentPart

def propertyKey (key : String) : String :=
  if isIdentifier key then key else stringLiteral key

end CommandBridge.TypeScript

import CommandBridge.Registry.Basic
import CommandBridge.Text.Blank
import CommandBridge.TypeScript.Expression

/-!
# The client module

The client text of a registry: its definitions with dependencies first, then one
function per command and per socket in name order. It is a function of the registry
alone.
-/

set_option autoImplicit false

namespace CommandBridge.TypeScript

variable {A : Application}

def commentText : List Char → List Char
  | '*' :: '/' :: rest => '*' :: '\\' :: '/' :: commentText rest
  | c :: rest => c :: commentText rest
  | [] => []

def docLine (line : List Char) : String :=
  let line := Text.trim line
  if line.isEmpty then " *\n" else " * " ++ String.ofList (commentText line) ++ "\n"

def docBlock : Option String → String
  | none => ""
  | some doc =>
    let doc := Text.trim doc.toList
    if doc.isEmpty then ""
    else "/**\n" ++ String.join ((Text.lines doc).map docLine) ++ " */\n"

def fieldComment : Option String → String
  | none => ""
  | some d => "    /** " ++ String.ofList (commentText (Text.trim d.toList)) ++ " */\n"

def property (name : String) (mayBeAbsent : Bool) (type : String) : String :=
  propertyKey (KeyCase.toClient name) ++ (if mayBeAbsent then "?" else "") ++ ": " ++ type

def fieldLine (table : Definitions) (owner : Owner) (f : Field) : Except GenerateError String := do
  let type ← expression table owner f.name f.type
  return fieldComment f.description ++ "    " ++ property f.name f.mayBeAbsent type ++ ";\n"

def recordText (table : Definitions) (shape : RecordShape) : Except GenerateError String := do
  let lines ← shape.fields.mapM (fieldLine table (.record shape.name))
  return docBlock shape.doc ++ "export interface " ++ shape.name ++ " \x7b\n" ++
    String.join lines ++ "\x7d"

def enumText (shape : EnumShape) : String :=
  let variants :=
    if shape.variants.isEmpty then "never"
    else String.intercalate " | " (shape.variants.map stringLiteral)
  docBlock shape.doc ++ "export type " ++ shape.name ++ " = " ++ variants ++ ";"

def definitionText (table : Definitions) : Definition → Except GenerateError String
  | .record shape => recordText table shape
  | .enum shape => .ok (enumText shape)

def paramsText (table : Definitions) (owner : Owner) (params : List Param) :
    Except GenerateError String := do
  if params.isEmpty then return ""
  let fields ← params.mapM fun p => do
    let type ← expression table owner p.name p.type
    return property p.name (!p.isRequired) type
  let default := if params.any Param.isRequired then "" else " = \x7b\x7d"
  return "args: \x7b " ++ String.intercalate "; " fields ++ " \x7d" ++ default

def commandBody (table : Definitions) (owner : Owner) (c : Command A) :
    Except GenerateError (String × String × String) :=
  match c.kind with
  | .unary => do
    let t ← expression table owner "return" c.returns
    let t := if t = "null" then "void" else t
    return ("export async function ", "Promise<" ++ t ++ ">", "request")
  | .stream =>
    match c.payload? with
    | none => .error (.unrepresentable owner "payload")
    | some t => do
      let t ← expression table owner "payload" t
      return ("export function ", "BridgeChannel<" ++ t ++ ">", "createChannel")

def commandText (table : Definitions) (c : Command A) : Except GenerateError String := do
  let owner := Owner.command c.name
  let params ← paramsText table owner c.params
  let (head, type, call) ← commandBody table owner c
  let args := if params.isEmpty then "\x7b\x7d" else "args"
  return docBlock c.doc ++ head ++ KeyCase.toClient c.name ++ "(" ++ params ++ "): " ++ type ++
    " \x7b\n    return " ++ call ++ "(\"" ++ c.name ++ "\", " ++ args ++ ");\n\x7d"

def eventsText (table : Definitions) (owner : Owner) (name : String)
    (events : List (String × Descriptor)) : Except GenerateError String := do
  let lines ← events.mapM fun e => do
    let type ← expression table owner e.1 e.2
    return "    " ++ propertyKey e.1 ++ ": " ++ type ++ ";\n"
  return "export interface " ++ name ++ " \x7b\n" ++ String.join lines ++ "\x7d"

def socketText (table : Definitions) (s : SocketHandler A) : Except GenerateError String := do
  let owner := Owner.socket s.name
  let base := KeyCase.toPascal s.name
  let server := base ++ "ServerEvents"
  let client := base ++ "ClientEvents"
  let serverText ← eventsText table owner server s.serverEvents
  let clientText ← eventsText table owner client s.clientEvents
  return serverText ++ "\n\n" ++ clientText ++ "\n\n" ++ docBlock s.doc ++ "export function " ++
    KeyCase.toClient s.name ++ "(): BridgeSocket<" ++ server ++ ", " ++ client ++
    "> \x7b\n    return createSocket(\"" ++ s.name ++ "\");\n\x7d"

structure Walk where
  seen : List String
  done : List String

mutual
def visit (table : Definitions) : Nat → String → Walk → Walk
  | 0, _, w => w
  | fuel + 1, name, w =>
    if w.seen.contains name then w
    else
      let w : Walk := { w with seen := name :: w.seen }
      match table.get? name with
      | none => w
      | some d =>
        let w := visitAll table fuel d.dependencies w
        { w with done := w.done ++ [name] }

def visitAll (table : Definitions) : Nat → List String → Walk → Walk
  | _, [], w => w
  | fuel, name :: rest, w => visitAll table fuel rest (visit table fuel name w)
end

/-- Definition names with dependencies first; a cycle is cut at the first revisit. Each
visit deeper marks one more name, so the number of definitions bounds the depth. -/
def ordered (table : Definitions) : List String :=
  (visitAll table (table.entries.length + 1) table.names ⟨[], []⟩).done

def sectionText (title : String) (parts : List String) : String :=
  if parts.isEmpty then ""
  else "\n// ============ " ++ title ++ " ============\n\n" ++ String.intercalate "\n\n" parts ++ "\n"

def importedNames : List String :=
  ["initBridge", "request", "createChannel", "createSocket", "BridgeRequestError",
    "BridgeChannel", "BridgeSocket", "BridgeError", "SocketStatus"]

def headerText : String :=
  "/* Auto-generated by wirebridge - DO NOT EDIT */\n\n" ++
  "import \x7b " ++ String.intercalate ", " (importedNames.take 5) ++ " \x7d from \"./_internal\";\n" ++
  "import type \x7b " ++ String.intercalate ", " (importedNames.drop 5) ++
    " \x7d from \"./_internal\";\n\n" ++
  "export \x7b initBridge, BridgeRequestError \x7d;\n" ++
  "export type \x7b " ++ String.intercalate ", " (importedNames.drop 5) ++ " \x7d;\n"

/-- The client text of a registry. -/
def generate (r : Registry A) : Except GenerateError String := do
  let table := r.definitions
  let interfaces ← ((ordered table).filterMap table.get?).mapM (definitionText table)
  let commands ← r.commandList.mapM (commandText table)
  let sockets ← r.socketList.mapM (socketText table)
  return headerText ++ sectionText "Interfaces" interfaces ++ sectionText "Commands" commands ++
    sectionText "Sockets" sockets

end CommandBridge.TypeScript

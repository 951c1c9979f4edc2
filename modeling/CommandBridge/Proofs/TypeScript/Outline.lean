import CommandBridge.Proofs.TypeScript.Properties

/-!
# The outline of a client module

A client module is a header and three sections of declarations. The outline of a registry is that
module before it is written down: each declaration with its one name and with every type that is
written in it. The client text of a registry is the text of its outline.
-/

set_option autoImplicit false

namespace CommandBridge.TypeScript

open KeyCase

variable {A : Application}

inductive Declaration where
  | interface (doc : Option String) (name : String) (lines : List (String × Property))
  | enumeration (shape : EnumShape)
  /-- A function that returns the generic type `result` of some types. -/
  | function (doc : Option String) (isAsync : Bool) (name : String) (params : List Property)
    (result : String) (typeArgs : List String) (call : String)

namespace Declaration

def name : Declaration → String
  | interface _ name _ => name
  | enumeration shape => shape.name
  | function _ _ name .. => name

def types : Declaration → List String
  | interface _ _ lines => lines.map fun l => l.2.type
  | enumeration _ => []
  | function _ _ _ params _ typeArgs _ => params.map Property.type ++ typeArgs

def isFunction : Declaration → Bool
  | function .. => true
  | _ => false

def text : Declaration → String
  | interface doc name lines =>
    docBlock doc ++ "export interface " ++ name ++ " \x7b\n" ++
      String.join (lines.map fun l => l.1 ++ "    " ++ l.2.text ++ ";\n") ++ "\x7d"
  | enumeration shape => enumText shape
  | function doc isAsync name params result typeArgs call =>
    docBlock doc ++ (if isAsync then "export async function " else "export function ") ++ name ++
      "(" ++ argsText params ++ "): " ++ result ++ "<" ++ String.intercalate ", " typeArgs ++
      "> \x7b\n    return " ++ call ++ ";\n\x7d"

end Declaration

structure SocketDeclarations where
  serverEvents : Declaration
  clientEvents : Declaration
  connector : Declaration

namespace SocketDeclarations

def toList (s : SocketDeclarations) : List Declaration := [s.serverEvents, s.clientEvents, s.connector]

def text (s : SocketDeclarations) : String :=
  s.serverEvents.text ++ "\n\n" ++ s.clientEvents.text ++ "\n\n" ++ s.connector.text

end SocketDeclarations

structure Outline where
  definitions : List Declaration
  commands : List Declaration
  sockets : List SocketDeclarations

namespace Outline

def text (o : Outline) : String :=
  headerText ++ sectionText "Interfaces" (o.definitions.map Declaration.text) ++
    sectionText "Commands" (o.commands.map Declaration.text) ++
    sectionText "Sockets" (o.sockets.map SocketDeclarations.text)

def declarations (o : Outline) : List Declaration :=
  o.definitions ++ o.commands ++ o.sockets.flatMap SocketDeclarations.toList

/-- The names that the module has at its top level: those it imports and those it declares. -/
def names (o : Outline) : List String := importedNames ++ o.declarations.map Declaration.name

end Outline

def fieldProperty (table : Definitions) (owner : Owner) (f : Field) :
    Except GenerateError (String × Property) := do
  return (fieldComment f.description, ⟨toClient f.name, f.mayBeAbsent, ← expression table owner f.name f.type⟩)

def definitionDeclaration (table : Definitions) : Definition → Except GenerateError Declaration
  | .record shape => do
    return .interface shape.doc shape.name (← shape.fields.mapM (fieldProperty table (.record shape.name)))
  | .enum shape => .ok (.enumeration shape)

def paramProperty (table : Definitions) (owner : Owner) (p : Param) : Except GenerateError Property := do
  return ⟨toClient p.name, !p.isRequired, ← expression table owner p.name p.type⟩

/-- What a command function answers with: whether it is asynchronous, the generic type it returns
and the type that is for, and the function it calls. -/
def commandResult (table : Definitions) (owner : Owner) (c : Command A) :
    Except GenerateError (Bool × String × String × String) :=
  match c.kind with
  | .unary => do
    let t ← expression table owner "return" c.returns
    return (true, "Promise", if t = "null" then "void" else t, "request")
  | .stream =>
    match c.payload? with
    | none => .error (.unrepresentable owner "payload")
    | some t => do return (false, "BridgeChannel", ← expression table owner "payload" t, "createChannel")

def commandDeclaration (table : Definitions) (c : Command A) : Except GenerateError Declaration := do
  let params ← c.params.mapM (paramProperty table (.command c.name))
  let (isAsync, result, type, call) ← commandResult table (.command c.name) c
  let args := if params.isEmpty then "\x7b\x7d" else "args"
  return .function c.doc isAsync (toClient c.name) params result [type]
    (call ++ "(\"" ++ c.name ++ "\", " ++ args ++ ")")

def eventProperty (table : Definitions) (owner : Owner) (e : String × Descriptor) :
    Except GenerateError (String × Property) := do
  return ("", ⟨e.1, false, ← expression table owner e.1 e.2⟩)

def eventsDeclaration (table : Definitions) (owner : Owner) (name : String)
    (events : List (String × Descriptor)) : Except GenerateError Declaration := do
  return .interface none name (← events.mapM (eventProperty table owner))

def serverEventsName (s : SocketHandler A) : String := toPascal s.name ++ "ServerEvents"

def clientEventsName (s : SocketHandler A) : String := toPascal s.name ++ "ClientEvents"

def socketDeclarations (table : Definitions) (s : SocketHandler A) :
    Except GenerateError SocketDeclarations := do
  let server ← eventsDeclaration table (.socket s.name) (serverEventsName s) s.serverEvents
  let client ← eventsDeclaration table (.socket s.name) (clientEventsName s) s.clientEvents
  return ⟨server, client, .function s.doc false (toClient s.name) [] "BridgeSocket"
    [serverEventsName s, clientEventsName s] ("createSocket(\"" ++ s.name ++ "\")")⟩

def orderedDefinitions (table : Definitions) : List Definition := (ordered table).filterMap table.get?

def outline (r : Registry A) : Except GenerateError Outline := do
  return ⟨← (orderedDefinitions r.definitions).mapM (definitionDeclaration r.definitions),
    ← r.commandList.mapM (commandDeclaration r.definitions),
    ← r.socketList.mapM (socketDeclarations r.definitions)⟩

theorem outline_eq_ok {r : Registry A} {o : Outline} : outline r = .ok o ↔
    (orderedDefinitions r.definitions).mapM (definitionDeclaration r.definitions) = .ok o.definitions ∧
    r.commandList.mapM (commandDeclaration r.definitions) = .ok o.commands ∧
    r.socketList.mapM (socketDeclarations r.definitions) = .ok o.sockets := by
  obtain ⟨definitions, commands, sockets⟩ := o
  simp only [outline, Except.bind_eq_ok, pure, Except.pure, Except.ok.injEq, Outline.mk.injEq]
  constructor
  · rintro ⟨_, definitions, _, commands, _, sockets, rfl, rfl, rfl⟩
    exact ⟨definitions, commands, sockets⟩
  · rintro ⟨definitions, commands, sockets⟩
    exact ⟨_, definitions, _, commands, _, sockets, rfl, rfl, rfl⟩

section Heads

variable {table : Definitions} {declared : Declaration}

theorem definitionDeclaration_head {x : Definition}
    (h : definitionDeclaration table x = .ok declared) :
    declared.name = x.name ∧ declared.isFunction = false := by
  cases x with
  | enum shape =>
    cases h
    exact ⟨rfl, rfl⟩
  | record shape =>
    obtain ⟨lines, -, last⟩ := Except.bind_eq_ok.mp h
    cases last
    exact ⟨rfl, rfl⟩

theorem commandDeclaration_head {c : Command A} (h : commandDeclaration table c = .ok declared) :
    declared.name = toClient c.name ∧ declared.isFunction = true := by
  obtain ⟨params, -, h⟩ := Except.bind_eq_ok.mp h
  obtain ⟨answer, -, last⟩ := Except.bind_eq_ok.mp h
  cases last
  exact ⟨rfl, rfl⟩

theorem eventsDeclaration_head {owner : Owner} {name : String} {events : List (String × Descriptor)}
    (h : eventsDeclaration table owner name events = .ok declared) :
    declared.name = name ∧ declared.isFunction = false := by
  obtain ⟨lines, -, last⟩ := Except.bind_eq_ok.mp h
  cases last
  exact ⟨rfl, rfl⟩

/-- The declarations of a socket are those of its events and the function that returns them. -/
theorem socketDeclarations_eq_ok {s : SocketHandler A} {made : SocketDeclarations} :
    socketDeclarations table s = .ok made ↔
      eventsDeclaration table (.socket s.name) (serverEventsName s) s.serverEvents =
        .ok made.serverEvents ∧
      eventsDeclaration table (.socket s.name) (clientEventsName s) s.clientEvents =
        .ok made.clientEvents ∧
      made.connector = .function s.doc false (toClient s.name) [] "BridgeSocket"
        [serverEventsName s, clientEventsName s] ("createSocket(\"" ++ s.name ++ "\")") := by
  obtain ⟨server, client, connector⟩ := made
  simp only [socketDeclarations, Except.bind_eq_ok, pure, Except.pure, Except.ok.injEq,
    SocketDeclarations.mk.injEq]
  constructor
  · rintro ⟨_, server, _, client, rfl, rfl, rfl⟩
    exact ⟨server, client, rfl⟩
  · rintro ⟨server, client, rfl⟩
    exact ⟨_, server, _, client, rfl, rfl, rfl⟩

end Heads

section Steps

variable {ε α β γ δ : Type}

/-- What is made of each value that a step ends with may be made at the end. -/
theorem mapM_map (f : α → Except ε β) (g : β → γ) (xs : List α) :
    (xs.mapM fun x => (f x).map g) = (xs.mapM f).map (List.map g) := by
  induction xs with
  | nil => rfl
  | cons x rest ih =>
    simp only [List.mapM_cons, ih]
    cases f x with
    | error e => rfl
    | ok y => cases rest.mapM f <;> rfl

/-- Where each step ends with a value that shows what it is for, so do all. -/
theorem map_of_mapM_eq_ok {f : α → Except ε β} {g : β → δ} {h : α → δ} {xs : List α} {ys : List β}
    (each : ∀ x y, f x = .ok y → g y = h x) (done : xs.mapM f = .ok ys) : ys.map g = xs.map h := by
  induction xs generalizing ys with
  | nil => cases done; rfl
  | cons x rest ih =>
    simp only [List.mapM_cons, Except.bind_eq_ok] at done
    obtain ⟨y, first, more, later, last⟩ := done
    cases last
    rw [List.map_cons, List.map_cons, each x y first, ih later]

/-- Each result of steps over a list is that of one of its members. -/
theorem exists_of_mem_mapM {f : α → Except ε β} {xs : List α} {ys : List β} {y : β}
    (done : xs.mapM f = .ok ys) (hy : y ∈ ys) : ∃ x ∈ xs, f x = .ok y := by
  induction xs generalizing ys with
  | nil => cases done; cases hy
  | cons x rest ih =>
    simp only [List.mapM_cons, Except.bind_eq_ok] at done
    obtain ⟨first, made, more, later, last⟩ := done
    cases last
    rcases List.mem_cons.mp hy with rfl | hy
    · exact ⟨x, List.mem_cons_self, made⟩
    · obtain ⟨x', hx, found⟩ := ih later hy
      exact ⟨x', List.mem_cons_of_mem x hx, found⟩

end Steps

variable {table : Definitions} {owner : Owner}

theorem fieldLine_eq (f : Field) : fieldLine table owner f =
    (fieldProperty table owner f).map fun l => l.1 ++ "    " ++ l.2.text ++ ";\n" := by
  unfold fieldLine fieldProperty
  cases expression table owner f.name f.type <;> rfl

theorem definitionText_eq (x : Definition) :
    definitionText table x = (definitionDeclaration table x).map Declaration.text := by
  cases x with
  | enum shape => rfl
  | record shape =>
    rw [definitionText, recordText, definitionDeclaration, funext fieldLine_eq, mapM_map]
    cases shape.fields.mapM (fieldProperty table (.record shape.name)) <;> rfl

theorem paramsText_eq (params : List Param) : paramsText table owner params =
    (params.mapM (paramProperty table owner)).map argsText := by
  have lines : (fun p : Param => do
      return property p.name (!p.isRequired) (← expression table owner p.name p.type)) =
      fun p => (paramProperty table owner p).map Property.text := by
    funext p
    unfold paramProperty
    cases expression table owner p.name p.type <;> rfl
  cases params with
  | nil => rfl
  | cons p rest =>
    rw [paramsText, if_neg (by simp)]
    change ((p :: rest).mapM (fun p : Param => do
      return property p.name (!p.isRequired) (← expression table owner p.name p.type)) >>= _) = _
    rw [lines, mapM_map]
    cases done : (p :: rest).mapM (paramProperty table owner) with
    | error e => rfl
    | ok props =>
      have marks := map_of_mapM_eq_ok (g := Property.mayBeAbsent) (h := fun p => !p.isRequired)
        (fun p y made => by
          obtain ⟨t, -, last⟩ := Except.bind_eq_ok.mp made
          cases last
          rfl) done
      have required : (props.any fun q => !q.mayBeAbsent) = (p :: rest).any Param.isRequired := by
        have both := congrArg (List.any · (!·)) marks
        simpa only [List.any_map, Function.comp_def, Bool.not_not] using both
      have nonempty : props.isEmpty = false := by
        cases props with
        | nil => cases marks
        | cons => rfl
      simp only [Except.map, argsText, nonempty, required]
      rfl

theorem commandBody_eq (c : Command A) : commandBody table owner c =
    (commandResult table owner c).map fun b =>
      (if b.1 then "export async function " else "export function ",
        b.2.1 ++ "<" ++ b.2.2.1 ++ ">", b.2.2.2) := by
  unfold commandBody commandResult
  cases c.kind with
  | unary => cases expression table owner "return" c.returns <;> rfl
  | stream =>
    cases c.payload? with
    | none => rfl
    | some t =>
      dsimp only
      cases expression table owner "payload" t <;> rfl

theorem argsText_isEmpty (props : List Property) : (argsText props).isEmpty = props.isEmpty := by
  cases props with
  | nil => rfl
  | cons p rest => simp [argsText]

theorem commandText_eq (c : Command A) :
    commandText table c = (commandDeclaration table c).map Declaration.text := by
  unfold commandText commandDeclaration
  simp only [paramsText_eq, commandBody_eq]
  cases c.params.mapM (paramProperty table (.command c.name)) with
  | error e => rfl
  | ok props =>
    cases commandResult table (.command c.name) c with
    | error e => rfl
    | ok b =>
      obtain ⟨isAsync, result, type, call⟩ := b
      simp only [Except.map, bind, Except.bind, pure, Except.pure, argsText_isEmpty, Declaration.text]
      simp [String.append_assoc]

theorem eventsText_eq (name : String) (events : List (String × Descriptor)) :
    eventsText table owner name events =
      (eventsDeclaration table owner name events).map Declaration.text := by
  have lines : (fun e : String × Descriptor => do
      return "    " ++ propertyKey e.1 ++ ": " ++ (← expression table owner e.1 e.2) ++ ";\n") =
      fun e => (eventProperty table owner e).map fun l => l.1 ++ "    " ++ l.2.text ++ ";\n" := by
    funext e
    unfold eventProperty
    cases expression table owner e.1 e.2 with
    | error _ => rfl
    | ok t => simp [Except.map, bind, Except.bind, pure, Except.pure, Property.text, String.append_assoc]
  unfold eventsText eventsDeclaration
  change (events.mapM (fun e : String × Descriptor => do
      return "    " ++ propertyKey e.1 ++ ": " ++ (← expression table owner e.1 e.2) ++ ";\n") >>= _) = _
  rw [lines, mapM_map]
  cases events.mapM (eventProperty table owner) with
  | error e => rfl
  | ok props => simp [Except.map, bind, Except.bind, pure, Except.pure, Declaration.text, docBlock]

theorem connector_text (doc : Option String) (name server client raw : String) :
    (Declaration.function doc false name [] "BridgeSocket" [server, client]
      ("createSocket(\"" ++ raw ++ "\")")).text =
    docBlock doc ++ "export function " ++ name ++ "(): BridgeSocket<" ++ server ++ ", " ++ client ++
      "> \x7b\n    return createSocket(\"" ++ raw ++ "\");\n\x7d" := by
  have pair : String.intercalate ", " [server, client] = server ++ (", " ++ client) := by
    simp [String.append_assoc]
  have call : "> \x7b\n    return createSocket(\"" = "> \x7b\n    return " ++ "createSocket(\"" := rfl
  have parens : "(): BridgeSocket<" = "(" ++ ("" ++ ("): " ++ ("BridgeSocket" ++ "<"))) := rfl
  have last : "\");\n\x7d" = "\")" ++ ";\n\x7d" := rfl
  rw [call, parens, last]
  simp only [Declaration.text, argsText, pair, List.isEmpty_nil, if_true, Bool.false_eq_true, if_false,
    String.append_assoc]

theorem socketText_eq (s : SocketHandler A) :
    socketText table s = (socketDeclarations table s).map SocketDeclarations.text := by
  unfold socketText socketDeclarations
  simp only [eventsText_eq, serverEventsName, clientEventsName]
  cases eventsDeclaration table (.socket s.name) (toPascal s.name ++ "ServerEvents") s.serverEvents with
  | error e => rfl
  | ok server =>
    cases eventsDeclaration table (.socket s.name) (toPascal s.name ++ "ClientEvents") s.clientEvents with
    | error e => rfl
    | ok client =>
      simp only [Except.map, bind, Except.bind, pure, Except.pure, SocketDeclarations.text,
        connector_text]
      simp only [String.append_assoc]

/-- The client text of a registry is the text of its outline. -/
theorem generate_eq_outline (r : Registry A) : generate r = (outline r).map Outline.text := by
  unfold generate outline
  simp only [funext definitionText_eq, funext commandText_eq, funext socketText_eq, mapM_map]
  change ((orderedDefinitions r.definitions).mapM (definitionDeclaration r.definitions)).map _ >>= _ = _
  cases (orderedDefinitions r.definitions).mapM (definitionDeclaration r.definitions) with
  | error e => rfl
  | ok definitions =>
    cases r.commandList.mapM (commandDeclaration r.definitions) with
    | error e => rfl
    | ok commands => cases r.socketList.mapM (socketDeclarations r.definitions) <;> rfl

end CommandBridge.TypeScript

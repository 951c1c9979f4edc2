import CommandBridge.Dispatch
import CommandBridge.Proofs.Registry.Building
import CommandBridge.Proofs.Twins.Handlers
import CommandBridge.TypeScript.Module

/-!
# Registries of twins

Declarations are alike when they say the same and their handlers start in related states. All
that is read off a registry before a handler runs is then the same: whether it builds, its
client text, which command a call is for and whether its arguments pass.
-/

set_option autoImplicit false

open scoped Relator

namespace CommandBridge

section Declared

variable {A B : Application} (t : Twins A B)

inductive Handler.Alike : Handler A → Handler B → Prop where
  | unary (mode : RunMode) {start : Args → A.Call} {start' : Args → B.Call}
      (states : ∀ args, t.Call (start args) (start' args)) :
      Alike (.unary mode start) (.unary mode start')
  | stream {start : Args → A.Stream} {start' : Args → B.Stream}
      (states : ∀ args, t.Stream (start args) (start' args)) : Alike (.stream start) (.stream start')

structure Command.Alike (c : Command A) (c' : Command B) : Prop where
  name : c.name = c'.name
  kind : c.kind = c'.kind
  params : c.params = c'.params
  returns : c.returns = c'.returns
  doc : c.doc = c'.doc
  module : c.module = c'.module
  handler : Option.Rel (Handler.Alike t) c.handler c'.handler

structure SocketHandler.Alike (s : SocketHandler A) (s' : SocketHandler B) : Prop where
  name : s.name = s'.name
  doc : s.doc = s'.doc
  module : s.module = s'.module
  serverEvents : s.serverEvents = s'.serverEvents
  clientEvents : s.clientEvents = s'.clientEvents
  callbacks : List.Forall₂ (Both Eq fun f f' => ∀ data : Json, t.Socket (f data) (f' data))
    s.callbacks s'.callbacks
  onConnect : Option.Rel t.Socket s.onConnect s'.onConnect
  onDisconnect : Option.Rel t.Socket s.onDisconnect s'.onDisconnect

structure Declarations.Alike (d : Declarations A) (d' : Declarations B) : Prop where
  models : d.models = d'.models
  commands : List.Forall₂ (Command.Alike t) d.commands d'.commands
  sockets : List.Forall₂ (SocketHandler.Alike t) d.sockets d'.sockets

structure Registry.Alike (r : Registry A) (r' : Registry B) : Prop where
  commands : List.Forall₂ (Both Eq (Command.Alike t)) r.commands r'.commands
  sockets : List.Forall₂ (Both Eq (SocketHandler.Alike t)) r.sockets r'.sockets
  definitions : r.definitions = r'.definitions

structure Invocation.Alike (i : Invocation A) (i' : Invocation B) : Prop where
  mode : i.mode = i'.mode
  start : t.Call i.start i'.start

end Declared

variable {A B : Application} {t : Twins A B}

namespace Command.Alike

variable {c : Command A} {c' : Command B} (h : c.Alike t c')
include h

theorem types_eq : c.types = c'.types := by
  simp only [types, h.name, h.params, h.returns]

theorem validate_eq : c.validate = c'.validate := by
  have handlers : c.checkHandler = c'.checkHandler := by
    unfold checkHandler
    rw [h.kind, h.name]
    match c.handler, c'.handler, h.handler with
    | _, _, .none => cases c'.kind <;> rfl
    | _, _, .some (.unary ..) => cases c'.kind <;> rfl
    | _, _, .some (.stream _) => cases c'.kind <;> rfl
  simp only [validate, checkReturns, handlers, h.name, h.params, h.kind, h.returns]

theorem text_eq (table : Definitions) :
    TypeScript.commandText table c = TypeScript.commandText table c' := by
  simp only [TypeScript.commandText, TypeScript.commandBody, payload?, h.name, h.params, h.doc,
    h.kind, h.returns]

theorem prepareArgs_eq (table : Definitions) (payload : Json) :
    prepareArgs table c payload = prepareArgs table c' payload := by
  simp only [prepareArgs, h.params]

end Command.Alike

namespace SocketHandler.Alike

variable {s : SocketHandler A} {s' : SocketHandler B} (h : s.Alike t s')
include h

theorem eventTypes_eq : s.eventTypes = s'.eventTypes := by
  simp only [eventTypes, h.name, h.serverEvents, h.clientEvents]

theorem validate_eq : s.validate = s'.validate := by
  have keys : Keyed.keys s.callbacks = Keyed.keys s'.callbacks :=
    h.callbacks.map_eq fun _ _ both => both.1
  simp only [validate, keys, h.clientEvents, h.name, h.eventTypes_eq]

theorem text_eq (table : Definitions) :
    TypeScript.socketText table s = TypeScript.socketText table s' := by
  simp only [TypeScript.socketText, h.name, h.serverEvents, h.clientEvents, h.doc]

end SocketHandler.Alike

namespace Registry

theorem collectAll_eq {d : Declarations A} {d' : Declarations B} (h : d.Alike t d') :
    collectAll d = collectAll d' := by
  have commands := h.commands.foldlM_eq (f := enterCommand) (g := enterCommand) fun p c c' both => by
    simp only [enterCommand, both.name, both.validate_eq, both.types_eq]
  have sockets := h.sockets.foldlM_eq (f := enterSocket) (g := enterSocket) fun p s s' both => by
    simp only [enterSocket, both.name, both.validate_eq, both.eventTypes_eq]
  simp only [collectAll, h.models, commands, sockets]

theorem resolveAll_eq {d : Declarations A} {d' : Declarations B} (h : d.Alike t d')
    (table : Definitions) : resolveAll d table = resolveAll d' table := by
  unfold resolveAll
  rw [h.commands.forM_eq fun c c' both => by rw [both.types_eq],
    h.sockets.forM_eq fun s s' both => by rw [both.eventTypes_eq]]

theorem build_alike {d : Declarations A} {d' : Declarations B} (h : d.Alike t d') :
    Except.Rel (Registry.Alike t) (build d) (build d') := by
  unfold build
  rw [collectAll_eq h]
  cases collectAll d' with
  | error e => exact .error e
  | ok table =>
    simp only [bind, Except.bind, resolveAll_eq h]
    cases resolveAll d' table with
    | error e => exact .error e
    | ok =>
      refine .ok ⟨Keyed.sort_related ?_, Keyed.sort_related ?_, rfl⟩
      · exact List.rel_map (fun _ _ both => ⟨both.name, both⟩) h.commands
      · exact List.rel_map (fun _ _ both => ⟨both.name, both⟩) h.sockets

namespace Alike

variable {r : Registry A} {r' : Registry B} (h : r.Alike t r')
include h

theorem command? (name : String) :
    Option.Rel (Command.Alike t) (r.command? name) (r'.command? name) :=
  Keyed.lookup_related h.commands name

theorem socket? (name : String) :
    Option.Rel (SocketHandler.Alike t) (r.socket? name) (r'.socket? name) :=
  Keyed.lookup_related h.sockets name

theorem commandList : List.Forall₂ (Command.Alike t) r.commandList r'.commandList :=
  List.rel_map (fun _ _ both => both.2) h.commands

theorem socketList : List.Forall₂ (SocketHandler.Alike t) r.socketList r'.socketList :=
  List.rel_map (fun _ _ both => both.2) h.sockets

theorem generate_eq : TypeScript.generate r = TypeScript.generate r' := by
  have commands := h.commandList.mapM_eq fun c c' both => both.text_eq r'.definitions
  have sockets := h.socketList.mapM_eq fun s s' both => both.text_eq r'.definitions
  simp only [TypeScript.generate, h.definitions, commands, sockets]

theorem invocation (name : String) (payload : Json) :
    Except.Rel (Invocation.Alike t) (r.invocation name payload) (r'.invocation name payload) := by
  unfold Registry.invocation
  match r.command? name, r'.command? name, h.command? name with
  | _, _, .none => exact .error _
  | some c, some c', .some both =>
    dsimp only
    match c.handler, c'.handler, both.handler with
    | _, _, .none => exact .error _
    | _, _, .some (.stream _) => exact .error _
    | _, _, .some (.unary mode states) =>
      simp only [h.definitions, both.prepareArgs_eq]
      cases prepareArgs r'.definitions c' payload with
      | error e => exact .error e
      | ok args => exact .ok ⟨rfl, states args⟩

end Alike
end Registry
end CommandBridge

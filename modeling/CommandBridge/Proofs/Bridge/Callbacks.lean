import CommandBridge.Proofs.Bridge.Connections
import CommandBridge.Proofs.Socket.Order
import CommandBridge.Script.Application
import Mathlib

/-!
# Callbacks on a bridge

However the moves of a bridge are ordered, a connection runs its callbacks one at a time, in
the order of the frames that ask for them, and answers each frame that it cannot serve with
one error.
-/

set_option autoImplicit false

namespace CommandBridge.Bridge

open Connection

variable {A : Application}

/-- The handler that a connection gets is typed under the definitions that it gets. -/
theorem typed_of_built {b : Bridge A} (built : b.Built) {name : String} {handler : SocketHandler A}
    (found : b.registry.socket? name = some handler) : Typed handler b.registry.definitions := by
  obtain ⟨d, built⟩ := built
  obtain ⟨closed, resolved⟩ := Registry.resolved_of_build built
  exact ⟨closed, resolved name handler found⟩

/-- What the reader of a connection does in every run. -/
theorem callbacks_in_order {d : Declarations A} {registry : Registry A}
    (built : Registry.build d = .ok registry) (config : Config) (world : A.World) (files : FileTree)
    (before : List (Act A)) (name : String) (inbound : Inbound) (sink : Sink) (b : Bridge A)
    (opened : ((start config registry world files).run before).connect name inbound sink = .ok b)
    (acts : List (Act A)) :
    let b₀ := (start config registry world files).run before
    let log := readerLog b₀.connections.length b acts
    ∃ c, (b.run acts).connections[b₀.connections.length]? = some c ∧
      b₀.registry.socket? name = some c.handler ∧ c.definitions = b₀.registry.definitions ∧
      looked log <+: inbound.frames ∧
      invocations log = (looked log).filterMap (invocation? c.handler c.definitions) ∧
      OneAtATime log ∧
      (∃ texts done rest ending, log = done ++ rest ++ ending ∧
        Logged c.handler c.definitions texts done ∧
        (rest = [] ∨ ∃ text work, AtWork c.handler c.definitions text work rest ∧
          (ending = [] → c.reader = .handling work)) ∧
        (ending = [] ∨ ∃ cause, ending = [.left cause])) ∧
      (¬c.IsPast → inbound.frames = looked log ++ c.unread) ∧
      (c.IsPast → ∃ cause, log.getLast? = some (.left cause) ∧
        (cause = .ended → looked log = inbound.frames)) ∧
      (∀ now w, c.reader = .listening → c.move now w .listen = none →
        c.backlog = [] ∧ c.inbound.next now = .blocked) := by
  intro b₀ log
  obtain ⟨handler, found, same⟩ := connect_ok opened
  have typed := typed_of_built (built_run (b := start config registry world files) ⟨d, built⟩ before) found
  have fresh : b.connections[b₀.connections.length]? = some
      (create handler b₀.registry.definitions b₀.config.channelCapacity inbound sink) := by
    rw [same]
    exact List.getElem?_concat_length
  obtain ⟨c, there, ⟨sameHandler, sameDefinitions⟩, h⟩ :=
    Sessions.history_kept (s := connectionSessions A) (b := b) (l := [])
      (P := fun c log => (c.handler = handler ∧ c.definitions = b₀.registry.definitions) ∧
        Reading inbound.frames c log)
      (fun c l w x h => reading_act typed h.1 h.2 w x) acts fresh
      ⟨create_kin handler _ _ inbound sink, reading_create handler _ _ inbound sink⟩
  refine ⟨c, there, ?_, sameDefinitions, h.looked_prefix, h.invocations_eq, h.oneAtATime, h.parts,
    h.frames_eq, h.departure, fun now w => blocked_of_listen_none⟩
  rw [sameHandler]
  exact found

def pinger : SocketHandler Script.application where
  name := "pinger"
  doc := none
  module := none
  serverEvents := []
  clientEvents := [("ping", .boolean)]
  callbacks := [("ping", fun _ => .hook [.sleep 5])]
  onConnect := none
  onDisconnect := none

def pingers : Bridge Script.application :=
  start .default ⟨[], [("pinger", pinger)], .empty⟩ .empty .empty

def ping : String := "\x7b\"event\":\"ping\",\"data\":true\x7d"

def pingLine : Inbound := .ofArrivals [.frame ping, .frame "ping", .frame ping, .silence]

def pinged : Bridge Script.application :=
  { pingers with connections :=
      [.create pinger .empty pingers.config.channelCapacity pingLine (.ofLine 0 none)] }

/-- The other frames arrive while the first callback waits. The reader takes them up once it has
ended: it reports the bad one, and then waits in the callback of the last. -/
def pingRuns : List (Act Script.application) :=
  [.move (.connection 0 .listen), .move (.connection 0 (.work .ready)),
    .move (.connection 0 .arrive), .move (.connection 0 .arrive), .pass 5,
    .move (.connection 0 (.work .alarm)), .move (.connection 0 (.work .ready)),
    .move (.connection 0 .listen), .move (.connection 0 (.work .ready)),
    .move (.connection 0 .listen), .move (.connection 0 (.work .ready))]

theorem pings_served :
    (pingers.run []).connect "pinger" pingLine (.ofLine 0 none) = .ok pinged ∧
      readerLog 0 pinged pingRuns = [.looked ping, .invoked "ping" (.bool true), .returned (.done ()),
        .looked "ping", .reported malformed, .looked ping, .invoked "ping" (.bool true)] ∧
      [ping, "ping", ping].filterMap (invocation? pinger .empty) =
        [("ping", .bool true), ("ping", .bool true)] ∧
      OneAtATime (readerLog 0 pinged pingRuns) := by
  have built : Registry.build ⟨[], [], [pinger]⟩ = .ok ⟨[], [("pinger", pinger)], .empty⟩ := rfl
  have opened : (pingers.run []).connect "pinger" pingLine (.ofLine 0 none) = .ok pinged := rfl
  have log : readerLog 0 pinged pingRuns = [.looked ping, .invoked "ping" (.bool true),
      .returned (.done ()), .looked "ping", .reported malformed, .looked ping,
      .invoked "ping" (.bool true)] := by cbv
  obtain ⟨c, -, found, same, -, asked, alone, -⟩ :=
    callbacks_in_order built .default .empty .empty [] "pinger" _ _ pinged opened pingRuns
  have handler : pinger = c.handler := Option.some.inj found
  have definitions : c.definitions = .empty := same
  have asked : invocations (readerLog 0 pinged pingRuns) =
      (looked (readerLog 0 pinged pingRuns)).filterMap (invocation? c.handler c.definitions) := asked
  rw [log, ← handler, definitions] at asked
  exact ⟨opened, log, asked.symm, alone⟩

end CommandBridge.Bridge

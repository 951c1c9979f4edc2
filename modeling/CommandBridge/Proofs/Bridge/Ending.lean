import CommandBridge.Proofs.Bridge.Connections
import CommandBridge.Proofs.Socket.Ending
import CommandBridge.Script.Application

/-!
# Connections that outlive their client

However the moves of a bridge are ordered, a connection whose client goes away, or whose
session was closed, is over once nothing moves any more, unless its reader is at work behind a
full backlog.
-/

set_option autoImplicit false

namespace CommandBridge.Bridge

open Connection

variable {A : Application} {i : Nat} {c : Connection A}

theorem sound_run (config : Config) (registry : Registry A) (world : A.World) (files : FileTree)
    (acts : List (Act A))
    (there : ((start config registry world files).run acts).connections[i]? = some c) : Sound c := by
  refine Sessions.history_induction (s := connectionSessions A) (P := fun c _ => Sound c) (l := [])
    ?_ (fun c l w x h => sound_act h w x) acts rfl there
  rintro c ⟨handler, definitions, capacity, inbound, sink, rfl⟩
  exact sound_create handler definitions capacity inbound sink

/-- When a connection comes to rest without being over. -/
theorem unfinished_at_rest_iff (config : Config) (registry : Registry A) (world : A.World)
    (files : FileTree) (acts : List (Act A)) (i : Nat) (c : Connection A)
    (there : ((start config registry world files).run acts).connections[i]? = some c)
    (rests : c.Rests ((start config registry world files).run acts).now
      ((start config registry world files).run acts).world)
    (leaving : c.Leaving)
    (hook : c.HookCompletes ((start config registry world files).run acts).now
      ((start config registry world files).run acts).world) :
    c.isOver = false ↔ c.outbox.cancelled = false ∧
      (∃ t, c.guardedWork? = some (.running t) ∧ t.Waits A.socket) ∧
      c.outbox.capacity ≤ c.backlog.length :=
  unfinished_iff (sound_run config registry world files acts there) rests leaving hook

def slow : SocketHandler Script.application where
  name := "slow"
  doc := none
  module := none
  serverEvents := []
  clientEvents := []
  callbacks := []
  onConnect := some (.hook [.hang])
  onDisconnect := some (.hook [.note (.string "gone")])

def slows : Bridge Script.application :=
  start { Config.default with channelCapacity := 1 } ⟨[], [("slow", slow)], .empty⟩ .empty .empty

def slowRuns (frames : List String) (moves : List ConnectionMove) : List (Act Script.application) :=
  .connect "slow" (.ofArrivals (frames.map .frame)) (.ofLine 0 none) ::
    moves.map fun m => .move (.connection 0 m)

def leftMoves : List ConnectionMove := [.work .ready, .arrive, .work .ready, .work .ready, .write, .write]

def slowOver : Connection Script.application :=
  { create slow .empty 1 (.ofArrivals []) (.ofLine 0 none) with
    phase := .closed, outbox := (Outbox.empty 1).cancel, reader := .ended, writer := .ended
    sink := ⟨0, none, [], true⟩ }

theorem slow_over : (slows.run (slowRuns [] leftMoves)).connections[0]? = some slowOver ∧
    slowOver.isOver = true := by
  have there : (slows.run (slowRuns [] leftMoves)).connections[0]? = some slowOver := rfl
  have rests : slowOver.Rests (slows.run (slowRuns [] leftMoves)).now
      (slows.run (slowRuns [] leftMoves)).world := by
    intro later _ m
    cases m <;> rfl
  have leaving : slowOver.Leaving := .inr rfl
  refine ⟨there, ?_⟩
  have unfinished := unfinished_at_rest_iff _ _ _ _ _ 0 slowOver there rests leaving nofun
  by_contra going
  obtain ⟨cancelled, -⟩ := unfinished.mp (by simpa using going)
  cases cancelled

def stuckMoves : List ConnectionMove := [.work .ready, .arrive]

def slowStuck : Connection Script.application :=
  { create slow .empty 1 (.ofArrivals []) (.ofLine 0 none) with
    backlog := ["x"], reader := .connecting (.running ⟨.hook [.hang], some 0⟩) }

/-- A client that sends one frame and goes away leaves a connection behind for good. -/
theorem slow_outlives : (slows.run (slowRuns ["x"] stuckMoves)).connections[0]? = some slowStuck ∧
    slowStuck.inbound.arrivals = [] ∧
    slowStuck.HookCompletes (slows.run (slowRuns ["x"] stuckMoves)).now
      (slows.run (slowRuns ["x"] stuckMoves)).world ∧
    slowStuck.Rests (slows.run (slowRuns ["x"] stuckMoves)).now
      (slows.run (slowRuns ["x"] stuckMoves)).world ∧
    slowStuck.isOver = false := by
  refine ⟨rfl, rfl, nofun, ?_, rfl⟩
  intro later _ m
  cases m with
  | work pick => cases pick <;> rfl
  | release | arrive | listen | write | fork => rfl

end CommandBridge.Bridge

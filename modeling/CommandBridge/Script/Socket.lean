import CommandBridge.Native.Read
import CommandBridge.Script.Journal

/-!
# Scripted sockets

A scripted callback reads its payload as a native type before its first step. A script
may start another one that shares its client and runs on by itself.
-/

set_option autoImplicit false

namespace CommandBridge.Script

inductive SocketStep where
  | note (value : Json)
  | noteData
  | fail (error : CommandError)
  | panic (panic : Panic)
  | sleep (delay : Nat)
  | send (event : String) (value : Json)
  | echo (event : String)
  | sendBad (event : String)
  | trySend (event : String) (value : Json)
  | sendError (error : BridgeError)
  | close
  | noteClosed
  | awaitClosed
  | hang
  | guard (value : Json)
  | fork (steps : List SocketStep)

structure SocketRun where
  steps : List SocketStep
  data : Json
  guards : List Json

namespace SocketRun

def hook (steps : List SocketStep) : SocketRun := ⟨steps, .null, []⟩

def callback (type : NativeType) (steps : List SocketStep) (payload : Json) : SocketRun :=
  match type.read payload with
  | .ok v => ⟨steps, v, []⟩
  | .error e => hook [.fail (.invalidArgument ("event payload: " ++ e.message))]

def afterPush (r : SocketRun) : Option SendError → SocketRun
  | none => r
  | some e => { r with steps := [.fail e.toCommandError] }

def push (r : SocketRun) (request : SocketRequest) :
    Action Journal (Outlet Journal SocketRequest SocketRun) Unit SocketRun :=
  .client (.push request r.afterPush)

def next (r : SocketRun) :
    Action Journal (Outlet Journal SocketRequest SocketRun) Unit SocketRun :=
  match r.steps with
  | [] => .finish (.done ())
  | .note v :: rest => .update fun j => (j.note v, { r with steps := rest })
  | .noteData :: rest => .update fun j => (j.note r.data, { r with steps := rest })
  | .fail e :: _ => .finish (.failed e)
  | .panic p :: _ => .finish (.panicked p)
  | .sleep d :: rest => .wait (some ⟨d, { r with steps := rest }⟩) fun _ => none
  | .send event v :: rest => { r with steps := rest }.push (.event event (.json v))
  | .echo event :: rest => { r with steps := rest }.push (.event event (.json r.data))
  | .sendBad event :: rest => { r with steps := rest }.push (.event event (.unserializable badKey))
  | .trySend event v :: rest =>
    .client (.push (.event event (.json v)) fun failure =>
      { r with steps := .note (attemptNote failure) :: rest })
  | .sendError e :: rest => { r with steps := rest }.push (.error e)
  | .close :: rest => .client (.push .close fun _ => { r with steps := rest })
  | .noteClosed :: rest =>
    .client (.probe fun closed => { r with steps := .note (.bool closed) :: rest })
  | .awaitClosed :: rest => .client (.waitClosed { r with steps := rest } none fun _ => none)
  | .hang :: _ => .wait none fun _ => none
  | .guard v :: rest => .update fun j => (j, { r with steps := rest, guards := r.guards ++ [v] })
  | .fork steps :: rest => .client (.fork ⟨steps, r.data, []⟩ { r with steps := rest })

def release (r : SocketRun) (j : Journal) : Journal := j.noteAll r.guards

end SocketRun
end CommandBridge.Script

import CommandBridge.Handler.Args
import CommandBridge.Script.Journal

/-!
# Scripted streams

A push that fails ends the script with its failure, unless the script only tries it.
Guards note their value when the script ends or is dropped.
-/

set_option autoImplicit false

namespace CommandBridge.Script

inductive StreamStep where
  | note (value : Json)
  | noteArgs
  | fail (error : CommandError)
  | panic (panic : Panic)
  | sleep (delay : Nat)
  | send (value : Json)
  | sendArgs
  | sendBad
  | sendRead (name : String) (type : NativeType) (default : Option Json)
  | trySend (value : Json)
  | noteClosed
  | awaitClosed
  | hang
  | guard (value : Json)
  | again (times : Nat) (steps : List StreamStep)

structure StreamRun where
  steps : List StreamStep
  args : Args
  guards : List Json

namespace StreamRun

def start (steps : List StreamStep) (args : Args) : StreamRun := ⟨steps, args, []⟩

def afterPush (r : StreamRun) : Option SendError → StreamRun
  | none => r
  | some e => { r with steps := [.fail e.toCommandError] }

def push (r : StreamRun) (v : Payload) :
    Action Journal (Outlet Journal Payload StreamRun) Unit StreamRun :=
  .client (.push v r.afterPush)

def next (r : StreamRun) : Action Journal (Outlet Journal Payload StreamRun) Unit StreamRun :=
  match r.steps with
  | [] => .finish (.done ())
  | .note v :: rest => .update fun j => (j.note v, { r with steps := rest })
  | .noteArgs :: rest => .update fun j => (j.note r.args.toJson, { r with steps := rest })
  | .fail e :: _ => .finish (.failed e)
  | .panic p :: _ => .finish (.panicked p)
  | .sleep d :: rest => .wait (some ⟨d, { r with steps := rest }⟩) fun _ => none
  | .send v :: rest => { r with steps := rest }.push (.json v)
  | .sendArgs :: rest => { r with steps := rest }.push (.json r.args.toJson)
  | .sendBad :: rest => { r with steps := rest }.push (.unserializable badKey)
  | .sendRead name type default :: rest =>
    match (match default with
      | none => r.args.get name type
      | some d => r.args.getOr name type d) with
    | .ok v => { r with steps := rest }.push (.json v)
    | .error e => .finish (.failed e)
  | .trySend v :: rest =>
    .client (.push (.json v) fun failure => { r with steps := .note (attemptNote failure) :: rest })
  | .noteClosed :: rest =>
    .client (.probe fun closed => { r with steps := .note (.bool closed) :: rest })
  | .awaitClosed :: rest => .client (.waitClosed { r with steps := rest } none fun _ => none)
  | .hang :: _ => .wait none fun _ => none
  | .guard v :: rest => .update fun j => (j, { r with steps := rest, guards := r.guards ++ [v] })
  | .again 0 _ :: rest => .update fun j => (j, { r with steps := rest })
  | .again (n + 1) body :: rest =>
    .update fun j => (j, { r with steps := body ++ .again n body :: rest })

def release (r : StreamRun) (j : Journal) : Journal := j.noteAll r.guards

end StreamRun
end CommandBridge.Script

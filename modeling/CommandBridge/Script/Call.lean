import CommandBridge.Handler.Args
import CommandBridge.Script.Journal

/-!
# Scripted calls

The answer of a script that runs to its end is the list of all it read, or `null` when
it read nothing.
-/

set_option autoImplicit false

namespace CommandBridge.Script

inductive CallStep where
  | note (value : Json)
  | noteArgs
  | fail (error : CommandError)
  | panic (panic : Panic)
  | sleep (delay : Nat)
  | read (name : String) (type : NativeType) (default : Option Json)
  | contains (name : String)
  | parse (type : NativeType)
  | answer (value : Json)
  | answerArgs
  | answerBad

structure CallRun where
  steps : List CallStep
  args : Args
  results : List Json

namespace CallRun

def start (steps : List CallStep) (args : Args) : CallRun := ⟨steps, args, []⟩

def result (r : CallRun) : Json :=
  if r.results.isEmpty then .null else .array r.results.reverse

def afterRead (r : CallRun) (rest : List CallStep) : Except CommandError Json → CallRun
  | .ok v => { r with steps := rest, results := v :: r.results }
  | .error e => { r with steps := [.fail e] }

def goOn (r : CallRun) : Action Journal Empty Payload CallRun := .update fun j => (j, r)

def next (r : CallRun) : Action Journal Empty Payload CallRun :=
  match r.steps with
  | [] => .finish (.done (.json r.result))
  | .note v :: rest => .update fun j => (j.note v, { r with steps := rest })
  | .noteArgs :: rest => .update fun j => (j.note r.args.toJson, { r with steps := rest })
  | .fail e :: _ => .finish (.failed e)
  | .panic p :: _ => .finish (.panicked p)
  | .sleep d :: rest => .wait (some ⟨d, { r with steps := rest }⟩) fun _ => none
  | .read name type none :: rest => (r.afterRead rest (r.args.get name type)).goOn
  | .read name type (some d) :: rest => (r.afterRead rest (r.args.getOr name type d)).goOn
  | .contains name :: rest => (r.afterRead rest (.ok (.bool (r.args.contains name)))).goOn
  | .parse type :: rest => (r.afterRead rest (r.args.parse type)).goOn
  | .answer v :: _ => .finish (.done (.json v))
  | .answerArgs :: _ => .finish (.done (.json r.args.toJson))
  | .answerBad :: _ => .finish (.done (.unserializable badKey))

end CallRun
end CommandBridge.Script

import CommandBridge.Text.Pieces
import CommandBridge.Text.Utf8

/-!
# Routes

A path is matched segment by segment as it stands; a name in it is then read with its
percent escapes resolved. A query is passed over.
-/

set_option autoImplicit false

namespace CommandBridge.Http

inductive Route where
  | index
  | listing
  | command (name : String)
  | channel (name : String)
  | stream (id : String)
  | socket (name : String)
deriving DecidableEq, Repr

def hexDigit? (b : UInt8) : Option Nat :=
  let n := b.toNat
  if 0x30 ≤ n ∧ n ≤ 0x39 then some (n - 0x30)
  else if 0x41 ≤ n ∧ n ≤ 0x46 then some (n - 0x41 + 10)
  else if 0x61 ≤ n ∧ n ≤ 0x66 then some (n - 0x61 + 10)
  else none

def resolveEscapes : List UInt8 → List UInt8
  | 0x25 :: high :: low :: rest =>
    match hexDigit? high, hexDigit? low with
    | some h, some l => UInt8.ofNat (h * 16 + l) :: resolveEscapes rest
    | _, _ => 0x25 :: resolveEscapes (high :: low :: rest)
  | b :: rest => b :: resolveEscapes rest
  | [] => []

def nameOf? (segment : String) : Option String :=
  (Utf8.decode? (resolveEscapes (Utf8.encode segment.toList))).map String.ofList

def segments (target : String) : List String :=
  (Text.cut '/' (String.ofList (target.toList.takeWhile fun c => c ≠ '?' ∧ c ≠ '#'))).tail

/-- A route with a name in it; the name is not empty. -/
def named (segment : String) (route : String → Route) : Option Route :=
  if segment.isEmpty then none else some (route segment)

def Route.ofTarget? (target : String) : Option Route :=
  match segments target with
  | [""] => some .index
  | ["commands"] => some .listing
  | ["command", name] => named name .command
  | ["channel", name] => named name .channel
  | ["channel", "stream", id] => named id .stream
  | ["ws", name] => named name .socket
  | _ => none

def Route.resolve? : Route → Option Route
  | .index => some .index
  | .listing => some .listing
  | .command name => (nameOf? name).map .command
  | .channel name => (nameOf? name).map .channel
  | .stream id => (nameOf? id).map .stream
  | .socket name => (nameOf? name).map .socket

def Route.methods : Route → List String
  | .command _ => ["POST"]
  | .channel _ => ["POST", "DELETE"]
  | _ => ["GET", "HEAD"]

end CommandBridge.Http

import CommandBridge.Toml.Parser

/-!
# Configuration of a bridge

Every setting has a default; a file may give any of them and may hold other keys.
-/

set_option autoImplicit false

namespace CommandBridge

structure Config where
  host : String
  port : Nat
  title : String
  debug : Bool
  generateTs : Option String
  channelCapacity : Nat
  attachTimeoutSecs : Nat
deriving DecidableEq, Repr

namespace Config

def default : Config := ⟨"127.0.0.1", 8000, "wirebridge", false, none, 64, 30⟩

def maxPort : Nat := 65535

def address (c : Config) : String := c.host ++ ":" ++ toString c.port

def logDirective (c : Config) (target : String) : String :=
  target ++ "=" ++ if c.debug then "debug" else "info"

def setting {α : Type} (ms : Toml.Members) (key : String) (default : α) (read : Toml → Option α) :
    Option α :=
  match Keyed.lookup key ms with
  | none => some default
  | some v => read v

def asText : Toml → Option String
  | .string s => some s
  | _ => none

def asBool : Toml → Option Bool
  | .boolean b => some b
  | _ => none

def asNat (limit : Nat) : Toml → Option Nat
  | .integer n => if 0 ≤ n ∧ n ≤ limit then some n.toNat else none
  | _ => none

def maxCount : Nat := Nat.pow 2 64 - 1

def ofMembers (ms : Toml.Members) : Option Config := do
  let host ← setting ms "host" default.host asText
  let port ← setting ms "port" default.port (asNat maxPort)
  let title ← setting ms "title" default.title asText
  let debug ← setting ms "debug" default.debug asBool
  let generateTs ← setting ms "generate_ts" default.generateTs fun v => (asText v).map some
  let capacity ← setting ms "channel_capacity" default.channelCapacity (asNat maxCount)
  let timeout ← setting ms "attach_timeout_secs" default.attachTimeoutSecs (asNat maxCount)
  return ⟨host, port, title, debug, generateTs, capacity, timeout⟩

def ofText? (text : String) : Option Config := (Toml.parse text).bind ofMembers

end Config

inductive ConfigError where
  | read (path : String)
  | parse (path : String)
deriving DecidableEq, Repr

namespace ConfigError

def path : ConfigError → String
  | read p => p
  | parse p => p

def message : ConfigError → String
  | read p => "failed to read config " ++ p
  | parse p => "invalid config " ++ p

end ConfigError

def Config.load (file : String → Option String) (path : String) : Except ConfigError Config :=
  match file path with
  | none => .error (.read path)
  | some text =>
    match Config.ofText? text with
    | some c => .ok c
    | none => .error (.parse path)

end CommandBridge

import CommandBridge.Config.Basic

/-!
# Command-line flags

A flag is given once, as `--name value` or `--name=value`. A value that stands by itself
is judged when the next flag comes or the line ends. Environment variables fill in for
flags that were not given.
-/

set_option autoImplicit false

namespace CommandBridge

inductive UsageError where
  | unknownArgument
  | missingValue
  | badValue
  | repeated
  | helpWanted
  | unwantedValue
deriving DecidableEq, Repr

inductive Flag where
  | config | host | port | title | generateTs
deriving DecidableEq, Repr

structure Flags where
  config : Option String
  host : Option String
  port : Option Nat
  title : Option String
  debug : Bool
  generateTs : Option String
deriving DecidableEq, Repr

namespace Flag

def name : Flag → String
  | config => "config"
  | host => "host"
  | port => "port"
  | title => "title"
  | generateTs => "generate-ts"

def all : List Flag := [config, host, port, title, generateTs]

def ofName? (text : String) : Option Flag := all.find? fun f => decide (f.name = text)

def environmentName? : Flag → Option String
  | config => some "WIREBRIDGE_CONFIG"
  | host => some "WIREBRIDGE_HOST"
  | port => some "WIREBRIDGE_PORT"
  | title => none
  | generateTs => some "WIREBRIDGE_GENERATE_TS"

end Flag

namespace Flags

def none : Flags := ⟨.none, .none, .none, .none, false, .none⟩

def isGiven (fs : Flags) : Flag → Bool
  | .config => fs.config.isSome
  | .host => fs.host.isSome
  | .port => fs.port.isSome
  | .title => fs.title.isSome
  | .generateTs => fs.generateTs.isSome

def portOf? (text : String) : Option Nat :=
  let (negative, digits) := match text.toList with
    | '-' :: rest => (true, rest)
    | '+' :: rest => (false, rest)
    | rest => (false, rest)
  if digits.isEmpty || !digits.all Char.isDigit then .none
  else
    let n := digits.foldl (fun acc d => acc * 10 + (d.toNat - '0'.toNat)) 0
    if n ≤ Config.maxPort ∧ (negative = true → n = 0) then some n else .none

def pathOf (text : String) : Except UsageError String :=
  if text.isEmpty then .error .missingValue else .ok text

def set (fs : Flags) (flag : Flag) (text : String) : Except UsageError Flags :=
  if fs.isGiven flag then .error .repeated
  else
    match flag with
    | .config => (pathOf text).map fun p => { fs with config := some p }
    | .host => .ok { fs with host := some text }
    | .port =>
      match portOf? text with
      | some p => .ok { fs with port := some p }
      | .none => .error .badValue
    | .title => .ok { fs with title := some text }
    | .generateTs => (pathOf text).map fun p => { fs with generateTs := some p }

structure Open where
  flag : Flag
  value : Option String

def settle (fs : Flags) : Option Open → Except UsageError Flags
  | .none => .ok fs
  | some ⟨_, .none⟩ => .error .missingValue
  | some ⟨flag, some text⟩ => fs.set flag text

def splitLong (word : List Char) : String × Option String :=
  let name := word.takeWhile (· ≠ '=')
  (String.ofList name,
    if name.length < word.length then some (String.ofList (word.drop (name.length + 1))) else .none)

def setDebug (fs : Flags) : Except UsageError Flags :=
  if fs.debug then .error .repeated else .ok { fs with debug := true }

def long (fs : Flags) (waiting : Option Open) (word : List Char) :
    Except UsageError (Flags × Option Open) :=
  match splitLong word with
  | ("help", .none) => do let _ ← fs.settle waiting; .error .helpWanted
  | ("debug", .none) => do return (← (← fs.settle waiting).setDebug, .none)
  | ("help", some _) => .error .unwantedValue
  | ("debug", some _) => .error .unwantedValue
  | (name, value) =>
    match Flag.ofName? name, value with
    | .none, _ => .error .unknownArgument
    | some flag, .none => do return (← fs.settle waiting, some ⟨flag, .none⟩)
    | some flag, some text => do return (← (← fs.settle waiting).set flag text, .none)

def word (fs : Flags) (waiting : Option Open) (text : String) :
    Except UsageError (Flags × Option Open) :=
  match waiting with
  | some ⟨flag, .none⟩ => .ok (fs, some ⟨flag, some text⟩)
  | _ => .error .unknownArgument

def words (fs : Flags) (waiting : Option Open) : List String → Except UsageError Flags
  | [] => fs.settle waiting
  | text :: rest =>
    match text.toList with
    | ['-', '-'] => if rest.isEmpty then fs.settle waiting else .error .unknownArgument
    | '-' :: '-' :: name => do
      let (fs, waiting) ← fs.long waiting name
      words fs waiting rest
    | '-' :: 'h' :: _ => do let _ ← fs.settle waiting; .error .helpWanted
    | '-' :: _ :: _ => .error .unknownArgument
    | _ => do
      let (fs, waiting) ← fs.word waiting text
      words fs waiting rest

def fill (environment : String → Option String) (fs : Flags) : Except UsageError Flags :=
  Flag.all.foldlM (fun fs flag =>
    match flag.environmentName?.bind environment with
    | some text => if fs.isGiven flag then .ok fs else fs.set flag text
    | .none => .ok fs) fs

/-- The flags of a command line and an environment. -/
def parse (environment : String → Option String) (line : List String) :
    Except UsageError Flags := do
  (← Flags.none.words .none line).fill environment

def resolve (file : String → Option String) (fs : Flags) : Except ConfigError Config := do
  let c ← match fs.config with
    | some path => Config.load file path
    | .none => .ok Config.default
  return { c with
    host := fs.host.getD c.host
    port := fs.port.getD c.port
    title := fs.title.getD c.title
    debug := fs.debug || c.debug
    generateTs := fs.generateTs.or c.generateTs }

end Flags
end CommandBridge

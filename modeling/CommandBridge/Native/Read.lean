import CommandBridge.Decimal.Shortest
import CommandBridge.Json.Printer
import CommandBridge.Native.Type
import CommandBridge.Text.Shown

/-!
# Reading values as native types

A value that is read is given back as the type would write it again: an integer read
as a float becomes a float, a structure is given with all its members. The members
of a structure are looked at in key order, and only then are missing ones reported.
-/

set_option autoImplicit false

namespace CommandBridge

inductive ReadError where
  | kind (found : Json) (expected : String)
  | value (found : Json) (expected : String)
  | missing (member : String)
  | length (found : Nat) (expected : String)

namespace ReadError

def plainLayout : Binary64.FloatLayout := ⟨-400, 400, ""⟩

/-- The wording of a value in a message. -/
def describe : Json → String
  | .null => "null"
  | .bool b => "boolean `" ++ toString b ++ "`"
  | .number (.int n _) => "integer `" ++ toString n ++ "`"
  | .number (.float x) => "floating point `" ++ String.ofList (x.format plainLayout) ++ "`"
  | .string s => "string " ++ Text.quoted s
  | .array _ => "sequence"
  | .object _ => "map"

def message : ReadError → String
  | kind found expected => "invalid type: " ++ describe found ++ ", expected " ++ expected
  | value found expected => "invalid value: " ++ describe found ++ ", expected " ++ expected
  | missing member => "missing field `" ++ member ++ "`"
  | length found expected =>
    "invalid length " ++ toString found ++ ", expected " ++ expected

end ReadError

namespace NativeType

def keyInteger? (key : String) : Option Int :=
  let (negative, digits) := match key.toList with
    | '-' :: rest => (true, rest)
    | rest => (false, rest)
  if digits.isEmpty || !digits.all Char.isDigit then none
  else
    let n : Int := (digits.foldl (fun acc d => acc * 10 + (d.toNat - '0'.toNat)) 0 : Nat)
    some (if negative then -n else n)

def readKey : NativeType → String → Except ReadError String
  | integer f, key =>
    match keyInteger? key with
    | some n => if f.holds n then .ok (toString n) else .error (.value (.string key) f.name)
    | none => .error (.kind (.string key) f.name)
  | _, key => .ok key

def whenMissing (m : MemberOf NativeType) : Except ReadError Json :=
  match m.default, m.type with
  | some d, _ => .ok d
  | none, option _ => .ok .null
  | none, _ => .error (.missing m.name)

def fillMembers (read : List (String × Json)) :
    List (MemberOf NativeType) → Except ReadError (List (String × Json))
  | [] => .ok []
  | m :: rest => do
    let v ← match Keyed.lookup m.name read with
      | some v => .ok v
      | none => whenMissing m
    return (m.name, v) :: (← fillMembers read rest)

mutual
def read (t : NativeType) (v : Json) : Except ReadError Json :=
  match t with
  | any => .ok v
  | text =>
    match v with
    | .string s => .ok (.string s)
    | v => .error (.kind v "a string")
  | character =>
    match v with
    | .string s =>
      if s.length = 1 then .ok (.string s) else .error (.value (.string s) "a character")
    | v => .error (.kind v "a character")
  | integer f =>
    match v with
    | .number (.int n h) =>
      if f.holds n then .ok (.number (.int n h)) else .error (.value (.number (.int n h)) f.name)
    | v => .error (.kind v f.name)
  | float =>
    match v with
    | .number (.float x) => .ok (.number (.float x))
    | .number (.int n _) => .ok (.number (.float (Binary64.ofInt n)))
    | v => .error (.kind v "f64")
  | boolean =>
    match v with
    | .bool b => .ok (.bool b)
    | v => .error (.kind v "a boolean")
  | unit =>
    match v with
    | .null => .ok .null
    | v => .error (.kind v "unit")
  | option t =>
    match v with
    | .null => .ok .null
    | v => read t v
  | list t =>
    match v with
    | .array items => (readItems t items).map .array
    | v => .error (.kind v "a sequence")
  | map k t =>
    match v with
    | .object members => (readEntries k t members).map fun m => .object (Keyed.sort m)
    | v => .error (.kind v "a map")
  | tuple ts =>
    let expected := "a tuple of size " ++ toString ts.length
    match v with
    | .array items =>
      if items.length = ts.length then (readTuple ts items).map .array
      else .error (.length items.length expected)
    | v => .error (.kind v expected)
  | .structure ms =>
    match v with
    | .object members => do
      let given ← readMembers ms members
      return .object (Keyed.sort (← fillMembers given ms))
    | v => .error (.kind v "a map")
  | declared _ => .ok v
termination_by (sizeOf v, sizeOf t)

def readItems (t : NativeType) (items : List Json) : Except ReadError (List Json) :=
  match items with
  | [] => .ok []
  | v :: rest => do return (← read t v) :: (← readItems t rest)
termination_by (sizeOf items, sizeOf t)

def readEntries (k t : NativeType) (members : List (String × Json)) :
    Except ReadError (List (String × Json)) :=
  match members with
  | [] => .ok []
  | (key, v) :: rest => do
    let key ← readKey k key
    return (key, ← read t v) :: (← readEntries k t rest)
termination_by (sizeOf members, sizeOf t)

def readTuple (ts : List NativeType) (items : List Json) : Except ReadError (List Json) :=
  match ts, items with
  | t :: ts, v :: rest => do return (← read t v) :: (← readTuple ts rest)
  | _, _ => .ok []
termination_by (sizeOf items, sizeOf ts)

def readMembers (ms : List (MemberOf NativeType)) (members : List (String × Json)) :
    Except ReadError (List (String × Json)) :=
  match members with
  | [] => .ok []
  | (key, v) :: rest =>
    match ms.find? fun m => decide (m.name = key) with
    | some m => do return (key, ← read m.type v) :: (← readMembers ms rest)
    | none => readMembers ms rest
termination_by (sizeOf members, sizeOf ms)
end

end NativeType
end CommandBridge

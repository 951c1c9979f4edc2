import CommandBridge.Error
import CommandBridge.Schema.Definitions

/-!
# Checking values against types

A value is checked after key conversion, so a field is looked up under its declared
name; other keys are ignored. A rejection tells the steps that lead from the value
to the first offence, items and declared fields in order and entries in key order.
-/

set_option autoImplicit false

namespace CommandBridge

inductive PathStep where
  | item (index : Nat)
  | entry (key : String)
deriving DecidableEq, Repr

def PathStep.text : PathStep → String
  | item i => "[" ++ toString i ++ "]"
  | entry k => "." ++ k

inductive Offence where
  | kind (expected got : String)
  | length (expected got : Nat)
  | variant (value typeName : String)
  | noMember
  | missingField
  | integerKey
  | streamValue
deriving DecidableEq, Repr

def Offence.message : Offence → String
  | kind expected got => "expected " ++ expected ++ ", got " ++ got
  | length expected got =>
    "expected " ++ toString expected ++ " elements, got " ++ toString got
  | variant value typeName => "'" ++ value ++ "' is not a valid " ++ typeName
  | noMember => "value matches none of the allowed types"
  | missingField => "missing required field"
  | integerKey => "expected integer key"
  | streamValue => "streams cannot be sent as arguments"

inductive Rejection where
  | offence (steps : List PathStep) (what : Offence)
  | undefinedType (name : String)
deriving DecidableEq, Repr

namespace Rejection

def under (step : PathStep) : Rejection → Rejection
  | offence steps what => offence (step :: steps) what
  | undefinedType name => undefinedType name

def stepsText (steps : List PathStep) : String := String.join (steps.map PathStep.text)

def toBridgeError (path : String) : Rejection → BridgeError
  | offence steps what => .invalidField (path ++ stepsText steps) what.message
  | undefinedType name => .of .internalError ("type '" ++ name ++ "' is not defined")

end Rejection

namespace Conformance

def isIntegerKey (key : String) : Bool :=
  let (negative, digits) := match key.toList with
    | '-' :: rest => (true, rest)
    | '+' :: rest => (false, rest)
    | rest => (false, rest)
  let n := digits.foldl (fun acc d => acc * 10 + (d.toNat - '0'.toNat)) 0
  !digits.isEmpty && digits.all Char.isDigit && decide (n < Nat.pow 2 63 ∨ (negative = true ∧ n = Nat.pow 2 63))

def mismatch (expected : String) (v : Json) : Except Rejection Unit :=
  .error (.offence [] (.kind expected v.kind))

def isPrimitive : Primitive → Json → Bool
  | .string, .string _ | .bytes, .string _ => true
  | .integer, .number (.int ..) => true
  | .float, .number _ => true
  | .boolean, .bool _ => true
  | .null, .null => true
  | .unknown, _ => true
  | _, _ => false

def checkPrimitive (p : Primitive) (v : Json) : Except Rejection Unit :=
  if isPrimitive p v then .ok () else mismatch p.name v

def checkEnum (shape : EnumShape) (v : Json) : Except Rejection Unit :=
  match v with
  | .string s =>
    if shape.variants.contains s then .ok ()
    else .error (.offence [] (.variant s shape.name))
  | v => mismatch "string" v

def within (step : PathStep) : Except Rejection Unit → Except Rejection Unit
  | .ok () => .ok ()
  | .error r => .error (r.under step)

mutual
def check (table : Definitions) (t : Descriptor) (v : Json) : Except Rejection Unit :=
  match t with
  | .primitive p => checkPrimitive p v
  | .optional inner =>
    match v with
    | .null => .ok ()
    | v => check table inner v
  | .sequence item =>
    match v with
    | .array items => checkItems table item 0 items
    | v => mismatch "array" v
  | .mapping key value =>
    match v with
    | .object members => checkEntries table (decide (key = .integer)) value members
    | v => mismatch "object" v
  | .tuple ts =>
    match v with
    | .array items =>
      if items.length = ts.length then checkTuple table 0 ts items
      else .error (.offence [] (.length ts.length items.length))
    | v => mismatch "array" v
  | .record _ _ fields =>
    match v with
    | .object members => checkFields table fields members
    | v => mismatch "object" v
  | .enum shape => checkEnum shape v
  | .union members =>
    if acceptsAny table members v then .ok () else .error (.offence [] .noMember)
  | .reference name =>
    match table.get? name with
    | some (.record shape) =>
      match v with
      | .object members => checkFields table shape.fields members
      | v => mismatch "object" v
    | some (.enum shape) => checkEnum shape v
    | none => .error (.undefinedType name)
  | .stream _ => .error (.offence [] .streamValue)
termination_by (sizeOf v, sizeOf t)

def checkItems (table : Definitions) (t : Descriptor) (index : Nat) (items : List Json) :
    Except Rejection Unit :=
  match items with
  | [] => .ok ()
  | v :: rest =>
    match within (.item index) (check table t v) with
    | .ok () => checkItems table t (index + 1) rest
    | failed => failed
termination_by (sizeOf items, sizeOf t)

def checkEntries (table : Definitions) (integerKeys : Bool) (t : Descriptor)
    (members : List (String × Json)) : Except Rejection Unit :=
  match members with
  | [] => .ok ()
  | (k, v) :: rest =>
    if integerKeys && !isIntegerKey k then .error (.offence [.entry k] .integerKey)
    else
      match within (.entry k) (check table t v) with
      | .ok () => checkEntries table integerKeys t rest
      | failed => failed
termination_by (sizeOf members, sizeOf t)

def checkTuple (table : Definitions) (index : Nat) (ts : List Descriptor) (items : List Json) :
    Except Rejection Unit :=
  match ts, items with
  | t :: ts, v :: rest =>
    match within (.item index) (check table t v) with
    | .ok () => checkTuple table (index + 1) ts rest
    | failed => failed
  | _, _ => .ok ()
termination_by (sizeOf items, sizeOf ts)

def checkFields (table : Definitions) (fields : List Field) (members : List (String × Json)) :
    Except Rejection Unit :=
  match fields with
  | [] => .ok ()
  | f :: rest =>
    match h : Keyed.lookup f.name members with
    | some v =>
      have := Keyed.sizeOf_lookup_lt h
      match within (.entry f.name) (check table f.type v) with
      | .ok () => checkFields table rest members
      | failed => failed
    | none =>
      if f.mayBeAbsent then checkFields table rest members
      else .error (.offence [.entry f.name] .missingField)
termination_by (sizeOf members, sizeOf fields)

def acceptsAny (table : Definitions) (ts : List Descriptor) (v : Json) : Bool :=
  match ts with
  | [] => false
  | t :: rest =>
    match check table t v with
    | .ok () => true
    | .error _ => acceptsAny table rest v
termination_by (sizeOf v, sizeOf ts)
end

end Conformance

/-- Checks a value that the caller calls `path`. -/
def validate (table : Definitions) (path : String) (t : Descriptor) (v : Json) :
    Except BridgeError Unit :=
  match Conformance.check table t v with
  | .ok () => .ok ()
  | .error r => .error (r.toBridgeError path)

end CommandBridge

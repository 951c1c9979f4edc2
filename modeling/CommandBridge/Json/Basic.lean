import CommandBridge.Decimal.Binary64
import CommandBridge.Keyed

/-!
# JSON values

A number is an integer of the 64-bit signed or unsigned range or a finite double.
An object is a list of members. Values that the parser and the operations of this
library produce are canonical: the members are sorted by key and no key occurs
twice. `canonical` brings any value to that form, the last of several members of
one key winning.
-/

set_option autoImplicit false

namespace CommandBridge

def IntRange (n : Int) : Prop := -(Nat.pow 2 63 : Int) ≤ n ∧ n < Nat.pow 2 64

instance (n : Int) : Decidable (IntRange n) := inferInstanceAs (Decidable (_ ∧ _))

inductive Number where
  | int (value : Int) (inRange : IntRange value)
  | float (value : Binary64)
deriving DecidableEq

def Number.ofInt (n : Int) : Number :=
  if h : IntRange n then .int n h else .float (Binary64.ofInt n)

inductive Json where
  | null
  | bool (value : Bool)
  | number (value : Number)
  | string (value : String)
  | array (items : List Json)
  | object (members : List (String × Json))

instance : Inhabited Json := ⟨.null⟩

namespace Json

mutual
def decEq : (a b : Json) → Decidable (a = b)
  | null, b => by cases b <;> first | exact isTrue rfl | exact isFalse (fun h => nomatch h)
  | bool x, b => by
    cases b with
    | bool y => exact if h : x = y then isTrue (h ▸ rfl) else isFalse (fun e => h (bool.inj e))
    | _ => exact isFalse (fun h => nomatch h)
  | number x, b => by
    cases b with
    | number y => exact if h : x = y then isTrue (h ▸ rfl) else isFalse (fun e => h (number.inj e))
    | _ => exact isFalse (fun h => nomatch h)
  | string x, b => by
    cases b with
    | string y => exact if h : x = y then isTrue (h ▸ rfl) else isFalse (fun e => h (string.inj e))
    | _ => exact isFalse (fun h => nomatch h)
  | array xs, b => by
    cases b with
    | array ys =>
      exact match decEqItems xs ys with
        | isTrue h => isTrue (h ▸ rfl)
        | isFalse h => isFalse (fun e => h (array.inj e))
    | _ => exact isFalse (fun h => nomatch h)
  | object xs, b => by
    cases b with
    | object ys =>
      exact match decEqMembers xs ys with
        | isTrue h => isTrue (h ▸ rfl)
        | isFalse h => isFalse (fun e => h (object.inj e))
    | _ => exact isFalse (fun h => nomatch h)

def decEqItems : (a b : List Json) → Decidable (a = b)
  | [], [] => isTrue rfl
  | [], _ :: _ => isFalse (fun h => nomatch h)
  | _ :: _, [] => isFalse (fun h => nomatch h)
  | x :: xs, y :: ys =>
    match decEq x y, decEqItems xs ys with
    | isTrue h, isTrue t => isTrue (h ▸ t ▸ rfl)
    | isFalse h, _ => isFalse (fun e => h (List.cons.inj e).1)
    | _, isFalse t => isFalse (fun e => t (List.cons.inj e).2)

def decEqMembers : (a b : List (String × Json)) → Decidable (a = b)
  | [], [] => isTrue rfl
  | [], _ :: _ => isFalse (fun h => nomatch h)
  | _ :: _, [] => isFalse (fun h => nomatch h)
  | (k, x) :: xs, (l, y) :: ys =>
    match decEq x y, decEqMembers xs ys with
    | isTrue h, isTrue t =>
      if hk : k = l then isTrue (hk ▸ h ▸ t ▸ rfl)
      else isFalse (fun e => hk (Prod.mk.inj (List.cons.inj e).1).1)
    | isFalse h, _ => isFalse (fun e => h (Prod.mk.inj (List.cons.inj e).1).2)
    | _, isFalse t => isFalse (fun e => t (List.cons.inj e).2)
end

instance : DecidableEq Json := decEq

mutual
/-- Sorts the members of every object. -/
def canonical : Json → Json
  | array items => array (canonicalItems items)
  | object members => object (Keyed.sort (canonicalMembers members))
  | v => v

def canonicalItems : List Json → List Json
  | [] => []
  | v :: rest => canonical v :: canonicalItems rest

def canonicalMembers : List (String × Json) → List (String × Json)
  | [] => []
  | (k, v) :: rest => (k, canonical v) :: canonicalMembers rest
end

mutual
/-- Every object in the value has strictly increasing keys. -/
def Canonical : Json → Prop
  | array items => CanonicalItems items
  | object members => Keyed.Sorted members ∧ CanonicalMembers members
  | _ => True

def CanonicalItems : List Json → Prop
  | [] => True
  | v :: rest => Canonical v ∧ CanonicalItems rest

def CanonicalMembers : List (String × Json) → Prop
  | [] => True
  | (_, v) :: rest => Canonical v ∧ CanonicalMembers rest
end

def int (n : Int) : Json := .number (.ofInt n)

def nat (n : Nat) : Json := int n

def ofMembers (members : List (String × Json)) : Json := .object (Keyed.sort members)

def optString : Option String → Json
  | none => .null
  | some s => .string s

def kind : Json → String
  | null => "null"
  | bool _ => "boolean"
  | number (.int ..) => "integer"
  | number (.float _) => "float"
  | string _ => "string"
  | array _ => "array"
  | object _ => "object"

end Json
end CommandBridge

import CommandBridge.Json.Basic

/-!
# Reading a fixed set of members

A structure is read from an object, where other keys are ignored and a wanted key
may stand at most once, or from an array that lists the members in order. Members
in the second list may be left out.
-/

set_option autoImplicit false

namespace CommandBridge.Json

def occurrences (key : String) (members : List (String × Json)) : Nat :=
  members.countP fun m => decide (m.1 = key)

/-- The wanted members of a value. Every required one is present in the answer. -/
def wanted (required optional : List String) : Json → Option (List (String × Json))
  | object members =>
    let keys := required ++ optional
    if (keys.all fun k => decide (occurrences k members ≤ 1)) ∧
        (required.all fun k => (Keyed.lookup k members).isSome) then
      some (keys.filterMap fun k => (Keyed.lookup k members).map fun v => (k, v))
    else none
  | array items =>
    if required.length ≤ items.length ∧ items.length ≤ required.length + optional.length then
      some ((required ++ optional).zip items)
    else none
  | _ => none

def asString? : Json → Option String
  | string s => some s
  | _ => none

def asArray? : Json → Option (List Json)
  | array items => some items
  | _ => none

def asObject? : Json → Option (List (String × Json))
  | object members => some members
  | _ => none

def member (key : String) (v : Json) : Json :=
  match v with
  | object members => (Keyed.lookup key members).getD null
  | _ => null

end CommandBridge.Json

import CommandBridge.Json.Parser

/-!
# Reading some members of an object

A reader that wants certain members of an object passes over the others. What is passed
over must follow the grammar, but nothing is made of it: it may be nested to any depth,
its numbers may be of any size, and its surrogates need not pair up.
-/

set_option autoImplicit false

namespace CommandBridge.Json

def skipString : List Char → Option (List Char)
  | [] => none
  | '"' :: rest => some rest
  | '\\' :: 'u' :: a :: b :: c :: d :: rest =>
    if (hexFour a b c d).isSome then skipString rest else none
  | '\\' :: e :: rest => if (simpleEscape e).isSome then skipString rest else none
  | c :: rest => if c = '\\' ∨ c.toNat < 0x20 then none else skipString rest

def skipExponent : List Char → Option (List Char)
  | 'e' :: after | 'E' :: after => (exponentPart after).map Prod.snd
  | rest => some rest

def skipNumber (cs : List Char) : Option (List Char) :=
  let cs := if cs.head? = some '-' then cs.tail else cs
  let whole := cs.takeWhile Char.isDigit
  if whole.isEmpty ∨ (whole.head? = some '0' ∧ 1 < whole.length) then none
  else (fractionPart (cs.drop whole.length)).bind fun r => skipExponent r.2

mutual
def skipValue : Nat → List Char → Option (List Char)
  | 0, _ => none
  | fuel + 1, cs =>
    match skipBlanks cs with
    | '"' :: rest => skipString rest
    | '[' :: rest =>
      match skipBlanks rest with
      | ']' :: rest => some rest
      | rest => skipItems fuel rest
    | '\x7b' :: rest =>
      match skipBlanks rest with
      | '\x7d' :: rest => some rest
      | rest => skipMembers fuel rest
    | 'n' :: rest => dropWord ['u', 'l', 'l'] rest
    | 't' :: rest => dropWord ['r', 'u', 'e'] rest
    | 'f' :: rest => dropWord ['a', 'l', 's', 'e'] rest
    | cs => skipNumber cs

def skipItems : Nat → List Char → Option (List Char)
  | 0, _ => none
  | fuel + 1, cs =>
    (skipValue fuel cs).bind fun rest =>
      match skipBlanks rest with
      | ']' :: rest => some rest
      | ',' :: rest => skipItems fuel rest
      | _ => none

def skipMembers : Nat → List Char → Option (List Char)
  | 0, _ => none
  | fuel + 1, cs =>
    match skipBlanks cs with
    | '"' :: rest =>
      match (skipString rest).map skipBlanks with
      | some (':' :: rest) =>
        match (skipValue fuel rest).map skipBlanks with
        | some ('\x7d' :: rest) => some rest
        | some (',' :: rest) => skipMembers fuel rest
        | _ => none
      | _ => none
    | _ => none
end

def memberKey (cs : List Char) : Option (String × List Char) :=
  match skipBlanks cs with
  | '"' :: rest =>
    match stringBody rest with
    | some (key, rest) =>
      match skipBlanks rest with
      | ':' :: rest => some (String.ofList key, rest)
      | _ => none
    | none => none
  | _ => none

/-- The members of the kept keys up to the object's brace, in text order; the object has
at least one member. `fuel` bounds the members. -/
def keptMembers (keys : List String) : Nat → List Char → Option (List (String × Json) × List Char)
  | 0, _ => none
  | fuel + 1, cs =>
    match memberKey cs with
    | none => none
    | some (key, rest) =>
      let member :=
        if keys.contains key then
          (value (rest.length + 1) (maxDepth - 1) rest).map fun r => ([(key, r.1)], r.2)
        else (skipValue (rest.length + 1) rest).map fun rest => ([], rest)
      match member with
      | none => none
      | some (found, rest) =>
        match skipBlanks rest with
        | '\x7d' :: rest => some (found, rest)
        | ',' :: rest => (keptMembers keys fuel rest).map fun r => (found ++ r.1, r.2)
        | _ => none

def readKept (keys : List String) (s : String) : Option Json :=
  match skipBlanks s.toList with
  | '\x7b' :: rest =>
    match skipBlanks rest with
    | '\x7d' :: rest => if (skipBlanks rest).isEmpty then some (.object []) else none
    | rest =>
      match keptMembers keys (rest.length + 1) rest with
      | some (ms, rest) => if (skipBlanks rest).isEmpty then some (.object ms) else none
      | none => none
  | _ => read s

end CommandBridge.Json

import CommandBridge.Json.Basic

/-!
# Reading JSON text

`read` gives the value with the members of each object as they stand in the text,
repeated keys included; `parse` brings it to canonical form, so the last member of
a key wins. Text nested deeper than `maxDepth` containers is refused.

A literal with a fraction or an exponent, `-0`, and an integer outside the exact
range read as doubles: the leading digits that fit 64 bits are rounded to a double
and then scaled by powers of ten, each step rounding once.
-/

set_option autoImplicit false

namespace CommandBridge.Json

def maxDepth : Nat := 127

def isBlank (c : Char) : Bool := c = ' ' || c = '\n' || c = '\t' || c = '\r'

def skipBlanks (cs : List Char) : List Char := cs.dropWhile isBlank

def dropWord : List Char → List Char → Option (List Char)
  | [], cs => some cs
  | w :: ws, c :: cs => if w = c then dropWord ws cs else none
  | _ :: _, [] => none

def hexValue (c : Char) : Option Nat :=
  if c.isDigit then some (c.toNat - '0'.toNat)
  else if 'a' ≤ c ∧ c ≤ 'f' then some (c.toNat - 'a'.toNat + 10)
  else if 'A' ≤ c ∧ c ≤ 'F' then some (c.toNat - 'A'.toNat + 10)
  else none

def hexFour (a b c d : Char) : Option Nat := do
  let a ← hexValue a
  let b ← hexValue b
  let c ← hexValue c
  let d ← hexValue d
  return ((a * 16 + b) * 16 + c) * 16 + d

def simpleEscape : Char → Option Char
  | '"' => some '"'
  | '\\' => some '\\'
  | '/' => some '/'
  | 'b' => some '\x08'
  | 'f' => some '\x0c'
  | 'n' => some '\n'
  | 'r' => some '\r'
  | 't' => some '\t'
  | _ => none

def surrogatePair (high low : Nat) : Option Char :=
  if 0xD800 ≤ high ∧ high < 0xDC00 ∧ 0xDC00 ≤ low ∧ low < 0xE000 then
    some (Char.ofNat (0x10000 + (high - 0xD800) * 0x400 + (low - 0xDC00)))
  else none

def stringBody : List Char → Option (List Char × List Char)
  | [] => none
  | '"' :: rest => some ([], rest)
  | '\\' :: 'u' :: a :: b :: c :: d :: rest =>
    match hexFour a b c d with
    | none => none
    | some n =>
      if n < 0xD800 ∨ 0xE000 ≤ n then
        (stringBody rest).map fun r => (Char.ofNat n :: r.1, r.2)
      else
        match rest with
        | '\\' :: 'u' :: a :: b :: c :: d :: rest =>
          match (hexFour a b c d).bind (surrogatePair n) with
          | some ch => (stringBody rest).map fun r => (ch :: r.1, r.2)
          | none => none
        | _ => none
  | '\\' :: e :: rest =>
    match simpleEscape e with
    | some ch => (stringBody rest).map fun r => (ch :: r.1, r.2)
    | none => none
  | c :: rest =>
    if c = '\\' ∨ c.toNat < 0x20 then none
    else (stringBody rest).map fun r => (c :: r.1, r.2)

def digitValue (c : Char) : Nat := c.toNat - '0'.toNat

def takeDigits : Nat → List Char → Nat × List Char
  | acc, [] => (acc, [])
  | acc, d :: ds =>
    if acc * 10 + digitValue d < Nat.pow 2 64 then takeDigits (acc * 10 + digitValue d) ds
    else (acc, d :: ds)

def scaleDown (x : Binary64) (k : Nat) : Option Binary64 :=
  if k ≤ 308 then (Binary64.pow10 k).bind x.div
  else if x.mantissa = 0 then some x
  else ((Binary64.pow10 308).bind x.div).bind fun y => scaleDown y (k - 308)
termination_by k

def scale (x : Binary64) (exponent : Int) : Option Binary64 :=
  if exponent < 0 then scaleDown x exponent.natAbs
  else if exponent ≤ 308 then (Binary64.pow10 exponent.toNat).bind x.mul
  else if x.mantissa = 0 then some x
  else none

def floatOf (negative : Bool) (whole fraction : List Char) (exponent : Int) : Option Number :=
  let (high, wholeRest) := takeDigits 0 whole
  let (all, fractionRest) := takeDigits high fraction
  let shift : Int := exponent + wholeRest.length - (fraction.length - fractionRest.length : Nat)
  (scale (Binary64.ofInt all) shift).map fun x => .float { x with negative := negative }

def integerOf (negative : Bool) (digits : List Char) : Option Number :=
  let n : Int := (digits.foldl (fun acc d => acc * 10 + digitValue d) 0 : Nat)
  let value := if negative then -n else n
  if h : IntRange value ∧ ¬(negative = true ∧ n = 0) then some (.int value h.1)
  else floatOf negative digits [] 0

def exponentPart (cs : List Char) : Option (Int × List Char) :=
  let (negative, cs) := match cs with
    | '-' :: rest => (true, rest)
    | '+' :: rest => (false, rest)
    | rest => (false, rest)
  let digits := cs.takeWhile Char.isDigit
  if digits.isEmpty then none
  else
    let n : Int := (digits.foldl (fun acc d => acc * 10 + digitValue d) 0 : Nat)
    some (if negative then -n else n, cs.dropWhile Char.isDigit)

def fractionPart : List Char → Option (Option (List Char) × List Char)
  | '.' :: rest =>
    let digits := rest.takeWhile Char.isDigit
    if digits.isEmpty then none else some (some digits, rest.dropWhile Char.isDigit)
  | rest => some (none, rest)

def unsignedNumber (negative : Bool) (cs : List Char) : Option (Number × List Char) := do
  let whole := cs.takeWhile Char.isDigit
  if whole.isEmpty ∨ (whole.head? = some '0' ∧ 1 < whole.length) then none
  else
    let (fraction, rest) ← fractionPart (cs.dropWhile Char.isDigit)
    match rest with
    | 'e' :: after | 'E' :: after =>
      let (exponent, rest) ← exponentPart after
      let n ← floatOf negative whole (fraction.getD []) exponent
      return (n, rest)
    | _ =>
      match fraction with
      | some digits => return (← floatOf negative whole digits 0, rest)
      | none => return (← integerOf negative whole, rest)

def numberValue : List Char → Option (Number × List Char)
  | '-' :: rest => unsignedNumber true rest
  | cs => unsignedNumber false cs

mutual
/-- One value at the front of the text. `fuel` bounds the steps, `depth` the containers. -/
def value : Nat → Nat → List Char → Option (Json × List Char)
  | 0, _, _ => none
  | fuel + 1, depth, cs =>
    match skipBlanks cs with
    | '"' :: rest => (stringBody rest).map fun r => (.string (String.ofList r.1), r.2)
    | '[' :: rest =>
      match depth with
      | 0 => none
      | depth + 1 =>
        match skipBlanks rest with
        | ']' :: rest => some (.array [], rest)
        | rest => (items fuel depth rest).map fun r => (.array r.1, r.2)
    | '\x7b' :: rest =>
      match depth with
      | 0 => none
      | depth + 1 =>
        match skipBlanks rest with
        | '\x7d' :: rest => some (.object [], rest)
        | rest => (members fuel depth rest).map fun r => (.object r.1, r.2)
    | 'n' :: rest => (dropWord ['u', 'l', 'l'] rest).map fun r => (.null, r)
    | 't' :: rest => (dropWord ['r', 'u', 'e'] rest).map fun r => (.bool true, r)
    | 'f' :: rest => (dropWord ['a', 'l', 's', 'e'] rest).map fun r => (.bool false, r)
    | cs => (numberValue cs).map fun r => (.number r.1, r.2)

/-- The items of an array up to its bracket; at least one. -/
def items : Nat → Nat → List Char → Option (List Json × List Char)
  | 0, _, _ => none
  | fuel + 1, depth, cs =>
    match value fuel depth cs with
    | none => none
    | some (v, rest) =>
      match skipBlanks rest with
      | ']' :: rest => some ([v], rest)
      | ',' :: rest => (items fuel depth rest).map fun r => (v :: r.1, r.2)
      | _ => none

/-- The members of an object up to its brace; at least one. -/
def members : Nat → Nat → List Char → Option (List (String × Json) × List Char)
  | 0, _, _ => none
  | fuel + 1, depth, cs =>
    match skipBlanks cs with
    | '"' :: rest =>
      match stringBody rest with
      | none => none
      | some (key, rest) =>
        match skipBlanks rest with
        | ':' :: rest =>
          match value fuel depth rest with
          | none => none
          | some (v, rest) =>
            let m := (String.ofList key, v)
            match skipBlanks rest with
            | '\x7d' :: rest => some ([m], rest)
            | ',' :: rest => (members fuel depth rest).map fun r => (m :: r.1, r.2)
            | _ => none
        | _ => none
    | _ => none
end

def readDeep (depth : Nat) (cs : List Char) : Option Json :=
  match value (cs.length + 1) depth cs with
  | some (v, rest) => if (skipBlanks rest).isEmpty then some v else none
  | none => none

def read (s : String) : Option Json := readDeep maxDepth s.toList

/-- The canonical value of a text. -/
def parse (s : String) : Option Json := (read s).map canonical

end CommandBridge.Json

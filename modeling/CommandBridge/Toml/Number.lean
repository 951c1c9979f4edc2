import CommandBridge.Decimal.Binary64
import CommandBridge.Toml.Basic

/-!
# Bare values of TOML

A bare value is one word: a truth value, an integer, a float, a date or a time.
Integers have 64 bits with a sign; between two digits may stand one underscore.
-/

set_option autoImplicit false

namespace CommandBridge.Toml

def digitOf (base : Nat) (c : Char) : Option Nat :=
  let n :=
    if c.isDigit then c.toNat - '0'.toNat
    else if 'a' ≤ c ∧ c ≤ 'f' then c.toNat - 'a'.toNat + 10
    else if 'A' ≤ c ∧ c ≤ 'F' then c.toNat - 'A'.toNat + 10
    else base
  if n < base then some n else none

/-- The number of digits in a base, from the value of those before them. An underscore
needs a digit on both sides. -/
def digitsFrom (base : Nat) : Nat → List Char → Option Nat
  | acc, [] => some acc
  | acc, '_' :: c :: rest =>
    match digitOf base c with
    | some d => digitsFrom base (acc * base + d) rest
    | none => none
  | acc, c :: rest =>
    match digitOf base c with
    | some d => digitsFrom base (acc * base + d) rest
    | none => none

def digits (base : Nat) : List Char → Option Nat
  | [] => none
  | c :: rest => (digitOf base c).bind fun d => digitsFrom base d rest

def decimal : List Char → Option Nat
  | '0' :: _ :: _ => none
  | cs => digits 10 cs

def sign : List Char → Bool × List Char
  | '-' :: rest => (true, rest)
  | '+' :: rest => (false, rest)
  | rest => (false, rest)

def inRange (n : Int) : Option Int := if -(Nat.pow 2 63 : Int) ≤ n ∧ n < Nat.pow 2 63 then some n else none

def integerWord (cs : List Char) : Option Int :=
  match cs with
  | '0' :: 'x' :: rest => (digits 16 rest).bind fun n => inRange n
  | '0' :: 'o' :: rest => (digits 8 rest).bind fun n => inRange n
  | '0' :: 'b' :: rest => (digits 2 rest).bind fun n => inRange n
  | _ =>
    let (negative, rest) := sign cs
    (decimal rest).bind fun n => inRange (if negative then -(n : Int) else n)

def isExponentMark (c : Char) : Bool := c = 'e' || c = 'E'

def floatDigits (cs : List Char) : Option (Nat × Int) :=
  let front := cs.takeWhile fun c => !isExponentMark c
  let exponent := cs.dropWhile fun c => !isExponentMark c
  let fraction := front.dropWhile (· ≠ '.')
  let (shrinks, power) := sign exponent.tail
  let places := (fraction.filter Char.isDigit).length
  if exponent.isEmpty ∧ fraction.isEmpty then none
  else do
    let whole ← decimal (front.takeWhile (· ≠ '.'))
    let part ← if fraction.isEmpty then some 0 else digits 10 fraction.tail
    let power ← if exponent.isEmpty then some 0 else digits 10 power
    some (whole * Nat.pow 10 places + part, (if shrinks then -(power : Int) else power) - places)

/-- Whether a word spells a float: digits or a named value. Beyond the largest float a
value is refused, below the least one it is negative infinity. -/
def isFloat (cs : List Char) : Bool :=
  let (negative, body) := sign cs
  body = "inf".toList || body = "nan".toList ||
    match floatDigits body with
    | some (n, power) => negative || (Binary64.ofDecimal false n power).isSome
    | none => false

def fixedDigits (n : Nat) (cs : List Char) : Option (Nat × List Char) :=
  if (cs.take n).length = n ∧ (cs.take n).all Char.isDigit then
    (digits 10 (cs.take n)).map fun v => (v, cs.drop n)
  else none

def isLeapYear (year : Nat) : Bool := year % 4 = 0 && (year % 100 ≠ 0 || year % 400 = 0)

def daysOf (year month : Nat) : Nat :=
  if month = 2 then if isLeapYear year then 29 else 28
  else if month ∈ [4, 6, 9, 11] then 30
  else 31

def dropDate (cs : List Char) : Option (List Char) := do
  let (year, rest) ← fixedDigits 4 cs
  let (month, rest) ← if rest.head? = some '-' then fixedDigits 2 rest.tail else none
  let (day, rest) ← if rest.head? = some '-' then fixedDigits 2 rest.tail else none
  if 1 ≤ month ∧ month ≤ 12 ∧ 1 ≤ day ∧ day ≤ daysOf year month then some rest else none

def dropClock (cs : List Char) : Option (List Char) := do
  let (hour, rest) ← fixedDigits 2 cs
  let (minute, rest) ← if rest.head? = some ':' then fixedDigits 2 rest.tail else none
  let (second, rest) ← if rest.head? = some ':' then fixedDigits 2 rest.tail else none
  let rest ← match rest with
    | '.' :: after =>
      if (after.takeWhile Char.isDigit).isEmpty then none else some (after.dropWhile Char.isDigit)
    | rest => some rest
  if hour < 24 ∧ minute < 60 ∧ second ≤ 60 then some rest else none

def isOffset : List Char → Bool
  | ['Z'] | ['z'] => true
  | c :: rest =>
    (c = '+' || c = '-') &&
      match fixedDigits 2 rest with
      | some (hour, ':' :: rest) =>
        match fixedDigits 2 rest with
        | some (minute, []) => decide (hour < 24 ∧ minute < 60)
        | _ => false
      | _ => false
  | [] => false

def isTime (cs : List Char) : Bool :=
  match dropDate cs with
  | some [] => true
  | some (c :: rest) =>
    (c = 'T' || c = 't' || c = ' ') &&
      match dropClock rest with
      | some after => after.isEmpty || isOffset after
      | none => false
  | none => dropClock cs = some []

def ofWord (cs : List Char) : Option Toml :=
  if cs = "true".toList then some (.boolean true)
  else if cs = "false".toList then some (.boolean false)
  else
    match integerWord cs with
    | some n => some (.integer n)
    | none =>
      if isFloat cs then some (.float (String.ofList cs))
      else if isTime cs then some (.time (String.ofList cs))
      else none

end CommandBridge.Toml

import CommandBridge.Decimal.Binary64

/-!
# The shortest decimal that reads back

For one, two, … seventeen digits the two neighbours of the value on that decimal
grid are read back; the first grid with a hit gives the digits, the nearer
neighbour winning when both hit. Should no grid hit, the exact decimal
expansion stands in, so the text reads back in every case.
-/

set_option autoImplicit false

namespace CommandBridge.Binary64

structure Decimal where
  digits : Nat
  exponent : Int
deriving DecidableEq, Repr

def digitCount (n : Nat) : Nat := (Nat.toDigits 10 n).length

def decimalExponent (units : Nat) : Int :=
  if Nat.pow 2 1074 ≤ units then (digitCount (units / Nat.pow 2 1074) : Int) - 1
  else -(digitCount ((Nat.pow 2 1074 - 1) / units) : Int)

def Decimal.read (d : Decimal) : Option Binary64 := ofDecimal false d.digits d.exponent

/-- The neighbours of a magnitude on the grid of multiples of `10 ^ exponent`,
the nearer one first, a half going to the even one. -/
def neighbours (units : Nat) (exponent : Int) : List Decimal :=
  let num := units * Nat.pow 10 (-exponent).toNat
  let den := Nat.pow 2 1074 * Nat.pow 10 exponent.toNat
  let low : Decimal := ⟨num / den, exponent⟩
  let high : Decimal := ⟨num / den + 1, exponent⟩
  if roundEven num den = num / den then [low, high] else [high, low]

def exactDecimal (units : Nat) : Decimal := ⟨units * Nat.pow 5 1074, -1074⟩

def shortest (x : Binary64) : Decimal :=
  let positive := { x with negative := false }
  let k := decimalExponent x.units
  ((List.range 17).findSome? fun (n : Nat) =>
    (neighbours x.units (k - (n : Nat))).find? fun d => decide (d.read = some positive)).getD
    (exactDecimal x.units)

structure FloatLayout where
  least : Int
  limit : Int
  plus : String

def trimZeros (digits : List Char) : List Char :=
  (digits.reverse.dropWhile (· = '0')).reverse

def positional (digits : List Char) (point : Int) : List Char :=
  if point ≤ 0 then '0' :: '.' :: (List.replicate (-point).toNat '0' ++ digits)
  else
    let p := point.toNat
    let whole := digits.take p ++ List.replicate (p - digits.length) '0'
    let rest := digits.drop p
    whole ++ '.' :: (if rest.isEmpty then ['0'] else rest)

def scientific (layout : FloatLayout) (digits : List Char) (exponent : Int) : List Char :=
  let mantissa := match digits with
    | [] => ['0']
    | [d] => [d]
    | d :: rest => d :: '.' :: rest
  let sign := if exponent < 0 then "-" else layout.plus
  mantissa ++ 'e' :: (sign.toList ++ Nat.toDigits 10 exponent.natAbs)

def format (layout : FloatLayout) (x : Binary64) : List Char :=
  let sign := if x.negative then ['-'] else []
  if x.mantissa = 0 then sign ++ ['0', '.', '0']
  else
    let d := x.shortest
    let all := Nat.toDigits 10 d.digits
    let exponent := d.exponent + all.length - 1
    let digits := trimZeros all
    if layout.least ≤ exponent ∧ exponent < layout.limit then
      sign ++ positional digits (exponent + 1)
    else sign ++ scientific layout digits exponent

end CommandBridge.Binary64

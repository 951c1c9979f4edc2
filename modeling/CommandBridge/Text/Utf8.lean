/-!
# Bytes of a text

Text travels as UTF-8. Reading goes byte by byte: a character comes out with its last
byte, and every longest run of bytes that cannot be completed comes out once as
malformed. A reader decides what to do with malformed runs.
-/

set_option autoImplicit false

namespace CommandBridge.Utf8

def encodeChar (c : Char) : List UInt8 :=
  let n := c.toNat
  if n < 0x80 then [UInt8.ofNat n]
  else if n < 0x800 then [UInt8.ofNat (0xC0 + n / 64), UInt8.ofNat (0x80 + n % 64)]
  else if n < 0x10000 then
    [UInt8.ofNat (0xE0 + n / 4096), UInt8.ofNat (0x80 + n / 64 % 64), UInt8.ofNat (0x80 + n % 64)]
  else
    [UInt8.ofNat (0xF0 + n / 262144), UInt8.ofNat (0x80 + n / 4096 % 64),
      UInt8.ofNat (0x80 + n / 64 % 64), UInt8.ofNat (0x80 + n % 64)]

def encode (cs : List Char) : List UInt8 := cs.flatMap encodeChar

/-- A character of which some bytes are missing. The next byte lies between `low` and
`high`. -/
structure Pending where
  value : Nat
  missing : Nat
  low : Nat
  high : Nat
deriving DecidableEq, Repr

abbrev Out := List (Option Char)

def begin (b : Nat) : Out × Option Pending :=
  if b < 0x80 then ([some (Char.ofNat b)], none)
  else if b < 0xC2 then ([none], none)
  else if b < 0xE0 then ([], some ⟨b - 0xC0, 1, 0x80, 0xBF⟩)
  else if b = 0xE0 then ([], some ⟨0, 2, 0xA0, 0xBF⟩)
  else if b = 0xED then ([], some ⟨0xD, 2, 0x80, 0x9F⟩)
  else if b < 0xF0 then ([], some ⟨b - 0xE0, 2, 0x80, 0xBF⟩)
  else if b = 0xF0 then ([], some ⟨0, 3, 0x90, 0xBF⟩)
  else if b < 0xF4 then ([], some ⟨b - 0xF0, 3, 0x80, 0xBF⟩)
  else if b = 0xF4 then ([], some ⟨4, 3, 0x80, 0x8F⟩)
  else ([none], none)

def byte (pending : Option Pending) (b : Nat) : Out × Option Pending :=
  match pending with
  | none => begin b
  | some p =>
    if p.low ≤ b ∧ b ≤ p.high then
      let value := p.value * 64 + b % 64
      if p.missing ≤ 1 then ([some (Char.ofNat value)], none)
      else ([], some ⟨value, p.missing - 1, 0x80, 0xBF⟩)
    else
      let next := begin b
      (none :: next.1, next.2)

def read (pending : Option Pending) : List UInt8 → Out
  | [] => if pending.isSome then [none] else []
  | b :: rest =>
    let next := byte pending b.toNat
    next.1 ++ read next.2 rest

def decodeLossy (bytes : List UInt8) : List Char :=
  (read none bytes).map fun c => c.getD '\ufffd'

def decode? (bytes : List UInt8) : Option (List Char) := (read none bytes).mapM id

end CommandBridge.Utf8

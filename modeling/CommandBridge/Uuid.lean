/-!
# Identifiers of 128 bits

Written as 32 lower-case hexadecimal digits in the groups 8-4-4-4-12. Read in any
letter case, with or without hyphens, hyphenated inside braces, or hyphenated
behind `urn:uuid:`, whose letters may be of either case too.
-/

set_option autoImplicit false

namespace CommandBridge

structure Uuid where
  value : Fin (Nat.pow 2 128)
deriving DecidableEq

namespace Uuid

def hexDigits : Nat → Nat → List Char
  | 0, _ => []
  | n + 1, v => hexDigits n (v / 16) ++ [Nat.digitChar (v % 16)]

def groups : List Nat := [8, 4, 4, 4, 12]

/-- Cuts a list into groups of the given lengths. -/
def cut {α : Type} : List Nat → List α → List (List α)
  | [], _ => []
  | n :: ns, xs => xs.take n :: cut ns (xs.drop n)

def text (id : Uuid) : String :=
  String.intercalate "-" ((cut groups (hexDigits 32 id.value)).map String.ofList)

def digit? (c : Char) : Option Nat :=
  if c.isDigit then some (c.toNat - '0'.toNat)
  else if 'a' ≤ c ∧ c ≤ 'f' then some (c.toNat - 'a'.toNat + 10)
  else if 'A' ≤ c ∧ c ≤ 'F' then some (c.toNat - 'A'.toNat + 10)
  else none

def ofDigits? (cs : List Char) : Option Uuid :=
  if cs.length = 32 then
    (cs.foldlM (fun acc c => (digit? c).map fun d => acc * 16 + d) 0).map
      fun n => ⟨Fin.ofNat (Nat.pow 2 128) n⟩
  else none

def ofHyphenated? (cs : List Char) : Option Uuid :=
  let parts := cut [8, 1, 4, 1, 4, 1, 4, 1, 12] cs
  match parts with
  | [a, h1, b, h2, c, h3, d, h4, e] =>
    if cs.length = 36 ∧ h1 = ['-'] ∧ h2 = ['-'] ∧ h3 = ['-'] ∧ h4 = ['-'] then
      ofDigits? (a ++ b ++ c ++ d ++ e)
    else none
  | _ => none

def dropStart? (front cs : List Char) : Option (List Char) :=
  if (cs.take front.length).map Char.toLower = front then some (cs.drop front.length) else none

def ofText? (text : String) : Option Uuid :=
  let cs := text.toList
  if cs.length = 32 then ofDigits? cs
  else if cs.length = 38 then
    if cs.getLast? = some '\x7d' then
      (dropStart? ['\x7b'] cs).bind fun rest => ofHyphenated? rest.dropLast
    else none
  else if cs.length = 45 then (dropStart? "urn:uuid:".toList cs).bind ofHyphenated?
  else ofHyphenated? cs

def nth (n : Nat) : Uuid :=
  ⟨Fin.ofNat (Nat.pow 2 128) (0x9d3f6a1c2b8e4d70a5c1000000000000 + n)⟩

end Uuid
end CommandBridge

import CommandBridge.Text.Pieces

/-!
# Blanks and lines of text

A blank is a character with the Unicode property White_Space. Lines end at a line
feed, with or without a carriage return before it; a text that ends with a line
break has no empty line after it.
-/

set_option autoImplicit false

namespace CommandBridge.Text

def blankRanges : List (Nat × Nat) :=
  [(0x09, 0x0d), (0x20, 0x20), (0x85, 0x85), (0xa0, 0xa0), (0x1680, 0x1680), (0x2000, 0x200a),
    (0x2028, 0x2029), (0x202f, 0x202f), (0x205f, 0x205f), (0x3000, 0x3000)]

def isBlank (c : Char) : Bool :=
  blankRanges.any fun r => decide (r.1 ≤ c.toNat ∧ c.toNat ≤ r.2)

def trim (cs : List Char) : List Char :=
  ((cs.dropWhile isBlank).reverse.dropWhile isBlank).reverse

def dropReturn (line : List Char) : List Char :=
  if line.getLast? = some '\r' then line.dropLast else line

/-- The lines of a text. A carriage return counts as part of a break only before a
line feed. -/
def lines (cs : List Char) : List (List Char) :=
  let pieces := pieces '\n' cs
  let last := pieces.getLast?.getD []
  let ended := pieces.dropLast.map dropReturn
  if last.isEmpty then ended else ended ++ [last]

end CommandBridge.Text

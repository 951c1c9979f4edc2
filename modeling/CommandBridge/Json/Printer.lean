import CommandBridge.Decimal.Shortest
import CommandBridge.Json.Basic

/-!
# Compact JSON text

No blanks are written. A string escapes the quote, the backslash and the controls
below a space and nothing else, so the text of a value has no raw line break.
-/

set_option autoImplicit false

namespace CommandBridge.Json

def floatLayout : Binary64.FloatLayout := ⟨-5, 16, "+"⟩

def hexDigit (n : Nat) : Char := Nat.digitChar (n % 16)

def escapeChar (c : Char) : List Char :=
  if c = '"' then ['\\', '"']
  else if c = '\\' then ['\\', '\\']
  else if c = '\x08' then ['\\', 'b']
  else if c = '\t' then ['\\', 't']
  else if c = '\n' then ['\\', 'n']
  else if c = '\x0c' then ['\\', 'f']
  else if c = '\r' then ['\\', 'r']
  else if c.toNat < 0x20 then ['\\', 'u', '0', '0', hexDigit (c.toNat / 16), hexDigit c.toNat]
  else [c]

def quote (s : String) : List Char := '"' :: (s.toList.flatMap escapeChar ++ ['"'])

def intText (n : Int) : List Char :=
  if n < 0 then '-' :: Nat.toDigits 10 n.natAbs else Nat.toDigits 10 n.natAbs

def numberText : Number → List Char
  | .int n _ => intText n
  | .float x => x.format floatLayout

mutual
def text : Json → List Char
  | null => ['n', 'u', 'l', 'l']
  | bool true => ['t', 'r', 'u', 'e']
  | bool false => ['f', 'a', 'l', 's', 'e']
  | number n => numberText n
  | string s => quote s
  | array [] => ['[', ']']
  | array (v :: rest) => '[' :: (text v ++ itemsText rest)
  | object [] => ['\x7b', '\x7d']
  | object ((k, v) :: rest) => '\x7b' :: (quote k ++ ':' :: (text v ++ membersText rest))

def itemsText : List Json → List Char
  | [] => [']']
  | v :: rest => ',' :: (text v ++ itemsText rest)

def membersText : List (String × Json) → List Char
  | [] => ['\x7d']
  | (k, v) :: rest => ',' :: (quote k ++ ':' :: (text v ++ membersText rest))
end

def print (v : Json) : String := String.ofList (text v)

end CommandBridge.Json

import CommandBridge.Native.Type

/-!
# Values of native types

What a value of a native type is and how it is written as JSON. An integer key of a map is
written in decimal and a character as a text of one letter. A set or a queue is written as a
list is, so it has no form of its own here.
-/

set_option autoImplicit false

namespace CommandBridge

inductive NativeKey where
  | text (s : String)
  | character (c : Char)
  | integer (n : Int)
deriving DecidableEq, Repr

inductive NativeValue where
  | text (s : String)
  | character (c : Char)
  | integer (n : Int)
  | float (x : Binary64)
  | boolean (b : Bool)
  | unit
  | any (v : Json)
  | absent
  | present (v : NativeValue)
  | list (items : List NativeValue)
  | map (entries : List (NativeKey × NativeValue))
  | tuple (items : List NativeValue)

namespace NativeKey

def spelling : NativeKey → String
  | text s => s
  | character c => String.singleton c
  | integer n => toString n

def integer? : NativeKey → Option Int
  | integer n => some n
  | _ => none

/-- The key is of the type. Text and integers of up to 64 bits may be keys. -/
inductive OfType : NativeKey → NativeType → Prop
  | text (s : String) : OfType (.text s) .text
  | character (c : Char) : OfType (.character c) .character
  | integer {f : IntFormat} {n : Int} (narrow : f.bits ≤ 64) (held : f.holds n = true) :
    OfType (.integer n) (.integer f)

end NativeKey

namespace NativeValue

mutual
def toJson : NativeValue → Json
  | text s => .string s
  | character c => .string (String.singleton c)
  | integer n => .int n
  | float x => .number (.float x)
  | boolean b => .bool b
  | unit | absent => .null
  | any v => v
  | present v => toJson v
  | list items | tuple items => .array (itemsToJson items)
  | map entries => .ofMembers (entriesToJson entries)

def itemsToJson : List NativeValue → List Json
  | [] => []
  | v :: rest => toJson v :: itemsToJson rest

def entriesToJson : List (NativeKey × NativeValue) → List (String × Json)
  | [] => []
  | (k, v) :: rest => (k.spelling, toJson v) :: entriesToJson rest
end

/-- The value is of the type. Integers of more than 64 bits, structures and declared types have no
values here: a JSON number does not keep the first, and how the others are written is their own
affair. -/
inductive OfType : NativeValue → NativeType → Prop
  | text (s : String) : OfType (.text s) .text
  | character (c : Char) : OfType (.character c) .character
  | integer {f : IntFormat} {n : Int} (narrow : f.bits ≤ 64) (held : f.holds n = true) :
    OfType (.integer n) (.integer f)
  | float (x : Binary64) : OfType (.float x) .float
  | boolean (b : Bool) : OfType (.boolean b) .boolean
  | unit : OfType .unit .unit
  | any (v : Json) : OfType (.any v) .any
  | absent (t : NativeType) : OfType .absent (.option t)
  | present {t : NativeType} {v : NativeValue} (h : OfType v t) : OfType (.present v) (.option t)
  | list {t : NativeType} {items : List NativeValue} (h : ∀ v ∈ items, OfType v t) :
    OfType (.list items) (.list t)
  | map {k t : NativeType} {entries : List (NativeKey × NativeValue)}
    (distinct : (entries.map Prod.fst).Nodup) (keys : ∀ e ∈ entries, e.1.OfType k)
    (values : ∀ e ∈ entries, OfType e.2 t) : OfType (.map entries) (.map k t)
  | tuple {ts : List NativeType} {items : List NativeValue} (length : items.length = ts.length)
    (h : ∀ p ∈ ts.zip items, OfType p.2 p.1) : OfType (.tuple items) (.tuple ts)

mutual
def integerKeys : NativeValue → List Int
  | present v => integerKeys v
  | list items | tuple items => integerKeysItems items
  | map entries => integerKeysEntries entries
  | _ => []

def integerKeysItems : List NativeValue → List Int
  | [] => []
  | v :: rest => integerKeys v ++ integerKeysItems rest

def integerKeysEntries : List (NativeKey × NativeValue) → List Int
  | [] => []
  | (k, v) :: rest => k.integer?.toList ++ integerKeys v ++ integerKeysEntries rest
end

end NativeValue
end CommandBridge

import CommandBridge.Conformance.Check

/-!
# What it means to be of a type

`Conforms` is the least relation closed under the rules below, one for each form of
type. It says nothing of paths or of the order in which a checker looks.
-/

set_option autoImplicit false

namespace CommandBridge

/-- The values of a primitive. Every integer is a number too, and bytes travel as text. -/
inductive Primitive.Takes : Primitive → Json → Prop where
  | string (s : String) : Takes .string (.string s)
  | bytes (s : String) : Takes .bytes (.string s)
  | integer (n : Int) (inRange : IntRange n) : Takes .integer (.number (.int n inRange))
  | float (x : Number) : Takes .float (.number x)
  | boolean (b : Bool) : Takes .boolean (.bool b)
  | null : Takes .null .null
  | unknown (v : Json) : Takes .unknown v

def IsDigits (ds : List Char) : Prop := ds ≠ [] ∧ ∀ d ∈ ds, d.isDigit = true

inductive SpellsInt : List Char → Int → Prop where
  | unsigned {ds : List Char} (h : IsDigits ds) : SpellsInt ds (Nat.ofDigitChars 10 ds 0)
  | plus {ds : List Char} (h : IsDigits ds) : SpellsInt ('+' :: ds) (Nat.ofDigitChars 10 ds 0)
  | minus {ds : List Char} (h : IsDigits ds) : SpellsInt ('-' :: ds) (-Nat.ofDigitChars 10 ds 0)

def IsInt64Key (key : String) : Prop :=
  ∃ n, SpellsInt key.toList n ∧ -(Nat.pow 2 63 : Int) ≤ n ∧ n < Nat.pow 2 63

/-- The value is of the type, names read in the table. -/
inductive Conforms (table : Definitions) : Descriptor → Json → Prop where
  | primitive {p : Primitive} {v : Json} (h : p.Takes v) : Conforms table (.primitive p) v
  | absent {t : Descriptor} : Conforms table (.optional t) .null
  | present {t : Descriptor} {v : Json} (h : Conforms table t v) : Conforms table (.optional t) v
  | sequence {t : Descriptor} {items : List Json} (h : ∀ v ∈ items, Conforms table t v) :
    Conforms table (.sequence t) (.array items)
  | mapping {k t : Descriptor} {members : List (String × Json)}
    (keys : k = .integer → ∀ m ∈ members, IsInt64Key m.1)
    (values : ∀ m ∈ members, Conforms table t m.2) :
    Conforms table (.mapping k t) (.object members)
  | tuple {ts : List Descriptor} {items : List Json} (length : items.length = ts.length)
    (h : ∀ (i : Nat) (t : Descriptor) (v : Json), ts[i]? = some t → items[i]? = some v →
      Conforms table t v) :
    Conforms table (.tuple ts) (.array items)
  | record {name : String} {doc : Option String} {fields : List Field}
    {members : List (String × Json)}
    (given : ∀ f ∈ fields, ∀ v, Keyed.lookup f.name members = some v → Conforms table f.type v)
    (left : ∀ f ∈ fields, Keyed.lookup f.name members = none → f.mayBeAbsent = true) :
    Conforms table (.record name doc fields) (.object members)
  | enum {shape : EnumShape} {s : String} (h : s ∈ shape.variants) :
    Conforms table (.enum shape) (.string s)
  | union {ts : List Descriptor} {t : Descriptor} {v : Json} (mem : t ∈ ts)
    (h : Conforms table t v) : Conforms table (.union ts) v
  | reference {name : String} {d : Definition} {v : Json} (found : table.get? name = some d)
    (h : Conforms table d.descriptor v) : Conforms table (.reference name) v

end CommandBridge

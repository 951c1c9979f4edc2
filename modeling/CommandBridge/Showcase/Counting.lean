import CommandBridge.Error

/-!
# Counting up

The showcase numbers things in machine words. The last word of a width has no successor: a handler
that counts on from it breaks off.
-/

set_option autoImplicit false

namespace CommandBridge.Showcase

def nextInt64? (n : Int64) : Option Int64 := if n = Int64.maxValue then none else some (n + 1)

def nextUInt32? (n : UInt32) : Option UInt32 :=
  if n.toNat + 1 = UInt32.size then none else some (n + 1)

def overflow : Panic := .text "attempt to add with overflow"

end CommandBridge.Showcase

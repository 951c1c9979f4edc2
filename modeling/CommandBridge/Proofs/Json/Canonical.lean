import CommandBridge.Json.Basic
import CommandBridge.Proofs.Keyed

/-!
# Canonical values

Sorting leaves members alone whose keys increase already, so a canonical value is its own
canonical form.
-/

set_option autoImplicit false

namespace CommandBridge

namespace Json

mutual
theorem canonical_eq_self : ∀ {v : Json}, v.Canonical → v.canonical = v
  | .null, _ | .bool _, _ | .number _, _ | .string _, _ => rfl
  | .array items, h => congrArg array (canonicalItems_eq_self h)
  | .object members, h => by
    rw [canonical, canonicalMembers_eq_self h.2, Keyed.sort_eq_self h.1]

theorem canonicalItems_eq_self : ∀ {items : List Json}, CanonicalItems items →
    canonicalItems items = items
  | [], _ => rfl
  | v :: rest, h => by rw [canonicalItems, canonical_eq_self h.1, canonicalItems_eq_self h.2]

theorem canonicalMembers_eq_self : ∀ {members : List (String × Json)}, CanonicalMembers members →
    canonicalMembers members = members
  | [], _ => rfl
  | (k, v) :: rest, h => by
    rw [canonicalMembers, canonical_eq_self h.1, canonicalMembers_eq_self h.2]
end

end Json
end CommandBridge

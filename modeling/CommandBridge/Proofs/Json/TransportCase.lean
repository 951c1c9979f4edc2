import CommandBridge.Proofs.Json.KeyCase

/-!
# Values in transport case

What a conversion leaves is in transport case: no key at any depth has an upper-case letter, and a
further conversion finds nothing to do. A value that is put together of such values under such keys
is in transport case too.
-/

set_option autoImplicit false

namespace CommandBridge.Json

open KeyCase

/-- A conversion to transport case leaves the value as it is, and there is no upper-case letter in
the key of any object in it. -/
structure InTransportCase (v : Json) : Prop where
  fixed : v.toTransportCase = v
  keys : ∀ key ∈ v.allKeys, IsTransport key

theorem inTransportCase_toTransportCase (v : Json) : v.toTransportCase.InTransportCase where
  fixed := toTransportCase_toTransportCase v
  keys key there := by
    obtain ⟨old, -, rfl⟩ := List.mem_map.mp (allKeys_mapKeys_subset v there)
    exact isTransport_toTransport old

theorem toTransportCase_array_eq_self {items : List Json}
    (each : ∀ v ∈ items, v.toTransportCase = v) : (array items).toTransportCase = array items := by
  rw [toTransportCase_array, List.map_congr_left each, List.map_id']

/-- Members in transport case, under keys in transport case, give an object in transport case. -/
theorem toTransportCase_ofMembers {members : List (String × Json)}
    (keys : ∀ m ∈ members, IsTransport m.1) (values : ∀ m ∈ members, m.2.toTransportCase = m.2) :
    (ofMembers members).toTransportCase = ofMembers members := by
  have same : ∀ m ∈ Keyed.sort members, (toTransport m.1, m.2.toTransportCase) = m := by
    intro m there
    have old := Keyed.mem_of_mem_sort there
    rw [toTransport_eq_self (keys m old), values m old]
  rw [ofMembers, toTransportCase_object, List.map_congr_left same, List.map_id',
    Keyed.sort_eq_self (Keyed.sorted_sort members)]

end CommandBridge.Json

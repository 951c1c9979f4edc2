import CommandBridge.Json.KeyCase
import CommandBridge.Proofs.Json.Canonical
import CommandBridge.Proofs.Text.KeyCase
import Mathlib.Data.List.Perm.Basic

/-!
# Key case of whole values

Two renamings of all keys come to one where the second meets no two names that the first gave and
it makes equal. What holds of keys then holds of values: both conversions may be repeated without
effect, a value comes back from the other case exactly when its keys do, and on the way no member
is lost to another.
-/

set_option autoImplicit false

namespace CommandBridge.Json

def parts : Json → List Json
  | array items => items
  | object members => members.map Prod.snd
  | _ => []

theorem sizeOf_part_lt {v u : Json} (h : u ∈ v.parts) : sizeOf u < sizeOf v := by
  cases v with
  | array items =>
    have : sizeOf u < sizeOf items := List.sizeOf_lt_of_mem h
    simp only [array.sizeOf_spec]
    omega
  | object members =>
    obtain ⟨m, there, rfl⟩ := List.mem_map.mp h
    have := List.sizeOf_lt_of_mem there
    have : sizeOf m.2 < sizeOf m := by cases m; simp only [Prod.mk.sizeOf_spec]; omega
    simp only [object.sizeOf_spec]
    omega
  | _ => cases h

theorem part_induction {P : Json → Prop} (step : ∀ v, (∀ u ∈ v.parts, P u) → P v) (v : Json) : P v :=
  step v fun u _ => part_induction step u
termination_by sizeOf v
decreasing_by exact sizeOf_part_lt ‹_›

mutual
/-- The keys of all objects in a value, at every depth. -/
def allKeys : Json → List String
  | array items => allKeysItems items
  | object members => allKeysMembers members
  | _ => []

def allKeysItems : List Json → List String
  | [] => []
  | v :: rest => allKeys v ++ allKeysItems rest

def allKeysMembers : List (String × Json) → List String
  | [] => []
  | (k, v) :: rest => k :: allKeys v ++ allKeysMembers rest
end

theorem allKeys_array (items : List Json) : (array items).allKeys = items.flatMap allKeys := by
  rw [allKeys]
  induction items with
  | nil => rfl
  | cons v rest ih => rw [allKeysItems, ih, List.flatMap_cons]

theorem allKeys_object (members : List (String × Json)) :
    (object members).allKeys = members.flatMap fun m => m.1 :: m.2.allKeys := by
  rw [allKeys]
  induction members with
  | nil => rfl
  | cons m rest ih => rw [allKeysMembers, ih, List.flatMap_cons]

theorem mem_allKeys_of_part {v u : Json} (h : u ∈ v.parts) {key : String} (there : key ∈ u.allKeys) :
    key ∈ v.allKeys := by
  cases v with
  | array items =>
    rw [allKeys_array]
    exact List.mem_flatMap.mpr ⟨u, h, there⟩
  | object members =>
    obtain ⟨m, hm, rfl⟩ := List.mem_map.mp h
    rw [allKeys_object]
    exact List.mem_flatMap.mpr ⟨m, hm, List.mem_cons_of_mem _ there⟩
  | _ => cases h

theorem mem_allKeys_of_member {members : List (String × Json)} {m : String × Json}
    (h : m ∈ members) : m.1 ∈ (object members).allKeys := by
  rw [allKeys_object]
  exact List.mem_flatMap.mpr ⟨m, h, List.mem_cons_self⟩

variable {f g : String → String}

theorem mapKeys_array (items : List Json) :
    mapKeys f (array items) = array (items.map (mapKeys f)) := by
  rw [mapKeys]
  congr 1
  induction items with
  | nil => rfl
  | cons v rest ih => rw [mapKeysItems, ih, List.map_cons]

theorem mapKeys_object (members : List (String × Json)) :
    mapKeys f (object members) =
      object (Keyed.sort (members.map fun m => (f m.1, mapKeys f m.2))) := by
  rw [mapKeys]
  congr 2
  induction members with
  | nil => rfl
  | cons m rest ih => rw [mapKeysMembers, ih, List.map_cons]

/-- Only what a renaming does to the keys of a value counts. -/
theorem mapKeys_congr {v : Json} (h : ∀ key ∈ v.allKeys, f key = g key) :
    mapKeys f v = mapKeys g v := by
  induction v using part_induction with
  | step v ih =>
    have inner (u : Json) (part : u ∈ v.parts) : mapKeys f u = mapKeys g u :=
      ih u part fun key there => h key (mem_allKeys_of_part part there)
    cases v with
    | array items =>
      rw [mapKeys_array, mapKeys_array]
      exact congrArg array (List.map_congr_left inner)
    | object members =>
      rw [mapKeys_object, mapKeys_object]
      congr 2
      apply List.map_congr_left
      intro m there
      rw [h m.1 (mem_allKeys_of_member there), inner m.2 (List.mem_map_of_mem there)]
    | _ => rfl

/-- Renaming twice is renaming once, where the second meets the names of the first apart. -/
theorem mapKeys_mapKeys (apart : Set.InjOn f (Set.range g)) (v : Json) :
    mapKeys f (mapKeys g v) = mapKeys (f ∘ g) v := by
  induction v using part_induction with
  | step v ih =>
    cases v with
    | array items =>
      rw [mapKeys_array, mapKeys_array, mapKeys_array, List.map_map]
      exact congrArg array (List.map_congr_left ih)
    | object members =>
      have named : ∀ key ∈ Keyed.keys (members.map fun m => (g m.1, mapKeys g m.2)),
          key ∈ Set.range g := by
        intro key there
        obtain ⟨_, listed, rfl⟩ := List.mem_map.mp there
        obtain ⟨m, _, rfl⟩ := List.mem_map.mp listed
        exact Set.mem_range_self m.1
      rw [mapKeys_object, mapKeys_object, mapKeys_object, Keyed.sort_map_sort (mapKeys f)
        fun j hj k hk same => apart (named j hj) (named k hk) same, List.map_map]
      congr 2
      apply List.map_congr_left
      intro m there
      exact congrArg (f (g m.1), ·) (ih m.2 (List.mem_map_of_mem there))
    | _ => rfl

/-- The keys that a renaming leaves in a value are the new names of keys that were there. -/
theorem allKeys_mapKeys_subset (v : Json) : (mapKeys f v).allKeys ⊆ v.allKeys.map f := by
  induction v using part_induction with
  | step v ih =>
    intro key there
    cases v with
    | array items =>
      rw [mapKeys_array, allKeys_array, List.flatMap_map] at there
      obtain ⟨u, part, there⟩ := List.mem_flatMap.mp there
      obtain ⟨old, was, rfl⟩ := List.mem_map.mp (ih u part there)
      exact List.mem_map_of_mem (mem_allKeys_of_part (v := array items) part was)
    | object members =>
      rw [mapKeys_object, allKeys_object] at there
      obtain ⟨n, listed, there⟩ := List.mem_flatMap.mp there
      obtain ⟨m, hm, rfl⟩ := List.mem_map.mp (Keyed.mem_of_mem_sort listed)
      rcases List.mem_cons.mp there with rfl | there
      · exact List.mem_map_of_mem (mem_allKeys_of_member hm)
      · have part : m.2 ∈ (object members).parts := List.mem_map_of_mem hm
        obtain ⟨old, was, rfl⟩ := List.mem_map.mp (ih m.2 part there)
        exact List.mem_map_of_mem (mem_allKeys_of_part part was)
    | _ => cases there

theorem mapKeys_id (v : Json) : mapKeys id v = v.canonical := by
  induction v using part_induction with
  | step v ih =>
    cases v with
    | array items =>
      rw [mapKeys_array, canonical]
      congr 1
      induction items with
      | nil => rfl
      | cons u rest later =>
        rw [List.map_cons, canonicalItems, ih u List.mem_cons_self,
          later fun w there => ih w (List.mem_cons_of_mem u there)]
    | object members =>
      rw [mapKeys_object, canonical]
      congr 2
      induction members with
      | nil => rfl
      | cons m rest later =>
        rw [List.map_cons, canonicalMembers, ih m.2 List.mem_cons_self,
          later fun w there => ih w (List.mem_cons_of_mem m.2 there)]
        rfl
    | _ => rfl

/-- A renaming that leaves what it gave alone keeps a value exactly when it keeps its keys. -/
theorem mapKeys_eq_self_iff {P : String → Prop} (gives : ∀ key, P (f key))
    (keeps : ∀ key, P key → f key = key) {v : Json} (canonical : v.Canonical) :
    mapKeys f v = v ↔ ∀ key ∈ v.allKeys, P key := by
  constructor
  · intro h key there
    rw [← h] at there
    obtain ⟨old, -, rfl⟩ := List.mem_map.mp (allKeys_mapKeys_subset v there)
    exact gives old
  · intro h
    rw [mapKeys_congr (g := id) fun key there => keeps key (h key there), mapKeys_id,
      canonical_eq_self canonical]

theorem Canonical.part {v u : Json} (h : v.Canonical) (part : u ∈ v.parts) : u.Canonical := by
  cases v with
  | array items =>
    rw [Canonical] at h
    induction items with
    | nil => cases part
    | cons w rest ih =>
      rcases List.mem_cons.mp part with rfl | later
      · exact h.1
      · exact ih h.2 later
  | object members =>
    obtain ⟨-, h⟩ := h
    induction members with
    | nil => cases part
    | cons m rest ih =>
      rcases List.mem_cons.mp part with rfl | later
      · exact h.1
      · exact ih later h.2
  | _ => cases part

/-- Keys that are renamed apart are all kept, under their new names. -/
theorem allKeys_mapKeys_perm {v : Json} (canonical : v.Canonical)
    (apart : ∀ j ∈ v.allKeys, ∀ k ∈ v.allKeys, f j = f k → j = k) :
    (mapKeys f v).allKeys.Perm (v.allKeys.map f) := by
  induction v using part_induction with
  | step v ih =>
    have inner (u : Json) (part : u ∈ v.parts) : (mapKeys f u).allKeys.Perm (u.allKeys.map f) :=
      ih u part (canonical.part part) fun j hj k hk =>
        apart j (mem_allKeys_of_part part hj) k (mem_allKeys_of_part part hk)
    cases v with
    | array items =>
      rw [mapKeys_array, allKeys_array, allKeys_array, List.flatMap_map, List.map_flatMap]
      exact .flatMap_left items inner
    | object members =>
      have distinct : (Keyed.keys (members.map fun m => (f m.1, mapKeys f m.2))).Nodup := by
        rw [Keyed.keys, List.map_map]
        change (members.map (f ∘ Prod.fst)).Nodup
        rw [← List.map_map]
        refine List.Nodup.map_on (fun j hj k hk => ?_) canonical.1.nodup
        obtain ⟨m, hm, rfl⟩ := List.mem_map.mp hj
        obtain ⟨n, hn, rfl⟩ := List.mem_map.mp hk
        exact apart _ (mem_allKeys_of_member hm) _ (mem_allKeys_of_member hn)
      rw [mapKeys_object, allKeys_object, allKeys_object, List.map_flatMap]
      refine ((Keyed.perm_sort distinct).flatMap_right _).trans ?_
      rw [List.flatMap_map]
      exact .flatMap_left members fun m there => (inner m.2 (List.mem_map_of_mem there)).cons (f m.1)
    | _ => exact .refl _

open KeyCase

theorem toTransportCase_array (items : List Json) :
    toTransportCase (array items) = array (items.map toTransportCase) := mapKeys_array items

theorem toTransportCase_object (members : List (String × Json)) :
    toTransportCase (object members) =
      object (Keyed.sort (members.map fun m => (toTransport m.1, m.2.toTransportCase))) :=
  mapKeys_object members

theorem toTransportCase_toTransportCase (v : Json) :
    v.toTransportCase.toTransportCase = v.toTransportCase := by
  have same (key : String) : toTransport (toTransport key) = toTransport key :=
    toTransport_eq_self (isTransport_toTransport key)
  have apart : Set.InjOn toTransport (Set.range toTransport) := by
    rintro _ ⟨j, rfl⟩ _ ⟨k, rfl⟩ h
    rwa [same, same] at h
  unfold toTransportCase
  rw [mapKeys_mapKeys apart]
  exact mapKeys_congr fun key _ => same key

theorem toClientCase_toClientCase (v : Json) : v.toClientCase.toClientCase = v.toClientCase := by
  have same (key : String) : toClient (toClient key) = toClient key :=
    toClient_eq_self (isClient_toClient key)
  have apart : Set.InjOn toClient (Set.range toClient) := by
    rintro _ ⟨j, rfl⟩ _ ⟨k, rfl⟩ h
    rwa [same, same] at h
  unfold toClientCase
  rw [mapKeys_mapKeys apart]
  exact mapKeys_congr fun key _ => same key

/-- The way to client case and back renames every key once. -/
theorem toTransportCase_toClientCase (v : Json) :
    v.toClientCase.toTransportCase = mapKeys (toTransport ∘ toClient) v := by
  apply mapKeys_mapKeys
  rintro _ ⟨j, rfl⟩ _ ⟨k, rfl⟩ h
  exact injOn_toTransport (isClient_toClient j) (isClient_toClient k) h

/-- The way to transport case and back renames every key once. -/
theorem toClientCase_toTransportCase (v : Json) :
    v.toTransportCase.toClientCase = mapKeys (toClient ∘ toTransport) v := by
  apply mapKeys_mapKeys
  rintro _ ⟨j, rfl⟩ _ ⟨k, rfl⟩ h
  exact injOn_toClient (isTransport_toTransport j) (isTransport_toTransport k) h

/-- The key cases are inverse to each other: between client keys and transport keys one to one,
for no other key, and so for whole values, of which neither way loses a member. -/
theorem keyCases_inverse :
    Set.BijOn toTransport {k | IsClient k} {k | IsTransport k} ∧
    Set.InvOn toClient toTransport {k | IsClient k} {k | IsTransport k} ∧
    (∀ key, toClient (toTransport key) = key ↔ IsClient key) ∧
    (∀ key, toTransport (toClient key) = key ↔ IsTransport key) ∧
    ∀ v : Json,
      v.toTransportCase.toTransportCase = v.toTransportCase ∧
      v.toClientCase.toClientCase = v.toClientCase ∧
      (v.Canonical →
        (v.toClientCase.toTransportCase = v ↔ ∀ key ∈ v.allKeys, IsTransport key) ∧
        (v.toTransportCase.toClientCase = v ↔ ∀ key ∈ v.allKeys, IsClient key) ∧
        ((∀ key ∈ v.allKeys, IsTransport key) →
          v.toClientCase.allKeys.Perm (v.allKeys.map toClient)) ∧
        ((∀ key ∈ v.allKeys, IsClient key) →
          v.toTransportCase.allKeys.Perm (v.allKeys.map toTransport))) := by
  refine ⟨?_, invOn_toClient, fun _ => toClient_toTransport_iff,
    fun _ => toTransport_toClient_iff, fun v => ⟨toTransportCase_toTransportCase v,
      toClientCase_toClientCase v, fun canonical => ⟨?_, ?_, fun h => ?_, fun h => ?_⟩⟩⟩
  · exact invOn_toClient.bijOn (fun key _ => isTransport_toTransport key)
      fun key _ => isClient_toClient key
  · rw [toTransportCase_toClientCase]
    exact mapKeys_eq_self_iff (fun key => isTransport_toTransport _)
      (fun _ => toTransport_toClient_iff.mpr) canonical
  · rw [toClientCase_toTransportCase]
    exact mapKeys_eq_self_iff (fun key => isClient_toClient _)
      (fun _ => toClient_toTransport_iff.mpr) canonical
  · exact allKeys_mapKeys_perm canonical fun j hj k hk => injOn_toClient (h j hj) (h k hk)
  · exact allKeys_mapKeys_perm canonical fun j hj k hk => injOn_toTransport (h j hj) (h k hk)

def clientProfile : Json :=
  object [("isHTTPS", bool true), ("is_", null),
    ("tags", array [object [("aB", null), ("a_", null)]])]

theorem clientProfile_returns :
    clientProfile.Canonical ∧ (∀ key ∈ clientProfile.allKeys, IsClient key) ∧
    clientProfile.toTransportCase.toClientCase = clientProfile ∧
    clientProfile.toTransportCase.allKeys.Perm (clientProfile.allKeys.map toTransport) := by
  have canonical : clientProfile.Canonical := by
    simp only [clientProfile, Canonical, CanonicalItems, CanonicalMembers, Keyed.Sorted]
    decide
  have client : ∀ key ∈ clientProfile.allKeys, IsClient key := by decide
  obtain ⟨-, returns, -, kept⟩ := (keyCases_inverse.2.2.2.2 clientProfile).2.2 canonical
  exact ⟨canonical, client, returns.mpr client, kept client⟩

end CommandBridge.Json

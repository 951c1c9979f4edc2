import CommandBridge.Proofs.Dispatch.KeyCase
import CommandBridge.Proofs.Text.ByteOrder

/-!
# Keys of one transport form

Several keys of an object may come to one key in transport case. Of the values under them the
conversion keeps that of the greatest key, byte by byte, at every depth. No spelling is greater than
the transport form itself, so a value under that form is kept whatever other spellings stand beside
it, and a call reads its argument there.
-/

set_option autoImplicit false

namespace CommandBridge

open KeyCase

namespace Json

variable {members image : List (String × Json)} {name key : String} {v w : Json}

/-- Among the keys of one transport form the greatest, byte by byte. -/
structure Prevails (members : List (String × Json)) (name key : String) : Prop where
  there : key ∈ Keyed.keys members
  form : toTransport key = name
  greatest : ∀ k ∈ Keyed.keys members, toTransport k = name → k ≠ key →
    Utf8.encode k.toList < Utf8.encode key.toList

/-- What a value is in transport case, where keys may meet: each key of an image has originals, and
the value under it is that of the one which prevails. -/
inductive Converts : Json → Json → Prop where
  | null : Converts null null
  | bool (b : Bool) : Converts (bool b) (bool b)
  | number (n : Number) : Converts (number n) (number n)
  | string (s : String) : Converts (string s) (string s)
  | array {items images : List Json} (each : List.Forall₂ Converts items images) :
    Converts (array items) (array images)
  | object {members image : List (String × Json)} (sorted : Keyed.Sorted image)
    (named : ∀ name, name ∈ Keyed.keys image ↔ ∃ key ∈ Keyed.keys members, toTransport key = name)
    (prevails : ∀ name key v w, Prevails members name key → Keyed.lookup key members = some v →
      Keyed.lookup name image = some w → Converts v w) :
    Converts (object members) (object image)

def transportMembers (members : List (String × Json)) : List (String × Json) :=
  Keyed.sort (members.map fun m => (toTransport m.1, m.2.toTransportCase))

theorem toTransportCase_members (members : List (String × Json)) :
    (object members).toTransportCase = object (transportMembers members) :=
  toTransportCase_object members

theorem sorted_transportMembers (members : List (String × Json)) :
    Keyed.Sorted (transportMembers members) := Keyed.sorted_sort _

theorem lookup_transportMembers (sorted : Keyed.Sorted members) :
    Keyed.lookup name (transportMembers members) = some w ↔
      ∃ key v, Prevails members name key ∧ Keyed.lookup key members = some v ∧
        w = v.toTransportCase := by
  rw [transportMembers, Keyed.lookup_sort_map_eq_some sorted]
  constructor
  · rintro ⟨key, v, found, form, greatest, rfl⟩
    refine ⟨key, v, ⟨List.mem_map_of_mem (Keyed.mem_of_lookup found), form, ?_⟩, found, rfl⟩
    intro k there same other
    rw [Utf8.encode_lt_iff, ← String.lt_iff_toList_lt]
    exact lt_of_le_of_ne (greatest k there same) other
  · rintro ⟨key, v, prevails, found, rfl⟩
    refine ⟨key, v, found, prevails.form, fun k there same => ?_, rfl⟩
    rcases eq_or_ne k key with rfl | other
    · exact le_refl k
    · have less := prevails.greatest k there same other
      rw [Utf8.encode_lt_iff, ← String.lt_iff_toList_lt] at less
      exact le_of_lt less

theorem mem_keys_transportMembers : name ∈ Keyed.keys (transportMembers members) ↔
    ∃ key ∈ Keyed.keys members, toTransport key = name := by
  rw [transportMembers, Keyed.mem_keys_sort]
  simp [Keyed.keys]

/-- A transport form prevails over all its other spellings. -/
theorem prevails_self (there : name ∈ Keyed.keys members) (transport : IsTransport name) :
    Prevails members name name where
  there := there
  form := toTransport_eq_self transport
  greatest k _ same other := by
    rw [Utf8.encode_lt_iff, ← String.lt_iff_toList_lt]
    exact lt_of_le_of_ne (same ▸ le_toTransport k) other

/-- The value under a transport form is kept, whatever other spellings stand beside it. -/
theorem lookup_transport_form (sorted : Keyed.Sorted members) (transport : IsTransport name)
    (found : Keyed.lookup name members = some v) :
    Keyed.lookup name (transportMembers members) = some v.toTransportCase := by
  have there : name ∈ Keyed.keys members := List.mem_map_of_mem (Keyed.mem_of_lookup found)
  exact (lookup_transportMembers sorted).mpr ⟨name, v, prevails_self there transport, found, rfl⟩

theorem Prevails.unique {other : String} (h : Prevails members name key)
    (h' : Prevails members name other) : key = other := by
  by_contra differ
  have less := h'.greatest key h.there h.form differ
  exact List.lt_asymm less (h.greatest other h'.there h'.form (Ne.symm differ))

theorem converts_array_iff {items : List Json}
    (inner : ∀ u ∈ items, ∀ x, Converts u x ↔ x = u.toTransportCase) :
    Converts (array items) w ↔ w = (array items).toTransportCase := by
  rw [toTransportCase_array]
  constructor
  · rintro ⟨⟩
    next images each =>
    congr 1
    induction each with
    | nil => rfl
    | @cons u x us xs first _ later =>
      rw [List.forall_mem_cons] at inner
      rw [List.map_cons, (inner.1 x).mp first, later inner.2]
  · rintro rfl
    exact .array (List.forall₂_map_right_iff.mpr
      (List.forall₂_same.mpr fun u there => (inner u there _).mpr rfl))

theorem converts_object_iff (sorted : Keyed.Sorted members)
    (inner : ∀ key v, Keyed.lookup key members = some v → ∀ x, Converts v x ↔ x = v.toTransportCase) :
    Converts (object members) w ↔ w = (object members).toTransportCase := by
  have lookups (name : String) (x : Json) := @lookup_transportMembers members name x sorted
  rw [toTransportCase_members]
  constructor
  · rintro ⟨⟩
    next image ordered named prevails =>
    congr 1
    apply ordered.ext (sorted_transportMembers members)
    intro name
    cases kept : Keyed.lookup name (transportMembers members) with
    | none =>
      rw [Keyed.lookup_eq_none_iff, mem_keys_transportMembers] at kept
      rwa [Keyed.lookup_eq_none_iff, named]
    | some x =>
      obtain ⟨key, v, wins, found, rfl⟩ := (lookups name x).mp kept
      cases there : Keyed.lookup name image with
      | none =>
        rw [Keyed.lookup_eq_none_iff, named] at there
        exact absurd ⟨key, wins.there, wins.form⟩ there
      | some w => rw [(inner key v found w).mp (prevails name key v w wins found there)]
  · rintro rfl
    refine .object (sorted_transportMembers members) (fun _ => mem_keys_transportMembers) ?_
    intro name key v w wins found there
    obtain ⟨other, v', wins', found', rfl⟩ := (lookups name w).mp there
    rw [← wins.unique wins', found, Option.some.injEq] at found'
    subst found'
    exact (inner key v found _).mpr rfl

/-- The conversion is the one way to bring a value to transport case. -/
theorem converts_iff (canonical : v.Canonical) : Converts v w ↔ w = v.toTransportCase := by
  induction v using part_induction generalizing w with
  | step v ih =>
    have inner (u : Json) (part : u ∈ v.parts) (w : Json) : Converts u w ↔ w = u.toTransportCase :=
      ih u part (canonical.part part)
    cases v with
    | null | bool | number | string =>
      constructor
      · rintro ⟨⟩
        rfl
      · rintro rfl
        constructor
    | array items => exact converts_array_iff inner
    | object members =>
      apply converts_object_iff canonical.1
      intro key v found
      exact inner v (List.mem_map_of_mem (Keyed.mem_of_lookup found))

/-- The members without those whose keys are other spellings of a name. -/
def withoutSpellings (name : String) (members : List (String × Json)) : List (String × Json) :=
  members.filter fun m => decide (m.1 = name ∨ toTransport m.1 ≠ name)

theorem lookup_withoutSpellings (name key : String) (members : List (String × Json)) :
    Keyed.lookup key (withoutSpellings name members) =
      if key = name ∨ toTransport key ≠ name then Keyed.lookup key members else none := by
  have kept := Keyed.lookup_filter key (fun k => decide (k = name ∨ toTransport k ≠ name)) members
  unfold withoutSpellings
  simpa only [decide_eq_true_eq] using kept

theorem mem_keys_withoutSpellings : key ∈ Keyed.keys (withoutSpellings name members) ↔
    key ∈ Keyed.keys members ∧ (key = name ∨ toTransport key ≠ name) := by
  rw [← Keyed.contains_iff, ← Keyed.contains_iff, Keyed.contains, Keyed.contains,
    lookup_withoutSpellings]
  split
  · next kept => rw [and_iff_left kept]
  · next dropped => simp [dropped]

theorem prevails_withoutSpellings {other : String} (apart : other ≠ name) :
    Prevails (withoutSpellings name members) other key ↔ Prevails members other key := by
  have kept {k : String} (form : toTransport k = other) :
      k ∈ Keyed.keys (withoutSpellings name members) ↔ k ∈ Keyed.keys members := by
    rw [mem_keys_withoutSpellings, and_iff_left (.inr (form ▸ apart))]
  constructor
  · rintro ⟨there, form, greatest⟩
    exact ⟨(kept form).mp there, form, fun k hk same => greatest k ((kept same).mpr hk) same⟩
  · rintro ⟨there, form, greatest⟩
    exact ⟨(kept form).mpr there, form, fun k hk same => greatest k ((kept same).mp hk) same⟩

/-- Where a name stands in its transport form its other spellings make no difference. -/
theorem toTransportCase_withoutSpellings (sorted : Keyed.Sorted members) (transport : IsTransport name)
    (found : Keyed.lookup name members = some v) :
    (object (withoutSpellings name members)).toTransportCase = (object members).toTransportCase := by
  have fewer : Keyed.Sorted (withoutSpellings name members) :=
    Keyed.sorted_iff_pairwise.mpr ((Keyed.sorted_iff_pairwise.mp sorted).filter _)
  rw [toTransportCase_members, toTransportCase_members]
  congr 1
  apply (sorted_transportMembers _).ext (sorted_transportMembers members)
  intro other
  by_cases apart : other = name
  · subst apart
    have same : Keyed.lookup other (withoutSpellings other members) = some v := by
      rw [lookup_withoutSpellings, if_pos (.inl rfl), found]
    rw [lookup_transport_form fewer transport same, lookup_transport_form sorted transport found]
  · have kept {key : String} (form : toTransport key = other) :
        Keyed.lookup key (withoutSpellings name members) = Keyed.lookup key members := by
      rw [lookup_withoutSpellings, if_pos (.inr (form ▸ apart))]
    ext w
    rw [lookup_transportMembers fewer, lookup_transportMembers sorted]
    simp only [prevails_withoutSpellings apart]
    constructor
    · rintro ⟨key, v, wins, there, same⟩
      exact ⟨key, v, wins, kept wins.form ▸ there, same⟩
    · rintro ⟨key, v, wins, there, same⟩
      exact ⟨key, v, wins, (kept wins.form).trans there, same⟩

/-- A value that stands somewhere in another. -/
inductive Inside : Json → Json → Prop where
  | self (v : Json) : Inside v v
  | part {u v w : Json} (part : v ∈ w.parts) (inside : Inside u v) : Inside u w

theorem Canonical.inside {u : Json} (h : v.Canonical) (inside : Inside u v) : u.Canonical := by
  induction inside with
  | self => exact h
  | part part _ ih => exact ih (h.part part)

/-- A value is brought to transport case in one way: in every object, at whatever depth, each key of
the image comes from keys of the object, the value under it is that of the greatest of these keys,
byte by byte, and what is no object and no array stays as it is. A value under a transport form is
therefore kept, and the other spellings beside it make no difference to a call. -/
theorem spellings_resolved (canonical : v.Canonical) : (∀ w, Converts v w ↔ w = v.toTransportCase) ∧
    ∀ members, Inside (object members) v → ∃ image, (object members).toTransportCase = object image ∧
      (∀ name w, Keyed.lookup name image = some w ↔ ∃ key v, Prevails members name key ∧
        Keyed.lookup key members = some v ∧ w = v.toTransportCase) ∧
      ∀ name ∈ Keyed.keys image, ∀ v, Keyed.lookup name members = some v →
        Keyed.lookup name image = some v.toTransportCase ∧
        ∀ (A : Application) (table : Definitions) (c : Command A),
          prepareArgs table c (object (withoutSpellings name members)) =
            prepareArgs table c (object members) := by
  refine ⟨fun w => converts_iff canonical, fun members inside => ?_⟩
  have sorted : Keyed.Sorted members := (canonical.inside inside).1
  refine ⟨transportMembers members, toTransportCase_members members,
    fun name w => lookup_transportMembers sorted, fun name listed v found => ?_⟩
  have transport : IsTransport name := by
    obtain ⟨key, -, rfl⟩ := mem_keys_transportMembers.mp listed
    exact isTransport_toTransport key
  refine ⟨lookup_transport_form sorted transport found, fun A table c => ?_⟩
  exact prepareArgs_congr (toTransportCase_withoutSpellings sorted transport found)

def pairOfSpellings : List (String × Json) := [("x", null), ("xY", bool true), ("x_y", null)]

def respelled : Json :=
  object [("aBC", null), ("aB_c", bool true), ("a_bC", object pairOfSpellings)]

/-- The value under the greatest key is kept, and inside it the one under the transport form. -/
theorem respelled_resolved : respelled.Canonical ∧
    Converts respelled (object [("a_b_c", object [("x", null), ("x_y", null)])]) ∧
    Inside (object pairOfSpellings) respelled ∧
    ∃ image, (object pairOfSpellings).toTransportCase = object image ∧
      Keyed.lookup "x_y" image = some null := by
  have canonical : respelled.Canonical := by
    simp only [respelled, pairOfSpellings, Canonical, CanonicalMembers, Keyed.Sorted]
    decide
  have image : object [("a_b_c", object [("x", null), ("x_y", null)])] = respelled.toTransportCase := by
    decide
  have inside : Inside (object pairOfSpellings) respelled :=
    .part (by simp [respelled, parts]) (.self _)
  obtain ⟨converts, objects⟩ := spellings_resolved canonical
  obtain ⟨inner, same, lookups, -⟩ := objects _ inside
  have wins : Prevails pairOfSpellings "x_y" "x_y" := prevails_self (by decide) (by decide)
  exact ⟨canonical, (converts _).mpr image, inside, inner, same,
    (lookups "x_y" null).mpr ⟨"x_y", null, wins, rfl, rfl⟩⟩

end Json
end CommandBridge

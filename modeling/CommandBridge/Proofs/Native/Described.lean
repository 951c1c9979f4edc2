import CommandBridge.Native.Value
import CommandBridge.Proofs.Conformance.Forms
import CommandBridge.Proofs.Conformance.Slots
import CommandBridge.Proofs.Json.Numbers
import CommandBridge.Proofs.Keyed
import Mathlib.Data.String.Basic
import Mathlib.Tactic.Common

/-!
# Described types take what is written of their values

Every value of a native type is written as JSON of the shape that the type describes, with one
exception. The integers of up to 64 bits lie between `-2 ^ 63` and `2 ^ 64 - 1`, and so do the
integers that a check takes; but of the keys of a map it takes only those below `2 ^ 63`. An
unsigned key from there on is written and then refused.
-/

set_option autoImplicit false

namespace CommandBridge

open Conformance

/-- Integers of up to 64 bits stay in the range of JSON integers. -/
theorem IntFormat.inRange {f : IntFormat} (narrow : f.bits ≤ 64) {n : Int}
    (held : f.holds n = true) : IntRange n := by
  have signed : 2 ^ (f.bits - 1) ≤ 2 ^ 63 := Nat.pow_le_pow_right (by decide) (by omega)
  have unsigned : 2 ^ f.bits ≤ 2 ^ 64 := Nat.pow_le_pow_right (by decide) narrow
  unfold IntFormat.holds at held
  unfold IntRange
  simp only [Nat.pow_eq] at held ⊢
  split at held <;> have bounds := of_decide_eq_true held <;> omega

theorem toList_toString (n : Int) : (toString n).toList = Json.intText n := by
  rw [Int.toString_eq_repr, Int.repr_eq_if, Json.intText]
  by_cases negative : n < 0
  · have size : (-n).toNat = n.natAbs := by omega
    rw [if_neg (by omega), if_pos negative, size, String.toList_append, Nat.toList_repr]
    rfl
  · have size : n.toNat = n.natAbs := by omega
    rw [if_pos (by omega), if_neg negative, size, Nat.toList_repr]

namespace Conformance

theorem isIntegerKey_minus {key : String} {n : Nat}
    (spelled : key.toList = '-' :: Nat.toDigits 10 n) :
    isIntegerKey key = true ↔ n ≤ 2 ^ 63 := by
  have value : (Nat.toDigits 10 n).foldl (fun acc d => acc * 10 + (d.toNat - '0'.toNat)) 0 = n :=
    Json.digits_foldl n
  have all : (Nat.toDigits 10 n).all Char.isDigit = true :=
    List.all_eq_true.mpr fun _ => Json.isDigit_of_mem_digits
  simp only [isIntegerKey, spelled, value, all]
  simp
  omega

theorem isIntegerKey_plain {key : String} {n : Nat} (spelled : key.toList = Nat.toDigits 10 n) :
    isIntegerKey key = true ↔ n < 2 ^ 63 := by
  have value : (Nat.toDigits 10 n).foldl (fun acc d => acc * 10 + (d.toNat - '0'.toNat)) 0 = n :=
    Json.digits_foldl n
  have all : (Nat.toDigits 10 n).all Char.isDigit = true :=
    List.all_eq_true.mpr fun _ => Json.isDigit_of_mem_digits
  obtain ⟨c, more, digits⟩ := List.exists_cons_of_ne_nil (Nat.toDigits_ne_nil (b := 10) (n := n))
  have digit : c.isDigit = true := Json.isDigit_of_mem_digits (digits ▸ List.mem_cons_self)
  unfold isIntegerKey
  rw [spelled]
  split
  rename_i negative ds same
  rw [digits] at same
  -- The first digit is no sign.
  split at same
  · next h => cases h; exact absurd digit (by decide)
  · next h => cases h; exact absurd digit (by decide)
  · cases same
    rw [← digits]
    simp only [value, all]
    simp

/-- An integer passes as a key when 64 bits with a sign hold it. -/
theorem isIntegerKey_toString (n : Int) :
    isIntegerKey (toString n) = true ↔ -(2 ^ 63 : Int) ≤ n ∧ n < 2 ^ 63 := by
  have spelled := toList_toString n
  rw [Json.intText] at spelled
  split at spelled
  · rw [isIntegerKey_minus spelled]
    omega
  · rw [isIntegerKey_plain spelled]
    omega

end Conformance

namespace NativeKey

variable {a b : NativeKey} {k : NativeType}

theorem spelling_injective (ha : a.OfType k) (hb : b.OfType k) (same : a.spelling = b.spelling) :
    a = b := by
  cases ha with
  | text s =>
    cases hb
    exact congrArg NativeKey.text same
  | character c =>
    cases hb
    exact congrArg NativeKey.character (String.singleton_inj.mp same)
  | @integer f n narrow held =>
    cases hb with
    | @integer _ m _ held' =>
    have letters : Json.intText n = Json.intText m := by
      rw [← toList_toString, ← toList_toString]
      exact congrArg String.toList same
    have read := Json.numberValue_intText n (IntFormat.inRange narrow held)
    rw [letters, Json.numberValue_intText m (IntFormat.inRange narrow held')] at read
    cases read
    rfl

/-- Of the keys that a type has, a check refuses the integers from `2 ^ 63` on. -/
theorem passes_iff (h : a.OfType k) :
    (k.describe = .integer → isIntegerKey a.spelling = true) ↔
      ∀ n, a.integer? = some n → n < 2 ^ 63 := by
  cases h with
  | text s => exact ⟨fun _ => nofun, fun _ => nofun⟩
  | character c => exact ⟨fun _ => nofun, fun _ => nofun⟩
  | @integer f n narrow held =>
    have low : -(2 ^ 63 : Int) ≤ n := (IntFormat.inRange narrow held).1
    have spelled := isIntegerKey_toString n
    constructor
    · rintro taken m ⟨⟩
      exact (spelled.mp (taken rfl)).2
    · exact fun fits _ => spelled.mpr ⟨low, fits n rfl⟩

end NativeKey

namespace NativeType

theorem describeAll_eq_map (ts : List NativeType) : describeAll ts = ts.map describe := by
  induction ts with
  | nil => rfl
  | cons t rest ih => rw [describeAll, ih, List.map_cons]

def isWide : NativeType → Bool
  | integer f => !f.signed && decide (f.bits = 64)
  | _ => false

mutual
/-- Some map in the type has such keys. -/
def hasWideKeys : NativeType → Bool
  | map k t => isWide k || hasWideKeys t
  | option t | list t => hasWideKeys t
  | tuple ts => anyHasWideKeys ts
  | _ => false

def anyHasWideKeys : List NativeType → Bool
  | [] => false
  | t :: rest => hasWideKeys t || anyHasWideKeys rest
end

theorem anyHasWideKeys_eq_any (ts : List NativeType) :
    anyHasWideKeys ts = ts.any hasWideKeys := by
  induction ts with
  | nil => rfl
  | cons t rest ih => rw [anyHasWideKeys, ih, List.any_cons]

end NativeType

/-- Integers of all other formats of up to 64 bits are below `2 ^ 63`. -/
theorem NativeKey.fits_of_narrow {a : NativeKey} {k : NativeType} (h : a.OfType k)
    (narrow : k.isWide = false) {n : Int} (key : a.integer? = some n) : n < 2 ^ 63 := by
  cases h with
  | text s => cases key
  | character c => cases key
  | @integer f m bits held =>
    cases key
    have small (b : Nat) (le : b ≤ 63) : 2 ^ b ≤ 2 ^ 63 := Nat.pow_le_pow_right (by decide) le
    have signed := small (f.bits - 1) (by omega)
    simp only [IntFormat.holds, Nat.pow_eq] at held
    cases sign : f.signed with
    | true =>
      rw [if_pos sign] at held
      have bounds := of_decide_eq_true held
      omega
    | false =>
      have other : f.bits ≠ 64 := by simpa [NativeType.isWide, sign] using narrow
      have unsigned := small f.bits (by omega)
      rw [sign, if_neg Bool.false_ne_true] at held
      have bounds := of_decide_eq_true held
      omega

namespace NativeValue

variable {table : Definitions} {v : NativeValue} {t : NativeType}

/-- Every integer key in the value is below `2 ^ 63`. -/
def KeysFit (v : NativeValue) : Prop := ∀ n ∈ v.integerKeys, n < 2 ^ 63

theorem itemsToJson_eq_map (items : List NativeValue) : itemsToJson items = items.map toJson := by
  induction items with
  | nil => rfl
  | cons v rest ih => rw [itemsToJson, ih, List.map_cons]

theorem entriesToJson_eq_map (entries : List (NativeKey × NativeValue)) :
    entriesToJson entries = entries.map fun e => (e.1.spelling, e.2.toJson) := by
  induction entries with
  | nil => rfl
  | cons e rest ih => rw [entriesToJson, ih, List.map_cons]

theorem integerKeysItems_eq_flatMap (items : List NativeValue) :
    integerKeysItems items = items.flatMap integerKeys := by
  induction items with
  | nil => rfl
  | cons v rest ih => rw [integerKeysItems, ih, List.flatMap_cons]

theorem integerKeysEntries_eq_flatMap (entries : List (NativeKey × NativeValue)) :
    integerKeysEntries entries =
      entries.flatMap fun e => e.1.integer?.toList ++ e.2.integerKeys := by
  induction entries with
  | nil => rfl
  | cons e rest ih => rw [integerKeysEntries, ih, List.flatMap_cons]

theorem keysFit_items {items : List NativeValue} :
    (∀ n ∈ integerKeysItems items, n < 2 ^ 63) ↔ ∀ v ∈ items, v.KeysFit := by
  rw [integerKeysItems_eq_flatMap]
  exact List.forall_mem_flatMap

theorem keysFit_map {entries : List (NativeKey × NativeValue)} :
    (map entries).KeysFit ↔
      ∀ e ∈ entries, (∀ n, e.1.integer? = some n → n < 2 ^ 63) ∧ e.2.KeysFit := by
  simp only [KeysFit, integerKeys, integerKeysEntries_eq_flatMap, List.forall_mem_flatMap,
    List.forall_mem_append, Option.mem_toList]

/-- The members that a map is written as, before they are sorted, have keys of their own. -/
theorem spellings_nodup {k : NativeType} {entries : List (NativeKey × NativeValue)}
    (distinct : (entries.map Prod.fst).Nodup) (keys : ∀ e ∈ entries, e.1.OfType k) :
    (Keyed.keys (entriesToJson entries)).Nodup := by
  have spelled : Keyed.keys (entriesToJson entries) =
      (entries.map Prod.fst).map NativeKey.spelling := by
    rw [entriesToJson_eq_map, Keyed.keys, List.map_map, List.map_map]
    rfl
  rw [spelled]
  refine distinct.map_on ?_
  simp only [List.forall_mem_map]
  exact fun a ha b hb => NativeKey.spelling_injective (keys a ha) (keys b hb)

theorem forall_mem_written {k : NativeType} {entries : List (NativeKey × NativeValue)}
    (distinct : (entries.map Prod.fst).Nodup) (keys : ∀ e ∈ entries, e.1.OfType k)
    {P : String × Json → Prop} :
    (∀ m ∈ Keyed.sort (entriesToJson entries), P m) ↔
      ∀ e ∈ entries, P (e.1.spelling, e.2.toJson) := by
  have perm := Keyed.perm_sort (spellings_nodup distinct keys)
  simp only [perm.mem_iff]
  rw [entriesToJson_eq_map, List.forall_mem_map]

theorem length_itemsToJson {ts : List NativeType} {items : List NativeValue}
    (length : items.length = ts.length) :
    (itemsToJson items).length = (NativeType.describeAll ts).length := by
  rw [itemsToJson_eq_map, NativeType.describeAll_eq_map, List.length_map, List.length_map, length]

theorem zip_map_snd {ts : List NativeType} {items : List NativeValue}
    (length : items.length = ts.length) : (ts.zip items).map Prod.snd = items :=
  List.map_snd_zip length.le

theorem tuple_pairs (ts : List NativeType) (items : List NativeValue) :
    (NativeType.describeAll ts).zip (itemsToJson items) =
      (ts.zip items).map (Prod.map NativeType.describe toJson) := by
  rw [NativeType.describeAll_eq_map, itemsToJson_eq_map, List.zip_map]

theorem keysFit_of_null : ∀ v : NativeValue, v.toJson = .null → v.KeysFit
  | unit, _ | absent, _ | any _, _ => List.forall_mem_nil _
  | present v, written => keysFit_of_null v written

theorem check_toJson_eq_ok (h : v.OfType t) :
    check table t.describe v.toJson = .ok () ↔ v.KeysFit := by
  induction h with
  | text | character | float | boolean | unit | any =>
    exact iff_of_true (check_primitive_eq_ok.mpr rfl) (List.forall_mem_nil _)
  | @integer f n narrow held =>
    have number : Json.int n = .number (.int n (IntFormat.inRange narrow held)) :=
      congrArg Json.number (dif_pos _)
    refine iff_of_true (check_primitive_eq_ok.mpr ?_) (List.forall_mem_nil _)
    rw [toJson, number]
    rfl
  | absent t => exact iff_of_true (check_optional_eq_ok.mpr (.inl rfl)) (List.forall_mem_nil _)
  | @present t v h ih =>
    rw [toJson, NativeType.describe, check_optional_eq_ok, ih]
    exact or_iff_right_of_imp (keysFit_of_null v)
  | @list t items h ih =>
    rw [toJson, NativeType.describe, check_sequence_eq_ok, itemsToJson_eq_map, List.forall_mem_map,
      KeysFit, integerKeys, keysFit_items]
    exact forall₂_congr ih
  | @map k t entries distinct keys values ih =>
    rw [toJson, NativeType.describe, Json.ofMembers, check_mapping_eq_ok, forall_mem_written distinct keys,
      keysFit_map]
    exact forall₂_congr fun e there =>
      and_congr (NativeKey.passes_iff (keys e there)) (ih e there)
  | @tuple ts items length h ih =>
    rw [toJson, NativeType.describe, check_tuple_eq_ok (length_itemsToJson length), tuple_pairs,
      List.forall_mem_map, KeysFit, integerKeys, keysFit_items]
    conv_rhs => rw [← zip_map_snd length, List.forall_mem_map]
    exact forall₂_congr ih

theorem failsOnlyWith_integerKey (h : v.OfType t) :
    FailsOnlyWith .integerKey (check table t.describe v.toJson) := by
  have fits {v : NativeValue} {t : NativeType} (h : v.OfType t) (free : v.integerKeys = []) :
      FailsOnlyWith .integerKey (check table t.describe v.toJson) :=
    failsOnlyWith_of_eq_ok ((check_toJson_eq_ok h).mpr fun n there => by
      rw [free] at there
      cases there)
  induction h with
  | text | character | float | boolean | unit | any =>
    exact fits (by constructor) rfl
  | integer narrow held => exact fits (.integer narrow held) rfl
  | absent t => exact fits (.absent t) rfl
  | present h ih => exact failsOnlyWith_optional ih
  | @list t items h ih =>
    rw [toJson, NativeType.describe, itemsToJson_eq_map]
    apply failsOnlyWith_sequence
    rwa [List.forall_mem_map]
  | @map k t entries distinct keys values ih =>
    rw [toJson, NativeType.describe, Json.ofMembers]
    apply failsOnlyWith_mapping
    rwa [forall_mem_written distinct keys (P := fun m => FailsOnlyWith _ (check table t.describe m.2))]
  | @tuple ts items length h ih =>
    rw [toJson, NativeType.describe]
    apply failsOnlyWith_tuple (length_itemsToJson length)
    rwa [tuple_pairs, List.forall_mem_map]

/-- Only in a map with keys of 64 bits without a sign is there a key that does not fit. -/
theorem keysFit_of_narrow (h : v.OfType t) (narrow : t.hasWideKeys = false) : v.KeysFit := by
  induction h with
  | text | character | integer | float | boolean | unit | any | absent => exact List.forall_mem_nil _
  | present h ih => exact ih narrow
  | @list t items h ih => exact keysFit_items.mpr fun v there => ih v there narrow
  | @map k t entries distinct keys values ih =>
    rw [NativeType.hasWideKeys, Bool.or_eq_false_iff] at narrow
    exact keysFit_map.mpr fun e there =>
      ⟨fun n key => NativeKey.fits_of_narrow (keys e there) narrow.1 key, ih e there narrow.2⟩
  | @tuple ts items length h ih =>
    rw [NativeType.hasWideKeys, NativeType.anyHasWideKeys_eq_any, List.any_eq_false] at narrow
    refine keysFit_items.mpr fun v there => ?_
    rw [← zip_map_snd length, List.mem_map] at there
    obtain ⟨p, pair, rfl⟩ := there
    exact ih p pair (Bool.eq_false_iff.mpr (narrow p.1 (List.of_mem_zip pair).1))

/-- A type takes what is written of its values when their integer keys are below `2 ^ 63`, as in
every type without unsigned keys of 64 bits they are, and a key is all that it refuses. -/
theorem written_value_taken_iff (h : v.OfType t) (table : Definitions) (path : String) :
    (validate table path t.describe v.toJson = .ok () ↔ v.KeysFit) ∧
      (t.hasWideKeys = false → v.KeysFit) ∧
      ∀ e, validate table path t.describe v.toJson = .error e → ∃ steps,
        e = .invalidField (path ++ Rejection.stepsText steps) "expected integer key" := by
  refine ⟨validate_eq_ok.trans (check_toJson_eq_ok h), keysFit_of_narrow h, fun e refused => ?_⟩
  unfold validate at refused
  split at refused
  · cases refused
  · next r failed =>
    cases refused
    obtain ⟨steps, rfl⟩ := failsOnlyWith_integerKey h r failed
    exact ⟨steps, rfl⟩

def extremes : NativeValue :=
  .map [(.integer (-2 ^ 63), .absent),
    (.integer (2 ^ 63 - 1), .present (.tuple [.integer (2 ^ 64 - 1), .character 'z']))]

def extremesType : NativeType :=
  .map (.integer .i64) (.option (.tuple [.integer .u64, .character]))

theorem extremes_taken : extremes.OfType extremesType ∧ extremes.KeysFit ∧
    validate .empty "spans" extremesType.describe extremes.toJson = .ok () := by
  have pair : (tuple [.integer (2 ^ 64 - 1), .character 'z']).OfType
      (.tuple [.integer .u64, .character]) :=
    .tuple rfl (List.forall_mem_cons.mpr ⟨.integer (by decide) (by decide),
      List.forall_mem_singleton.mpr (.character 'z')⟩)
  have typed : extremes.OfType extremesType :=
    .map (by decide)
      (List.forall_mem_cons.mpr ⟨.integer (by decide) (by decide),
        List.forall_mem_singleton.mpr (.integer (by decide) (by decide))⟩)
      (List.forall_mem_cons.mpr ⟨.absent _, List.forall_mem_singleton.mpr (.present pair)⟩)
  obtain ⟨taken, fits, -⟩ := written_value_taken_iff typed .empty "spans"
  exact ⟨typed, fits rfl, taken.mpr (fits rfl)⟩

/-- An unsigned key of 64 bits is refused by the type of the map that it stands in. -/
theorem unsigned_key_refused :
    (map [(.integer (2 ^ 63), .boolean true)]).OfType (.map (.integer .u64) .boolean) ∧
      validate .empty "m" (NativeType.map (.integer .u64) .boolean).describe
          (map [(.integer (2 ^ 63), .boolean true)]).toJson =
        .error (.invalidField "m.9223372036854775808" "expected integer key") := by
  constructor
  · exact .map (by decide) (List.forall_mem_singleton.mpr (.integer (by decide) (by decide)))
      (List.forall_mem_singleton.mpr (.boolean true))
  · have spelled : toString (2 ^ 63 : Int) = "9223372036854775808" := by decide
    have wrong : isIntegerKey "9223372036854775808" = false := by decide
    have written : (map [(.integer (2 ^ 63), .boolean true)]).toJson =
        .object [("9223372036854775808", .bool true)] := by
      rw [← spelled]
      rfl
    rw [written, validate, NativeType.describe, NativeType.describe, check, checkEntries, wrong]
    rfl

end NativeValue
end CommandBridge

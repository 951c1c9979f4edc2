import CommandBridge.Keyed
import Mathlib.Data.List.Induction
import Mathlib.Data.List.Nodup
import Mathlib.Data.String.Basic
import Mathlib.Tactic.Common

/-!
# Laws of keyed lists

What an insertion, an erasure and a sort do to look-ups and to the order of the keys. Two sorted
lists that answer every look-up alike are the same list, so a law on look-ups is a law on lists.
Sorting keeps the last entry of a key; where keys are renamed apart, the renaming may come before
the sort or after it.
-/

set_option autoImplicit false

namespace CommandBridge.Keyed

open scoped List

variable {α β : Type}

theorem contains_iff {key : String} {entries : List (String × α)} :
    contains key entries = true ↔ key ∈ keys entries := by
  induction entries with
  | nil => simp [contains, lookup, keys]
  | cons first rest ih =>
    obtain ⟨k, v⟩ := first
    by_cases same : k = key
    · simp [contains, lookup, keys, same]
    · simpa [contains, lookup, keys, same, Ne.symm same] using ih

theorem lookup_eq_none_iff {key : String} {entries : List (String × α)} :
    lookup key entries = none ↔ key ∉ keys entries := by
  rw [← contains_iff, contains, Bool.not_eq_true, Option.isSome_eq_false_iff,
    Option.isNone_iff_eq_none]

theorem lookup_of_mem {key : String} {value : α} {entries : List (String × α)}
    (distinct : (keys entries).Nodup) (h : (key, value) ∈ entries) :
    lookup key entries = some value := by
  induction entries with
  | nil => cases h
  | cons first rest ih =>
    obtain ⟨k, v⟩ := first
    rw [keys, List.map_cons, List.nodup_cons] at distinct
    rcases List.mem_cons.mp h with same | later
    · cases same
      simp [lookup]
    · have other : k ≠ key := by
        rintro rfl
        exact distinct.1 (List.mem_map.mpr ⟨_, later, rfl⟩)
      simpa [lookup, other] using ih distinct.2 later

theorem lookup_append (key : String) (front back : List (String × α)) :
    lookup key (front ++ back) = (lookup key front).or (lookup key back) := by
  induction front with
  | nil => rfl
  | cons m rest ih =>
    obtain ⟨k, v⟩ := m
    by_cases same : k = key <;> simp [lookup, same, ih]

theorem lookup_insert (key other : String) (value : α) (entries : List (String × α)) :
    lookup other (insert key value entries) =
      if other = key then some value else lookup other entries := by
  by_cases same : other = key
  · rw [if_pos same, same, lookup_insert_self]
  · rw [if_neg same, lookup_insert_of_ne same]

theorem lookup_filter (key : String) (p : String → Bool) (entries : List (String × α)) :
    lookup key (entries.filter fun m => p m.1) = if p key then lookup key entries else none := by
  induction entries with
  | nil => simp [lookup]
  | cons m rest ih =>
    obtain ⟨k, v⟩ := m
    by_cases kept : p k = true
    · by_cases same : k = key
      · subst same
        simp [lookup, kept]
      · simpa [lookup, kept, same] using ih
    · by_cases same : k = key
      · subst same
        simpa [lookup, kept] using ih
      · simpa [lookup, kept, same] using ih

theorem lookup_erase (key other : String) (entries : List (String × α)) :
    lookup other (erase key entries) = if other = key then none else lookup other entries := by
  rw [erase, lookup_filter other fun k => decide (k ≠ key)]
  by_cases same : other = key <;> simp [same]

/-- Where a renaming meets a key in one way only, it carries the entry of that key. -/
theorem lookup_map {rename : String → String} (convert : α → β) {key : String}
    {entries : List (String × α)}
    (apart : ∀ k ∈ keys entries, rename k = rename key → k = key) :
    lookup (rename key) (entries.map fun m => (rename m.1, convert m.2)) =
      (lookup key entries).map convert := by
  induction entries with
  | nil => rfl
  | cons m rest ih =>
    obtain ⟨k, v⟩ := m
    rw [keys, List.map_cons, List.forall_mem_cons] at apart
    by_cases same : k = key
    · simp [lookup, same]
    · have other : rename k ≠ rename key := fun h => same (apart.1 h)
      simpa [lookup, same, other] using ih apart.2

/-- Keys that increase from each member to the next increase throughout. -/
theorem sorted_iff_pairwise {entries : List (String × α)} :
    Sorted entries ↔ entries.Pairwise fun a b => a.1 < b.1 := by
  induction entries with
  | nil => exact ⟨fun _ => .nil, fun _ => trivial⟩
  | cons a rest ih =>
    cases rest with
    | nil => exact ⟨fun _ => List.pairwise_singleton _ a, fun _ => trivial⟩
    | cons b rest =>
      constructor
      · rintro ⟨first, others⟩
        have later := ih.mp others
        refine List.pairwise_cons.mpr ⟨List.forall_mem_cons.mpr ⟨first, fun c there => ?_⟩, later⟩
        exact lt_trans first ((List.pairwise_cons.mp later).1 c there)
      · intro h
        obtain ⟨first, later⟩ := List.pairwise_cons.mp h
        exact ⟨first b List.mem_cons_self, ih.mpr later⟩

theorem Sorted.nodup {entries : List (String × α)} (h : Sorted entries) : (keys entries).Nodup := by
  apply List.pairwise_map.mpr
  exact (sorted_iff_pairwise.mp h).imp ne_of_lt

theorem Sorted.index_lt_iff {entries : List (String × α)} (h : Sorted entries) {i j : Nat}
    {a b : String × α} (first : entries[i]? = some a) (second : entries[j]? = some b) :
    i < j ↔ a.1 < b.1 := by
  have ordered {i j : Nat} {a b : String × α} (first : entries[i]? = some a)
      (second : entries[j]? = some b) (before : i < j) : a.1 < b.1 := by
    obtain ⟨hi, rfl⟩ := List.getElem?_eq_some_iff.mp first
    obtain ⟨hj, rfl⟩ := List.getElem?_eq_some_iff.mp second
    exact List.pairwise_iff_getElem.mp (sorted_iff_pairwise.mp h) i j hi hj before
  constructor
  · exact ordered first second
  · intro smaller
    rcases Nat.lt_trichotomy i j with before | rfl | after
    · exact before
    · cases first.symm.trans second
      exact absurd smaller (lt_irrefl a.1)
    · exact absurd smaller (lt_asymm (ordered second first after))

theorem mem_insert {key : String} {value : α} {m : String × α} {entries : List (String × α)}
    (h : m ∈ insert key value entries) : m = (key, value) ∨ m ∈ entries := by
  induction entries with
  | nil => exact .inl (List.mem_singleton.mp h)
  | cons first rest ih =>
    simp only [insert] at h
    split at h
    · exact List.mem_cons.mp h
    split at h
    · exact (List.mem_cons.mp h).imp_right (List.mem_cons_of_mem _)
    · rcases List.mem_cons.mp h with same | later
      · exact .inr (same ▸ List.mem_cons_self)
      · exact (ih later).imp_right (List.mem_cons_of_mem _)

/-- An insertion puts its entry between two parts of the list, where nothing stood or an entry of
its key. -/
theorem exists_insert (key : String) (value : α) (entries : List (String × α)) :
    ∃ front old back, entries = front ++ (old ++ back) ∧ (∀ m ∈ old, m.1 = key) ∧
      insert key value entries = front ++ (key, value) :: back := by
  induction entries with
  | nil => exact ⟨[], [], [], rfl, nofun, rfl⟩
  | cons m rest ih =>
    obtain ⟨k, v⟩ := m
    rw [insert]
    by_cases below : key < k
    · exact ⟨[], [], (k, v) :: rest, rfl, nofun, if_pos below⟩
    · rw [if_neg below]
      by_cases same : key = k
      · exact ⟨[], [(k, v)], rest, rfl, List.forall_mem_singleton.mpr same.symm, if_pos same⟩
      · obtain ⟨front, old, back, rfl, replaced, inserted⟩ := ih
        exact ⟨(k, v) :: front, old, back, rfl, replaced, by rw [if_neg same, inserted]; rfl⟩

theorem sorted_insert (key : String) (value : α) {entries : List (String × α)}
    (h : Sorted entries) : Sorted (insert key value entries) := by
  rw [sorted_iff_pairwise] at h ⊢
  induction entries with
  | nil => exact List.pairwise_singleton _ _
  | cons m rest ih =>
    obtain ⟨k, v⟩ := m
    obtain ⟨first, later⟩ := List.pairwise_cons.mp h
    rw [insert]
    by_cases below : key < k
    · rw [if_pos below]
      refine List.pairwise_cons.mpr ⟨List.forall_mem_cons.mpr ⟨below, fun n there => ?_⟩, h⟩
      exact lt_trans below (first n there)
    · rw [if_neg below]
      by_cases same : key = k
      · rw [if_pos same]
        exact List.pairwise_cons.mpr ⟨fun n there => same ▸ first n there, later⟩
      · rw [if_neg same]
        have above : k < key := lt_of_le_of_ne (not_lt.mp below) (Ne.symm same)
        refine List.pairwise_cons.mpr ⟨fun n there => ?_, ih later⟩
        rcases mem_insert there with rfl | old
        · exact above
        · exact first n old

theorem perm_insert {key : String} (value : α) {entries : List (String × α)}
    (h : lookup key entries = none) : (insert key value entries).Perm ((key, value) :: entries) := by
  induction entries with
  | nil => exact .refl _
  | cons first rest ih =>
    obtain ⟨k, v⟩ := first
    simp only [lookup] at h
    split at h
    · cases h
    · next other =>
      simp only [insert]
      split
      · exact .refl _
      · rw [if_neg (Ne.symm other)]
        exact ((ih h).cons (k, v)).trans (.swap _ _ _)

theorem Sorted.eq_of_perm {a b : List (String × α)} (ha : Sorted a) (hb : Sorted b)
    (perm : a.Perm b) : a = b :=
  perm.eq_of_pairwise (fun _ _ _ _ first second => absurd second (lt_asymm first))
    (sorted_iff_pairwise.mp ha) (sorted_iff_pairwise.mp hb)

theorem Sorted.ext {a b : List (String × α)} (ha : Sorted a) (hb : Sorted b)
    (h : ∀ key, lookup key a = lookup key b) : a = b := by
  have within {a b : List (String × α)} (ha : Sorted a) (h : ∀ key, lookup key a = lookup key b) :
      ∀ m ∈ a, m ∈ b := fun m there =>
    mem_of_lookup ((h m.1).symm.trans (lookup_of_mem ha.nodup there))
  have distinct {a : List (String × α)} (ha : Sorted a) : a.Nodup := ha.nodup.of_map _
  apply ha.eq_of_perm hb
  exact (List.perm_ext_iff_of_nodup (distinct ha) (distinct hb)).mpr fun m =>
    ⟨within ha h m, within hb (fun key => (h key).symm) m⟩

theorem sort_concat (entries : List (String × α)) (m : String × α) :
    sort (entries ++ [m]) = insert m.1 m.2 (sort entries) := by
  rw [sort, List.foldl_append]
  rfl

theorem sorted_sort (entries : List (String × α)) : Sorted (sort entries) := by
  induction entries using List.reverseRecOn with
  | nil => exact trivial
  | append_singleton rest m ih =>
    rw [sort_concat]
    exact sorted_insert m.1 m.2 ih

theorem lookup_sort (key : String) (entries : List (String × α)) :
    lookup key (sort entries) = lookup key entries.reverse := by
  induction entries using List.reverseRecOn with
  | nil => rfl
  | append_singleton rest m ih =>
    rw [sort_concat, lookup_insert, ih, List.reverse_append]
    by_cases same : m.1 = key
    · simp [lookup, same]
    · simp [lookup, same, Ne.symm same]

theorem mem_keys_sort {key : String} {entries : List (String × α)} :
    key ∈ keys (sort entries) ↔ key ∈ keys entries := by
  rw [← not_iff_not, ← lookup_eq_none_iff, lookup_sort, lookup_eq_none_iff, keys, keys,
    List.map_reverse, List.mem_reverse]

theorem mem_of_mem_sort {m : String × α} {entries : List (String × α)} (h : m ∈ sort entries) :
    m ∈ entries := by
  have found := lookup_of_mem (sorted_sort entries).nodup h
  rw [lookup_sort] at found
  exact List.mem_reverse.mp (mem_of_lookup found)

theorem perm_sort {entries : List (String × α)} (distinct : (keys entries).Nodup) :
    (sort entries).Perm entries := by
  induction entries using List.reverseRecOn with
  | nil => exact .refl _
  | append_singleton rest m ih =>
    rw [keys, List.map_append, List.nodup_append] at distinct
    obtain ⟨before, -, apart⟩ := distinct
    have new : lookup m.1 (sort rest) = none := by
      rw [lookup_eq_none_iff, mem_keys_sort]
      exact fun there => apart m.1 there m.1 (by simp) rfl
    rw [sort_concat]
    calc insert m.1 m.2 (sort rest)
      _ ~ (m.1, m.2) :: sort rest := perm_insert m.2 new
      _ ~ m :: rest := (ih before).cons m
      _ ~ rest ++ [m] := (List.perm_append_singleton m rest).symm

/-- Entries with distinct keys are sorted the same in whatever order they stand. -/
theorem sort_eq_of_perm {entries entries' : List (String × α)} (distinct : (keys entries).Nodup)
    (perm : entries.Perm entries') : sort entries = sort entries' := by
  have distinct' : (keys entries').Nodup := (perm.map Prod.fst).nodup_iff.mp distinct
  apply (sorted_sort entries).eq_of_perm (sorted_sort entries')
  exact ((perm_sort distinct).trans perm).trans (perm_sort distinct').symm

/-- A selection by key may come before the sort or after it. -/
theorem sort_filter (p : String → Bool) (entries : List (String × α)) :
    sort (entries.filter fun m => p m.1) = (sort entries).filter fun m => p m.1 := by
  have sorted : Sorted ((sort entries).filter fun m => p m.1) :=
    sorted_iff_pairwise.mpr ((sorted_iff_pairwise.mp (sorted_sort entries)).filter _)
  apply (sorted_sort _).ext sorted
  intro key
  rw [lookup_sort, ← List.filter_reverse, lookup_filter, lookup_filter, lookup_sort]

theorem sort_eq_self {entries : List (String × α)} (h : Sorted entries) : sort entries = entries := by
  apply (sorted_sort entries).ext h
  intro key
  have distinct := h.nodup
  rw [lookup_sort]
  cases found : lookup key entries with
  | none =>
    rw [lookup_eq_none_iff] at found ⊢
    rwa [keys, List.map_reverse, List.mem_reverse]
  | some value =>
    refine lookup_of_mem ?_ (List.mem_reverse.mpr (mem_of_lookup found))
    rwa [keys, List.map_reverse, List.nodup_reverse]

/-- Keys that are renamed apart may be renamed before or after sorting. -/
theorem sort_map_sort {rename : String → String} (convert : α → β) {entries : List (String × α)}
    (apart : ∀ j ∈ keys entries, ∀ k ∈ keys entries, rename j = rename k → j = k) :
    sort ((sort entries).map fun m => (rename m.1, convert m.2)) =
      sort (entries.map fun m => (rename m.1, convert m.2)) := by
  apply (sorted_sort _).ext (sorted_sort _)
  intro name
  rw [lookup_sort, lookup_sort, ← List.map_reverse, ← List.map_reverse]
  by_cases met : ∃ key ∈ keys entries, rename key = name
  · obtain ⟨key, there, rfl⟩ := met
    rw [lookup_map, lookup_map, ← lookup_sort, ← lookup_sort, sort_eq_self (sorted_sort entries)]
    · intro k hk
      rw [keys, List.map_reverse, List.mem_reverse] at hk
      exact apart k hk key there
    · intro k hk
      rw [keys, List.map_reverse, List.mem_reverse] at hk
      exact apart k (mem_keys_sort.mp hk) key there
  · have unmet {l : List (String × α)} (sub : ∀ m ∈ l, m.1 ∈ keys entries) :
        lookup name (l.map fun m => (rename m.1, convert m.2)) = none := by
      rw [lookup_eq_none_iff, keys, List.map_map]
      intro there
      obtain ⟨m, hm, same⟩ := List.mem_map.mp there
      exact met ⟨m.1, sub m hm, same⟩
    rw [unmet, unmet]
    · intro m hm
      exact List.mem_map_of_mem (List.mem_reverse.mp hm)
    · intro m hm
      exact List.mem_map_of_mem (mem_of_mem_sort (List.mem_reverse.mp hm))

/-- Of the entries that a renaming brings under one name, that of the greatest key stays. -/
theorem lookup_sort_map_eq_some {rename : String → String} {convert : α → β} {name : String}
    {value : β} {entries : List (String × α)} (sorted : Sorted entries) :
    lookup name (sort (entries.map fun m => (rename m.1, convert m.2))) = some value ↔
      ∃ key old, lookup key entries = some old ∧ rename key = name ∧
        (∀ k ∈ keys entries, rename k = name → k ≤ key) ∧ convert old = value := by
  rw [lookup_sort, ← List.map_reverse]
  induction entries using List.reverseRecOn with
  | nil => simp [lookup]
  | append_singleton before m ih =>
    obtain ⟨first, -, below⟩ := List.pairwise_append.mp (sorted_iff_pairwise.mp sorted)
    have below : ∀ k ∈ keys before, k < m.1 :=
      List.forall_mem_map.mpr fun n there => below n there m (List.mem_singleton_self m)
    have all : keys (before ++ [m]) = keys before ++ [m.1] := List.map_append
    rw [List.reverse_concat, List.map_cons, lookup]
    by_cases met : rename m.1 = name
    · have last : lookup m.1 (before ++ [m]) = some m.2 :=
        lookup_of_mem sorted.nodup (List.mem_append_right _ (List.mem_singleton_self m))
      rw [if_pos met, Option.some.injEq]
      constructor
      · rintro rfl
        refine ⟨m.1, m.2, last, met, fun k there _ => ?_, rfl⟩
        rcases List.mem_append.mp (all ▸ there) with early | late
        · exact le_of_lt (below k early)
        · exact le_of_eq (List.mem_singleton.mp late)
      · rintro ⟨key, old, found, -, greatest, rfl⟩
        have least : m.1 ≤ key := greatest m.1 (all ▸ List.mem_append_right _ (.head _)) met
        have there : key ∈ keys (before ++ [m]) := List.mem_map_of_mem (mem_of_lookup found)
        rcases List.mem_append.mp (all ▸ there) with early | late
        · exact absurd least (not_le_of_gt (below key early))
        · rw [List.mem_singleton.mp late, last] at found
          cases found
          rfl
    · rw [if_neg met, ih (sorted_iff_pairwise.mpr first)]
      constructor
      · rintro ⟨key, old, found, named, greatest, rfl⟩
        refine ⟨key, old, ?_, named, fun k there same => ?_, rfl⟩
        · rw [lookup_append, found, Option.some_or]
        · rcases List.mem_append.mp (all ▸ there) with early | late
          · exact greatest k early same
          · exact absurd (List.mem_singleton.mp late ▸ same) met
      · rintro ⟨key, old, found, named, greatest, rfl⟩
        have other : m.1 ≠ key := fun same => met (same ▸ named)
        refine ⟨key, old, ?_, named, fun k early => ?_, rfl⟩
        · rw [lookup_append] at found
          simpa [lookup, other] using found
        · exact greatest k (all ▸ List.mem_append_left _ early)

end CommandBridge.Keyed

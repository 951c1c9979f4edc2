import CommandBridge.Showcase.Tasks
import Mathlib.Data.List.Nodup
import Mathlib.Tactic.Common

/-!
# Places in a forest

The place of a task in a forest is the list of numbers that leads to it: which root, which subtask of
that root, and so on. What a forest holds is known from what each place says of its task alone, so a
change is described by the places at which it shows. The search for a number finds it exactly when it
stands somewhere, and changes one place at which it does.
-/

set_option autoImplicit false

namespace CommandBridge.Showcase

namespace TaskItem

def alone : TaskItem → TaskItem
  | mk id title status assignedTo tags _ => mk id title status assignedTo tags []

theorem alone_id (t : TaskItem) : t.alone.id = t.id := by
  cases t
  rfl

def at? : List Nat → TaskItem → Option TaskItem
  | [], t => some t
  | i :: rest, t => t.subtasks[i]?.bind (at? rest)

def label? (p : List Nat) (t : TaskItem) : Option TaskItem := (t.at? p).map alone

def changeAt (f : TaskItem → TaskItem) : List Nat → TaskItem → TaskItem
  | [], t => f t
  | i :: rest, mk id title status assignedTo tags subtasks =>
    mk id title status assignedTo tags (subtasks.modify i (changeAt f rest))

end TaskItem

namespace Forest

def at? : List Nat → Forest → Option TaskItem
  | [], _ => none
  | i :: rest, ts => ts[i]?.bind (TaskItem.at? rest)

def label? (p : List Nat) (ts : Forest) : Option TaskItem := (at? p ts).map TaskItem.alone

def id? (p : List Nat) (ts : Forest) : Option Int64 := (at? p ts).map TaskItem.id

def row? : List Nat → Forest → Option Forest
  | [], ts => some ts
  | i :: rest, ts => (at? (i :: rest) ts).map TaskItem.subtasks

def changeAt (f : TaskItem → TaskItem) : List Nat → Forest → Forest
  | [], ts => ts
  | i :: rest, ts => ts.modify i (TaskItem.changeAt f rest)

variable {ts : Forest} {t u : TaskItem} {f : TaskItem → TaskItem} {id : Int64} {p : List Nat}

theorem at?_cons_eq_some {i : Nat} : at? (i :: p) ts = some u ↔
    ∃ t, ts[i]? = some t ∧ t.at? p = some u := Option.bind_eq_some_iff

theorem label?_cons (i : Nat) (p : List Nat) (ts : Forest) :
    label? (i :: p) ts = ts[i]?.bind (TaskItem.label? p) := Option.map_bind ..

theorem id?_eq (p : List Nat) (ts : Forest) : id? p ts = (label? p ts).map TaskItem.id := by
  rw [id?, label?, Option.map_map]
  congr 1
  funext t
  exact t.alone_id.symm

/-- The places right below a place are the numbers of the row there. -/
theorem at?_concat (p : List Nat) (i : Nat) (ts : Forest) :
    at? (p ++ [i]) ts = (row? p ts).bind fun row => row[i]? := by
  have below (p : List Nat) (t : TaskItem) :
      t.at? (p ++ [i]) = (t.at? p).bind fun u => u.subtasks[i]? := by
    induction p generalizing t with
    | nil => exact Option.bind_fun_some _
    | cons j rest ih =>
      rw [List.cons_append, TaskItem.at?, TaskItem.at?, Option.bind_assoc, funext ih]
  cases p with
  | nil => exact Option.bind_fun_some _
  | cons j rest =>
    rw [List.cons_append, at?, row?, at?, Option.bind_map, Option.bind_assoc, funext (below rest)]
    rfl

theorem at?_of_row? {row : Forest} (under : row? p ts = some row) (i : Nat) :
    at? (p ++ [i]) ts = row[i]? := by
  rw [at?_concat, under, Option.bind_some]

theorem at?_concat_eq_none {i : Nat} (vacant : at? (p ++ [i]) ts = none) (j : Nat) :
    at? (p ++ [i] ++ [j]) ts = none := by
  have empty : row? (p ++ [i]) ts = none := by
    cases shape : p ++ [i] with
    | nil => cases List.append_ne_nil_of_right_ne_nil p (List.cons_ne_nil _ _) shape
    | cons k rest => rw [row?, ← shape, vacant, Option.map_none]
  rw [at?_concat, empty, Option.bind_none]

theorem id?_eq_none_of_row? {row : Forest} (under : row? p ts = some row) {i : Nat}
    (behind : row.length ≤ i) : id? (p ++ [i]) ts = none := by
  rw [id?, at?_of_row? under, List.getElem?_eq_none behind, Option.map_none]

theorem id?_below_eq_none {row : Forest} (under : row? p ts = some row) (j : Nat) :
    id? (p ++ [row.length] ++ [j]) ts = none := by
  have vacant := Option.map_eq_none_iff.mp (id?_eq_none_of_row? under (Nat.le_refl _))
  rw [id?, at?_concat_eq_none vacant, Option.map_none]

mutual
theorem exists_place : ∀ {ts : Forest}, id ∈ ids ts → ∃ p t, at? p ts = some t ∧ t.id = id
  | t :: rest, there => by
    rcases List.mem_append.mp there with inside | later
    · obtain ⟨p, u, found, same⟩ := exists_placeUnder inside
      exact ⟨0 :: p, u, found, same⟩
    · obtain ⟨p, u, found, same⟩ := exists_place later
      cases p with
      | nil => cases found
      | cons i p => exact ⟨(i + 1) :: p, u, found, same⟩

theorem exists_placeUnder : ∀ {t : TaskItem}, id ∈ treeIds t → ∃ p u, t.at? p = some u ∧ u.id = id
  | .mk own title status assignedTo tags subtasks, there => by
    rcases List.mem_cons.mp there with rfl | below
    · exact ⟨[], _, rfl, rfl⟩
    · obtain ⟨p, u, found, same⟩ := exists_place below
      cases p with
      | nil => cases found
      | cons i p => exact ⟨i :: p, u, found, same⟩
end

theorem ids_eq_flatMap (ts : Forest) : ids ts = ts.flatMap treeIds := by
  induction ts with
  | nil => rfl
  | cons t rest ih => rw [ids, ih, List.flatMap_cons]

theorem treeIds_eq (t : TaskItem) : treeIds t = t.id :: ids t.subtasks := by
  cases t
  rfl

theorem id_mem_treeIds (found : t.at? p = some u) : u.id ∈ treeIds t := by
  rw [treeIds_eq]
  induction p generalizing t with
  | nil =>
    cases found
    exact List.mem_cons_self
  | cons i rest ih =>
    obtain ⟨s, here, found⟩ := Option.bind_eq_some_iff.mp found
    rw [ids_eq_flatMap]
    exact List.mem_cons_of_mem _ (List.mem_flatMap.mpr ⟨s, List.mem_of_getElem? here,
      treeIds_eq s ▸ ih found⟩)

theorem id_mem_ids (found : at? p ts = some u) : u.id ∈ ids ts := by
  cases p with
  | nil => cases found
  | cons i rest =>
    obtain ⟨t, here, found⟩ := at?_cons_eq_some.mp found
    rw [ids_eq_flatMap]
    exact List.mem_flatMap.mpr ⟨t, List.mem_of_getElem? here, id_mem_treeIds found⟩

theorem mem_ids_iff : id ∈ ids ts ↔ ∃ p, id? p ts = some id := by
  simp only [id?, Option.map_eq_some_iff]
  exact ⟨exists_place, fun ⟨p, u, found, same⟩ => same ▸ id_mem_ids found⟩

mutual
/-- Where no number stands at two places, none is listed twice. -/
theorem nodup_ids : ∀ {ts : Forest},
    (∀ p q n, id? p ts = some n → id? q ts = some n → p = q) → (ids ts).Nodup
  | [], _ => .nil
  | t :: rest, apart => by
    refine List.nodup_append.mpr ⟨nodup_treeIds fun p q n hp hq => ?_,
      nodup_ids fun p q n hp hq => ?_, ?_⟩
    · exact (List.cons.inj (apart (0 :: p) (0 :: q) n hp hq)).2
    · cases p with
      | nil => cases hp
      | cons i p =>
        cases q with
        | nil => cases hq
        | cons j q =>
          have same := apart ((i + 1) :: p) ((j + 1) :: q) n hp hq
          simpa using same
    · rintro n first m later rfl
      obtain ⟨p, t, found, named⟩ := exists_placeUnder first
      obtain ⟨q, u, found', named'⟩ := exists_place later
      cases q with
      | nil => cases found'
      | cons j q =>
        have same := apart (0 :: p) ((j + 1) :: q) n
          (Option.map_eq_some_iff.mpr ⟨t, found, named⟩)
          (Option.map_eq_some_iff.mpr ⟨u, found', named'⟩)
        cases same

theorem nodup_treeIds : ∀ {t : TaskItem},
    (∀ p q n, (t.at? p).map TaskItem.id = some n → (t.at? q).map TaskItem.id = some n → p = q) →
      (treeIds t).Nodup
  | .mk own title status assignedTo tags subtasks, apart => by
    refine List.nodup_cons.mpr ⟨fun below => ?_, nodup_ids fun p q n hp hq => ?_⟩
    · obtain ⟨p, u, found, named⟩ := exists_place below
      cases p with
      | nil => cases found
      | cons i p =>
        have same := apart [] (i :: p) own rfl (Option.map_eq_some_iff.mpr ⟨u, found, named⟩)
        cases same
    · cases p with
      | nil => cases hp
      | cons i p =>
        cases q with
        | nil => cases hq
        | cons j q => exact apart (i :: p) (j :: q) n hp hq
end

mutual
theorem change?_eq_none : ∀ {ts : Forest}, change? id f ts = none ↔ id ∉ ids ts
  | [] => iff_of_true rfl List.not_mem_nil
  | t :: rest => by
    have first : changeTree? id f t = none ↔ id ∉ treeIds t := changeTree?_eq_none
    have later : change? id f rest = none ↔ id ∉ ids rest := change?_eq_none
    rw [change?, ids, List.mem_append, not_or, ← first, ← later]
    cases changeTree? id f t <;> simp

theorem changeTree?_eq_none : ∀ {t : TaskItem}, changeTree? id f t = none ↔ id ∉ treeIds t
  | .mk own title status assignedTo tags subtasks => by
    have below : change? id f subtasks = none ↔ id ∉ ids subtasks := change?_eq_none
    rw [changeTree?, treeIds, List.mem_cons, not_or, ← below]
    by_cases same : own = id
    · simp [same]
    · simp [same, Ne.symm same]
end

mutual
/-- What the search changes is the task at a place of that number. -/
theorem change?_eq_some {r : Forest × TaskItem} : ∀ {ts : Forest}, change? id f ts = some r →
    ∃ p t, at? p ts = some t ∧ t.id = id ∧ r = (changeAt f p ts, f t)
  | [], found => by cases found
  | t :: rest, found => by
    rw [change?] at found
    cases inside : changeTree? id f t with
    | some s =>
      rw [inside] at found
      cases found
      obtain ⟨p, u, there, named, rfl⟩ := changeTree?_eq_some inside
      exact ⟨0 :: p, u, there, named, rfl⟩
    | none =>
      rw [inside] at found
      obtain ⟨s, later, rfl⟩ := Option.map_eq_some_iff.mp found
      obtain ⟨p, u, there, named, rfl⟩ := change?_eq_some later
      cases p with
      | nil => cases there
      | cons i p => exact ⟨(i + 1) :: p, u, there, named, rfl⟩

theorem changeTree?_eq_some {r : TaskItem × TaskItem} : ∀ {t : TaskItem},
    changeTree? id f t = some r →
      ∃ p u, t.at? p = some u ∧ u.id = id ∧ r = (t.changeAt f p, f u)
  | .mk own title status assignedTo tags subtasks, found => by
    rw [changeTree?] at found
    split at found
    · next same =>
      cases found
      exact ⟨[], _, rfl, same, rfl⟩
    · obtain ⟨s, below, rfl⟩ := Option.map_eq_some_iff.mp found
      obtain ⟨p, u, there, named, rfl⟩ := change?_eq_some below
      cases p with
      | nil => cases there
      | cons i p => exact ⟨i :: p, u, there, named, rfl⟩
end

section Change

variable {c : List Nat} {l : TaskItem}

/-- A change in one task of a row shows at one place when it does so in that task. -/
theorem label?_modify {g : TaskItem → TaskItem} {i : Nat} (here : ts[i]? = some t)
    (shows : ∀ q, (g t).label? q = if q = c then some l else t.label? q) (q : List Nat) :
    label? q (ts.modify i g) = if q = i :: c then some l else label? q ts := by
  cases q with
  | nil => rfl
  | cons j q =>
    rw [label?_cons, label?_cons, List.getElem?_modify]
    by_cases same : i = j
    · subst same
      simp [here, shows]
    · simp [same, Ne.symm same]

/-- A change of a task shows at one place below the one where that task stands. -/
theorem label?_changeAtUnder (there : t.at? p = some u)
    (shows : ∀ q, (f u).label? q = if q = c then some l else u.label? q) (q : List Nat) :
    (t.changeAt f p).label? q = if q = p ++ c then some l else t.label? q := by
  induction p generalizing t q with
  | nil =>
    cases there
    exact shows q
  | cons i rest ih =>
    obtain ⟨s, here, deeper⟩ := Option.bind_eq_some_iff.mp there
    obtain ⟨own, title, status, assignedTo, tags, subtasks⟩ := t
    cases q with
    | nil => rfl
    | cons j q => exact label?_modify here (ih deeper) (j :: q)

theorem label?_changeAt (there : at? p ts = some u)
    (shows : ∀ q, (f u).label? q = if q = c then some l else u.label? q) (q : List Nat) :
    label? q (changeAt f p ts) = if q = p ++ c then some l else label? q ts := by
  cases p with
  | nil => cases there
  | cons i rest =>
    obtain ⟨t, here, there⟩ := at?_cons_eq_some.mp there
    exact label?_modify here (label?_changeAtUnder there shows) q

end Change

theorem label?_concat {child : TaskItem} (single : child.subtasks = []) (ts : Forest) (q : List Nat) :
    label? q (ts ++ [child]) = if q = [ts.length] then some child else label? q ts := by
  cases q with
  | nil => rfl
  | cons i rest =>
    have apart (other : i ≠ ts.length) : ¬i :: rest = [ts.length] := fun same =>
      other (List.cons.inj same).1
    rw [label?_cons, label?_cons]
    rcases Nat.lt_trichotomy i ts.length with before | rfl | behind
    · rw [List.getElem?_append_left before, if_neg (apart (by omega))]
    · rw [List.getElem?_concat_length, List.getElem?_eq_none (Nat.le_refl _)]
      cases rest with
      | nil =>
        obtain ⟨own, title, status, assignedTo, tags, subtasks⟩ := child
        cases single
        simp [TaskItem.label?, TaskItem.at?, TaskItem.alone]
      | cons j rest => simp [TaskItem.label?, TaskItem.at?, single]
    · rw [if_neg (apart (by omega)), List.getElem?_eq_none (by simp; omega),
        List.getElem?_eq_none (by omega)]

/-- An adopted task shows behind the subtasks of its parent. -/
theorem label?_adopt {child : TaskItem} (single : child.subtasks = []) (u : TaskItem) (q : List Nat) :
    (child.adopt u).label? q = if q = [u.subtasks.length] then some child else u.label? q := by
  obtain ⟨own, title, status, assignedTo, tags, subtasks⟩ := u
  cases q with
  | nil => rfl
  | cons i rest => exact label?_concat single subtasks (i :: rest)

theorem label?_withStatus (status : TaskStatus) (u : TaskItem) (q : List Nat) :
    (u.withStatus status).label? q = if q = [] then some (u.alone.withStatus status) else u.label? q := by
  obtain ⟨own, title, old, assignedTo, tags, subtasks⟩ := u
  cases q <;> rfl

end Forest
end CommandBridge.Showcase

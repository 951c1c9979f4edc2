import CommandBridge.Proofs.Registry.Generation
import CommandBridge.Proofs.TypeScript.Outline

/-!
# The order of the definitions

The definitions of a client stand in the post-order of a walk that goes from each definition to
those it mentions. A definition is open from the time it is seen until all it mentions have been
visited, so whatever is open leads to whatever is visited. What a definition mentions is therefore
left behind before it, or is open at its end and leads back to it.
-/

set_option autoImplicit false

namespace CommandBridge

open Descriptor Relation

namespace Definition

/-- A field type of the definition has the name of a definition in it. What the fields of a
record inside that type mention is mentioned by that record. -/
def Mentions (x : Definition) (name : String) : Prop :=
  ∃ c ∈ x.descriptor.children, c.Names outerParts name

theorem mem_mentionedList_iff {ts : List Descriptor} {found : List String} {name : String}
    (each : ∀ t ∈ ts, ∀ found, name ∈ mentioned found t ↔ name ∈ found ∨ t.Names outerParts name) :
    name ∈ mentionedList found ts ↔ name ∈ found ∨ ∃ t ∈ ts, t.Names outerParts name := by
  induction ts generalizing found with
  | nil => simp [mentionedList]
  | cons t rest ih =>
    rw [mentionedList, ih fun u there => each u (List.mem_cons_of_mem t there),
      each t List.mem_cons_self, or_assoc, List.exists_mem_cons_iff]

theorem mem_mentioned_iff {t : Descriptor} {name : String} :
    ∀ found, name ∈ mentioned found t ↔ name ∈ found ∨ t.Names outerParts name := by
  induction t using child_induction with
  | step t ih =>
    intro found
    have once {known : String} : name ∈ (if found.contains known then found else found ++ [known]) ↔
        name ∈ found ∨ known = name := by
      by_cases there : known ∈ found
      · simp only [List.contains_iff_mem, there, if_true, iff_self_or]
        rintro rfl
        exact there
      · simp [there, eq_comm]
    rw [names_iff]
    cases t with
    | record | enum | reference =>
      simpa [mentioned, typeName?, outerParts, children] using once
    | primitive => simp [mentioned, typeName?, outerParts, children]
    | optional t | sequence t | stream t =>
      simpa [mentioned, typeName?, outerParts, children] using ih t (by simp [children]) found
    | mapping k v =>
      simp [mentioned, typeName?, outerParts, children, ih k (by simp [children]),
        ih v (by simp [children]), or_assoc]
    | tuple ts | union ts =>
      have each : ∀ u ∈ ts, ∀ found, name ∈ mentioned found u ↔ name ∈ found ∨ u.Names outerParts name := ih
      rw [mentioned, mem_mentionedList_iff each]
      simp [typeName?, outerParts, children]

theorem mem_dependencies_iff {x : Definition} {name : String} :
    name ∈ x.dependencies ↔ x.Mentions name := by
  cases x with
  | enum shape => simp [dependencies, Mentions, descriptor, children]
  | record shape =>
    rw [dependencies, mem_mentionedList_iff fun _ _ => mem_mentioned_iff]
    simp [Mentions, descriptor, RecordShape.descriptor, children]

end Definition

def Definitions.Leads (table : Definitions) (a b : String) : Prop :=
  ∃ x, table.get? a = some x ∧ x.Mentions b

namespace TypeScript

open Definitions

variable {table : Definitions}

structure Walk.Open (w : Walk) (table : Definitions) (name : String) : Prop where
  seen : name ∈ w.seen
  unfinished : name ∉ w.done
  known : table.contains name = true

/-- What is left behind was seen, once, and after all it mentions but what leads back to it. -/
structure Walk.Sound (w : Walk) (table : Definitions) : Prop where
  once : w.done.Nodup
  seen : w.done ⊆ w.seen
  known : ∀ name ∈ w.done, table.contains name = true
  sorted : ∀ a ∈ w.done, ∀ b, table.Leads a b → table.contains b = true →
    [b, a].Sublist w.done ∨ ReflTransGen table.Leads b a

structure Advanced (table : Definitions) (w w' : Walk) : Prop where
  sound : w'.Sound table
  kept : w.done.Sublist w'.done
  fresh : ∀ name ∈ w'.done, name ∉ w.done → name ∉ w.seen

theorem Advanced.trans {w w' w'' : Walk} (h : Advanced table w w') (walked : Walked table w w')
    (more : Advanced table w' w'') : Advanced table w w'' where
  sound := more.sound
  kept := h.kept.trans more.kept
  fresh := by
    intro name now before seen
    by_cases between : name ∈ w'.done
    · exact h.fresh name between before seen
    · exact more.fresh name now between (walked.seen seen)

theorem Walk.Open.of_walked {w w' : Walk} {name : String} (h : w'.Open table name)
    (walked : Walked table w w') : w.Open table name where
  seen := by
    by_contra before
    exact h.unfinished (walked.left name h.seen before h.known)
  unfinished := fun there => h.unfinished (walked.done there)
  known := h.known

def Walk.unseen (w : Walk) (table : Definitions) : Nat := table.names.countP fun n => n ∉ w.seen

theorem Walk.unseen_le {w w' : Walk} (more : w.seen ⊆ w'.seen) : w'.unseen table ≤ w.unseen table := by
  apply List.countP_mono_left
  intro n _ unseen
  simp only [decide_eq_true_eq] at unseen ⊢
  exact fun seen => unseen (more seen)

theorem Walk.unseen_lt {w : Walk} {name : String} (known : table.contains name = true)
    (new : name ∉ w.seen) : Walk.unseen ⟨name :: w.seen, w.done⟩ table < w.unseen table := by
  obtain ⟨before, after, split⟩ := List.append_of_mem (mem_names_iff.mpr known)
  have less (ns : List String) :
      ns.countP (fun n => n ∉ name :: w.seen) ≤ ns.countP fun n => n ∉ w.seen := by
    apply List.countP_mono_left
    intro n _ unseen
    simp only [decide_eq_true_eq] at unseen ⊢
    exact fun seen => unseen (List.mem_cons_of_mem _ seen)
  have front := less before
  have back := less after
  simp only [unseen, split, List.countP_append, List.countP_cons, List.mem_cons_self, new,
    not_true_eq_false, not_false_eq_true, decide_true, decide_false, if_true, Bool.false_eq_true,
    if_false]
  omega

/-- The end of a visit: what the definition mentions has been left behind, or is open still. -/
theorem Walk.Sound.finish {w : Walk} {name : String} {x : Definition} (sound : w.Sound table)
    (seen : name ∈ w.seen) (new : name ∉ w.done) (found : table.get? name = some x)
    (visited : ∀ b ∈ x.dependencies, b ∈ w.seen)
    (back : ∀ b, w.Open table b → ReflTransGen table.Leads b name) :
    Walk.Sound ⟨w.seen, w.done ++ [name]⟩ table where
  once := by
    rw [List.nodup_append]
    refine ⟨sound.once, List.nodup_singleton name, fun a there b last => ?_⟩
    rw [List.mem_singleton.mp last]
    exact fun same => new (same ▸ there)
  seen := List.append_subset.mpr ⟨sound.seen, List.cons_subset.mpr ⟨seen, List.nil_subset _⟩⟩
  known := by
    intro a there
    rcases List.mem_append.mp there with there | last
    · exact sound.known a there
    · rw [List.mem_singleton.mp last, contains, found]
      rfl
  sorted := by
    intro a there b leads known
    rcases List.mem_append.mp there with there | last
    · exact (sound.sorted a there b leads known).imp_left fun before =>
        before.trans (List.sublist_append_left _ _)
    · rw [List.mem_singleton.mp last] at leads ⊢
      obtain ⟨x', found', mentions⟩ := leads
      rw [found] at found'
      cases found'
      have came := visited b (Definition.mem_dependencies_iff.mpr mentions)
      by_cases left : b ∈ w.done
      · exact .inl ((List.singleton_sublist.mpr left).append (.refl [name]))
      · exact .inr (back b ⟨came, left, known⟩)

mutual
theorem visit_advanced (fuel : Nat) (name : String) (w : Walk) (sound : w.Sound table)
    (enough : w.unseen table < fuel)
    (leads : ∀ a, w.Open table a → ReflTransGen table.Leads a name) :
    Advanced table w (visit table fuel name w) := by
  cases fuel with
  | zero => exact absurd enough (Nat.not_lt_zero _)
  | succ fuel =>
    rw [visit]
    by_cases before : w.seen.contains name = true
    · rw [if_pos before]
      exact ⟨sound, .refl _, fun _ now old => absurd now old⟩
    · rw [if_neg before]
      have new : name ∉ w.seen := by simpa using before
      have marked : Walk.Sound ⟨name :: w.seen, w.done⟩ table :=
        ⟨sound.once, fun a there => List.mem_cons_of_mem name (sound.seen there), sound.known,
          sound.sorted⟩
      cases found : table.get? name with
      | none => exact ⟨marked, .refl _, fun _ now old => absurd now old⟩
      | some x =>
        have known : table.contains name = true := by rw [contains, found]; rfl
        have less := Walk.unseen_lt known new
        -- the visit of `name` is open now, and leads to what its definition mentions
        have opened (a : String) (h : Walk.Open ⟨name :: w.seen, w.done⟩ table a) :
            ReflTransGen table.Leads a name := by
          rcases List.mem_cons.mp h.seen with rfl | seen
          · exact .refl
          · exact leads a ⟨seen, h.unfinished, h.known⟩
        have inner : Advanced table ⟨name :: w.seen, w.done⟩ _ :=
          visitAll_advanced fuel x.dependencies _ marked (by omega) fun a h b hb =>
            (opened a h).tail ⟨x, found, Definition.mem_dependencies_iff.mp hb⟩
        have walked := @visitAll_walked table fuel x.dependencies ⟨name :: w.seen, w.done⟩
        have unfinished : name ∉ (visitAll table fuel x.dependencies ⟨name :: w.seen, w.done⟩).done :=
          fun there => inner.fresh name there (fun old => new (sound.seen old)) List.mem_cons_self
        refine ⟨inner.sound.finish (walked.1.seen List.mem_cons_self) unfinished found
          (walked.2 (by omega)) fun b h => opened b (h.of_walked walked.1),
          inner.kept.trans (List.sublist_append_left _ _), fun a now old => ?_⟩
        rcases List.mem_append.mp now with now | last
        · exact fun seen => inner.fresh a now old (List.mem_cons_of_mem name seen)
        · rw [List.mem_singleton.mp last]
          exact new

theorem visitAll_advanced (fuel : Nat) (names : List String) (w : Walk) (sound : w.Sound table)
    (enough : w.unseen table < fuel)
    (leads : ∀ a, w.Open table a → ∀ name ∈ names, ReflTransGen table.Leads a name) :
    Advanced table w (visitAll table fuel names w) := by
  cases names with
  | nil =>
    rw [visitAll]
    exact ⟨sound, .refl _, fun _ now old => absurd now old⟩
  | cons name rest =>
    rw [visitAll]
    have walked := (@visit_walked table fuel name w).1
    have first := visit_advanced fuel name w sound enough fun a h => leads a h name List.mem_cons_self
    have others := visitAll_advanced fuel rest _ first.sound
      (Nat.lt_of_le_of_lt (Walk.unseen_le walked.seen) enough) fun a h b hb =>
        leads a (h.of_walked walked) b (List.mem_cons_of_mem name hb)
    exact first.trans walked others
end

theorem ordered_sound (table : Definitions) :
    Walk.Sound (visitAll table (table.entries.length + 1) table.names ⟨[], []⟩) table := by
  have start : Walk.Sound ⟨[], []⟩ table := ⟨.nil, List.nil_subset _, nofun, nofun⟩
  refine (visitAll_advanced _ _ _ start ?_ fun a h => absurd h.seen List.not_mem_nil).sound
  calc Walk.unseen ⟨[], []⟩ table
    _ ≤ table.names.length := List.countP_le_length
    _ < table.entries.length + 1 := by simp [names, Keyed.keys]

theorem ordered_nodup (table : Definitions) : (ordered table).Nodup := (ordered_sound table).once

theorem mem_ordered_iff {name : String} : name ∈ ordered table ↔ table.contains name = true :=
  ⟨(ordered_sound table).known name, mem_ordered⟩

/-- What a definition mentions comes first, unless it leads back. -/
theorem ordered_sorted {a b : String} (leads : table.Leads a b) (known : table.contains b = true)
    (acyclic : ¬ReflTransGen table.Leads b a) : [b, a].Sublist (ordered table) := by
  have there : a ∈ ordered table := by
    obtain ⟨x, found, -⟩ := leads
    exact mem_ordered (Option.isSome_iff_exists.mpr ⟨x, found⟩)
  exact ((ordered_sound table).sorted a there b leads known).resolve_right acyclic

/-- Definitions under their own names stand in the order of these. -/
theorem orderedDefinitions_names (own : Only (fun _ => True) table) :
    (orderedDefinitions table).map Definition.name = ordered table := by
  have each : ∀ name ∈ ordered table, (table.get? name).map Definition.name = some name := by
    intro name there
    obtain ⟨x, found⟩ := Option.isSome_iff_exists.mp (mem_ordered_iff.mp there)
    rw [found, Option.map_some, (own name x found).1]
  rw [orderedDefinitions, List.map_filterMap, List.filterMap_congr each, List.filterMap_some]

theorem orderedDefinitions_perm (distinct : table.names.Nodup) (own : Only (fun _ => True) table) :
    (orderedDefinitions table).Perm table.toList := by
  have ordered : (orderedDefinitions table).Nodup := by
    apply List.Nodup.of_map Definition.name
    rw [orderedDefinitions_names own]
    exact ordered_nodup table
  have listed : table.toList.Nodup := by
    apply List.Nodup.of_map Definition.name
    rwa [toList_names distinct own]
  refine (List.perm_ext_iff_of_nodup ordered listed).mpr fun x => ?_
  exact (mem_orderedDefinitions own).trans (mem_toList_iff distinct own).symm

end TypeScript
end CommandBridge

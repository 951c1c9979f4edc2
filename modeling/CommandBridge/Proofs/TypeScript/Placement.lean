import CommandBridge.Proofs.Files.Directories
import CommandBridge.Proofs.TypeScript.Staging
import Mathlib.Data.List.Pairwise

/-!
# What an installation leaves that succeeds

Texts that are not in place are staged, each in a temporary file of its own, and every temporary
file is moved to where its text belongs. So when no two files share a name, each holds its text in
the end, no temporary file of the installation is left, and nothing else is touched. To install the
same once more changes nothing. All this needs that a temporary file which is there already has no
other name and can be read, and that no way leads through the names of what is changed.
-/

set_option autoImplicit false

namespace CommandBridge.TypeScript

open FileStore (makeDirectories)
open Volume (Extends Kept)

variable {A : Application} {files : List (Path × String)} {staged : List Staged}
  {base vol vol' : Volume}

def Owns (vol : Volume) (f : Path × String) (name : String) : Prop :=
  vol.fullName? f.1 = some name ∨ vol.fullName? (temporary f.1) = some name

def Unshared (vol : Volume) (f g : Path × String) : Prop :=
  ∀ name, Owns vol f name → ¬Owns vol g name

instance (vol : Volume) : Std.Symm (Unshared vol) :=
  ⟨fun _ _ unshared name second first => unshared name first second⟩

structure Apart (vol : Volume) (files : List (Path × String)) : Prop where
  named : ∀ f ∈ files, ∃ name temp, vol.fullName? f.1 = some name ∧
    vol.fullName? (temporary f.1) = some temp ∧ name ≠ temp
  others : files.Pairwise (Unshared vol)

namespace Apart

theorem tail {f : Path × String} (apart : Apart vol (f :: files)) : Apart vol files where
  named g listed := apart.named g (List.mem_cons_of_mem f listed)
  others := (List.pairwise_cons.mp apart.others).2

theorem head {f g : Path × String} (apart : Apart vol (f :: files)) (listed : g ∈ files)
    {name : String} (mine : Owns vol f name) : ¬Owns vol g name :=
  (List.pairwise_cons.mp apart.others).1 g listed name mine

theorem filter (apart : Apart vol files) (keep : Path × String → Bool) :
    Apart vol (files.filter keep) where
  named f listed := apart.named f (List.mem_of_mem_filter listed)
  others := apart.others.filter keep

end Apart

def stage (f : Path × String) : Staged := ⟨temporary f.1, f.1⟩

def pending (vol : Volume) (f : Path × String) : Bool := decide (vol.read? f.1 ≠ some f.2)

theorem pending_iff {f : Path × String} : pending vol f = true ↔ vol.read? f.1 ≠ some f.2 :=
  decide_eq_true_iff

/-- Some files are to be staged in a volume that has all that stands in another one, where their
names and those of their temporary siblings are free. -/
structure Unstaged (base vol : Volume) (files : List (Path × String)) : Prop where
  apart : Apart base files
  texts : files.Pairwise fun f g => f.2 ≠ g.2
  keeps : Extends base vol
  placed : ∀ f ∈ files, vol.read? f.1 = some f.2 → base.read? f.1 = some f.2
  free : ∀ f ∈ files, vol.read? f.1 ≠ some f.2 → ∀ name, Owns base f name →
    base.standing? name = none
  sole : ∀ f ∈ files, vol.read? f.1 ≠ some f.2 → ∀ name,
    base.fullName? (temporary f.1) = some name → vol.Sole name

namespace Unstaged

theorem tail {f : Path × String} (h : Unstaged base vol (f :: files)) :
    Unstaged base vol files where
  apart := h.apart.tail
  texts := (List.pairwise_cons.mp h.texts).2
  keeps := h.keeps
  placed g listed := h.placed g (List.mem_cons_of_mem f listed)
  free g listed := h.free g (List.mem_cons_of_mem f listed)
  sole g listed := h.sole g (List.mem_cons_of_mem f listed)

end Unstaged

/-- To change what stands under a name that is free in the other volume changes nothing there. -/
theorem extends_of_elsewhere (names : List String) (keeps : Extends base vol)
    (free : ∀ name ∈ names, base.standing? name = none)
    (elsewhere : ∀ name, name ∉ names → vol'.standing? name = vol.standing? name) :
    Extends base vol' := by
  intro name s there
  rw [elsewhere]
  · exact keeps name s there
  · intro listed
    cases (free name listed).symm.trans there

theorem Unstaged.step {f : Path × String} (h : Unstaged base vol (f :: files))
    (other : vol.read? f.1 ≠ some f.2) (wrote : vol.write (temporary f.1) f.2 = .ok vol') :
    ∃ temp, base.fullName? (temporary f.1) = some temp ∧ Unstaged base vol' files ∧
      files.filter (pending vol') = files.filter (pending vol) ∧
      (∀ name, vol.Sole name → vol'.Sole name) ∧ vol'.text? temp = some f.2 ∧
      ∀ name, name ≠ temp → vol'.standing? name = vol.standing? name := by
  obtain ⟨_, temp, -, named, -⟩ := h.apart.named f List.mem_cons_self
  have known := h.keeps.fullName? named
  obtain ⟨temp', named', soles, held, elsewhere⟩ := Volume.write_ok (fun name same => by
    cases known.symm.trans same
    exact h.sole f List.mem_cons_self other temp named) wrote
  cases known.symm.trans named'
  have keeps : Extends base vol' := by
    refine extends_of_elsewhere [temp] h.keeps ?_ fun name apart =>
      elsewhere name (List.ne_of_not_mem_cons apart)
    rw [List.forall_mem_singleton]
    exact h.free f List.mem_cons_self other temp (.inr named)
  have same (g : Path × String) (listed : g ∈ files) :
      vol'.read? g.1 = some g.2 ↔ vol.read? g.1 = some g.2 := by
    constructor
    · intro read
      rcases Volume.read?_before held elsewhere read with before | text
      · exact before
      · exact absurd text.symm ((List.pairwise_cons.mp h.texts).1 g listed)
    · exact fun read => keeps.read? (h.placed g (List.mem_cons_of_mem f listed) read)
  refine ⟨temp, named, ⟨h.apart.tail, h.tail.texts, keeps, ?_, ?_, ?_⟩, ?_, soles, held, elsewhere⟩
  · exact fun g listed read => h.tail.placed g listed ((same g listed).mp read)
  · exact fun g listed read => h.tail.free g listed ((same g listed).not.mp read)
  · exact fun g listed read name there =>
      soles name (h.tail.sole g listed ((same g listed).not.mp read) name there)
  · exact List.filter_congr fun g listed => by
      rw [pending, pending, decide_eq_decide]
      exact (same g listed).not

structure Prepared (base vol vol' : Volume) (files : List (Path × String)) : Prop where
  keeps : Extends base vol'
  soles : ∀ name, vol.Sole name → vol'.Sole name
  held : ∀ f ∈ files, ∀ temp, base.fullName? (temporary f.1) = some temp →
    vol'.text? temp = some f.2
  elsewhere : ∀ name, (∀ f ∈ files, base.fullName? (temporary f.1) ≠ some name) →
    vol'.standing? name = vol.standing? name

theorem prepared_of_stages (h : Stages files vol staged vol') (unstaged : Unstaged base vol files) :
    staged = (files.filter (pending vol)).map stage ∧
      Prepared base vol vol' (files.filter (pending vol)) := by
  induction h with
  | nil => exact ⟨rfl, unstaged.keeps, fun _ => id, nofun, fun _ _ => rfl⟩
  | @kept target text rest staged vol vol' placed h ih =>
    have placed : ¬pending vol (target, text) = true := fun other => pending_iff.mp other placed
    rw [List.filter_cons_of_neg placed]
    exact ih unstaged.tail
  | @written target text rest staged vol vol₁ vol' other wrote h ih =>
    obtain ⟨temp, named, later, same, soles, held, elsewhere⟩ := unstaged.step other wrote
    obtain ⟨all, prepared⟩ := ih later
    rw [same] at all prepared
    rw [List.filter_cons_of_pos (pending_iff.mpr other)]
    refine ⟨by rw [all]; rfl, prepared.keeps, fun name sole => prepared.soles name (soles name sole),
      List.forall_mem_cons.mpr ⟨fun temp' named' => ?_, prepared.held⟩, fun name apart => ?_⟩
    · cases named.symm.trans named'
      -- what is staged later goes to other temporary files
      rw [Volume.text?_congr (prepared.elsewhere temp fun g there same => ?_), held]
      exact unstaged.apart.head (List.mem_of_mem_filter there) (.inr named) (.inr same)
    · obtain ⟨own, others⟩ := List.forall_mem_cons.mp apart
      rw [prepared.elsewhere name others]
      apply elsewhere
      rintro rfl
      exact own named

structure Moved (base vol vol' : Volume) (files : List (Path × String)) : Prop where
  keeps : Extends base vol'
  placed : ∀ f ∈ files, ∀ name temp, base.fullName? f.1 = some name →
    base.fullName? (temporary f.1) = some temp →
      vol'.text? name = vol.text? temp ∧ vol'.standing? temp = none
  elsewhere : ∀ name, (∀ f ∈ files, ¬Owns base f name) → vol'.standing? name = vol.standing? name

theorem moved_of_moves (h : Moves (files.map stage) vol vol') (apart : Apart base files)
    (keeps : Extends base vol)
    (free : ∀ f ∈ files, ∀ name, Owns base f name → base.standing? name = none)
    (sole : ∀ f ∈ files, ∀ name, base.fullName? (temporary f.1) = some name → vol.Sole name) :
    Moved base vol vol' files := by
  induction files generalizing vol with
  | nil =>
    cases h
    exact ⟨keeps, nofun, fun _ _ => rfl⟩
  | cons f rest ih =>
    cases h with
    | @cons _ _ _ vol₁ _ moved h =>
      obtain ⟨t, s, target, source, distinct⟩ := apart.named f List.mem_cons_self
      rw [List.forall_mem_cons] at free sole
      have from_s := keeps.fullName? source
      obtain ⟨s', t', source', target', soles, went, elsewhere⟩ :=
        Volume.rename_ok (fun name same => by
          cases from_s.symm.trans same
          exact sole.1 s source) moved
      cases from_s.symm.trans source'
      cases (keeps.fullName? target).symm.trans target'
      obtain ⟨there, gone⟩ := went distinct.symm
      have keeps₁ : Extends base vol₁ := by
        refine extends_of_elsewhere [s, t] keeps ?_ fun name apart => ?_
        · rw [List.forall_mem_cons, List.forall_mem_singleton]
          exact ⟨free.1 s (.inr source), free.1 t (.inl target)⟩
        · rw [List.mem_pair, not_or] at apart
          exact elsewhere name apart.1 apart.2
      have after := ih h apart.tail keeps₁ free.2
        fun g listed name named => soles name (sole.2 g listed name named)
      -- later moves leave both names alone
      have untouched {name : String} (mine : Owns base f name) :
          vol'.standing? name = vol₁.standing? name :=
        after.elsewhere name fun g listed same => apart.head listed mine same
      refine ⟨after.keeps, List.forall_mem_cons.mpr ⟨fun name temp named named' => ?_,
        fun g listed name temp named named' => ?_⟩, fun name others => ?_⟩
      · cases target.symm.trans named
        cases source.symm.trans named'
        exact ⟨Volume.text?_congr ((untouched (.inl target)).trans there),
          (untouched (.inr source)).trans gone⟩
      · obtain ⟨text, none⟩ := after.placed g listed name temp named named'
        refine ⟨text.trans (Volume.text?_congr (elsewhere temp ?_ ?_)), none⟩
        · rintro rfl
          exact apart.head listed (.inr source) (.inr named')
        · rintro rfl
          exact apart.head listed (.inl target) (.inr named')
      · obtain ⟨own, others⟩ := List.forall_mem_cons.mp others
        rw [after.elsewhere name others]
        apply elsewhere
        · rintro rfl
          exact own (.inr source)
        · rintro rfl
          exact own (.inl target)

/-- The names of the files that do not hold their texts, and of their temporary siblings. -/
def changing (files : List (Path × String)) (vol : Volume) : List String :=
  (files.filter (pending vol)).flatMap fun f =>
    (vol.fullName? f.1).toList ++ (vol.fullName? (temporary f.1)).toList

theorem mem_changing {name : String} :
    name ∈ changing files vol ↔ ∃ f ∈ files, vol.read? f.1 ≠ some f.2 ∧ Owns vol f name := by
  simp [changing, pending_iff, Owns, and_assoc]

/-- A temporary file that is there already, for a file to be changed, has no other name and can be
read; and no way leads through the names of what is to be changed, neither to the files nor, by
links, from those that are in place. -/
structure Unentangled (files : List (Path × String)) (vol : Volume) : Prop where
  found : ∀ f ∈ files, ∀ name, vol.fullName? f.1 = some name →
    (vol.without (changing files vol)).fullName? f.1 = some name
  placed : ∀ f ∈ files, vol.read? f.1 = some f.2 →
    (vol.without (changing files vol)).read? f.1 = some f.2
  sole : ∀ f ∈ files, vol.read? f.1 ≠ some f.2 → ∀ name,
    vol.fullName? (temporary f.1) = some name → vol.Sole name

/-- What a successful installation has done to a volume, and whether it says that it changed a
file. -/
structure Placed (files : List (Path × String)) (vol vol' : Volume) (changed : Bool) : Prop where
  names : ∀ f ∈ files, vol'.fullName? f.1 = vol.fullName? f.1 ∧
    vol'.fullName? (temporary f.1) = vol.fullName? (temporary f.1)
  held : ∀ f ∈ files, vol'.read? f.1 = some f.2
  changed_iff : changed = true ↔ ∃ f ∈ files, vol.read? f.1 ≠ some f.2
  moved : ∀ f ∈ files, vol.read? f.1 ≠ some f.2 → ∀ name,
    vol.fullName? (temporary f.1) = some name → vol'.standing? name = none
  elsewhere : ∀ name, name ∉ changing files vol → vol'.standing? name = vol.standing? name

/-- Files that share no names are put in place, and nothing else is touched. -/
theorem placed_of_installAll {changed : Bool} (free : Unentangled files vol)
    (apart : Apart (vol.without (changing files vol)) files)
    (texts : files.Pairwise fun f g => f.2 ≠ g.2)
    (h : installAll files vol = (vol', .ok changed)) :
    Placed files vol vol' changed ∧ Extends (vol.without (changing files vol)) vol' := by
  obtain ⟨staged, vol₁, stages, moves, rfl⟩ := installAll_ok h
  have keeps := vol.extends_without (changing files vol)
  generalize based : vol.without (changing files vol) = base at *
  have out (f : Path × String) (listed : f ∈ files) (other : vol.read? f.1 ≠ some f.2)
      (name : String) (owned : Owns base f name) : base.standing? name = none := by
    have owned : Owns vol f name := owned.imp keeps.fullName? keeps.fullName?
    rw [← based, Volume.standing?_without, if_pos (mem_changing.mpr ⟨f, listed, other, owned⟩)]
  have unstaged : Unstaged base vol files :=
    ⟨apart, texts, keeps, based ▸ free.placed, out, fun f listed other name named =>
      free.sole f listed other name (keeps.fullName? named)⟩
  obtain ⟨rfl, prepared⟩ := prepared_of_stages stages unstaged
  have of_pending {f : Path × String} (there : f ∈ files.filter (pending vol)) :
      f ∈ files ∧ vol.read? f.1 ≠ some f.2 :=
    (List.mem_filter.mp there).imp_right pending_iff.mp
  have moved := moved_of_moves moves (apart.filter _) prepared.keeps
    (fun f there => out f (of_pending there).1 (of_pending there).2)
    fun f there name named => prepared.soles name
      (unstaged.sole f (of_pending there).1 (of_pending there).2 name named)
  refine ⟨⟨fun f listed => ?_, fun f listed => ?_, ?_, fun f listed other temp named => ?_,
    fun name others => ?_⟩, moved.keeps⟩
  · obtain ⟨name, temp, named, named', -⟩ := apart.named f listed
    rw [moved.keeps.fullName? named, moved.keeps.fullName? named', keeps.fullName? named,
      keeps.fullName? named']
    exact ⟨rfl, rfl⟩
  · by_cases placed : vol.read? f.1 = some f.2
    · exact moved.keeps.read? (unstaged.placed f listed placed)
    · have there := List.mem_filter.mpr ⟨listed, pending_iff.mpr placed⟩
      obtain ⟨name, temp, named, named', -⟩ := apart.named f listed
      have text : vol'.text? name = some f.2 :=
        (moved.placed f there name temp named named').1.trans (prepared.held f there temp named')
      have known := moved.keeps.fullName? named
      rw [Volume.read?_eq, known, Option.bind_some, text]
      intro name' same
      cases known.symm.trans same
      exact Volume.unlinked_of_text? text
  · rw [Bool.not_eq_true', List.isEmpty_eq_false_iff, ne_eq, List.map_eq_nil_iff,
      List.filter_eq_nil_iff]
    simp only [pending_iff]
    push Not
    rfl
  · have there := List.mem_filter.mpr ⟨listed, pending_iff.mpr other⟩
    obtain ⟨name, temp', named', named'', -⟩ := apart.named f listed
    cases (keeps.fullName? named'').symm.trans named
    exact (moved.placed f there name temp named' named'').2
  · have apart_from (f : Path × String) (there : f ∈ files.filter (pending vol)) :
        ¬Owns base f name := fun owned =>
      others (mem_changing.mpr ⟨f, (of_pending there).1, (of_pending there).2,
        owned.imp keeps.fullName? keeps.fullName?⟩)
    rw [moved.elsewhere name apart_from]
    exact prepared.elsewhere name fun f there same => apart_from f there (.inr same)

theorem stageAll_of_held (held : ∀ f ∈ files, vol.read? f.1 = some f.2) (staged : List Staged) :
    stageAll files staged vol = (vol, .ok staged) := by
  induction files with
  | nil => rfl
  | cons f rest ih =>
    obtain ⟨first, later⟩ := List.forall_mem_cons.mp held
    rw [stageAll]
    exact (if_pos first).trans (ih later)

theorem installAll_of_held (held : ∀ f ∈ files, vol.read? f.1 = some f.2) :
    installAll files vol = (vol, .ok false) := by
  rw [installAll, stageAll_of_held held]
  rfl

end CommandBridge.TypeScript

import CommandBridge.Proofs.Files.Store
import CommandBridge.Script.Application
import CommandBridge.TypeScript.Install

/-!
# Staging and moving files

An installation stages the texts that are not in place, one after another, and then moves the
staged files one after another. The files of a client, and their temporary siblings, stand in one
directory.
-/

set_option autoImplicit false

namespace CommandBridge.TypeScript

open FileStore
open FileTree (Place key)

variable {A : Application} {F : Type} [FileStore F] {files : List (Path × String)}
  {staged : List Staged} {store store' : F} {e : InstallError}

inductive Stages : List (Path × String) → F → List Staged → F → Prop where
  | nil {store : F} : Stages [] store [] store
  | kept {target : Path} {text : String} {rest : List (Path × String)} {staged : List Staged}
    {store store' : F} (placed : read? store target = some text)
    (h : Stages rest store staged store') : Stages ((target, text) :: rest) store staged store'
  | written {target : Path} {text : String} {rest : List (Path × String)} {staged : List Staged}
    {store store₁ store' : F} (other : read? store target ≠ some text)
    (wrote : write store (temporary target) text = .ok store₁)
    (h : Stages rest store₁ staged store') :
    Stages ((target, text) :: rest) store (⟨temporary target, target⟩ :: staged) store'

theorem stages_of_ok {before all : List Staged}
    (h : stageAll files before store = (store', .ok all)) :
    ∃ staged, all = before ++ staged ∧ Stages files store staged store' := by
  induction files generalizing before store with
  | nil =>
    cases h
    exact ⟨[], (List.append_nil _).symm, .nil⟩
  | cons file rest ih =>
    obtain ⟨target, text⟩ := file
    rw [stageAll] at h
    split at h
    · next placed =>
      obtain ⟨staged, same, stages⟩ := ih h
      exact ⟨staged, same, .kept placed stages⟩
    · next other =>
      split at h
      · next store₁ wrote =>
        obtain ⟨staged, same, stages⟩ := ih h
        exact ⟨_, same.trans (List.append_assoc _ _ _), .written other wrote stages⟩
      · cases h

/-- When a text cannot be staged, those before it were, and are discarded. -/
theorem stages_of_error {before : List Staged}
    (h : stageAll files before store = (store', .error e)) :
    ∃ done file rest staged store₁, files = done ++ file :: rest ∧ e = .io (temporary file.1) ∧
      Stages done store staged store₁ ∧ store' = discardAll (before ++ staged) store₁ := by
  induction files generalizing before store with
  | nil => cases h
  | cons file rest ih =>
    obtain ⟨target, text⟩ := file
    rw [stageAll] at h
    split at h
    · next placed =>
      obtain ⟨done, file, later, staged, store₁, rfl, told, stages, discarded⟩ := ih h
      exact ⟨_ :: done, file, later, staged, store₁, rfl, told, .kept placed stages, discarded⟩
    · next other =>
      split at h
      · next store₁ wrote =>
        obtain ⟨done, file, later, staged, store₂, rfl, told, stages, discarded⟩ := ih h
        refine ⟨_ :: done, file, later, _, store₂, rfl, told, .written other wrote stages, ?_⟩
        rw [discarded, List.append_assoc]
        rfl
      · cases h
        exact ⟨[], (target, text), rest, [], store, rfl, rfl, .nil, by rw [List.append_nil]⟩

namespace Stages

/-- What is staged goes to the temporary file of one of the files. -/
theorem exists_file (h : Stages files store staged store') :
    ∀ s ∈ staged, ∃ file ∈ files, s = ⟨temporary file.1, file.1⟩ := by
  induction h with
  | nil => exact nofun
  | kept _ _ ih =>
    intro s there
    obtain ⟨file, listed, same⟩ := ih s there
    exact ⟨file, List.mem_cons_of_mem _ listed, same⟩
  | written _ _ _ ih =>
    rw [List.forall_mem_cons]
    refine ⟨⟨_, List.mem_cons_self, rfl⟩, fun s there => ?_⟩
    obtain ⟨file, listed, same⟩ := ih s there
    exact ⟨file, List.mem_cons_of_mem _ listed, same⟩

theorem length_le (h : Stages files store staged store') : staged.length ≤ files.length := by
  induction h with
  | nil => exact Nat.le_refl 0
  | kept _ _ ih => exact Nat.le_succ_of_le ih
  | written _ _ _ ih => exact Nat.succ_le_succ ih

end Stages

inductive Moves : List Staged → F → F → Prop where
  | nil {store : F} : Moves [] store store
  | cons {s : Staged} {rest : List Staged} {store store₁ store' : F}
    (moved : rename store s.temporary s.target = .ok store₁) (h : Moves rest store₁ store') :
    Moves (s :: rest) store store'

theorem moves_of_ok (h : moveAll staged store = (store', .ok ())) : Moves staged store store' := by
  induction staged generalizing store with
  | nil =>
    cases h
    exact .nil
  | cons s rest ih =>
    rw [moveAll] at h
    split at h
    · next moved => exact .cons moved (ih h)
    · cases h

/-- When a file cannot be moved, those before it were, and stay; it and those after it are
discarded. -/
theorem moves_of_error (h : moveAll staged store = (store', .error e)) :
    ∃ moved s rest store₁ fault, staged = moved ++ s :: rest ∧ Moves moved store store₁ ∧
      rename store₁ s.temporary s.target = .error fault ∧ e = .io s.target ∧
      store' = discardAll (s :: rest) store₁ := by
  induction staged generalizing store with
  | nil => cases h
  | cons s rest ih =>
    rw [moveAll] at h
    split at h
    · next store₁ moved =>
      obtain ⟨done, last, later, store₂, fault, rfl, moves, failed, told, discarded⟩ := ih h
      exact ⟨s :: done, last, later, store₂, fault, rfl, .cons moved moves, failed, told, discarded⟩
    · next fault failed =>
      cases h
      exact ⟨[], s, rest, store, fault, rfl, .nil, failed, rfl, rfl⟩

theorem installAll_ok {changed : Bool} (h : installAll files store = (store', .ok changed)) :
    ∃ staged store₁, Stages files store staged store₁ ∧ Moves staged store₁ store' ∧
      changed = !staged.isEmpty := by
  unfold installAll at h
  split at h
  · cases h
  · next staging =>
    split at h
    · cases h
    · next moving =>
      cases h
      obtain ⟨_, rfl, stages⟩ := stages_of_ok staging
      exact ⟨_, _, stages, moves_of_ok moving, rfl⟩

variable {p : Path}

/-- The support module beside a client. -/
def supportPath (p : Path) : Path := p.directory.child supportFile

theorem clientFiles_eq (client : String) (p : Path) :
    clientFiles client p = [(p, client), (supportPath p, supportText)] := rfl

/-- Where the support module is in place, the client alone is staged and moved. -/
theorem installAll_client (store₁ : F) {client : String} (other : read? store p ≠ some client)
    (wrote : write store (temporary p) client = .ok store₁)
    (placed : read? store₁ (supportPath p) = some supportText)
    (moved : rename store₁ (temporary p) p = .ok store') :
    installAll (clientFiles client p) store = (store', .ok true) := by
  have staged : stageAll (clientFiles client p) [] store =
      (store₁, .ok [⟨temporary p, p⟩]) := by
    rw [clientFiles_eq, stageAll, if_neg other, wrote]
    dsimp only
    rw [stageAll, if_pos placed]
    rfl
  rw [installAll, staged]
  simp only [moveAll, moved]
  rfl

theorem names_temporary (target : Path) : Path.Names (temporary target).fileName := by
  have longer (piece : String) (short : piece.length < 4) :
      (temporary target).fileName ≠ piece := by
    have four : ".tmp".length = 4 := by decide
    rintro rfl
    rw [temporary, Path.fileName_withEnding, String.length_append, four] at short
    omega
  constructor
  · simp [Path.isIdle, longer "" (by decide), longer "." (by decide)]
  · exact longer ".." (by decide)

section Names

variable {enter? : List String → Option Place} {fullName? : Path → Option String}
  (naming : Naming enter? fullName?)

include naming

theorem fullName?_support : fullName? (supportPath p) =
    (enter? p.directory.pieces).map fun dir => key (dir ++ [supportFile]) := by
  rw [naming.fullName?_eq, supportPath, Path.fileName_child, Path.front_child,
    if_pos (by decide)]

theorem fullName?_temporary (target : Path) : fullName? (temporary target) =
    (enter? target.front).map fun dir => key (dir ++ [target.fileName ++ ".tmp"]) := by
  rw [naming.fullName?_eq, if_pos (names_temporary target), temporary, Path.fileName_withEnding,
    Path.front_withEnding]

theorem support_not_temporary {target : Path} {name : String}
    (h : fullName? (temporary target) = some name) : fullName? (supportPath p) ≠ some name := by
  rw [fullName?_temporary naming] at h
  rw [fullName?_support naming]
  intro same
  obtain ⟨dir, -, rfl⟩ := Option.map_eq_some_iff.mp h
  obtain ⟨other, -, same⟩ := Option.map_eq_some_iff.mp same
  obtain ⟨front, key_eq⟩ := FileTree.exists_key_child dir
  obtain ⟨back, key_eq'⟩ := FileTree.exists_key_child other
  rw [key_eq, key_eq'] at same
  have last := congrArg (fun s : String => s.toList.getLast?) same
  simp [supportFile] at last

end Names

structure Beside (fullName? : Path → Option String) (p : Path) (dir : Place) : Prop where
  client : fullName? p = some (key (dir ++ [p.fileName]))
  clientTemporary : fullName? (temporary p) = some (key (dir ++ [p.fileName ++ ".tmp"]))
  support : fullName? (supportPath p) = some (key (dir ++ [supportFile]))
  supportTemporary : fullName? (temporary (supportPath p)) =
    some (key (dir ++ [supportFile ++ ".tmp"]))

section Beside

variable {enter? : List String → Option Place} {fullName? : Path → Option String}

theorem beside_of_enter? (naming : Naming enter? fullName?) (names : Path.Names p.fileName)
    {dir : Place} (entered : enter? p.front = some dir) : Beside fullName? p dir where
  client := by rw [naming.fullName?_eq, if_pos names, entered]; rfl
  clientTemporary := by rw [fullName?_temporary naming, entered]; rfl
  support := by rw [fullName?_support naming, naming.enter?_directory names, entered]; rfl
  supportTemporary := by
    rw [fullName?_temporary naming, supportPath, Path.fileName_child, Path.front_child,
      naming.enter?_directory names, entered]
    rfl

theorem beside_of_fullName? (naming : Naming enter? fullName?) {name : String}
    (h : fullName? p = some name) : ∃ dir, Beside fullName? p dir := by
  rw [naming.fullName?_eq] at h
  split at h
  · next names =>
    obtain ⟨dir, entered, -⟩ := Option.map_eq_some_iff.mp h
    exact ⟨dir, beside_of_enter? naming names entered⟩
  · cases h

end Beside

def silent : Registry Script.application where
  commands := []
  sockets := []
  definitions := .empty

theorem silent_generates : ∃ client, generate silent = .ok client := by
  have unordered : ordered silent.definitions = [] := by
    simp [ordered, silent, visitAll, Definitions.names, Definitions.empty, Keyed.keys]
  rw [generate, unordered]
  exact ⟨_, rfl⟩

theorem install_of_generate {r : Registry A} {client : String} {p : Path}
    (generated : generate r = .ok client)
    (led : makeDirectories store p.directory = (store, none)) :
    install r p store = installAll (clientFiles client p) store := by
  rw [install, generated]
  simp only [led]

end CommandBridge.TypeScript

import CommandBridge.Proofs.Files.Tree
import CommandBridge.Proofs.TypeScript.Staging

/-!
# What a failed installation leaves

While texts are staged nothing but temporary files is touched, and these are removed when a step
fails. The files are then moved one after another, and a file that was moved stays when a later one
cannot follow. So an installation that fails leaves every file as it was, unless it was the support
module that could not be moved.
-/

set_option autoImplicit false

namespace CommandBridge.TypeScript

variable {A : Application} {files : List (Path × String)} {staged : List Staged}
  {tree tree' : FileTree} {e : InstallError}

theorem alike_discardAll (staged : List Staged) (tree : FileTree) :
    tree.Alike (discardAll staged tree) := by
  induction staged generalizing tree with
  | nil => exact .refl tree
  | cons s rest ih => exact (FileTree.alike_discard tree s.temporary).trans (ih _)

theorem text?_discardAll (staged : List Staged) (tree : FileTree) (name : String) :
    (discardAll staged tree).text? name =
      if ∃ s ∈ staged, tree.fullName? s.temporary = some name then none else tree.text? name := by
  induction staged generalizing tree with
  | nil => simp [discardAll]
  | cons s rest ih =>
    have alike := FileTree.alike_discard tree s.temporary
    have discarded : discardAll (s :: rest) tree = discardAll rest (tree.discard s.temporary) := rfl
    rw [discarded, ih, FileTree.text?_discard]
    simp only [alike.fullName?, List.exists_mem_cons_iff]
    by_cases first : tree.fullName? s.temporary = some name <;> simp [first]

structure Cleared (paths : List Path) (tree tree' : FileTree) : Prop where
  alike : tree.Alike tree'
  text?_eq : ∀ name, (∀ q ∈ paths, tree.fullName? q ≠ some name) →
    tree'.text? name = tree.text? name
  gone : ∀ q ∈ paths, ∀ name, tree.fullName? q = some name → tree'.text? name = none

namespace Stages

theorem alike (h : Stages files tree staged tree') : tree.Alike tree' := by
  induction h with
  | nil => exact .refl _
  | kept _ _ ih => exact ih
  | written _ wrote _ ih =>
    obtain ⟨name, -, -, alike, -⟩ := FileTree.write_ok wrote
    exact alike.trans ih

theorem text?_isSome (h : Stages files tree staged tree') {name : String}
    (held : (tree.text? name).isSome) : (tree'.text? name).isSome := by
  induction h with
  | nil => exact held
  | kept _ _ ih => exact ih held
  | written _ wrote _ ih =>
    obtain ⟨temp, -, -, -, text?_eq⟩ := FileTree.write_ok wrote
    apply ih
    rw [text?_eq]
    split
    · rfl
    · exact held

theorem text?_staged (h : Stages files tree staged tree') {s : Staged} (there : s ∈ staged)
    {name : String} (found : tree.fullName? s.temporary = some name) :
    (tree'.text? name).isSome := by
  induction h with
  | nil => cases there
  | kept _ _ ih => exact ih there found
  | written _ wrote later ih =>
    obtain ⟨temp, placed, -, alike, text?_eq⟩ := FileTree.write_ok wrote
    rcases List.mem_cons.mp there with rfl | there
    · cases placed.symm.trans found
      apply later.text?_isSome
      rw [text?_eq, if_pos rfl]
      rfl
    · exact ih there ((alike.fullName? _).trans found)

theorem blocked (h : Stages files tree staged tree') {s : Staged} (there : s ∈ staged)
    {temp name : String} {fault : FileFault} (found : tree.fullName? s.temporary = some temp)
    (failed : tree'.rename s.temporary s.target = .error fault)
    (named : tree'.fullName? s.target = some name) : tree'.DirectoryAt name := by
  obtain ⟨text, held⟩ := Option.isSome_iff_exists.mp (h.text?_staged there found)
  exact FileTree.rename_error failed ((h.alike.fullName? _).trans found) held named

theorem text?_eq (h : Stages files tree staged tree') {name : String}
    (apart : ∀ s ∈ staged, tree.fullName? s.temporary ≠ some name) :
    tree'.text? name = tree.text? name := by
  induction h with
  | nil => rfl
  | kept _ _ ih => exact ih apart
  | written _ wrote _ ih =>
    obtain ⟨first, later⟩ := List.forall_mem_cons.mp apart
    obtain ⟨temp, there, -, alike, text?_eq⟩ := FileTree.write_ok wrote
    rw [ih (by simpa only [alike.fullName?] using later), text?_eq, if_neg]
    rintro rfl
    exact first there

/-- What was staged is as if it had never been, once it is discarded. -/
theorem cleared (h : Stages files tree staged tree') :
    Cleared (staged.map Staged.temporary) tree (discardAll staged tree') where
  alike := h.alike.trans (alike_discardAll staged tree')
  text?_eq name apart := by
    rw [List.forall_mem_map] at apart
    rw [text?_discardAll, if_neg, h.text?_eq apart]
    rintro ⟨s, there, same⟩
    exact apart s there (h.alike.fullName? s.temporary ▸ same)
  gone := by
    rw [List.forall_mem_map]
    intro s there name same
    rw [text?_discardAll, if_pos ⟨s, there, (h.alike.fullName? _).trans same⟩]

end Stages

variable {p : Path} {client : String}

/-- What stands in the place of a client whose support module could not be moved, when it is no
directory. The support module or its temporary file may be that very file. -/
def leftInPlace (client : String) (p : Path) : Option String :=
  if p.fileName = supportFile then some supportText
  else if p.fileName = supportFile ++ ".tmp" then none
  else some client

/-- What an installation that failed leaves: all files as they were, without temporary ones; but
where it was the support module that could not be moved, the client had been moved before. -/
structure LeftBy (client : String) (p : Path) (e : InstallError) (tree tree' : FileTree) :
    Prop where
  alike : tree.Alike tree'
  elsewhere : ∀ name, tree.fullName? p ≠ some name → tree.fullName? (temporary p) ≠ some name →
    tree.fullName? (temporary (supportPath p)) ≠ some name → tree'.text? name = tree.text? name
  temporaries : ∀ q ∈ [temporary p, temporary (supportPath p)], ∀ name,
    tree.fullName? q = some name → tree'.text? name = none ∨ tree'.text? name = tree.text? name
  kept : ∀ name, tree.fullName? p = some name →
    (e = .io (supportPath p) → tree.DirectoryAt name) → tree'.text? name = tree.text? name
  replaced : ∀ name, tree.fullName? p = some name → e = .io (supportPath p) →
    ¬tree.DirectoryAt name → tree'.text? name = leftInPlace client p

/-- Where nothing was moved, all is as it was, but for temporary files. -/
theorem leftBy_of_cleared {paths : List Path} (cleared : Cleared paths tree tree')
    (sub : ∀ q ∈ paths, q ∈ [temporary p, temporary (supportPath p)])
    (kept : ∀ name, tree.fullName? p = some name →
      (e = .io (supportPath p) → tree.DirectoryAt name) → tree'.text? name = tree.text? name)
    (replaced : ∀ name, tree.fullName? p = some name → e = .io (supportPath p) →
      ¬tree.DirectoryAt name → tree'.text? name = leftInPlace client p) :
    LeftBy client p e tree tree' where
  alike := cleared.alike
  elsewhere name _ first second := by
    apply cleared.text?_eq
    intro q there
    have listed := sub q there
    simp only [List.mem_cons, List.not_mem_nil, or_false] at listed
    rcases listed with rfl | rfl
    · exact first
    · exact second
  temporaries q _ name _ := by
    by_cases apart : ∀ q ∈ paths, tree.fullName? q ≠ some name
    · exact .inr (cleared.text?_eq name apart)
    · push Not at apart
      obtain ⟨q, there, same⟩ := apart
      exact .inl (cleared.gone q there name same)
  kept := kept
  replaced := replaced

theorem temporaries_of_stages (stages : Stages (clientFiles client p) tree staged tree') :
    ∀ q ∈ staged.map Staged.temporary, q ∈ [temporary p, temporary (supportPath p)] := by
  rw [List.forall_mem_map]
  intro s there
  obtain ⟨file, listed, rfl⟩ := stages.exists_file s there
  simp only [clientFiles, List.mem_cons, List.not_mem_nil, or_false] at listed
  rcases listed with rfl | rfl <;> simp [supportPath]

theorem leftBy_of_client_staged {fault : FileFault}
    (stages : Stages (clientFiles client p) tree (⟨temporary p, p⟩ :: staged) tree')
    (failed : tree'.rename (temporary p) p = .error fault) :
    LeftBy client p (.io p) tree (discardAll (⟨temporary p, p⟩ :: staged) tree') := by
  have blocked {name : String} (named : tree.fullName? p = some name) : tree.DirectoryAt name := by
    obtain ⟨dir, beside⟩ := beside_of_fullName? tree.naming named
    apply (stages.alike name).mp
    apply stages.blocked List.mem_cons_self beside.clientTemporary failed
    exact (stages.alike.fullName? _).trans named
  refine leftBy_of_cleared stages.cleared (temporaries_of_stages stages) ?_ ?_
  · intro name named _
    apply stages.cleared.text?_eq
    rw [List.forall_mem_map]
    intro s there same
    -- a temporary file is no directory
    obtain ⟨text, held⟩ := Option.isSome_iff_exists.mp (stages.text?_staged there same)
    exact FileTree.not_directoryAt_of_text? held ((stages.alike name).mpr (blocked named))
  · exact fun name named _ free => absurd (blocked named) free

/-- The client was in place, and the support module could not be moved. -/
theorem leftBy_of_client_placed {fault : FileFault} (placed : tree.read? p = some client)
    (stages : Stages (clientFiles client p) tree
      [⟨temporary (supportPath p), supportPath p⟩] tree')
    (failed : tree'.rename (temporary (supportPath p)) (supportPath p) = .error fault) :
    LeftBy client p (.io (supportPath p)) tree
      (discardAll [⟨temporary (supportPath p), supportPath p⟩] tree') := by
  rw [FileTree.read?_eq] at placed
  obtain ⟨name, named, held⟩ := Option.bind_eq_some_iff.mp placed
  have free := FileTree.not_directoryAt_of_text? held
  obtain ⟨dir, beside⟩ := beside_of_fullName? tree.naming named
  cases named.symm.trans beside.client
  refine leftBy_of_cleared stages.cleared (temporaries_of_stages stages) ?_ ?_
  · intro name same blocked
    cases named.symm.trans same
    exact absurd (blocked rfl) free
  · intro name same _ _
    cases named.symm.trans same
    rw [leftInPlace]
    split
    · next support =>
      -- the client would be the support module, which is blocked
      have blocked := stages.blocked List.mem_cons_self beside.supportTemporary failed
        ((stages.alike.fullName? _).trans beside.support)
      rw [← support] at blocked
      exact absurd ((stages.alike _).mp blocked) free
    split
    · next temporary =>
      apply stages.cleared.gone _ List.mem_cons_self
      rw [temporary]
      exact beside.supportTemporary
    · next other =>
      rw [stages.cleared.text?_eq, held]
      intro q there same
      rw [List.mem_singleton.mp there, beside.supportTemporary, Option.some_inj,
        FileTree.key_child_inj] at same
      exact other same.symm

/-- The client was moved, and the support module could not follow it. -/
theorem leftBy_of_client_moved {tree₁ tree₂ tree₃ : FileTree}
    (wrote : tree.write (temporary p) client = .ok tree₁)
    (wrote_support : tree₁.write (temporary (supportPath p)) supportText = .ok tree₂)
    (moved : tree₂.rename (temporary p) p = .ok tree₃) :
    LeftBy client p (.io (supportPath p)) tree
      (discardAll [⟨temporary (supportPath p), supportPath p⟩] tree₃) := by
  obtain ⟨_, first, -, alike₁, text₁⟩ := FileTree.write_ok wrote
  obtain ⟨_, second, -, alike₂, text₂⟩ := FileTree.write_ok wrote_support
  obtain ⟨_, name, text, source, named, held, free, alike₃, text₃⟩ := FileTree.rename_ok moved
  have alike := (alike₁.trans alike₂).trans alike₃
  rw [alike₁.fullName?] at second
  rw [(alike₁.trans alike₂).fullName?] at source named
  obtain ⟨dir, beside⟩ := beside_of_fullName? tree.naming named
  cases first.symm.trans beside.clientTemporary
  cases source.symm.trans beside.clientTemporary
  cases second.symm.trans beside.supportTemporary
  cases named.symm.trans beside.client
  have left (name : String) :
      (discardAll [⟨temporary (supportPath p), supportPath p⟩] tree₃).text? name =
        if name = FileTree.key (dir ++ [supportFile ++ ".tmp"]) then none
        else tree₃.text? name := by
    rw [text?_discardAll]
    simp [alike.fullName?, beside.supportTemporary, eq_comm]
  have apart : p.fileName ++ ".tmp" ≠ p.fileName := by
    simp [String.append_eq_left_iff]
  refine ⟨alike.trans (alike_discardAll _ _), ?_, ?_, ?_, ?_⟩
  · intro name not_client not_first not_second
    rw [beside.client, Ne, Option.some_inj, eq_comm] at not_client
    rw [beside.clientTemporary, Ne, Option.some_inj, eq_comm] at not_first
    rw [beside.supportTemporary, Ne, Option.some_inj, eq_comm] at not_second
    rw [left, if_neg not_second, text₃, if_neg not_client, if_neg not_first, text₂,
      if_neg not_second, text₁, if_neg not_first]
  · intro q listed name same
    left
    simp only [List.mem_cons, List.not_mem_nil, or_false] at listed
    rcases listed with rfl | rfl
    · cases same.symm.trans beside.clientTemporary
      rw [left, text₃, if_neg (FileTree.key_child_inj.not.mpr apart), if_pos rfl]
      split <;> rfl
    · cases same.symm.trans beside.supportTemporary
      rw [left, if_pos rfl]
  · intro name same blocked
    cases named.symm.trans same
    exact absurd ((alike₁.trans alike₂ _).mpr (blocked rfl)) free
  · intro name same _ _
    cases named.symm.trans same
    simp only [text₂, text₁, if_true, FileTree.key_child_inj, String.append_left_inj] at held
    simp only [left, text₃, if_true, ← held, FileTree.key_child_inj, leftInPlace]
    split
    · next temporary => rw [if_neg (by rw [temporary]; decide)]
    · rfl

theorem temporary_ne_support (target : Path) : temporary target ≠ supportPath p := by
  intro same
  have last := congrArg (fun q : Path => q.fileName.toList.getLast?) same
  simp [temporary, supportPath, supportFile] at last

theorem directory_ne_support : p.directory ≠ supportPath p := by
  intro same
  have length := congrArg (fun q : Path => q.pieces.length) same
  simp [supportPath, Path.child] at length

theorem leftBy_of_unstaged {done rest : List (Path × String)} {file : Path × String}
    (listed : clientFiles client p = done ++ file :: rest)
    (stages : Stages done tree staged tree') :
    LeftBy client p (.io (temporary file.1)) tree (discardAll staged tree') := by
  have before : ∀ f ∈ done, f = (p, client) := by
    rcases done with _ | ⟨first, _ | ⟨second, more⟩⟩
    · exact nofun
    · cases listed
      exact List.forall_mem_singleton.mpr rfl
    · simp [clientFiles] at listed
  have only : ∀ q ∈ staged.map Staged.temporary, q = temporary p := by
    rw [List.forall_mem_map]
    intro s there
    obtain ⟨f, mem, rfl⟩ := stages.exists_file s there
    rw [before f mem]
  refine leftBy_of_cleared stages.cleared (fun q there => ?_) ?_ ?_
  · rw [only q there]
    exact List.mem_cons_self
  · intro name named _
    apply stages.cleared.text?_eq
    intro q there same
    obtain ⟨dir, beside⟩ := beside_of_fullName? tree.naming named
    rw [only q there, ← named, beside.client, beside.clientTemporary, Option.some_inj,
      FileTree.key_child_inj] at same
    simp at same
  · intro name _ told
    exact absurd (InstallError.io.inj told) (temporary_ne_support file.1)

theorem leftBy_of_unmoved {moved rest : List Staged} {s : Staged} {tree₁ : FileTree}
    {fault : FileFault} (stages : Stages (clientFiles client p) tree (moved ++ s :: rest) tree')
    (moves : Moves moved tree' tree₁) (unmoved : tree₁.rename s.temporary s.target = .error fault) :
    LeftBy client p (.io s.target) tree (discardAll (s :: rest) tree₁) := by
  cases moves with
  | nil =>
    have whole := stages
    cases stages with
    | kept placed later =>
      cases later with
      | kept _ done => cases done
      | written _ _ done =>
        cases done
        exact leftBy_of_client_placed placed whole unmoved
    | written => exact leftBy_of_client_staged whole unmoved
  | @cons first more _ tree₂ _ went moves =>
    -- of two files the second is the one that stayed
    obtain rfl : more = [] := by
      have count := stages.length_le
      simp only [clientFiles, List.length_append, List.length_cons, List.length_nil] at count
      exact List.length_eq_zero_iff.mp (by omega)
    cases moves
    cases stages with
    | kept _ later => simpa using later.length_le
    | written _ wrote later =>
      cases later with
      | kept _ done => cases done
      | written _ wrote_support done =>
        cases done
        exact leftBy_of_client_moved wrote wrote_support went

theorem leftBy_of_error (failed : installAll (clientFiles client p) tree = (tree', .error e)) :
    LeftBy client p e tree tree' := by
  unfold installAll at failed
  split at failed
  · next staging =>
    cases failed
    obtain ⟨done, file, rest, staged, tree₁, listed, rfl, stages, rfl⟩ := stages_of_error staging
    exact leftBy_of_unstaged listed stages
  next staging =>
  obtain ⟨staged, rfl, stages⟩ := stages_of_ok staging
  split at failed
  · next moving =>
    cases failed
    obtain ⟨moved, s, rest, tree₁, fault, rfl, moves, unmoved, rfl, rfl⟩ := moves_of_error moving
    exact leftBy_of_unmoved stages moves unmoved
  · cases failed

/-- Under the name of the file, wherever the path leads before or after, stands what stood there. -/
def Keeps (before after : FileTree) (p : Path) : Prop :=
  ∀ name, before.fullName? p = some name ∨ after.fullName? p = some name →
    after.text? name = before.text? name

/-- The client and its support module are what they were, and no temporary file was left. -/
structure Intact (p : Path) (before after : FileTree) : Prop where
  client : Keeps before after p
  support : Keeps before after (supportPath p)
  temporaries : ∀ q ∈ [temporary p, temporary (supportPath p)], ∀ name,
    before.fullName? q = some name ∨ after.fullName? q = some name →
      after.text? name = none ∨ after.text? name = before.text? name

theorem LeftBy.intact_iff {before after : FileTree} (left : LeftBy client p e tree after)
    (grown : before.Grown tree) : Intact p before after ↔
      (e = .io (supportPath p) → ∀ name, after.fullName? p = some name →
        after.DirectoryAt name ∨ before.text? name = leftInPlace client p) := by
  have led {q : Path} {name : String}
      (h : before.fullName? q = some name ∨ after.fullName? q = some name) :
      tree.fullName? q = some name := by
    rcases h with h | h
    · exact FileTree.fullName?_mono grown.keeps h
    · exact (left.alike.fullName? q).symm.trans h
  constructor
  · intro intact told name there
    by_cases free : tree.DirectoryAt name
    · exact .inl ((left.alike name).mpr free)
    · right
      rw [← intact.client name (.inr there)]
      exact left.replaced name (led (.inr there)) told free
  · intro same
    have client : Keeps before after p := by
      intro name there
      have there := led there
      by_cases stuck : e = .io (supportPath p) ∧ ¬tree.DirectoryAt name
      · obtain ⟨told, free⟩ := stuck
        rw [left.replaced name there told free]
        rcases same told name ((left.alike.fullName? p).trans there) with barred | held
        · exact absurd ((left.alike name).mp barred) free
        · exact held.symm
      · rw [← grown.text?_eq]
        exact left.kept name there fun told => not_not.mp fun free => stuck ⟨told, free⟩
    refine ⟨client, fun name there => ?_, fun q listed name there => ?_⟩
    · by_cases both : tree.fullName? p = some name
      · exact client name (.inr ((left.alike.fullName? p).trans both))
      · have apart (target : Path) : tree.fullName? (temporary target) ≠ some name :=
          fun same => support_not_temporary tree.naming same (led there)
        rw [left.elsewhere name both (apart p) (apart _), grown.text?_eq]
    · rw [← grown.text?_eq]
      exact left.temporaries q listed name (led there)

/-- An installation that fails leaves the client and its support module as they were, and no
temporary file, exactly when it does not fail in moving the support module; or the client's place
is that of a directory, or holds what stands there after such a failure anyhow. -/
theorem failed_install_intact_iff {r : Registry A} {before after : FileTree}
    (failed : install r p before = (after, .error e)) : Intact p before after ↔
      (e = .io (supportPath p) → ∀ client name, generate r = .ok client →
        after.fullName? p = some name →
          after.DirectoryAt name ∨ before.text? name = leftInPlace client p) := by
  have untouched {tree : FileTree} (grown : before.Grown tree) : Intact p before tree :=
    ⟨fun name _ => grown.text?_eq name, fun name _ => grown.text?_eq name,
      fun _ _ name _ => .inr (grown.text?_eq name)⟩
  unfold install at failed
  split at failed
  · next told =>
    cases failed
    exact iff_of_true (untouched (.refl _)) nofun
  next client generated =>
  have grown := FileTree.grown_makeDirectories before p.directory
  split at failed
  · next led =>
    cases failed
    rw [led] at grown
    refine iff_of_true (untouched grown) fun told => ?_
    exact absurd (InstallError.io.inj told) directory_ne_support
  · next led =>
    rw [led] at grown
    rw [(leftBy_of_error failed).intact_iff grown]
    constructor
    · intro h told client' name generated' there
      cases generated.symm.trans generated'
      exact h told name there
    · exact fun h told name => h told client name generated

theorem makeDirectories_here (tree : FileTree) :
    FileStore.makeDirectories tree (Path.directory (.ofText "api.ts")) = (tree, none) := by
  have directory : Path.directory (.ofText "api.ts") = .here := by decide
  rw [directory, FileStore.makeDirectories]
  rfl

/-- Where a directory stands in the place of the temporary support module, nothing is changed. -/
theorem unstaged_install_intact :
    install silent (.ofText "api.ts") (FileTree.mk [("_internal.ts.tmp", .directory)]) =
        (⟨[("_internal.ts.tmp", .directory)]⟩, .error (.io (.ofText "./_internal.ts.tmp"))) ∧
      Intact (.ofText "api.ts") ⟨[("_internal.ts.tmp", .directory)]⟩
        ⟨[("_internal.ts.tmp", .directory)]⟩ := by
  obtain ⟨client, generated⟩ := silent_generates
  have failed : install silent (.ofText "api.ts") (FileTree.mk [("_internal.ts.tmp", .directory)]) =
      (⟨[("_internal.ts.tmp", .directory)]⟩, .error (.io (.ofText "./_internal.ts.tmp"))) := by
    rw [install_of_generate generated (makeDirectories_here _)]
    rfl
  refine ⟨failed, (failed_install_intact_iff failed).mpr fun told => ?_⟩
  exact absurd (InstallError.io.inj told) (by decide)

/-- Where one stands in the place of the support module itself, the new client is left. -/
theorem unmoved_install_not_intact : ∃ client, generate silent = .ok client ∧
    install silent (.ofText "api.ts") (FileTree.mk [("_internal.ts", .directory)]) =
        (⟨[("_internal.ts", .directory), ("api.ts", .file client)]⟩,
          .error (.io (.ofText "./_internal.ts"))) ∧
      ¬Intact (.ofText "api.ts") ⟨[("_internal.ts", .directory)]⟩
        ⟨[("_internal.ts", .directory), ("api.ts", .file client)]⟩ := by
  obtain ⟨client, generated⟩ := silent_generates
  refine ⟨client, generated, ?_, fun intact => ?_⟩
  · rw [install_of_generate generated (makeDirectories_here _)]
    rfl
  · cases intact.client "api.ts" (.inr rfl)

end CommandBridge.TypeScript

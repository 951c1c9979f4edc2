import CommandBridge.Proofs.Files.Store
import CommandBridge.Proofs.Keyed

/-!
# Laws of file trees

A path leads to an entry under its full name. No operation on a file makes or removes a directory,
so every path leads where it led before, and what an operation left is told by the text of the file
under each full name.
-/

set_option autoImplicit false

namespace CommandBridge

namespace FileTree

variable {tree tree' : FileTree} {p : Path}

theorem at?_concat (dir : Place) (name : String) :
    tree.at? (dir ++ [name]) = Keyed.lookup (key (dir ++ [name])) tree.entries := by simp [at?]

def enter (tree : FileTree) (dir : Place) : List String → Option Place
  | [] => some dir
  | piece :: rest =>
    if Path.isIdle piece then enter tree dir rest
    else if piece = ".." then
      if dir.isEmpty then none else enter tree dir.dropLast rest
    else if tree.at? (dir ++ [piece]) = some .directory then enter tree (dir ++ [piece]) rest
    else none

theorem enter_append (dir : Place) (pieces more : List String) :
    tree.enter dir (pieces ++ more) =
      (tree.enter dir pieces).bind fun dir => tree.enter dir more := by
  induction pieces generalizing dir with
  | nil => rfl
  | cons piece rest ih =>
    simp only [List.cons_append, enter, ih]
    split
    · rfl
    split
    · split <;> rfl
    · split <;> rfl

/-- The full name of the entry that a path names, unless it names a directory by where that is. -/
def fullName? (tree : FileTree) (p : Path) : Option String := (named? (tree.locate p)).map key

/-- The text of the file of a full name. -/
def text? (tree : FileTree) (name : String) : Option String :=
  match Keyed.lookup name tree.entries with
  | some (.file text) => some text
  | _ => none

theorem named?_walk (dir : Place) (pieces : List String) (name : String) :
    named? (tree.walk dir (pieces ++ [name])) =
      if Path.Names name then (tree.enter dir pieces).map (· ++ [name]) else none := by
  induction pieces generalizing dir with
  | nil =>
    by_cases idle : Path.isIdle name = true
    · simp [walk, Path.Names, idle, named?]
    · by_cases back : name = ".."
      · cases empty : dir.isEmpty <;> simp [walk, Path.Names, Path.isIdle, back, empty, named?]
      · simp [walk, enter, Path.Names, idle, back, named?]
  | cons piece rest ih =>
    simp only [List.cons_append, walk, enter]
    cases idle : Path.isIdle piece with
    | true => simpa using ih dir
    | false =>
      by_cases back : piece = ".."
      · cases empty : dir.isEmpty with
        | true => simp [back, named?]
        | false => simpa [back] using ih dir.dropLast
      · cases found : tree.at? (dir ++ [piece]) with
        | none => simp [back, named?]
        | some entry =>
          cases entry with
          | file text => simp [back, named?]
          | directory => simpa [back] using ih (dir ++ [piece])

/-- Where a path leads depends on the pieces before the last one and on the last one. -/
theorem named?_locate (tree : FileTree) (p : Path) : named? (tree.locate p) =
    if Path.Names p.fileName then (tree.enter [] p.front).map (· ++ [p.fileName]) else none := by
  have nothing (h : p.fileName = "") : ¬Path.Names p.fileName := by
    rw [h]
    decide
  unfold locate
  split
  · next empty =>
    have unnamed : p.fileName = "" := by
      rcases empty with empty | empty <;> simp [Path.fileName, empty]
    rw [if_neg (nothing unnamed)]
    rfl
  · next given =>
    rcases p.pieces_eq with pieces | empty
    · rw [← named?_walk, ← pieces]
    · exact absurd (.inr empty) given

theorem fullName?_eq (tree : FileTree) (p : Path) : tree.fullName? p =
    if Path.Names p.fileName then (tree.enter [] p.front).map fun dir => key (dir ++ [p.fileName])
    else none := by
  rw [fullName?, named?_locate]
  split
  · rw [Option.map_map]
    rfl
  · rfl

theorem naming (tree : FileTree) : Naming (tree.enter []) tree.fullName? where
  idle pieces piece idle := by
    rw [enter_append]
    cases tree.enter [] pieces <;> simp [enter, idle]
  fullName?_eq := tree.fullName?_eq

section Located

variable {place : Place}

theorem fullName?_of_locate (h : tree.locate p = .ok (.name place)) :
    tree.fullName? p = some (key place) := by
  rw [fullName?, h]
  rfl

theorem at?_of_locate (h : tree.locate p = .ok (.name place)) (tree' : FileTree) :
    tree'.at? place = Keyed.lookup (key place) tree'.entries := by
  have named := named?_locate tree p
  rw [h] at named
  split at named
  · obtain ⟨dir, -, rfl⟩ := Option.map_eq_some_iff.mp named.symm
    exact at?_concat dir _
  · cases named

theorem fullName?_eq_none (h : ∀ place, tree.locate p ≠ .ok (.name place)) :
    tree.fullName? p = none := by
  rw [fullName?, Option.map_eq_none_iff]
  unfold named?
  split
  · next place found => exact absurd found (h place)
  · rfl

end Located

/-- Under the name stands a directory. -/
def DirectoryAt (tree : FileTree) (name : String) : Prop :=
  Keyed.lookup name tree.entries = some .directory

/-- The trees have the same directories. -/
def Alike (tree tree' : FileTree) : Prop := ∀ name, tree'.DirectoryAt name ↔ tree.DirectoryAt name

theorem Alike.refl (tree : FileTree) : Alike tree tree := fun _ => .rfl

theorem Alike.trans {tree'' : FileTree} (h : Alike tree tree') (h' : Alike tree' tree'') :
    Alike tree tree'' := fun name => (h' name).trans (h name)

theorem Alike.enter (h : Alike tree tree') (dir : Place) (pieces : List String) :
    tree'.enter dir pieces = tree.enter dir pieces := by
  induction pieces generalizing dir with
  | nil => rfl
  | cons piece rest ih =>
    have same : tree'.at? (dir ++ [piece]) = some .directory ↔
        tree.at? (dir ++ [piece]) = some .directory := by
      rw [at?_concat, at?_concat]
      exact h _
    simp only [FileTree.enter, ih, same]

/-- In trees with the same directories a path leads to the same name. -/
theorem Alike.fullName? (h : Alike tree tree') (p : Path) :
    tree'.fullName? p = tree.fullName? p := by
  rw [fullName?_eq, fullName?_eq, h.enter]

theorem text?_eq_some {name text : String} :
    tree.text? name = some text ↔ Keyed.lookup name tree.entries = some (.file text) := by
  unfold text?
  split
  · next found => simp [found]
  · next other => exact iff_of_false nofun (other text)

theorem not_directoryAt_of_text? {name text : String} (h : tree.text? name = some text) :
    ¬tree.DirectoryAt name := by
  rw [DirectoryAt, text?_eq_some.mp h]
  nofun

theorem read?_eq (tree : FileTree) (p : Path) :
    tree.read? p = (tree.fullName? p).bind tree.text? := by
  unfold read?
  split
  · next place found =>
    rw [fullName?_of_locate found, at?_of_locate found]
    rfl
  · next none => rw [fullName?_eq_none none]; rfl

/-- A path reads the same where the text under its name is the same. -/
theorem Alike.read? (alike : Alike tree tree')
    (same : ∀ name, tree.fullName? p = some name → tree'.text? name = tree.text? name) :
    tree'.read? p = tree.read? p := by
  rw [read?_eq, read?_eq, alike.fullName?]
  cases named : tree.fullName? p with
  | none => rfl
  | some name => exact same name named

theorem exists_fullName?_of_read? {text : String} (h : tree.read? p = some text) :
    ∃ name, tree.fullName? p = some name := by
  rw [read?_eq] at h
  obtain ⟨name, named, -⟩ := Option.bind_eq_some_iff.mp h
  exact ⟨name, named⟩

section Entries

variable {place : Place} {text : String}

theorem text?_put (tree : FileTree) (place : Place) (text name : String) :
    (tree.put place (.file text)).text? name =
      if name = key place then some text else tree.text? name := by
  by_cases same : name = key place <;> simp [text?, put, Keyed.lookup_insert, same]

theorem alike_put (free : ¬tree.DirectoryAt (key place)) :
    Alike tree (tree.put place (.file text)) := by
  intro name
  rw [DirectoryAt, put, Keyed.lookup_insert]
  split
  · next same => exact iff_of_false nofun (same ▸ free)
  · rfl

theorem text?_remove (tree : FileTree) (place : Place) (name : String) :
    (tree.remove place).text? name = if name = key place then none else tree.text? name := by
  by_cases same : name = key place <;> simp [text?, remove, Keyed.lookup_erase, same]

theorem alike_remove (file : ¬tree.DirectoryAt (key place)) : Alike tree (tree.remove place) := by
  intro name
  rw [DirectoryAt, remove, Keyed.lookup_erase]
  split
  · next same => exact iff_of_false nofun (same ▸ file)
  · rfl

end Entries

/-- A file is written where no directory stands, and nothing else is changed. -/
theorem write_ok {text : String} (h : tree.write p text = .ok tree') :
    ∃ name, tree.fullName? p = some name ∧ ¬tree.DirectoryAt name ∧ Alike tree tree' ∧
      ∀ other, tree'.text? other = if other = name then some text else tree.text? other := by
  unfold write at h
  split at h
  · next place found =>
    rw [at?_of_locate found] at h
    split at h
    · cases h
    · next free =>
      cases h
      exact ⟨_, fullName?_of_locate found, free, alike_put free, text?_put tree place text⟩
  · cases h
  · cases h

/-- A file is moved to where no directory stands, and nothing else is changed. -/
theorem rename_ok {source target : Path} (h : tree.rename source target = .ok tree') :
    ∃ s t text, tree.fullName? source = some s ∧ tree.fullName? target = some t ∧
      tree.text? s = some text ∧ ¬tree.DirectoryAt t ∧ Alike tree tree' ∧
      ∀ other, tree'.text? other =
        if other = t then some text else if other = s then none else tree.text? other := by
  unfold rename at h
  split at h
  · next s t first second =>
    rw [at?_of_locate first, at?_of_locate second] at h
    split at h
    · next text held =>
      have held := text?_eq_some.mpr held
      split at h
      · cases h
      · next free =>
        cases h
        have removed := alike_remove (not_directoryAt_of_text? held)
        have put : Alike (tree.remove s) ((tree.remove s).put t (.file text)) :=
          alike_put ((removed (key t)).not.mpr free)
        refine ⟨_, _, text, fullName?_of_locate first, fullName?_of_locate second, held, free,
          removed.trans put, fun other => ?_⟩
        rw [text?_put, text?_remove]
    · cases h
    · cases h
  all_goals cases h

/-- A file that stands where a path leads can be moved, unless over a directory. -/
theorem rename_error {source target : Path} {fault : FileFault} {s t text : String}
    (h : tree.rename source target = .error fault) (first : tree.fullName? source = some s)
    (held : tree.text? s = some text) (second : tree.fullName? target = some t) :
    tree.DirectoryAt t := by
  have located {p : Path} {name : String} (h : tree.fullName? p = some name) :
      ∃ place, tree.locate p = .ok (.name place) ∧ key place = name := by
    by_contra none
    rw [fullName?_eq_none fun place found => none ⟨place, found, ?_⟩] at h
    · cases h
    · rw [fullName?_of_locate found] at h
      exact Option.some.inj h
  obtain ⟨s, start, rfl⟩ := located first
  obtain ⟨t, finish, rfl⟩ := located second
  by_contra free
  rw [DirectoryAt, ← at?_of_locate finish] at free
  simp [rename, start, finish, at?_of_locate start, text?_eq_some.mp held, free] at h

theorem text?_discard (tree : FileTree) (p : Path) (name : String) :
    (tree.discard p).text? name =
      if tree.fullName? p = some name then none else tree.text? name := by
  unfold discard
  split
  · next place found =>
    simp only [at?_of_locate found, fullName?_of_locate found, Option.some_inj, eq_comm (b := name)]
    split
    · exact text?_remove tree place name
    · next none =>
      split
      · next same =>
        rw [same, text?]
        split
        · next text held => exact absurd held (none text)
        · rfl
      · rfl
  · next none => rw [fullName?_eq_none none, if_neg (Option.some_ne_none name).symm]

theorem alike_discard (tree : FileTree) (p : Path) : Alike tree (tree.discard p) := by
  unfold discard
  split
  · next place found =>
    rw [at?_of_locate found]
    split
    · next text held =>
      exact alike_remove (not_directoryAt_of_text? (text?_eq_some.mpr held))
    · exact .refl tree
  · exact .refl tree

structure Grown (tree tree' : FileTree) : Prop where
  keeps : ∀ name, tree.DirectoryAt name → tree'.DirectoryAt name
  text?_eq : ∀ name, tree'.text? name = tree.text? name

theorem Grown.refl (tree : FileTree) : Grown tree tree := ⟨fun _ => id, fun _ => rfl⟩

theorem Grown.trans {tree'' : FileTree} (h : Grown tree tree') (h' : Grown tree' tree'') :
    Grown tree tree'' :=
  ⟨fun name there => h'.keeps name (h.keeps name there),
    fun name => (h'.text?_eq name).trans (h.text?_eq name)⟩

theorem enter_mono (keeps : ∀ name, tree.DirectoryAt name → tree'.DirectoryAt name)
    {dir found : Place} {pieces : List String} (h : tree.enter dir pieces = some found) :
    tree'.enter dir pieces = some found := by
  induction pieces generalizing dir with
  | nil => exact h
  | cons piece rest ih =>
    rw [enter] at h ⊢
    by_cases idle : Path.isIdle piece = true
    · rw [if_pos idle] at h ⊢
      exact ih h
    rw [if_neg idle] at h ⊢
    by_cases back : piece = ".."
    · rw [if_pos back] at h ⊢
      split at h
      · cases h
      · next below =>
        rw [if_neg below]
        exact ih h
    rw [if_neg back] at h ⊢
    split at h
    · next there =>
      have kept : tree'.at? (dir ++ [piece]) = some .directory := by
        rw [at?_concat] at there ⊢
        exact keeps _ there
      rw [if_pos kept]
      exact ih h
    · cases h

theorem fullName?_mono (keeps : ∀ name, tree.DirectoryAt name → tree'.DirectoryAt name)
    {name : String} (h : tree.fullName? p = some name) : tree'.fullName? p = some name := by
  rw [fullName?_eq] at h ⊢
  split at h
  · next names =>
    obtain ⟨dir, entered, rfl⟩ := Option.map_eq_some_iff.mp h
    rw [if_pos names, enter_mono keeps entered]
    rfl
  · cases h

theorem grown_makeDirectory (h : tree.makeDirectory p = .ok tree') : Grown tree tree' := by
  unfold makeDirectory at h
  split at h
  · next place found =>
    rw [at?_of_locate found] at h
    split at h
    · cases h
    · next free =>
      cases h
      rw [Option.not_isSome_iff_eq_none] at free
      constructor
      · intro name there
        rw [DirectoryAt, put, Keyed.lookup_insert]
        split
        · rfl
        · exact there
      · intro name
        by_cases same : name = key place <;>
          simp [text?, put, Keyed.lookup_insert, same, free]
  · cases h
  · cases h

theorem grown_makeDirectories (tree : FileTree) (p : Path) :
    Grown tree (FileStore.makeDirectories tree p).1 :=
  FileStore.makeDirectories_related .refl (fun _ _ _ => .trans) (fun _ _ _ => grown_makeDirectory)
    tree p

end FileTree
end CommandBridge

import CommandBridge.Proofs.Files.Volume

/-!
# Directories that are made

What is made is a directory under a free name, and nothing else is touched. A directory that was
made is there, and to make it once more changes nothing.
-/

set_option autoImplicit false

namespace CommandBridge.Volume

open FileTree (Place Target key)

variable {vol vol' : Volume} {p : Path}

/-- Under the name stands what stood there, or a new directory. -/
def Kept (before after : Volume) (name : String) : Prop :=
  after.standing? name = before.standing? name ∨
    before.standing? name = none ∧ after.standing? name = some .directory

namespace Kept

variable {name : String}

theorem trans {vol'' : Volume} (h : Kept vol vol' name) (h' : Kept vol' vol'' name) :
    Kept vol vol'' name := by
  rcases h with same | ⟨free, made⟩
  · rwa [Kept, same] at h'
  · rcases h' with same | ⟨free', -⟩
    · exact .inr ⟨free, same.trans made⟩
    · cases made.symm.trans free'

end Kept

theorem extends_of_kept (h : ∀ name, Kept vol vol' name) : Extends vol vol' := by
  intro name s there
  rcases h name with same | ⟨free, -⟩
  · exact same.trans there
  · cases free.symm.trans there

theorem nodeAt_addDirectory (vol : Volume) (name other : String) :
    (vol.addDirectory name).nodeAt other =
      if other = name then some .directory else vol.nodeAt other :=
  Keyed.lookup_insert name other _ vol.nodes

theorem kept_addDirectory {name : String} (free : vol.nodeAt name = none) (other : String) :
    Kept vol (vol.addDirectory name) other := by
  by_cases same : other = name
  · subst same
    right
    rw [standing?, standing?, free, nodeAt_addDirectory, if_pos rfl]
    exact ⟨rfl, rfl⟩
  · exact .inl (standing?_congr (by rw [nodeAt_addDirectory, if_neg same]) fun _ _ => rfl)

theorem makeDirectory_ok (h : vol.makeDirectory p = .ok vol') :
    ∃ place, vol.reach .keep p = .ok (.name place) ∧ vol.nodeAt (key place) = none ∧
      vol' = vol.addDirectory (key place) := by
  unfold makeDirectory at h
  split at h
  · next place found =>
    rw [node?_of_reach found] at h
    split at h
    · cases h
    · next free =>
      cases h
      exact ⟨place, found, Option.not_isSome_iff_eq_none.mp free, rfl⟩
  · cases h
  · cases h

theorem kept_makeDirectories (vol : Volume) (p : Path) (name : String) :
    Kept vol (FileStore.makeDirectories vol p).1 name := by
  refine FileStore.makeDirectories_related (R := fun v v' => Kept v v' name) (fun _ => .inl rfl)
    (fun _ _ _ => Kept.trans) (fun v v' q made => ?_) vol p
  obtain ⟨place, -, free, rfl⟩ := makeDirectory_ok made
  exact kept_addDirectory free name

theorem isDirectory_iff : vol.isDirectory p = true ↔
    ¬(p.pieces = [""] ∨ p.pieces = []) ∧ (vol.enter? p.pieces).isSome := by
  rw [isDirectory, reach, enter?]
  split
  · next empty => simp [empty, Except.isOk, Except.toBool]
  · next given =>
    cases vol.walk .enter linkLimit [] p.pieces <;>
      simp [given, Except.isOk, Except.toBool, Except.toOption]

theorem isDirectory_of_makeDirectory (h : vol.makeDirectory p = .ok vol') :
    vol'.isDirectory p = true := by
  obtain ⟨place, found, free, rfl⟩ := makeDirectory_ok h
  obtain ⟨pieces, names, t, led, rfl⟩ := exists_of_reach found
  have given : ¬(p.pieces = [""] ∨ p.pieces = []) := by
    intro empty
    rw [reach, if_pos empty] at found
    cases found
  have led := (extends_of_kept (kept_addDirectory free)).leads.walk led
    fun _ _ stops => absurd stops Bool.false_ne_true
  rw [isDirectory, reach, if_neg given, pieces,
    walk_append (f := fun dir => .directory (dir ++ [p.fileName])) (List.cons_ne_nil _ _), led]
  · rfl
  · intro t' led'
    cases led.symm.trans led'
    simp [stretch, names.1, names.2, Last.stops, node?_concat, nodeAt_addDirectory]

theorem makeDirectory_refused (h : vol.isDirectory p = true) :
    vol.makeDirectory p = .error .refused := by
  rw [isDirectory, reach] at h
  split at h
  · cases h
  next given =>
  have pieces := p.pieces_eq.resolve_right fun empty => given (.inr empty)
  rw [pieces] at h
  cases led : vol.walk .enter linkLimit [] (p.front ++ [p.fileName]) with
  | error fault =>
    rw [led] at h
    cases h
  | ok target =>
    obtain ⟨t, led, there⟩ := exists_of_walk_enter led
    have reached : vol.reach .keep p = .ok (lastTarget t.place p.fileName) := by
      rw [reach, if_neg given, pieces, walk_keep, led]
      rfl
    rw [makeDirectory, reached, lastTarget]
    by_cases idle : Path.isIdle p.fileName = true
    · rw [if_pos idle]
    rw [if_neg idle]
    by_cases back : p.fileName = ".."
    · rw [if_pos back]
    · rw [if_neg back]
      exact if_pos (there ⟨Bool.eq_false_iff.mpr idle, back⟩)

theorem makeDirectories_of_isDirectory (there : vol.isDirectory p = true) :
    FileStore.makeDirectories vol p = (vol, none) :=
  FileStore.makeDirectories_of_isDirectory there (makeDirectory_refused there) fun empty =>
    (isDirectory_iff.mp there).1 (.inr empty)

theorem Extends.isDirectory (h : Extends vol vol') (there : vol.isDirectory p = true) :
    vol'.isDirectory p = true := by
  unfold Volume.isDirectory at there ⊢
  cases led : vol.reach .enter p with
  | error fault =>
    rw [led] at there
    cases there
  | ok target =>
    rw [h.leads.reach led fun _ _ stops => absurd stops Bool.false_ne_true]
    rfl

end CommandBridge.Volume

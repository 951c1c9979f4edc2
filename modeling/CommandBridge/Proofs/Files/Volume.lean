import CommandBridge.Proofs.Files.Walks

/-!
# Laws of volumes

What an operation leaves is told by what stands under each name. To write to a file and to move it
touches no other one, if no other name is its own, it is no link, and the place it is moved to is
none.
-/

set_option autoImplicit false

namespace CommandBridge.Volume

open FileTree (Place Target key named?)

variable {vol vol' : Volume} {p : Path} {name text : String}

inductive Standing where
  | directory
  | file (body : FileBody)
  | link (target : String)
  | device

def standing? (vol : Volume) (name : String) : Option Standing :=
  match vol.nodeAt name with
  | none => none
  | some .directory => some .directory
  | some (.file number) => vol.bodies[number]?.map .file
  | some (.link target) => some (.link target)
  | some .device => some .device

/-- The text of the file of a name, if it can be read. -/
def text? (vol : Volume) (name : String) : Option String :=
  match vol.standing? name with
  | some (.file body) => body.text?
  | _ => none

structure Housed (vol : Volume) (name : String) (number : Nat) : Prop where
  node : vol.nodeAt name = some (.file number)
  only : ∀ other, vol.nodeAt other = some (.file number) → other = name
  readable : ∀ body, vol.bodies[number]? = some body → body.readable = true

/-- The name is free, that of a directory, or the only name of a file that can be read. -/
inductive Sole (vol : Volume) (name : String) : Prop where
  | free (h : vol.nodeAt name = none)
  | directory (h : vol.nodeAt name = some .directory)
  | file (number : Nat) (h : Housed vol name number)

def Unlinked (vol : Volume) (name : String) : Prop := ∀ text, vol.nodeAt name ≠ some (.link text)

theorem Sole.unlinked (h : vol.Sole name) : vol.Unlinked name := by
  intro text link
  cases h with
  | free free => cases free.symm.trans link
  | directory there => cases there.symm.trans link
  | file number housed => cases housed.node.symm.trans link

theorem fresh_text? (text : String) : (FileBody.fresh text).text? = some text := by
  have valid : text.toUTF8.IsValidUTF8 := text.isValidUTF8
  rw [FileBody.text?, FileBody.fresh, if_pos rfl, String.fromUTF8?, dif_pos valid]
  rfl

theorem text?_congr {other : String} (h : vol'.standing? other = vol.standing? name) :
    vol'.text? other = vol.text? name := by
  rw [text?, text?, h]

theorem standing?_directory : vol.standing? name = some .directory ↔
    vol.nodeAt name = some .directory := by
  rw [standing?]
  rcases vol.nodeAt name with _ | (_ | number | _ | _) <;> simp

theorem standing?_link : vol.standing? name = some (.link text) ↔
    vol.nodeAt name = some (.link text) := by
  rw [standing?]
  rcases vol.nodeAt name with _ | (_ | number | _ | _) <;> simp

theorem text?_eq_some : vol.text? name = some text ↔
    ∃ body, vol.standing? name = some (.file body) ∧ body.text? = some text := by
  unfold text?
  split
  · next body found => simp [found]
  · next other => exact iff_of_false nofun fun ⟨body, found, _⟩ => other body found

theorem body_isSome {number : Nat} (h : vol.nodeAt name = some (.file number)) :
    ∃ body, vol.bodies[number]? = some body :=
  ⟨_, List.getElem?_eq_getElem (vol.housed name number h)⟩

theorem standing?_congr (node : vol'.nodeAt name = vol.nodeAt name)
    (body : ∀ number, vol.nodeAt name = some (.file number) →
      vol'.bodies[number]? = vol.bodies[number]?) :
    vol'.standing? name = vol.standing? name := by
  rw [standing?, standing?, node]
  split
  · rfl
  · rfl
  · next number file => rw [body number file]
  · rfl
  · rfl

section Create

theorem nodeAt_create (vol : Volume) (name text other : String) :
    (vol.create name text).nodeAt other =
      if other = name then some (.file vol.bodies.length) else vol.nodeAt other :=
  Keyed.lookup_insert name other _ vol.nodes

theorem bodies_create {number : Nat} (h : vol.nodeAt name = some (.file number)) (other : String) :
    (vol.create other text).bodies[number]? = vol.bodies[number]? :=
  List.getElem?_append_left (vol.housed name number h)

theorem standing?_create {other : String} (h : other ≠ name) :
    (vol.create name text).standing? other = vol.standing? other :=
  standing?_congr (by rw [nodeAt_create, if_neg h]) fun _ file => bodies_create file name

theorem text?_create (vol : Volume) (name text : String) :
    (vol.create name text).text? name = some text := by
  have body : (vol.create name text).bodies[vol.bodies.length]? = some (.fresh text) :=
    List.getElem?_concat_length
  rw [text?, standing?, nodeAt_create, if_pos rfl]
  simp [body, fresh_text?]

theorem sole_create (name text : String) {other : String} (sole : vol.Sole other) :
    (vol.create name text).Sole other := by
  by_cases same : other = name
  · subst same
    refine .file vol.bodies.length ⟨?_, fun third there => ?_, fun body held => ?_⟩
    · rw [nodeAt_create, if_pos rfl]
    · rw [nodeAt_create] at there
      split at there
      · assumption
      · exact absurd (vol.housed third _ there) (Nat.lt_irrefl _)
    · cases List.getElem?_concat_length.symm.trans held
      rfl
  · have kept : (vol.create name text).nodeAt other = vol.nodeAt other := by
      rw [nodeAt_create, if_neg same]
    cases sole with
    | free free => exact .free (kept.trans free)
    | directory there => exact .directory (kept.trans there)
    | file number housed =>
      refine .file number ⟨kept.trans housed.node, fun third there => ?_, fun body held => ?_⟩
      · rw [nodeAt_create] at there
        split at there
        · cases there
          exact absurd (vol.housed other _ housed.node) (Nat.lt_irrefl _)
        · exact housed.only third there
      · rw [bodies_create housed.node] at held
        exact housed.readable body held

end Create

section Rewrite

variable {number : Nat}

theorem bodies_rewrite (vol : Volume) (number : Nat) (text : String) (other : Nat) :
    (vol.rewrite number text).bodies[other]? = (vol.bodies[other]?).map fun body =>
      if other = number then { body with contents := text.toUTF8 } else body := by
  rw [rewrite, List.getElem?_modify]
  by_cases same : number = other
  · simp [same]
  · simp [same, Ne.symm same]

theorem sole_rewrite (number : Nat) (text : String) (sole : vol.Sole name) :
    (vol.rewrite number text).Sole name := by
  cases sole with
  | free free => exact .free free
  | directory there => exact .directory there
  | file other housed =>
    refine .file other ⟨housed.node, housed.only, fun body held => ?_⟩
    rw [bodies_rewrite] at held
    obtain ⟨old, there, rfl⟩ := Option.map_eq_some_iff.mp held
    have readable := housed.readable old there
    split <;> exact readable

theorem standing?_rewrite (housed : Housed vol name number) (text : String) {other : String}
    (h : other ≠ name) : (vol.rewrite number text).standing? other = vol.standing? other := by
  refine standing?_congr rfl fun third there => ?_
  have apart : third ≠ number := by
    rintro rfl
    exact h (housed.only other there)
  rw [bodies_rewrite]
  simp [apart]

theorem text?_rewrite (housed : Housed vol name number) (text : String) :
    (vol.rewrite number text).text? name = some text := by
  obtain ⟨body, there⟩ := body_isSome housed.node
  have node : (vol.rewrite number text).nodeAt name = some (.file number) := housed.node
  have readable := housed.readable body there
  rw [← fresh_text? text]
  simp [text?, standing?, node, bodies_rewrite, there, FileBody.text?, readable, FileBody.fresh]

end Rewrite

section Move

variable {source target : String} {node : Node}

theorem nodeAt_move (held : vol.nodeAt source = some node) (target other : String) :
    (vol.move source target).nodeAt other =
      if other = target then some node else if other = source then none else vol.nodeAt other := by
  have held : Keyed.lookup source vol.nodes = some node := held
  simp only [nodeAt, move, held, Keyed.lookup_insert, Keyed.lookup_erase]

theorem sole_move {number : Nat} (housed : Housed vol source number) (target : String)
    {other : String} (sole : vol.Sole other) : (vol.move source target).Sole other := by
  have node := nodeAt_move housed.node target
  by_cases moved : other = target
  · refine .file number ⟨?_, fun third there => ?_, housed.readable⟩
    · rw [node, if_pos moved]
    · rw [node] at there
      split at there
      · next same => exact same.trans moved.symm
      split at there
      · cases there
      · next apart => exact absurd (housed.only third there) apart
  by_cases left : other = source
  · apply Sole.free
    rw [node, if_neg moved, if_pos left]
  have kept : (vol.move source target).nodeAt other = vol.nodeAt other := by
    rw [node, if_neg moved, if_neg left]
  cases sole with
  | free free => exact .free (kept.trans free)
  | directory there => exact .directory (kept.trans there)
  | file third own =>
    refine .file third ⟨kept.trans own.node, fun fourth there => ?_, own.readable⟩
    rw [node] at there
    split at there
    · cases there
      exact absurd (housed.only other own.node) left
    split at there
    · cases there
    · exact own.only fourth there

theorem standing?_move_target (held : vol.nodeAt source = some node) (target : String) :
    (vol.move source target).standing? target = vol.standing? source := by
  rw [standing?, standing?, nodeAt_move held, if_pos rfl, held]
  rfl

theorem standing?_move_source (held : vol.nodeAt source = some node) (apart : source ≠ target) :
    (vol.move source target).standing? source = none := by
  rw [standing?, nodeAt_move held, if_neg apart, if_pos rfl]

theorem standing?_move {other : String} (held : vol.nodeAt source = some node)
    (not_source : other ≠ source) (not_target : other ≠ target) :
    (vol.move source target).standing? other = vol.standing? other :=
  standing?_congr (by rw [nodeAt_move held, if_neg not_target, if_neg not_source]) fun _ _ => rfl

end Move

section Located

variable {place : Place}

theorem fullName?_of_reach (h : vol.reach .keep p = .ok (.name place)) :
    vol.fullName? p = some (key place) := by
  rw [fullName?, h]
  rfl

theorem exists_of_reach (h : vol.reach .keep p = .ok (.name place)) :
    p.pieces = p.front ++ [p.fileName] ∧ Path.Names p.fileName ∧
      ∃ t, vol.walk .enter linkLimit [] p.front = .ok t ∧ place = t.place ++ [p.fileName] := by
  rw [reach] at h
  split at h
  · cases h
  next given =>
  have pieces := p.pieces_eq.resolve_right fun empty => given (.inr empty)
  rw [pieces, walk_keep] at h
  cases led : vol.walk .enter linkLimit [] p.front with
  | error fault =>
    rw [led] at h
    cases h
  | ok t =>
    rw [led, Except.map, lastTarget] at h
    split at h
    · cases h
    next busy =>
    split at h
    · cases h
    · next names =>
      cases h
      exact ⟨pieces, ⟨Bool.eq_false_iff.mpr busy, names⟩, t, rfl, rfl⟩

theorem node?_of_reach (h : vol.reach .keep p = .ok (.name place)) (vol' : Volume) :
    vol'.node? place = vol'.nodeAt (key place) := by
  obtain ⟨-, -, t, -, rfl⟩ := exists_of_reach h
  exact node?_concat t.place p.fileName

theorem reach_follow (unlinked : ∀ name, vol.fullName? p = some name → vol.Unlinked name) :
    vol.reach .follow p = vol.reach .keep p := by
  have plain (place : Place) (found : vol.reach .keep p = .ok (.name place)) (text : String) :
      vol.node? place ≠ some (.link text) := by
    rw [node?_of_reach found]
    exact unlinked _ (fullName?_of_reach found) text
  simp only [reach] at plain ⊢
  split
  · rfl
  · next given =>
    simp only [if_neg given] at plain
    exact walk_follow plain

theorem node?_eq (given : place ≠ []) : vol.node? place = vol.nodeAt (key place) := by
  rw [node?, if_neg (by simpa using given)]
  rfl

theorem read?_eq_some : vol.read? p = some text ↔ ∃ place,
    vol.reach .follow p = .ok (.name place) ∧ place ≠ [] ∧ vol.text? (key place) = some text := by
  rw [read?]
  cases found : vol.reach .follow p with
  | error fault => simp
  | ok target =>
    cases target with
    | directory place => simp
    | name place =>
      cases place with
      | nil => simp [node?]
      | cons first rest =>
        dsimp only
        rw [node?_eq (List.cons_ne_nil first rest)]
        simp only [Except.ok.injEq, Target.name.injEq, exists_eq_left', ne_eq, reduceCtorEq,
          not_false_eq_true, true_and, text?, standing?]
        rcases vol.nodeAt (key (first :: rest)) with _ | (_ | number | _ | _) <;> try simp
        cases vol.bodies[number]? <;> simp

theorem read?_fresh (place : Place) (found : vol.reach .follow p = .ok (.name place))
    (given : place ≠ []) (there : vol.standing? (key place) = some (.file (.fresh text))) :
    vol.read? p = some text :=
  read?_eq_some.mpr ⟨place, found, given, text?_eq_some.mpr ⟨_, there, fresh_text? text⟩⟩

theorem read?_eq (unlinked : ∀ name, vol.fullName? p = some name → vol.Unlinked name) :
    vol.read? p = (vol.fullName? p).bind vol.text? := by
  ext text
  rw [read?_eq_some, reach_follow unlinked, Option.bind_eq_some_iff]
  constructor
  · rintro ⟨place, found, -, held⟩
    exact ⟨key place, fullName?_of_reach found, held⟩
  · rintro ⟨name, named, held⟩
    unfold fullName? named? at named
    split at named
    · next place found =>
      cases named
      obtain ⟨-, -, t, -, rfl⟩ := exists_of_reach found
      exact ⟨_, found, by simp, held⟩
    · cases named

theorem exists_fullName?_of_read? (h : vol.read? p = some text) :
    ∃ name, vol.fullName? p = some name := by
  by_contra none
  push Not at none
  rw [read?_eq fun name named => absurd named (none name), Option.bind_eq_some_iff] at h
  obtain ⟨name, named, -⟩ := h
  exact none name named

theorem write_ok (sole : ∀ name, vol.fullName? p = some name → vol.Sole name)
    (h : vol.write p text = .ok vol') :
    ∃ name, vol.fullName? p = some name ∧ (∀ other, vol.Sole other → vol'.Sole other) ∧
      vol'.text? name = some text ∧
      ∀ other, other ≠ name → vol'.standing? other = vol.standing? other := by
  rw [write, reach_follow fun name named => (sole name named).unlinked] at h
  split at h
  · next place found =>
    have named := fullName?_of_reach found
    rw [node?_of_reach found] at h
    cases sole _ named with
    | free free =>
      rw [free] at h
      cases h
      exact ⟨_, named, fun _ => sole_create _ text, text?_create vol _ text,
        fun _ => standing?_create⟩
    | directory there =>
      rw [there] at h
      cases h
    | file number housed =>
      simp only [housed.node] at h
      split at h
      · cases h
        exact ⟨_, named, fun _ => sole_rewrite number text, text?_rewrite housed text,
          fun _ => standing?_rewrite housed text⟩
      · cases h
  · cases h
  · cases h

theorem exists_of_rename {source target : Path} (h : vol.rename source target = .ok vol') :
    ∃ place, vol.reach .keep target = .ok (.name place) := by
  unfold rename at h
  split at h
  · next s t first second => exact ⟨t, second⟩
  all_goals cases h

/-- To move a file of its own touches no name but its old and its new one. -/
theorem rename_ok {source target : Path}
    (sole : ∀ name, vol.fullName? source = some name → vol.Sole name)
    (h : vol.rename source target = .ok vol') :
    ∃ s t, vol.fullName? source = some s ∧ vol.fullName? target = some t ∧
      (∀ other, vol.Sole other → vol'.Sole other) ∧
      (s ≠ t → vol'.standing? t = vol.standing? s ∧ vol'.standing? s = none) ∧
      ∀ other, other ≠ s → other ≠ t → vol'.standing? other = vol.standing? other := by
  unfold rename at h
  split at h
  · next s t first second =>
    have named := fullName?_of_reach first
    rw [node?_of_reach first, node?_of_reach second] at h
    refine ⟨_, _, named, fullName?_of_reach second, ?_⟩
    cases sole _ named with
    | free free =>
      rw [if_pos free] at h
      cases h
    | directory there =>
      simp [there] at h
    | file number housed =>
      simp only [housed.node, reduceCtorEq, if_false] at h
      split at h
      · cases h
      split at h
      · next same =>
        cases h
        -- a file without another name is moved to where it is
        have there : vol.nodeAt (key t) = some (.file number) := by
          rw [sameFile.eq_def] at same
          split at same
          · next n m first second =>
            cases first
            rw [second, ← of_decide_eq_true same]
          · cases same
        have at_home := housed.only _ there
        exact ⟨fun _ => id, fun apart => absurd at_home.symm apart, fun _ _ _ => rfl⟩
      · cases h
        exact ⟨fun _ => sole_move housed _, fun apart => ⟨standing?_move_target housed.node _,
          standing?_move_source housed.node apart⟩, fun _ => standing?_move housed.node⟩
  all_goals cases h

end Located

def Extends (vol vol' : Volume) : Prop :=
  ∀ name s, vol.standing? name = some s → vol'.standing? name = some s

namespace Extends

theorem leads (h : Extends vol vol') : Leads vol vol' where
  directory name there := standing?_directory.mp (h name _ (standing?_directory.mpr there))
  link name _ there := standing?_link.mp (h name _ (standing?_link.mpr there))

theorem fullName? (h : Extends vol vol') (named : vol.fullName? p = some name) :
    vol'.fullName? p = some name := h.leads.fullName? named

theorem text? (h : Extends vol vol') (held : vol.text? name = some text) :
    vol'.text? name = some text := by
  rw [text?_eq_some] at held ⊢
  obtain ⟨body, there, same⟩ := held
  exact ⟨body, h name _ there, same⟩

end Extends

theorem unlinked_of_text? (held : vol.text? name = some text) : vol.Unlinked name := by
  obtain ⟨body, there, -⟩ := text?_eq_some.mp held
  intro target link
  cases there.symm.trans (standing?_link.mpr link)

/-- Where ways lead on, a file that is read is found again. -/
theorem Leads.reach_of_text? (h : Leads vol vol') {place : Place}
    (found : vol.reach .follow p = .ok (.name place)) (given : place ≠ [])
    (held : vol'.text? (key place) = some text) : vol'.reach .follow p = .ok (.name place) := by
  refine h.reach found fun _ same _ => ?_
  cases same
  rw [stops_follow_iff, node?_eq given]
  exact unlinked_of_text? held

theorem Extends.read? (h : Extends vol vol') (read : vol.read? p = some text) :
    vol'.read? p = some text := by
  rw [read?_eq_some] at read ⊢
  obtain ⟨place, found, given, held⟩ := read
  exact ⟨place, h.leads.reach_of_text? found given (h.text? held), given, h.text? held⟩

/-- What is read after a text was written was read before, or is that text. -/
theorem read?_before (written : vol'.text? name = some text)
    (elsewhere : ∀ other, other ≠ name → vol'.standing? other = vol.standing? other)
    {other : String} (read : vol'.read? p = some other) : vol.read? p = some other ∨ other = text := by
  obtain ⟨body, there, -⟩ := text?_eq_some.mp written
  have leads : Leads vol' vol := by
    constructor
    · intro n led
      rw [← standing?_directory] at led ⊢
      rw [← elsewhere, led]
      rintro rfl
      cases there.symm.trans led
    · intro n target led
      rw [← standing?_link] at led ⊢
      rw [← elsewhere, led]
      rintro rfl
      cases there.symm.trans led
  obtain ⟨place, found, given, held⟩ := read?_eq_some.mp read
  by_cases same : key place = name
  · right
    rw [same, written] at held
    exact (Option.some.inj held).symm
  · left
    have held : vol.text? (key place) = some other :=
      (text?_congr (elsewhere _ same)).symm.trans held
    exact read?_eq_some.mpr ⟨place, leads.reach_of_text? found given held, given, held⟩

def without (vol : Volume) (names : List String) : Volume := names.foldl remove vol

theorem standing?_remove (vol : Volume) (name other : String) :
    (vol.remove name).standing? other = if other = name then none else vol.standing? other := by
  have node : (vol.remove name).nodeAt other = if other = name then none else vol.nodeAt other :=
    Keyed.lookup_erase name other vol.nodes
  split
  · next same => rw [standing?, node, if_pos same]
  · next apart => exact standing?_congr (by rw [node, if_neg apart]) fun _ _ => rfl

theorem standing?_without (vol : Volume) (names : List String) (name : String) :
    (vol.without names).standing? name = if name ∈ names then none else vol.standing? name := by
  induction names generalizing vol with
  | nil => simp [without]
  | cons first rest ih =>
    have removed : vol.without (first :: rest) = (vol.remove first).without rest := rfl
    rw [removed, ih, standing?_remove]
    by_cases same : name = first <;> by_cases later : name ∈ rest <;> simp [same, later]

theorem extends_without (vol : Volume) (names : List String) :
    Extends (vol.without names) vol := by
  intro name s there
  rw [standing?_without] at there
  split at there
  · cases there
  · exact there

end CommandBridge.Volume

import CommandBridge.Files.Volume
import CommandBridge.Proofs.Files.Store

/-!
# Walks through a volume

A walk is decided by the directories and the links that are there. What a path names is found where
the pieces before its last one lead, and a path that does not end at a link leads there followed or
not.
-/

set_option autoImplicit false

namespace CommandBridge.Volume

open FileTree (Place Target key named?)

variable {vol vol' : Volume} {last : Last} {links : Nat} {dir : Place} {pieces : List String}
  {p : Path}

def nodeAt (vol : Volume) (name : String) : Option Node := Keyed.lookup name vol.nodes

def enter? (vol : Volume) (pieces : List String) : Option Place :=
  (vol.walk .enter linkLimit [] pieces).toOption.map Target.place

/-- The full name of what a path names, unless it names a directory by where that is. -/
def fullName? (vol : Volume) (p : Path) : Option String := (named? (vol.reach .keep p)).map key

theorem node?_concat (dir : Place) (name : String) :
    vol.node? (dir ++ [name]) = vol.nodeAt (key (dir ++ [name])) := by simp [node?, nodeAt]

/-- A walk over more pieces goes on from where the first ones lead. -/
theorem stretch_append {more : List String} (given : more ≠ []) :
    vol.stretch last dir (pieces ++ more) =
    match vol.stretch .enter dir pieces with
    | .found target => vol.stretch last target.place more
    | .link dir text rest => .link dir text (rest ++ more)
    | .fault fault => .fault fault := by
  induction pieces generalizing dir with
  | nil => rfl
  | cons piece rest ih =>
    have open_end : (rest ++ more).isEmpty = false := by simp [given]
    simp only [List.cons_append, stretch, open_end, Last.stops, Bool.false_eq_true, false_and,
      and_false, if_false, ih]
    split
    · rfl
    split
    · rfl
    split <;> rfl

section Stops

variable {target : Target} {fault : FileFault} {at_dir : Place} {text : String} {rest : List String}

theorem walk_of_found (h : vol.stretch last dir pieces = .found target) :
    vol.walk last links dir pieces = .ok target := by rw [walk, h]

theorem walk_of_fault (h : vol.stretch last dir pieces = .fault fault) :
    vol.walk last links dir pieces = .error fault := by rw [walk, h]

theorem walk_of_last_link (h : vol.stretch last dir pieces = .link at_dir text rest) :
    vol.walk last 0 dir pieces = .error .refused := by rw [walk, h]

theorem walk_of_link (h : vol.stretch last dir pieces = .link at_dir text rest) :
    vol.walk last (links + 1) dir pieces =
      vol.walk last links (origin at_dir text) (Text.cut '/' text ++ rest) := by rw [walk, h]

end Stops

/-- Where the last pieces are no link, they are taken from where those before them lead. -/
theorem walk_append {more : List String} {f : Place → Target} (given : more ≠ [])
    (ends : ∀ t, vol.walk .enter links dir pieces = .ok t →
      vol.stretch last t.place more = .found (f t.place)) :
    vol.walk last links dir (pieces ++ more) =
      (vol.walk .enter links dir pieces).map fun t => f t.place := by
  have go_on (dir : Place) (pieces : List String) :
      vol.stretch last dir (pieces ++ more) = _ := stretch_append given
  fun_induction vol.walk .enter links dir pieces with
  | case1 links dir pieces target stop =>
    refine walk_of_found ?_
    rw [go_on, stop]
    exact ends target rfl
  | case2 links dir pieces fault stop =>
    refine walk_of_fault ?_
    rw [go_on, stop]
  | case3 dir pieces at_dir text rest stop =>
    have stop : vol.stretch last dir (pieces ++ more) = .link at_dir text (rest ++ more) := by
      rw [go_on, stop]
    exact walk_of_last_link stop
  | case4 dir pieces at_dir text rest stop links ih =>
    rw [← ih ends, List.append_assoc]
    refine walk_of_link ?_
    rw [go_on, stop]

def lastTarget (dir : Place) (piece : String) : Target :=
  if Path.isIdle piece then .directory dir
  else if piece = ".." then .directory dir.dropLast
  else .name (dir ++ [piece])

theorem walk_keep (links : Nat) (dir : Place) (pieces : List String) (piece : String) :
    vol.walk .keep links dir (pieces ++ [piece]) =
      (vol.walk .enter links dir pieces).map fun t => lastTarget t.place piece := by
  refine walk_append (f := fun dir => lastTarget dir piece) (List.cons_ne_nil _ _) fun t _ => ?_
  simp only [stretch, lastTarget, List.isEmpty_nil, Last.stops, and_self, if_true]
  split
  · rfl
  split <;> rfl

theorem walk_enter_idle {piece : String} (idle : Path.isIdle piece = true) :
    (vol.walk .enter links dir (pieces ++ [piece])).toOption.map Target.place =
      (vol.walk .enter links dir pieces).toOption.map Target.place := by
  rw [walk_append (f := .directory) (List.cons_ne_nil _ _) fun t _ => by simp [stretch, idle]]
  cases vol.walk .enter links dir pieces <;> rfl

/-- The last of the pieces that lead to a directory is there, in one they lead to without it. -/
theorem exists_of_walk_enter {piece : String} {target : Target}
    (h : vol.walk .enter links dir (pieces ++ [piece]) = .ok target) :
    ∃ t, vol.walk .enter links dir pieces = .ok t ∧
      (Path.Names piece → (vol.node? (t.place ++ [piece])).isSome) := by
  have go_on (dir : Place) (pieces : List String) :
      vol.stretch .enter dir (pieces ++ [piece]) = _ := stretch_append (List.cons_ne_nil piece [])
  fun_induction vol.walk .enter links dir pieces with
  | case1 links dir pieces t stop =>
    refine ⟨t, rfl, fun names => ?_⟩
    by_contra absent
    rw [Option.not_isSome_iff_eq_none] at absent
    rw [walk, go_on, stop] at h
    simp [stretch, names.1, names.2, absent, Last.stops] at h
  | case2 links dir pieces fault stop =>
    rw [walk, go_on, stop] at h
    cases h
  | case3 dir pieces at_dir text rest stop =>
    rw [walk, go_on, stop] at h
    cases h
  | case4 dir pieces at_dir text rest stop links ih =>
    apply ih
    rw [walk, go_on, stop] at h
    rwa [List.append_assoc]

theorem named?_lastTarget (dir : Place) (piece : String) :
    named? (.ok (lastTarget dir piece)) =
      if Path.Names piece then some (dir ++ [piece]) else none := by
  unfold lastTarget
  split
  next idle => rw [if_neg fun names : Path.Names piece => absurd idle (by simp [names.1])]; rfl
  next given =>
    split
    next up => rw [if_neg fun names : Path.Names piece => names.2 up]; rfl
    next apart => rw [if_pos ⟨eq_false_of_ne_true given, apart⟩]; rfl

theorem naming (vol : Volume) : Naming vol.enter? vol.fullName? where
  idle pieces piece idle := walk_enter_idle idle
  fullName?_eq p := by
    have unnamed (h : p.fileName = "") : ¬Path.Names p.fileName := by
      rw [h]
      decide
    rw [fullName?, reach]
    split
    · next empty =>
      rw [if_neg (unnamed _)]
      · rfl
      · rcases empty with empty | empty <;> simp [Path.fileName, empty]
    · next given =>
      rcases p.pieces_eq with pieces | empty
      · rw [pieces, walk_keep, enter?]
        cases vol.walk .enter linkLimit [] p.front with
        | error fault => simp [named?, Except.map, Except.toOption]
        | ok t =>
          rw [Except.map, named?_lastTarget]
          split <;> rfl
      · exact absurd (.inr empty) given

theorem stops_follow_iff {node : Option Node} :
    Last.follow.stops node = true ↔ ∀ text, node ≠ some (.link text) := by
  rcases node with _ | (_ | _ | _ | _) <;> simp [Last.stops]

/-- A path that does not end at a link leads there followed or not. -/
theorem stretch_follow
    (plain : ∀ place, vol.stretch .keep dir pieces = .found (.name place) →
      ∀ text, vol.node? place ≠ some (.link text)) :
    vol.stretch .follow dir pieces = vol.stretch .keep dir pieces := by
  induction pieces generalizing dir with
  | nil => rfl
  | cons piece rest ih =>
    simp only [stretch] at plain ⊢
    split
    · next idle =>
      rw [if_pos idle] at plain
      exact ih plain
    next busy =>
    rw [if_neg busy] at plain
    split
    · next back =>
      rw [if_pos back] at plain
      exact ih plain
    next names =>
    rw [if_neg names] at plain
    cases rest with
    | nil =>
      have free := plain (dir ++ [piece]) (by simp [Last.stops])
      rw [if_pos ⟨rfl, stops_follow_iff.mpr free⟩, if_pos ⟨rfl, rfl⟩]
    | cons next more =>
      simp only [List.isEmpty_cons, Bool.false_eq_true, false_and, if_false] at plain ⊢
      split
      · next there =>
        rw [there] at plain
        exact ih plain
      all_goals rfl

theorem walk_follow
    (plain : ∀ place, vol.walk .keep links dir pieces = .ok (.name place) →
      ∀ text, vol.node? place ≠ some (.link text)) :
    vol.walk .follow links dir pieces = vol.walk .keep links dir pieces := by
  have same (dir : Place) (pieces : List String)
      (plain : ∀ place, vol.stretch .keep dir pieces = .found (.name place) →
        ∀ text, vol.node? place ≠ some (.link text)) :=
    stretch_follow plain
  fun_induction vol.walk .keep links dir pieces with
  | case1 links dir pieces target stop =>
    refine walk_of_found ((same dir pieces fun place found => ?_).trans stop)
    rw [stop] at found
    cases found
    exact plain place rfl
  | case2 links dir pieces fault stop =>
    refine walk_of_fault ((same dir pieces fun place found => ?_).trans stop)
    rw [stop] at found
    cases found
  | case3 dir pieces at_dir text rest stop =>
    refine walk_of_last_link ((same dir pieces fun place found => ?_).trans stop)
    rw [stop] at found
    cases found
  | case4 dir pieces at_dir text rest stop links ih =>
    rw [← ih plain]
    refine walk_of_link ((same dir pieces fun place found => ?_).trans stop)
    rw [stop] at found
    cases found

structure Leads (vol vol' : Volume) : Prop where
  directory : ∀ name, vol.nodeAt name = some .directory → vol'.nodeAt name = some .directory
  link : ∀ name text, vol.nodeAt name = some (.link text) → vol'.nodeAt name = some (.link text)

namespace Leads

theorem stretch (h : Leads vol vol') {stop : Stop} (stopped : vol.stretch last dir pieces = stop)
    (led : ∀ fault, stop ≠ .fault fault)
    (ends : ∀ place, stop = .found (.name place) → last.stops (vol.node? place) = true →
      last.stops (vol'.node? place) = true) :
    vol'.stretch last dir pieces = stop := by
  induction pieces generalizing dir with
  | nil => exact stopped
  | cons piece rest ih =>
    rw [Volume.stretch] at stopped ⊢
    split
    · next idle => exact ih ((if_pos idle).symm.trans stopped)
    next busy =>
    rw [if_neg busy] at stopped
    split
    · next back => exact ih ((if_pos back).symm.trans stopped)
    next names =>
    rw [if_neg names] at stopped
    split at stopped
    · next there =>
      subst stopped
      rw [if_pos ⟨there.1, ends _ rfl there.2⟩]
    next on =>
    split at stopped
    · next there =>
      have kept : vol'.node? (dir ++ [piece]) = some .directory := by
        rw [node?_concat] at there ⊢
        exact h.directory _ there
      rw [there, ← kept] at on
      rw [if_neg on, kept]
      exact ih stopped
    · next text there =>
      have kept : vol'.node? (dir ++ [piece]) = some (.link text) := by
        rw [node?_concat] at there ⊢
        exact h.link _ text there
      rw [there, ← kept] at on
      rw [if_neg on, kept]
      exact stopped
    · exact absurd stopped.symm (led _)
    · exact absurd stopped.symm (led _)

theorem walk (h : Leads vol vol') {target : Target}
    (led : vol.walk last links dir pieces = .ok target)
    (ends : ∀ place, target = .name place → last.stops (vol.node? place) = true →
      last.stops (vol'.node? place) = true) :
    vol'.walk last links dir pieces = .ok target := by
  fun_induction vol.walk last links dir pieces with
  | case1 links dir pieces found stop =>
    cases led
    refine walk_of_found (h.stretch stop nofun fun place same => ends place ?_)
    cases same
    rfl
  | case2 | case3 => cases led
  | case4 dir pieces at_dir text rest stop links ih =>
    rw [← ih led]
    exact walk_of_link (h.stretch stop nofun nofun)

theorem reach (h : Leads vol vol') {target : Target} (led : vol.reach last p = .ok target)
    (ends : ∀ place, target = .name place → last.stops (vol.node? place) = true →
      last.stops (vol'.node? place) = true) :
    vol'.reach last p = .ok target := by
  unfold Volume.reach at led ⊢
  split at led
  · cases led
  · next given =>
    rw [if_neg given]
    exact h.walk led ends

theorem fullName? (h : Leads vol vol') {name : String} (named : vol.fullName? p = some name) :
    vol'.fullName? p = some name := by
  unfold Volume.fullName? named? at named ⊢
  split at named
  · next place found => rwa [h.reach found fun _ _ _ => rfl]
  · cases named

end Leads

end CommandBridge.Volume

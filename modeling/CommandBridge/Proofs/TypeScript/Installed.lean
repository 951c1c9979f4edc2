import CommandBridge.Proofs.TypeScript.Placement

/-!
# A client that was installed

A client and its support module stand in one directory under different names and differ in their
texts, so the one never passes for the other. Where nothing is entangled with their files, they are
in place after an installation that succeeds.
-/

set_option autoImplicit false

namespace CommandBridge.TypeScript

open FileStore (makeDirectories)
open Volume (Kept)

variable {A : Application} {vol vol' : Volume} {p : Path} {client : String}

/-- A client and its support module share no names, unless by the client's own. -/
theorem apart_clientFiles {dir : FileTree.Place} (beside : Beside vol.fullName? p dir)
    (support : p.fileName ≠ supportFile) (supportTemporary : p.fileName ≠ supportFile ++ ".tmp") :
    Apart vol (clientFiles client p) := by
  have piece {q other : Path} {first second name : String}
      (at_first : vol.fullName? q = some (FileTree.key (dir ++ [first])))
      (at_second : vol.fullName? other = some (FileTree.key (dir ++ [second])))
      (same : vol.fullName? q = some name ∧ vol.fullName? other = some name) : first = second := by
    apply FileTree.key_child_inj.mp
    rw [← Option.some_inj, ← at_first, ← at_second, same.1, same.2]
  constructor
  · rw [clientFiles_eq, List.forall_mem_cons, List.forall_mem_singleton]
    constructor
    · refine ⟨_, _, beside.client, beside.clientTemporary, ?_⟩
      rw [ne_eq, FileTree.key_child_inj]
      exact fun same => absurd (String.append_eq_left_iff.mp same.symm) (by decide)
    · refine ⟨_, _, beside.support, beside.supportTemporary, ?_⟩
      rw [ne_eq, FileTree.key_child_inj]
      decide
  · rw [clientFiles_eq, List.pairwise_pair]
    rintro name (mine | mine) (same | same)
    · exact support (piece beside.client beside.support ⟨mine, same⟩)
    · exact supportTemporary (piece beside.client beside.supportTemporary ⟨mine, same⟩)
    · exact support_not_temporary vol.naming mine same
    · have ended := piece beside.clientTemporary beside.supportTemporary ⟨mine, same⟩
      exact support ((String.append_left_inj _).mp ended)

theorem exists_fullName? {changed : Bool}
    (sole : vol.read? p ≠ some client → ∀ name, vol.fullName? (temporary p) = some name →
      vol.Sole name)
    (h : installAll (clientFiles client p) vol = (vol', .ok changed)) :
    ∃ name, vol.fullName? p = some name := by
  obtain ⟨staged, vol₁, stages, moves, -⟩ := installAll_ok h
  cases stages with
  | kept placed later => exact Volume.exists_fullName?_of_read? placed
  | written other wrote later =>
    obtain ⟨temp, named, -⟩ := Volume.write_ok (sole other) wrote
    rw [fullName?_temporary vol.naming] at named
    obtain ⟨dir, entered, -⟩ := Option.map_eq_some_iff.mp named
    cases moves with
    | cons moved _ =>
      obtain ⟨place, found⟩ := Volume.exists_of_rename moved
      exact ⟨_, (beside_of_enter? vol.naming (Volume.exists_of_reach found).2.1 entered).client⟩

theorem begins_append {s begun : String} (t : String) (h : ∃ more, s = begun ++ more) :
    ∃ more, s ++ t = begun ++ more := by
  obtain ⟨more, rfl⟩ := h
  exact ⟨more ++ t, String.append_assoc⟩

def noticeLine : String := "/* Auto-generated by wirebridge - DO NOT EDIT */\n"

theorem headerText_begins : ∃ more, headerText = noticeLine ++ "\n" ++ more := by
  unfold headerText
  repeat refine begins_append _ ?_
  exact ⟨"", by decide⟩

theorem supportText_begins : ∃ more, supportText = noticeLine ++ "l" ++ more := by
  unfold supportText supportLines
  rw [List.map_cons, List.map_cons, String.join_cons, String.join_cons, ← String.append_assoc]
  refine begins_append _ ?_
  exact ⟨"et _baseUrl: string | null = null;\n", by decide⟩

theorem client_ne_supportText {r : Registry A} (generated : generate r = .ok client) :
    client ≠ supportText := by
  have begins : ∃ more, client = noticeLine ++ "\n" ++ more := by
    simp only [generate, bind, Except.bind, pure, Except.pure] at generated
    split at generated
    · cases generated
    split at generated
    · cases generated
    split at generated
    · cases generated
    · cases generated
      exact begins_append _ (begins_append _ (begins_append _ headerText_begins))
  obtain ⟨more, rfl⟩ := begins
  obtain ⟨lines, support⟩ := supportText_begins
  rw [support, String.append_assoc, String.append_assoc, ne_eq, String.append_right_inj]
  intro same
  have same := congrArg (fun s : String => s.toList.head?) same
  simp at same

/-- The volume once the directory of the client is there. -/
def readied (vol : Volume) (p : Path) : Volume := (makeDirectories vol p.directory).1

/-- An installation that succeeds has made directories only, and then put the generated client and
its support module in place. It says whether one of them was not there before, to be read; of its
temporary files none is left, and nothing else is changed. To install the client again changes
nothing. This needs that the client's file is not itself the support module or its temporary file,
and a volume where the files that are changed are not entangled with others. -/
theorem client_installed {r : Registry A} {before after : Volume} {changed : Bool}
    (support : p.fileName ≠ supportFile) (supportTemporary : p.fileName ≠ supportFile ++ ".tmp")
    (free : ∀ client, generate r = .ok client →
      Unentangled (clientFiles client p) (readied before p))
    (done : install r p before = (after, .ok changed)) :
    ∃ client, generate r = .ok client ∧ (∀ name, Kept before (readied before p) name) ∧
      Placed (clientFiles client p) (readied before p) after changed ∧
      install r p after = (after, .ok false) := by
  unfold install at done
  split at done
  · cases done
  next client generated =>
  have kept := Volume.kept_makeDirectories before p.directory
  have free := free client generated
  unfold readied at *
  split at done
  · cases done
  next vol led =>
  rw [led] at kept free ⊢
  obtain ⟨name, named⟩ := exists_fullName? (free.sole _ List.mem_cons_self) done
  obtain ⟨dir, beside⟩ :=
    beside_of_fullName? (Volume.naming _) (free.found _ List.mem_cons_self name named)
  have texts : (clientFiles client p).Pairwise fun f g => f.2 ≠ g.2 :=
    List.pairwise_pair.mpr (client_ne_supportText generated)
  obtain ⟨placed, keeps⟩ := placed_of_installAll free
    (apart_clientFiles beside support supportTemporary) texts done
  -- the directory is entered without the names that are changed
  have there : after.isDirectory p.directory = true := by
    have led := FileStore.isDirectory_of_makeDirectories
      (fun _ _ => Volume.isDirectory_of_makeDirectory) led p.directory_given
    have entered := beside.support
    rw [fullName?_support (Volume.naming _)] at entered
    obtain ⟨dir, entered, -⟩ := Option.map_eq_some_iff.mp entered
    refine keeps.isDirectory (Volume.isDirectory_iff.mpr ⟨(Volume.isDirectory_iff.mp led).1, ?_⟩)
    rw [entered]
    rfl
  refine ⟨client, generated, kept, placed, ?_⟩
  rw [install_of_generate generated (Volume.makeDirectories_of_isDirectory there)]
  exact installAll_of_held placed.held

def unreadable (text : String) : FileBody := { FileBody.fresh text with readable := false }

/-- The way to the client goes through a link. Its file is a link to notes that cannot be read,
and something was left in its temporary file; the support module is a link to one that is in place
elsewhere. -/
def studio : Volume := .ofNodes
  [("notes", .file 0), ("out", .link "web"), ("shared.ts", .file 1), ("web", .directory),
    ("web/_internal.ts", .link "../shared.ts"), ("web/api.ts", .link "/notes"),
    ("web/api.ts.tmp", .file 2)]
  [unreadable "mine", .fresh supportText, .fresh "left"] rfl

def furnished (client : String) : Volume := .ofNodes
  [("notes", .file 0), ("out", .link "web"), ("shared.ts", .file 1), ("web", .directory),
    ("web/_internal.ts", .link "../shared.ts"), ("web/api.ts", .file 2)]
  [unreadable "mine", .fresh supportText, .fresh client] rfl

section Studio

variable (client)

theorem changing_studio : changing (clientFiles client (.ofText "out/api.ts")) studio =
    ["web/api.ts", "web/api.ts.tmp"] := by
  have first : pending studio (.ofText "out/api.ts", client) = true := rfl
  have second : ¬pending studio (supportPath (.ofText "out/api.ts"), supportText) = true :=
    fun other => pending_iff.mp other (Volume.read?_fresh ["shared.ts"] rfl nofun rfl)
  rw [changing, clientFiles_eq, List.filter_cons_of_pos first, List.filter_cons_of_neg second]
  rfl

theorem unentangled_studio :
    Unentangled (clientFiles client (.ofText "out/api.ts")) studio where
  found := by
    rw [changing_studio, clientFiles_eq, List.forall_mem_cons, List.forall_mem_singleton]
    exact ⟨fun _ named => named, fun _ named => named⟩
  placed := by
    rw [changing_studio, clientFiles_eq, List.forall_mem_cons, List.forall_mem_singleton]
    exact ⟨nofun, fun _ => Volume.read?_fresh ["shared.ts"] rfl nofun rfl⟩
  sole := by
    rw [clientFiles_eq, List.forall_mem_cons, List.forall_mem_singleton]
    refine ⟨fun _ name named => ?_, fun other =>
      absurd (Volume.read?_fresh ["shared.ts"] rfl nofun rfl) other⟩
    have temp : studio.fullName? (temporary (.ofText "out/api.ts")) = some "web/api.ts.tmp" := rfl
    cases temp.symm.trans named
    refine .file 2 ⟨rfl, fun other there => ?_, fun body held => ?_⟩
    · have listed := Keyed.mem_of_lookup there
      simp only [studio, Volume.ofNodes] at listed
      simpa using listed
    · cases held
      rfl

end Studio

theorem install_studio (generated : generate silent = .ok client) :
    install silent (.ofText "out/api.ts") studio = (furnished client, .ok true) := by
  rw [install_of_generate generated (Volume.makeDirectories_of_isDirectory rfl)]
  exact installAll_client (studio.rewrite 2 client) nofun rfl
    (Volume.read?_fresh ["shared.ts"] rfl nofun rfl) rfl

theorem studio_furnished : ∃ client, generate silent = .ok client ∧
    install silent (.ofText "out/api.ts") studio = (furnished client, .ok true) ∧
    Placed (clientFiles client (.ofText "out/api.ts")) studio (furnished client) true ∧
    install silent (.ofText "out/api.ts") (furnished client) = (furnished client, .ok false) := by
  obtain ⟨client, generated⟩ := silent_generates
  have done := install_studio generated
  have ready : readied studio (.ofText "out/api.ts") = studio := by
    rw [readied, Volume.makeDirectories_of_isDirectory rfl]
  obtain ⟨_, generated', -, placed, again⟩ := client_installed (by decide) (by decide)
    (fun client _ => by rw [ready]; exact unentangled_studio client) done
  cases generated.symm.trans generated'
  rw [ready] at placed
  exact ⟨client, generated, done, placed, again⟩

def barred : Volume := .ofNodes [("api.ts.tmp", .file 0)] [unreadable "left"] rfl

def sealed (client : String) : Volume := .ofNodes
  [("_internal.ts", .file 1), ("api.ts", .file 0)] [unreadable client, .fresh supportText] rfl

theorem install_sealed (generated : generate silent = .ok client) :
    (install silent (.ofText "api.ts") (sealed client)).2 = .ok true := by
  have first : FileStore.read? (sealed client) (.ofText "api.ts") ≠ some client := nofun
  let staged := (sealed client).create "api.ts.tmp" client
  have moved : FileStore.rename staged (temporary (.ofText "api.ts")) (.ofText "api.ts") =
      .ok (staged.move "api.ts.tmp" "api.ts") := rfl
  rw [install_of_generate generated (Volume.makeDirectories_of_isDirectory rfl),
    installAll_client staged first rfl (Volume.read?_fresh ["_internal.ts"] rfl nofun rfl) moved]

def crossed : Volume := .ofNodes
  [("api.ts.tmp", .link "notes"), ("notes", .file 0)] [.fresh "mine"] rfl

def uncrossed (client : String) : Volume := .ofNodes
  [("_internal.ts", .file 1), ("api.ts", .link "notes"), ("notes", .file 0)]
  [.fresh client, .fresh supportText] rfl

def shared : Volume := .ofNodes
  [("api.ts.tmp", .file 0), ("notes", .file 0)] [.fresh "mine"] rfl

def unshared (client : String) : Volume := .ofNodes
  [("_internal.ts", .file 1), ("api.ts", .file 0), ("notes", .file 0)]
  [.fresh client, .fresh supportText] rfl

def wired (client : String) : Volume := .ofNodes
  [("_internal.ts.tmp", .file 0), ("api.ts", .link "_internal.ts.tmp")] [.fresh client] rfl

def unwired : Volume := .ofNodes
  [("_internal.ts", .file 0), ("api.ts", .link "_internal.ts.tmp")] [.fresh supportText] rfl

theorem install_wired (generated : generate silent = .ok client) :
    install silent (.ofText "api.ts") (wired client) = (unwired, .ok true) := by
  have first : FileStore.read? (wired client) (.ofText "api.ts") = some client :=
    Volume.read?_fresh ["_internal.ts.tmp"] rfl nofun rfl
  rw [install_of_generate generated (Volume.makeDirectories_of_isDirectory rfl), installAll,
    clientFiles_eq, stageAll, if_pos first]
  rfl

/-- A way to the client through a link in its own place. -/
def looped : Volume := .ofNodes
  [("_internal.ts", .file 0), ("api.ts", .link "sub"), ("sub", .directory)]
  [.fresh supportText] rfl

def unlooped (client : String) : Volume := .ofNodes
  [("_internal.ts", .file 0), ("api.ts", .file 1), ("sub", .directory)]
  [.fresh supportText, .fresh client] rfl

theorem install_looped (generated : generate silent = .ok client) :
    install silent (.ofText "api.ts/../api.ts") looped = (unlooped client, .ok true) := by
  rw [install_of_generate generated (Volume.makeDirectories_of_isDirectory rfl)]
  exact installAll_client (looped.create "api.ts.tmp" client) nofun rfl
    (Volume.read?_fresh ["_internal.ts"] rfl nofun rfl) rfl

/-- A client that was moved from a file that cannot be read is installed again although it is in
place. A file that has a temporary name besides, or that a link in its place leads to, is
overwritten, and a client in place that is a link to such a name is lost. A client that is put in
the place of a link on the way to it is not found there. -/
theorem entangled_install : ∃ client, generate silent = .ok client ∧
    (install silent (.ofText "api.ts") barred = (sealed client, .ok true) ∧
      (sealed client).standing? "api.ts" = some (.file (unreadable client)) ∧
      (sealed client).standing? "_internal.ts" = some (.file (.fresh supportText)) ∧
      (install silent (.ofText "api.ts") (sealed client)).2 = .ok true) ∧
    (install silent (.ofText "api.ts") crossed = (uncrossed client, .ok true) ∧
      crossed.standing? "notes" = some (.file (.fresh "mine")) ∧
      (uncrossed client).standing? "notes" = some (.file (.fresh client))) ∧
    (install silent (.ofText "api.ts") shared = (unshared client, .ok true) ∧
      shared.standing? "notes" = some (.file (.fresh "mine")) ∧
      (unshared client).standing? "notes" = some (.file (.fresh client))) ∧
    (install silent (.ofText "api.ts") (wired client) = (unwired, .ok true) ∧
      unwired.read? (.ofText "api.ts") = none) ∧
    install silent (.ofText "api.ts/../api.ts") looped = (unlooped client, .ok true) ∧
      (unlooped client).read? (.ofText "api.ts/../api.ts") = none := by
  obtain ⟨client, generated⟩ := silent_generates
  refine ⟨client, generated, ⟨?_, rfl, rfl, install_sealed generated⟩, ⟨?_, rfl, rfl⟩,
    ⟨?_, rfl, rfl⟩, ⟨install_wired generated, rfl⟩, install_looped generated, rfl⟩
  all_goals
    rw [install_of_generate generated (Volume.makeDirectories_of_isDirectory rfl)]
    rfl

end CommandBridge.TypeScript

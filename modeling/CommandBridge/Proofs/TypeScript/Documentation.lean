import CommandBridge.Proofs.Schema.Undocumented
import CommandBridge.Proofs.TypeScript.Comments
import CommandBridge.Proofs.TypeScript.Outline

/-!
# Documentation of a client module

A client module is cut into pieces: its code, and the places of the comments between. Each text
for a reader fills one place and nothing else. So the code is that of the registry without its
texts, piece by piece, and every comment ends where its place does.
-/

set_option autoImplicit false

namespace CommandBridge.TypeScript

open KeyCase

variable {A : Application}

/-- A piece of the client text: code, or the place of a comment, which may be left blank. -/
inductive Piece where
  | code (text : String)
  | comment (text : String)

namespace Piece

def text : Piece → String
  | code t => t
  | comment t => t

def isCode : Piece → Bool
  | code _ => true
  | comment _ => false

/-- The piece with its place left blank. -/
def emptied : Piece → Piece
  | code t => code t
  | comment _ => comment ""

def filling? : Piece → Option String
  | code _ => none
  | comment t => some t

end Piece

def textOf (pieces : List Piece) : String := String.join (pieces.map Piece.text)

def written (texts : List String) : List String := texts.filter fun t => decide (t ≠ "")

def commentsIn (pieces : List Piece) : List String := written (pieces.filterMap Piece.filling?)

theorem textOf_cons (p : Piece) (rest : List Piece) : textOf (p :: rest) = p.text ++ textOf rest := by
  rw [textOf, List.map_cons, String.join_cons, textOf]

theorem textOf_append (a b : List Piece) : textOf (a ++ b) = textOf a ++ textOf b := by
  rw [textOf, List.map_append, String.join_append, textOf, textOf]

theorem textOf_emptied (pieces : List Piece) :
    textOf (pieces.map Piece.emptied) = textOf (pieces.filter Piece.isCode) := by
  induction pieces with
  | nil => rfl
  | cons p rest ih =>
    rw [List.map_cons, textOf_cons, ih]
    cases p with
    | code t => exact (textOf_cons (.code t) _).symm
    | comment t => exact String.empty_append

theorem textOf_intercalate (separator : String) (parts : List (List Piece)) :
    textOf (List.intercalate [.code separator] parts) =
      String.intercalate separator (parts.map textOf) := by
  induction parts with
  | nil => rfl
  | cons part rest ih =>
    cases rest with
    | nil => rw [List.intercalate_singleton, List.map_singleton, String.intercalate_singleton]
    | cons next rest =>
      rw [List.intercalate_cons_cons, textOf_append, textOf_append, ih]
      simp [textOf, Piece.text]

theorem emptied_intercalate (separator : String) (parts : List (List Piece)) :
    (List.intercalate [.code separator] parts).map Piece.emptied =
      List.intercalate [.code separator] (parts.map (List.map Piece.emptied)) := by
  induction parts with
  | nil => rfl
  | cons part rest ih =>
    cases rest with
    | nil => simp
    | cons next rest =>
      rw [List.intercalate_cons_cons, List.map_append, List.map_append, ih]
      simp [Piece.emptied]

theorem commentsIn_append (a b : List Piece) : commentsIn (a ++ b) = commentsIn a ++ commentsIn b := by
  rw [commentsIn, List.filterMap_append, written, List.filter_append]
  rfl

theorem commentsIn_code (t : String) (rest : List Piece) :
    commentsIn (.code t :: rest) = commentsIn rest := rfl

theorem commentsIn_intercalate (separator : String) (parts : List (List Piece)) :
    commentsIn (List.intercalate [.code separator] parts) = parts.flatMap commentsIn := by
  induction parts with
  | nil => rfl
  | cons part rest ih =>
    cases rest with
    | nil => simp
    | cons next rest =>
      rw [List.intercalate_cons_cons, commentsIn_append, commentsIn_append, ih, List.flatMap_cons]
      exact congrArg (· ++ _) (List.append_nil _)

def Declaration.pieces : Declaration → List Piece
  | interface doc name lines =>
    .comment (docBlock doc) :: .code ("export interface " ++ name ++ " \x7b\n") ::
      (lines.flatMap fun l => [.comment l.1, .code ("    " ++ l.2.text ++ ";\n")]) ++ [.code "\x7d"]
  | enumeration shape => [.comment (docBlock shape.doc), .code (enumText shape.undocumented)]
  | function doc isAsync name params result typeArgs call =>
    [.comment (docBlock doc), .code (function none isAsync name params result typeArgs call).text]

def SocketDeclarations.pieces (s : SocketDeclarations) : List Piece :=
  s.serverEvents.pieces ++ .code "\n\n" :: s.clientEvents.pieces ++ .code "\n\n" :: s.connector.pieces

def sectionPieces (title : String) (parts : List (List Piece)) : List Piece :=
  if parts.isEmpty then []
  else .code ("\n// ============ " ++ title ++ " ============\n\n") ::
    List.intercalate [.code "\n\n"] parts ++ [.code "\n"]

def Outline.pieces (o : Outline) : List Piece :=
  .code headerText :: sectionPieces "Interfaces" (o.definitions.map Declaration.pieces) ++
    sectionPieces "Commands" (o.commands.map Declaration.pieces) ++
    sectionPieces "Sockets" (o.sockets.map SocketDeclarations.pieces)

/-- The pieces of the client text of a registry. -/
def pieces (r : Registry A) : Except GenerateError (List Piece) := (outline r).map Outline.pieces

theorem textOf_lines (lines : List (String × Property)) :
    textOf (lines.flatMap fun l => [.comment l.1, .code ("    " ++ l.2.text ++ ";\n")]) =
      String.join (lines.map fun l => l.1 ++ "    " ++ l.2.text ++ ";\n") := by
  induction lines with
  | nil => rfl
  | cons l rest ih =>
    rw [List.flatMap_cons, textOf_append, ih, List.map_cons, String.join_cons]
    simp [textOf, Piece.text, String.append_assoc]

theorem Declaration.textOf_pieces (d : Declaration) : textOf d.pieces = d.text := by
  cases d with
  | interface doc name lines =>
    rw [pieces, List.cons_append, List.cons_append, textOf_cons, textOf_cons, textOf_append, textOf_lines]
    simp [textOf, Piece.text, text, String.append_assoc]
  | enumeration shape =>
    simp [pieces, textOf, Piece.text, text, enumText, EnumShape.undocumented, docBlock, String.append_assoc]
  | function doc isAsync name params result typeArgs call =>
    simp [pieces, textOf, Piece.text, text, docBlock, String.append_assoc]

theorem SocketDeclarations.textOf_pieces (s : SocketDeclarations) : textOf s.pieces = s.text := by
  rw [pieces, text, textOf_append, textOf_append, textOf_cons, textOf_cons]
  simp [Piece.text, Declaration.textOf_pieces, String.append_assoc]

theorem textOf_sectionPieces (title : String) (parts : List (List Piece)) :
    textOf (sectionPieces title parts) = sectionText title (parts.map textOf) := by
  unfold sectionPieces sectionText
  cases parts with
  | nil => rfl
  | cons part rest =>
    rw [if_neg (by simp), if_neg (by simp), List.cons_append, textOf_cons, textOf_append,
      textOf_intercalate]
    simp [textOf, Piece.text, String.append_assoc]

theorem Outline.textOf_pieces (o : Outline) : textOf o.pieces = o.text := by
  have declarations : textOf ∘ Declaration.pieces = Declaration.text := funext Declaration.textOf_pieces
  have sockets : textOf ∘ SocketDeclarations.pieces = SocketDeclarations.text :=
    funext SocketDeclarations.textOf_pieces
  rw [pieces, text, textOf_append, textOf_append, textOf_cons, textOf_sectionPieces,
    textOf_sectionPieces, textOf_sectionPieces, List.map_map, List.map_map, List.map_map, declarations,
    sockets]
  rfl

def Declaration.undocumented : Declaration → Declaration
  | interface _ name lines => interface none name (lines.map fun l => ("", l.2))
  | enumeration shape => enumeration shape.undocumented
  | function _ isAsync name params result typeArgs call =>
    function none isAsync name params result typeArgs call

def SocketDeclarations.undocumented (s : SocketDeclarations) : SocketDeclarations :=
  ⟨s.serverEvents.undocumented, s.clientEvents.undocumented, s.connector.undocumented⟩

def Outline.undocumented (o : Outline) : Outline :=
  ⟨o.definitions.map Declaration.undocumented, o.commands.map Declaration.undocumented,
    o.sockets.map SocketDeclarations.undocumented⟩

section Undocumented

variable {ε α β γ δ : Type}

/-- Where each step does the same for a changed element, up to a change of its result, so do all. -/
theorem mapM_undocumented {f : β → Except ε γ} {f' : α → Except ε δ} {g : α → β} {h : δ → γ}
    (same : ∀ x, f (g x) = (f' x).map h) (xs : List α) :
    (xs.map g).mapM f = (xs.mapM f').map (List.map h) := by
  rw [← mapM_map, List.mapM_map]
  exact congrArg (xs.mapM ·) (funext same)

variable {table : Definitions} {owner : Owner}

theorem fieldProperty_undocumented (f : Field) : fieldProperty table.undocumented owner f.undocumented =
    (fieldProperty table owner f).map fun l => ("", l.2) := by
  have type : expression table.undocumented owner f.name f.type.undocumented =
      expression table owner f.name f.type := expression_undocumented f.type f.name
  unfold fieldProperty
  rw [FieldOf.mayBeAbsent_undocumented]
  change (expression table.undocumented owner f.name f.type.undocumented >>= _) = _
  rw [type]
  cases expression table owner f.name f.type <;> rfl

theorem definitionDeclaration_undocumented (x : Definition) :
    definitionDeclaration table.undocumented x.undocumented =
      (definitionDeclaration table x).map Declaration.undocumented := by
  cases x with
  | enum shape => rfl
  | record shape =>
    have lines : (shape.fields.map FieldOf.undocumented).mapM
        (fieldProperty table.undocumented (.record shape.name)) =
        (shape.fields.mapM (fieldProperty table (.record shape.name))).map
          (List.map fun l => ("", l.2)) :=
      mapM_undocumented fieldProperty_undocumented shape.fields
    rw [Definition.undocumented, definitionDeclaration, definitionDeclaration]
    change ((shape.fields.map FieldOf.undocumented).mapM
        (fieldProperty table.undocumented (.record shape.name)) >>= _) = _
    rw [lines]
    cases shape.fields.mapM (fieldProperty table (.record shape.name)) <;> rfl

theorem paramProperty_undocumented (p : Param) :
    paramProperty table.undocumented owner p.undocumented = paramProperty table owner p := by
  have type : expression table.undocumented owner p.name p.type.undocumented =
      expression table owner p.name p.type := expression_undocumented p.type p.name
  unfold paramProperty
  rw [Param.isRequired_undocumented]
  change (expression table.undocumented owner p.name p.type.undocumented >>= _) = _
  rw [type]
  rfl

theorem commandResult_undocumented (c : Command A) :
    commandResult table.undocumented owner c.undocumented = commandResult table owner c := by
  have written (t : Descriptor) (path : String) : expression table.undocumented owner path
      t.undocumented = expression table owner path t := expression_undocumented t path
  have kind : c.undocumented.kind = c.kind := rfl
  unfold commandResult
  rw [Command.payload?_undocumented, kind]
  cases c.kind with
  | unary =>
    change (expression table.undocumented owner "return" c.returns.undocumented >>= _) = _
    rw [written]
  | stream =>
    cases c.payload? with
    | none => rfl
    | some t => simp only [Option.map_some, written]

theorem commandDeclaration_undocumented (c : Command A) :
    commandDeclaration table.undocumented c.undocumented =
      (commandDeclaration table c).map Declaration.undocumented := by
  have params : (c.params.map Param.undocumented).mapM
      (paramProperty table.undocumented (.command c.name)) =
      c.params.mapM (paramProperty table (.command c.name)) := by
    rw [List.mapM_map]
    exact congrArg (c.params.mapM ·) (funext paramProperty_undocumented)
  unfold commandDeclaration
  rw [commandResult_undocumented]
  change ((c.params.map Param.undocumented).mapM
      (paramProperty table.undocumented (.command c.name)) >>= _) = _
  rw [params]
  cases c.params.mapM (paramProperty table (.command c.name)) with
  | error e => rfl
  | ok params =>
    change (commandResult table (.command c.name) c >>= _) =
      Except.map _ (commandResult table (.command c.name) c >>= _)
    cases commandResult table (.command c.name) c <;> rfl

theorem eventProperty_undocumented (e : String × Descriptor) :
    eventProperty table.undocumented owner (e.1, e.2.undocumented) =
      (eventProperty table owner e).map fun l => ("", l.2) := by
  have type : expression table.undocumented owner e.1 e.2.undocumented = expression table owner e.1 e.2 :=
    expression_undocumented e.2 e.1
  unfold eventProperty
  change (expression table.undocumented owner e.1 e.2.undocumented >>= _) = _
  rw [type]
  cases expression table owner e.1 e.2 <;> rfl

theorem eventsDeclaration_undocumented (name : String) (events : List (String × Descriptor)) :
    eventsDeclaration table.undocumented owner name (events.map fun e => (e.1, e.2.undocumented)) =
      (eventsDeclaration table owner name events).map Declaration.undocumented := by
  unfold eventsDeclaration
  rw [mapM_undocumented eventProperty_undocumented]
  cases events.mapM (eventProperty table owner) <;> rfl

theorem socketDeclarations_undocumented (s : SocketHandler A) :
    socketDeclarations table.undocumented s.undocumented =
      (socketDeclarations table s).map SocketDeclarations.undocumented := by
  unfold socketDeclarations
  change (eventsDeclaration table.undocumented (.socket s.name) (serverEventsName s)
    (s.serverEvents.map fun e => (e.1, e.2.undocumented)) >>= fun server =>
      eventsDeclaration table.undocumented (.socket s.name) (clientEventsName s)
        (s.clientEvents.map fun e => (e.1, e.2.undocumented)) >>= _) = _
  rw [eventsDeclaration_undocumented, eventsDeclaration_undocumented]
  cases eventsDeclaration table (.socket s.name) (serverEventsName s) s.serverEvents with
  | error e => rfl
  | ok server => cases eventsDeclaration table (.socket s.name) (clientEventsName s) s.clientEvents <;> rfl

theorem orderedDefinitions_undocumented (table : Definitions) :
    orderedDefinitions table.undocumented = (orderedDefinitions table).map Definition.undocumented := by
  rw [orderedDefinitions, orderedDefinitions, ordered_undocumented, List.map_filterMap]
  exact List.filterMap_congr fun name _ => Definitions.get?_undocumented table name

/-- The outline of a registry without texts is its outline without texts. -/
theorem outline_undocumented (r : Registry A) :
    outline r.undocumented = (outline r).map Outline.undocumented := by
  have definitions : (orderedDefinitions r.undocumented.definitions).mapM
      (definitionDeclaration r.undocumented.definitions) =
      ((orderedDefinitions r.definitions).mapM (definitionDeclaration r.definitions)).map
        (List.map Declaration.undocumented) := by
    rw [← mapM_undocumented definitionDeclaration_undocumented, ← orderedDefinitions_undocumented]
    rfl
  have commands : r.undocumented.commandList.mapM (commandDeclaration r.undocumented.definitions) =
      (r.commandList.mapM (commandDeclaration r.definitions)).map (List.map Declaration.undocumented) := by
    rw [← mapM_undocumented commandDeclaration_undocumented]
    simp only [Registry.commandList, Registry.undocumented, List.map_map, Function.comp_def]
  have sockets : r.undocumented.socketList.mapM (socketDeclarations r.undocumented.definitions) =
      (r.socketList.mapM (socketDeclarations r.definitions)).map
        (List.map SocketDeclarations.undocumented) := by
    rw [← mapM_undocumented socketDeclarations_undocumented]
    simp only [Registry.socketList, Registry.undocumented, List.map_map, Function.comp_def]
  unfold outline
  rw [definitions, commands, sockets]
  cases (orderedDefinitions r.definitions).mapM (definitionDeclaration r.definitions) with
  | error e => rfl
  | ok made =>
    cases r.commandList.mapM (commandDeclaration r.definitions) with
    | error e => rfl
    | ok functions => cases r.socketList.mapM (socketDeclarations r.definitions) <;> rfl

end Undocumented

theorem Declaration.pieces_undocumented (d : Declaration) :
    d.undocumented.pieces = d.pieces.map Piece.emptied := by
  cases d with
  | interface doc name lines =>
    simp [undocumented, pieces, Piece.emptied, docBlock, List.flatMap_map, List.map_flatMap]
  | enumeration shape => rfl
  | function doc isAsync name params result typeArgs call => rfl

theorem SocketDeclarations.pieces_undocumented (s : SocketDeclarations) :
    s.undocumented.pieces = s.pieces.map Piece.emptied := by
  simp [pieces, undocumented, Declaration.pieces_undocumented, Piece.emptied]

theorem emptied_sectionPieces (title : String) (parts : List (List Piece)) :
    (sectionPieces title parts).map Piece.emptied =
      sectionPieces title (parts.map (List.map Piece.emptied)) := by
  cases parts with
  | nil => rfl
  | cons part rest =>
    unfold sectionPieces
    rw [if_neg (by simp), if_neg (by simp), List.map_append, List.map_cons, emptied_intercalate]
    rfl

theorem Outline.pieces_undocumented (o : Outline) : o.undocumented.pieces = o.pieces.map Piece.emptied := by
  have declarations : Declaration.pieces ∘ Declaration.undocumented =
      List.map Piece.emptied ∘ Declaration.pieces := funext Declaration.pieces_undocumented
  have sockets : SocketDeclarations.pieces ∘ SocketDeclarations.undocumented =
      List.map Piece.emptied ∘ SocketDeclarations.pieces := funext SocketDeclarations.pieces_undocumented
  simp only [pieces, undocumented, List.map_append, List.map_cons, emptied_sectionPieces, List.map_map,
    declarations, sockets]
  rfl

/-- Without its texts a registry has the same pieces, with every place left blank. -/
theorem pieces_undocumented (r : Registry A) :
    pieces r.undocumented = (pieces r).map (List.map Piece.emptied) := by
  rw [pieces, outline_undocumented, pieces]
  cases outline r with
  | error e => rfl
  | ok o => exact congrArg Except.ok o.pieces_undocumented

theorem generate_eq_pieces (r : Registry A) : generate r = (pieces r).map textOf := by
  rw [generate_eq_outline, pieces]
  cases outline r with
  | error e => rfl
  | ok o => exact congrArg Except.ok o.textOf_pieces.symm

def definitionComments : Definition → List String
  | .record shape => docBlock shape.doc :: shape.fields.map fun f => fieldComment f.description
  | .enum shape => [docBlock shape.doc]

/-- The comments that are written for the texts of a registry, in the order of the text. -/
def comments (r : Registry A) : List String :=
  written ((orderedDefinitions r.definitions).flatMap definitionComments ++
    r.commandList.map (fun c => docBlock c.doc) ++ r.socketList.map fun s => docBlock s.doc)

theorem commentsIn_sectionPieces (title : String) (parts : List (List Piece)) :
    commentsIn (sectionPieces title parts) = parts.flatMap commentsIn := by
  cases parts with
  | nil => rfl
  | cons part rest =>
    rw [sectionPieces, if_neg (by simp), commentsIn_append, commentsIn_code, commentsIn_intercalate]
    exact List.append_nil _

theorem commentsIn_interface (doc : Option String) (name : String) (lines : List (String × Property)) :
    commentsIn (Declaration.interface doc name lines).pieces =
      written (docBlock doc :: lines.map Prod.fst) := by
  have places : (lines.flatMap fun l => [Piece.comment l.1, .code ("    " ++ l.2.text ++ ";\n")]).filterMap
      Piece.filling? = lines.map Prod.fst := by
    rw [List.filterMap_flatMap, List.map_eq_flatMap]
    rfl
  have head (rest : List Piece) : (Piece.comment (docBlock doc) ::
      .code ("export interface " ++ name ++ " \x7b\n") :: rest).filterMap Piece.filling? =
      docBlock doc :: rest.filterMap Piece.filling? := rfl
  have last : [Piece.code "\x7d"].filterMap Piece.filling? = [] := rfl
  rw [commentsIn, Declaration.pieces, List.filterMap_append, head, places, last, List.append_nil]

section Comments

variable {table : Definitions} {owner : Owner} {d : Declaration}

theorem commentsIn_definition {x : Definition} (h : definitionDeclaration table x = .ok d) :
    commentsIn d.pieces = written (definitionComments x) := by
  cases x with
  | enum shape =>
    cases h
    rfl
  | record shape =>
    obtain ⟨lines, done, last⟩ := Except.bind_eq_ok.mp h
    cases last
    have texts : lines.map Prod.fst = shape.fields.map fun f => fieldComment f.description := by
      apply map_of_mapM_eq_ok _ done
      intro f l made
      obtain ⟨t, -, last⟩ := Except.bind_eq_ok.mp made
      cases last
      rfl
    rw [commentsIn_interface, texts, definitionComments]

theorem commentsIn_command {c : Command A} (h : commandDeclaration table c = .ok d) :
    commentsIn d.pieces = written [docBlock c.doc] := by
  obtain ⟨params, -, h⟩ := Except.bind_eq_ok.mp h
  obtain ⟨answer, -, last⟩ := Except.bind_eq_ok.mp h
  cases last
  rfl

theorem commentsIn_events {name : String} {events : List (String × Descriptor)}
    (h : eventsDeclaration table owner name events = .ok d) : commentsIn d.pieces = [] := by
  obtain ⟨lines, done, last⟩ := Except.bind_eq_ok.mp h
  cases last
  have texts : lines.map Prod.fst = events.map fun _ => "" := by
    apply map_of_mapM_eq_ok _ done
    intro e l made
    obtain ⟨t, -, last⟩ := Except.bind_eq_ok.mp made
    cases last
    rfl
  rw [commentsIn_interface, texts]
  simp [written, docBlock]

theorem commentsIn_socket {s : SocketHandler A} {made : SocketDeclarations}
    (h : socketDeclarations table s = .ok made) : commentsIn made.pieces = written [docBlock s.doc] := by
  obtain ⟨server, client, connector⟩ := socketDeclarations_eq_ok.mp h
  rw [SocketDeclarations.pieces, commentsIn_append, commentsIn_append, commentsIn_code, commentsIn_code,
    commentsIn_events server, commentsIn_events client, connector]
  rfl

/-- The comments of what is made of each element, put together. -/
theorem commentsIn_of_mapM {α β : Type} {f : α → Except GenerateError β} {cut : β → List Piece}
    {texts : α → List String} {xs : List α} {ys : List β}
    (each : ∀ x y, f x = .ok y → commentsIn (cut y) = written (texts x)) (done : xs.mapM f = .ok ys) :
    (ys.map cut).flatMap commentsIn = written (xs.flatMap texts) := by
  rw [List.flatMap_map, List.flatMap_def, map_of_mapM_eq_ok each done, written, List.filter_flatMap,
    List.flatMap_def]
  rfl

theorem commentsIn_outline {r : Registry A} {o : Outline} (h : outline r = .ok o) :
    commentsIn o.pieces = comments r := by
  obtain ⟨definitions, commands, sockets⟩ := outline_eq_ok.mp h
  rw [Outline.pieces, commentsIn_append, commentsIn_append, commentsIn_code, commentsIn_sectionPieces,
    commentsIn_sectionPieces, commentsIn_sectionPieces,
    commentsIn_of_mapM (fun x d made => commentsIn_definition made) definitions,
    commentsIn_of_mapM (fun c d made => commentsIn_command made) commands,
    commentsIn_of_mapM (fun s made => commentsIn_socket) sockets, comments, List.map_eq_flatMap,
    List.map_eq_flatMap]
  simp only [written, List.filter_append]

end Comments

theorem isComment_of_mem {r : Registry A} {comment : String} (h : comment ∈ comments r) :
    IsComment comment := by
  obtain ⟨listed, notBlank⟩ := List.mem_filter.mp h
  have notBlank : comment ≠ "" := of_decide_eq_true notBlank
  have block (doc : Option String) (same : docBlock doc = comment) : IsComment comment :=
    same ▸ (docBlock_cases doc).resolve_left (same ▸ notBlank)
  rcases List.mem_append.mp listed with listed | socket
  · rcases List.mem_append.mp listed with definition | command
    · obtain ⟨x, -, place⟩ := List.mem_flatMap.mp definition
      cases x with
      | enum shape => exact block shape.doc (List.mem_singleton.mp place).symm
      | record shape =>
        rcases List.mem_cons.mp place with same | field
        · exact block shape.doc same.symm
        · obtain ⟨f, -, rfl⟩ := List.mem_map.mp field
          exact (fieldComment_cases f.description).resolve_left notBlank
    · obtain ⟨c, -, same⟩ := List.mem_map.mp command
      exact block c.doc same
  · obtain ⟨s, -, same⟩ := List.mem_map.mp socket
    exact block s.doc same

/-- No text for a reader is read as code. The client text is cut into pieces, of which the places
of comments hold the comments of the registry's texts and nothing else, each ended at its end and
not before. The same registry without texts, or with others, has the same pieces but for what
fills these places, and fails in the same way if it does; so without texts its client is the code. -/
theorem documentation_stays_in_comments (r : Registry A) :
    generate r = (pieces r).map textOf ∧
    (pieces r).map commentsIn = (pieces r).map (fun _ => comments r) ∧
    (∀ comment ∈ comments r, IsComment comment) ∧
    pieces r.undocumented = (pieces r).map (List.map Piece.emptied) ∧
    generate r.undocumented = (pieces r).map fun cut => textOf (cut.filter Piece.isCode) := by
  refine ⟨generate_eq_pieces r, ?_, fun comment => isComment_of_mem, pieces_undocumented r, ?_⟩
  · cases made : outline r with
    | error e => simp only [pieces, made, Except.map]
    | ok o => simp only [pieces, made, Except.map, commentsIn_outline made]
  · rw [generate_eq_pieces, pieces_undocumented]
    cases pieces r with
    | error e => rfl
    | ok cut => exact congrArg Except.ok (textOf_emptied cut)

end CommandBridge.TypeScript

import CommandBridge.Proofs.Bridge.Requests
import CommandBridge.Proofs.Twins.Requests

/-!
# What clients learn of internal errors

Clients see the replies to their requests, the events of their channels and the frames of their
sockets. Two runs of twins outside debug mode show them the same, reply for reply, event for
event and frame for frame, except that a channel event or a frame that tells an internal error
tells it with its cause: replies alone keep it back.
-/

set_option autoImplicit false

namespace CommandBridge

/-- What befalls a bridge, requests over HTTP included. -/
inductive Deed (A : Application) where
  | request (q : Http.Request)
  | act (a : Bridge.Act A)

inductive Deed.Alike {A B : Application} (t : Twins A B) : Deed A → Deed B → Prop where
  | request (q : Http.Request) : Alike t (.request q) (.request q)
  | act {a : Bridge.Act A} {a' : Bridge.Act B} (acts : a.Alike t a') : Alike t (.act a) (.act a')

inductive Told where
  | nothing
  | exchange (exchange : Http.Exchange)
  | event (received : Received)

/-- All that clients see after a deed. -/
structure Sight where
  told : Told
  replies : List (Option Http.Reply)
  /-- The frames on the line of each connection, and whether it was closed. -/
  lines : List (List String × Bool)

namespace Bridge

variable {A : Application}

def after (b : Bridge A) : Deed A → Bridge A
  | .request q => (Http.begin b q).1
  | .act a => b.act a

/-- What the client behind a deed is told; a connection that cannot be opened is refused as a
request is. -/
def told (b : Bridge A) : Deed A → Told
  | .request q => .exchange (Http.begin b q).2
  | .act (.receive index) => .event (b.receive index).2
  | .act (.connect name inbound sink) =>
    match b.connect name inbound sink with
    | .ok _ => .nothing
    | .error e => .exchange (.reply (Http.refuse b.config e))
  | .act _ => .nothing

def reply? (config : Config) : CallProgress A → Option Http.Reply
  | .answered a => some (Http.callReply config a)
  | _ => none

def sight (b : Bridge A) (d : Deed A) : Sight where
  told := b.told d
  replies := (b.after d).calls.map (reply? b.config)
  lines := (b.after d).connections.map fun c => (c.sink.frames, c.sink.closed)

/-- What clients see over a run. -/
def sights : Bridge A → List (Deed A) → List Sight
  | _, [] => []
  | b, d :: rest => b.sight d :: (b.after d).sights rest

end Bridge

def InternalFrame (text : String) : Prop :=
  ∃ e : BridgeError, e.code = .internalError ∧ text = (SocketEnvelope.ofError e).text

/-- The client of a channel is told an internal error, or a frame of one is on a line. -/
def Sight.TellsInternal (s : Sight) : Prop :=
  (∃ e : BridgeError, e.code = .internalError ∧ s.told = .event (.message (.error e))) ∨
    ∃ line ∈ s.lines, ∃ text ∈ line.1, InternalFrame text

inductive Told.Alike : Told → Told → Prop where
  | nothing : Alike .nothing .nothing
  | exchange (e : Http.Exchange) : Alike (.exchange e) (.exchange e)
  | event {r r' : Received} (received : r.Alike r') : Alike (.event r) (.event r')

/-- The same sight, but that events and frames may tell an internal error by other words. -/
structure Sight.Alike (s s' : Sight) : Prop where
  told : s.told.Alike s'.told
  replies : s.replies = s'.replies
  lines : List.Forall₂ (Both (List.Forall₂ FrameAlike) Eq) s.lines s'.lines

theorem FrameAlike.eq_of_not {f f' : String} (h : FrameAlike f f') (other : ¬InternalFrame f) :
    f = f' := by
  cases h with
  | same => rfl
  | error error =>
    rcases BridgeError.alike_iff.mp error with rfl | ⟨internal, -⟩
    · rfl
    · exact absurd ⟨_, internal, rfl⟩ other

theorem Told.Alike.eq_of_not {s s' : Told} (h : s.Alike s')
    (other : ∀ e : BridgeError, e.code = .internalError → s ≠ .event (.message (.error e))) :
    s = s' := by
  cases h with
  | nothing => rfl
  | exchange => rfl
  | event received =>
    cases received with
    | pending => rfl
    | finished => rfl
    | message message =>
      cases message with
      | data => rfl
      | close => rfl
      | error error =>
        rcases BridgeError.alike_iff.mp error with rfl | ⟨internal, -⟩
        · rfl
        · exact absurd rfl (other _ internal)

/-- Sights that tell no internal error are alike only if they are the same. -/
theorem Sight.Alike.eq_of_not {s s' : Sight} (h : s.Alike s') (other : ¬s.TellsInternal) :
    s = s' := by
  have told : s.told = s'.told :=
    h.told.eq_of_not fun e internal same => other (.inl ⟨e, internal, same⟩)
  have lines : s.lines = s'.lines := by
    refine h.lines.eq_of_mem fun line there line' both => Prod.ext ?_ both.2
    refine both.1.eq_of_mem fun f hf f' frames => frames.eq_of_not fun internal => ?_
    exact other (.inr ⟨line, there, f, hf, internal⟩)
  obtain ⟨told', replies', lines'⟩ := s'
  cases told
  cases h.replies
  cases lines
  rfl

namespace Bridge

variable {A B : Application} {t : Twins A B} {b : Bridge A} {b' : Bridge B}

theorem after_alike (h : b.Alike t b') {d : Deed A} {d' : Deed B} (deeds : d.Alike t d') :
    (b.after d).Alike t (b'.after d') := by
  cases deeds with
  | request q => exact (Http.begin_alike h q).1
  | act acts => exact h.act acts

theorem told_alike (h : b.Alike t b') {d : Deed A} {d' : Deed B} (deeds : d.Alike t d') :
    (b.told d).Alike (b'.told d') := by
  cases deeds with
  | request q =>
    have answers := (Http.begin_alike h q).2
    simp only [told, answers]
    exact .exchange _
  | act acts =>
    cases acts with
    | receive index => exact .event (h.receive index).2
    | connect name inbound sink =>
      simp only [told]
      match b.connect name inbound sink, b'.connect name inbound sink, h.connect name inbound sink with
      | _, _, .ok _ => exact .nothing
      | _, _, .error e =>
        dsimp only
        rw [h.config]
        exact .exchange _
    | _ => exact .nothing

/-- One deed shows clients of twins the same but for internal errors. -/
theorem sight_alike (h : b.Alike t b') (quiet : b.config.debug = false) {d : Deed A} {d' : Deed B}
    (deeds : d.Alike t d') : (b.sight d).Alike (b'.sight d') where
  told := told_alike h deeds
  replies := by
    refine (after_alike h deeds).calls.map_eq fun c c' calls => ?_
    cases calls with
    | running | escaped => rfl
    | answered answers => simp only [reply?, ← h.config, Http.callReply_eq quiet answers]
  lines := by
    refine List.rel_map ?_ (after_alike h deeds).connections
    intro c c' connections
    exact ⟨List.rel_reverse connections.sink.taken, connections.sink.closed⟩

/-- Settings are not changed by anything that befalls a bridge. -/
theorem after_config (b : Bridge A) (d : Deed A) : (b.after d).config = b.config := by
  cases d with
  | act a => exact (b.act_touched a).config_eq
  | request q =>
    obtain ⟨acts, run⟩ := Http.begin_run b q
    rw [after, run]
    exact b.run_config acts

/-- Whatever befalls twins outside debug mode, their clients see the same replies, events and
frames; they differ only in events and frames that tell an internal error, and there in no
more than its message and details. -/
theorem clients_see_alike (h : b.Alike t b') (quiet : b.config.debug = false) {ds : List (Deed A)}
    {ds' : List (Deed B)} (deeds : List.Forall₂ (Deed.Alike t) ds ds') :
    List.Forall₂ (fun s s' : Sight => s.Alike s' ∧ (s ≠ s' → s.TellsInternal)) (b.sights ds)
      (b'.sights ds') := by
  -- Over the deeds: each shows clients the same and leaves bridges that are alike and quiet.
  induction deeds generalizing b b' with
  | nil => exact .nil
  | @cons d d' _ _ first _ ih =>
    have seen := sight_alike h quiet first
    refine .cons ⟨seen, fun differ => ?_⟩ (ih (after_alike h first) ?_)
    · by_contra other
      exact differ (seen.eq_of_not other)
    · rw [after_config]
      exact quiet

def leaking {Out Res : Type} : Behaviour String Out Res (Option String) where
  next
    | none => .update fun secret => (secret, some secret)
    | some secret => .finish (.failed ⟨some .internalError, secret, none⟩)
  release _ secret := secret

def leaky : Application where
  World := String
  Call := Option String
  Stream := Option String
  Socket := Option String
  call := leaking
  stream := leaking
  socket := leaking

def leaks : Declarations leaky where
  models := []
  commands := [
    { name := "ask", kind := .unary, params := [], returns := .boolean, doc := none,
      module := none, handler := some (.unary .inline fun _ => none) },
    { name := "tell", kind := .stream, params := [], returns := .stream .boolean, doc := none,
      module := none, handler := some (.stream fun _ => none) }]
  sockets := []

theorem leaking_alike {Out Res : Type} {Request : Out → Out → Prop} :
    Behaviour.Alike (fun _ _ => True) (Option.Rel fun _ _ => True) Request
      (leaking : Behaviour String Out Res (Option String)) leaking where
  release _ _ _ _ _ _ := trivial
  next s s' states := by
    cases states with
    | none => exact .update fun _ _ _ => ⟨trivial, .some trivial⟩
    | some => exact .finish (.failed (.internal _ _ _ _))

def secrets : Twins leaky leaky where
  World _ _ := True
  Call := Option.Rel fun _ _ => True
  Stream := Option.Rel fun _ _ => True
  Socket := Option.Rel fun _ _ => True
  call := leaking_alike
  stream := leaking_alike
  socket := leaking_alike
  entering _ := rfl

theorem leaks_alike : leaks.Alike secrets leaks where
  models := rfl
  sockets := .nil
  commands := .cons ⟨rfl, rfl, rfl, rfl, rfl, rfl, .some (.unary _ fun _ => .none)⟩
    (.cons ⟨rfl, rfl, rfl, rfl, rfl, rfl, .some (.stream fun _ => .none)⟩ .nil)

def keeper (secret : String) : Bridge leaky := start .default ⟨[], [], .empty⟩ secret .empty

def listenAndAsk : List (Deed leaky) := [
  .act (.replace leaks), .act (.create "tell" .null), .act (.attach (Uuid.nth 0)),
  .act (.move (.channel 0 (.drive .ready))), .act (.move (.channel 0 (.drive .ready))),
  .act (.move (.channel 0 (.drive .ready))), .act (.receive 0), .act (.call "ask" .null),
  .act (.move (.call 0 .ready)), .act (.move (.call 0 .ready))]

theorem keeper_alike (x y : String) : (keeper x).Alike secrets (keeper y) :=
  start_alike .default ⟨.nil, .nil, rfl⟩ trivial .empty

theorem listenAndAsk_alike : List.Forall₂ (Deed.Alike secrets) listenAndAsk listenAndAsk :=
  .cons (.act (.replace leaks_alike)) <| .cons (.act (.create _ _)) <| .cons (.act (.attach _)) <|
  .cons (.act (.move _)) <| .cons (.act (.move _)) <| .cons (.act (.move _)) <|
  .cons (.act (.receive _)) <| .cons (.act (.call _ _)) <| .cons (.act (.move _)) <|
  .cons (.act (.move _)) .nil

theorem keepers_seen_alike :
    (keeper "a").Alike secrets (keeper "b") ∧ (keeper "a").config.debug = false ∧
      List.Forall₂ (Deed.Alike secrets) listenAndAsk listenAndAsk ∧
      List.Forall₂ (fun s s' : Sight => s.Alike s' ∧ (s ≠ s' → s.TellsInternal))
        ((keeper "a").sights listenAndAsk) ((keeper "b").sights listenAndAsk) :=
  ⟨keeper_alike "a" "b", rfl, listenAndAsk_alike,
    clients_see_alike (keeper_alike "a" "b") rfl listenAndAsk_alike⟩

theorem keeper_told (secret : String) : ((keeper secret).sights listenAndAsk).map Sight.told =
    List.replicate 6 .nothing ++
      .event (.message (.error ⟨.internalError, secret, none⟩)) :: List.replicate 3 .nothing := rfl

/-- Not all that clients see is the same: an event tells its listener the cause. -/
theorem cause_reaches_listener :
    (keeper "a").Alike secrets (keeper "b") ∧ (keeper "a").config.debug = false ∧
      List.Forall₂ (Deed.Alike secrets) listenAndAsk listenAndAsk ∧
      (keeper "a").sights listenAndAsk ≠ (keeper "b").sights listenAndAsk := by
  refine ⟨keeper_alike "a" "b", rfl, listenAndAsk_alike, fun same => ?_⟩
  have told := congrArg (List.map Sight.told) same
  rw [keeper_told, keeper_told] at told
  simp at told

end Bridge
end CommandBridge

import CommandBridge.Http.Exchange
import CommandBridge.Proofs.Twins.Bridges

/-!
# Requests to twins

A request over HTTP is answered by both in the same words: what it is refused for is read off
the registry, and a call that ends in an internal error is answered without its cause unless
the bridge is in debug mode.
-/

set_option autoImplicit false

namespace CommandBridge.Http

variable {A B : Application} {t : Twins A B} {b : Bridge A} {b' : Bridge B}

/-- Outside debug mode the reply to a call keeps the cause of an internal error to itself. -/
theorem callReply_eq {config : Config} (quiet : config.debug = false)
    {a a' : Except BridgeError Json} (answers : AnswerAlike a a') :
    callReply config a = callReply config a' := by
  cases answers with
  | ok v => rfl
  | @error e e' error =>
    have told : e.redact false = e'.redact false := error
    simp only [callReply, refuse, errorReply, quiet, error.status_eq, told]

theorem commandInfo_eq {c : Command A} {c' : Command B} (h : c.Alike t c') :
    commandInfo c = commandInfo c' := by
  simp only [commandInfo, h.name, h.kind, h.params, h.module, h.doc]

theorem socketInfo_eq {s : SocketHandler A} {s' : SocketHandler B} (h : s.Alike t s') :
    socketInfo s = socketInfo s' := by
  simp only [socketInfo, h.name, h.serverEvents, h.clientEvents, h.module]

theorem listing_eq {r : Registry A} {r' : Registry B} (h : r.Alike t r') : listing r = listing r' := by
  unfold listing
  rw [h.commandList.map_eq fun _ _ both => commandInfo_eq both,
    h.socketList.map_eq fun _ _ both => socketInfo_eq both]

section Served

variable (h : b.Alike t b')
include h

theorem index_eq : index b = index b' := by
  unfold index
  rw [h.config, h.registry.commandList.map_eq fun _ _ both => by rw [both.name]]

theorem plainSocket_eq (method name : String) : plainSocket b method name = plainSocket b' method name := by
  unfold plainSocket Bridge.socketHandler
  match b.registry.socket? name, b'.registry.socket? name, h.registry.socket? name with
  | _, _, .none => simp only [h.config]
  | _, _, .some _ => rfl

theorem beginCommand_alike (name : String) (body : List UInt8) :
    Both (Bridge.Alike t) Eq (beginCommand b name body) (beginCommand b' name body) := by
  unfold beginCommand
  cases payload body with
  | error e => exact ⟨h, by rw [h.config]⟩
  | ok v => exact ⟨h.beginCall name v, by rw [h.calls.length_eq]⟩

theorem createChannel_alike (name : String) (body : List UInt8) :
    Both (Bridge.Alike t) Eq (createChannel b name body) (createChannel b' name body) := by
  unfold createChannel
  cases payload body with
  | error e => exact ⟨h, by rw [h.config]⟩
  | ok v =>
    dsimp only
    match b.createChannel name v, b'.createChannel name v, h.createChannel name v with
    | _, _, .error e => exact ⟨h, by rw [h.config]⟩
    | _, _, .ok after => exact ⟨after, by rw [h.channels.length_eq]⟩

omit h in
theorem named_alike (id : String) {f : Uuid → Except ChannelError (Bridge A × Nat)}
    {f' : Uuid → Except ChannelError (Bridge B × Nat)}
    (same : ∀ u, Except.Rel (Both (Bridge.Alike t) Eq) (f u) (f' u)) :
    Except.Rel (Both (Bridge.Alike t) Eq) ((channelId id).bind f) ((channelId id).bind f') := by
  cases channelId id with
  | error e => exact .error e
  | ok u => exact same u

theorem openStream_alike (id : String) :
    Both (Bridge.Alike t) Eq (openStream b id) (openStream b' id) := by
  unfold openStream
  match (channelId id).bind b.attach, (channelId id).bind b'.attach, named_alike id h.attach with
  | _, _, .error e => exact ⟨h, by rw [h.config]⟩
  | _, _, .ok after => exact ⟨after.1, congrArg Reply.events after.2⟩

theorem closeChannel_alike (id : String) :
    Both (Bridge.Alike t) Eq (closeChannel b id) (closeChannel b' id) := by
  unfold closeChannel
  match (channelId id).bind b.closeChannel, (channelId id).bind b'.closeChannel,
    named_alike id h.closeChannel with
  | _, _, .error e => exact ⟨h, by rw [h.config]⟩
  | _, _, .ok after => exact ⟨after.1, rfl⟩

theorem serve_alike (q : Request) (route : Route) :
    Both (Bridge.Alike t) Eq (serve b q route) (serve b' q route) := by
  cases route with
  | index => exact ⟨h, congrArg (fun v => Exchange.reply (.json 200 v)) (index_eq h)⟩
  | listing => exact ⟨h, congrArg (fun v => Exchange.reply (.json 200 v)) (listing_eq h.registry)⟩
  | command name => exact beginCommand_alike h name q.body
  | channel name =>
    have served := ite_related (Iff.refl (q.method = "DELETE")) (closeChannel_alike h name)
      (createChannel_alike h name q.body)
    exact ⟨served.1, congrArg Exchange.reply served.2⟩
  | stream id =>
    have opened := openStream_alike h id
    exact ⟨opened.1, congrArg Exchange.reply opened.2⟩
  | socket name => exact ⟨h, congrArg Exchange.reply (plainSocket_eq h q.method name)⟩

theorem serveResolved_alike (q : Request) (route : Route) :
    Both (Bridge.Alike t) Eq (serveResolved b q route) (serveResolved b' q route) := by
  unfold serveResolved
  cases route.resolve? with
  | none => exact ⟨h, rfl⟩
  | some route => exact serve_alike h q route

theorem headOnly_alike (r : Reply) :
    Both (Bridge.Alike t) Eq (headOnly b r) (headOnly b' r) := by
  cases r with
  | events index => exact ⟨h.dropSubscription index, rfl⟩
  | json _ _ => exact ⟨h, rfl⟩
  | empty _ => exact ⟨h, rfl⟩
  | note _ => exact ⟨h, rfl⟩
  | headOnly _ _ => exact ⟨h, rfl⟩

theorem begin_alike (q : Request) : Both (Bridge.Alike t) Eq (begin b q) (begin b' q) := by
  unfold begin
  cases Route.ofTarget? q.target with
  | none => exact ⟨h, rfl⟩
  | some route =>
    apply ite_related Iff.rfl
    · exact ⟨h, rfl⟩
    match serveResolved b q route, serveResolved b' q route, serveResolved_alike h q route with
    | (c, .calling _), (c', _), ⟨after, rfl⟩ => exact ⟨after, rfl⟩
    | (c, .reply r), (c', _), ⟨after, rfl⟩ =>
      have served := headOnly_alike after r
      exact ite_related Iff.rfl ⟨served.1, congrArg Exchange.reply served.2⟩ ⟨after, rfl⟩

end Served
end CommandBridge.Http

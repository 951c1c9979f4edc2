import CommandBridge.Http.Exchange
import CommandBridge.Proofs.Bridge.Run

/-!
# Requests as acts

Whatever a request over HTTP does to a bridge, it does by acts: by a call, by an operation on
one channel, or not at all. What every act keeps is therefore kept by requests.
-/

set_option autoImplicit false

namespace CommandBridge.Bridge

variable {A : Application} {b b' : Bridge A} {p : Part}

theorem Touched.config_eq (h : Touched b p b') : b'.config = b.config := by
  cases h <;> rfl

theorem run_config (b : Bridge A) (acts : List (Act A)) : (b.run acts).config = b.config :=
  run_induction (P := fun c => c.config = b.config)
    (fun c a same => (c.act_touched a).config_eq.trans same) rfl acts

end CommandBridge.Bridge

namespace CommandBridge.Http

variable {A : Application}

theorem createChannel_run (b : Bridge A) (name : String) (body : List UInt8) :
    ∃ acts, (createChannel b name body).1 = b.run acts := by
  unfold createChannel
  cases payload body with
  | error e => exact ⟨[], rfl⟩
  | ok v =>
    refine ⟨[.create name v], ?_⟩
    simp only [Bridge.run_cons, Bridge.run_nil, Bridge.act]
    cases b.createChannel name v <;> rfl

/-- An operation on the channel that a path names is an act, or none when it names no channel. -/
theorem named_run (b : Bridge A) (id : String) {f : Uuid → Except ChannelError (Bridge A × Nat)}
    {a : Uuid → Bridge.Act A} (same : ∀ u, b.act (a u) = ((f u).toOption.getD (b, 0)).1) :
    ∃ acts, (((channelId id).bind f).toOption.getD (b, 0)).1 = b.run acts := by
  cases channelId id with
  | error e => exact ⟨[], rfl⟩
  | ok u => exact ⟨[a u], (same u).symm⟩

theorem openStream_run (b : Bridge A) (id : String) :
    ∃ acts, (openStream b id).1 = b.run acts := by
  obtain ⟨acts, run⟩ := named_run b id (f := b.attach) (a := .attach) fun _ => rfl
  refine ⟨acts, ?_⟩
  rw [← run, openStream]
  cases (channelId id).bind b.attach <;> rfl

theorem closeChannel_run (b : Bridge A) (id : String) :
    ∃ acts, (closeChannel b id).1 = b.run acts := by
  obtain ⟨acts, run⟩ := named_run b id (f := b.closeChannel) (a := .close) fun _ => rfl
  refine ⟨acts, ?_⟩
  rw [← run, closeChannel]
  cases (channelId id).bind b.closeChannel <;> rfl

theorem serve_run (b : Bridge A) (q : Request) (route : Route) :
    ∃ acts, (serve b q route).1 = b.run acts := by
  cases route with
  | index => exact ⟨[], rfl⟩
  | listing => exact ⟨[], rfl⟩
  | socket name => exact ⟨[], rfl⟩
  | stream id => exact openStream_run b id
  | channel name =>
    by_cases delete : q.method = "DELETE"
    · obtain ⟨acts, run⟩ := closeChannel_run b name
      exact ⟨acts, by simp only [serve, if_pos delete, run]⟩
    · obtain ⟨acts, run⟩ := createChannel_run b name q.body
      exact ⟨acts, by simp only [serve, if_neg delete, run]⟩
  | command name =>
    simp only [serve, beginCommand]
    cases payload q.body with
    | error e => exact ⟨[], rfl⟩
    | ok v => exact ⟨[.call name v], rfl⟩

theorem headOnly_run (b : Bridge A) (r : Reply) : ∃ acts, (headOnly b r).1 = b.run acts := by
  cases r with
  | events index => exact ⟨[.dropSubscription index], rfl⟩
  | json _ _ => exact ⟨[], rfl⟩
  | empty _ => exact ⟨[], rfl⟩
  | note _ => exact ⟨[], rfl⟩
  | headOnly _ _ => exact ⟨[], rfl⟩

theorem begin_run (b : Bridge A) (q : Request) : ∃ acts, (begin b q).1 = b.run acts := by
  unfold begin
  cases Route.ofTarget? q.target with
  | none => exact ⟨[], rfl⟩
  | some route =>
    dsimp only
    split
    · exact ⟨[], rfl⟩
    have served : ∃ acts, (serveResolved b q route).1 = b.run acts := by
      unfold serveResolved
      cases route.resolve? with
      | none => exact ⟨[], rfl⟩
      | some route => exact serve_run b q route
    obtain ⟨acts, run⟩ := served
    match serveResolved b q route, run with
    | (c, .calling _), run => exact ⟨acts, run⟩
    | (c, .reply r), run =>
      dsimp only at run ⊢
      split
      · obtain ⟨more, dropped⟩ := headOnly_run c r
        exact ⟨acts ++ more, by rw [Bridge.run_append, ← run, dropped]⟩
      · exact ⟨acts, run⟩

end CommandBridge.Http

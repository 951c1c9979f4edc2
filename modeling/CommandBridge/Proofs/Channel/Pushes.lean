import CommandBridge.Proofs.Channel.Delivery
import CommandBridge.Proofs.Channel.Origin

/-!
# What a channel accepts

Every value that gets into the queue of a channel was pushed by a task of its handler, in a state
that descends from the one in which the handler started, and got there in transport case. A push
that fails, or has to wait, leaves the queue as it is.
-/

set_option autoImplicit false

namespace CommandBridge

namespace Channel

variable {W S : Type} {b : Behaviour W (Outlet W Payload S) Unit S} {command : String} {start : S}
  {c : Channel S} {v : Json}

/-- A value that does not serialize is refused, and so is any value once nobody listens. -/
theorem push_fails {o : Outbox ChannelMessage} {r : Payload} (ticket : Nat)
    (cause : (∃ reason, r = .unserializable reason) ∨ o.isClosed = true) :
    ∃ o' e, push o ticket r = .settled o' (some e) := by
  cases r with
  | unserializable reason =>
    unfold push
    split
    · exact ⟨_, _, rfl⟩
    · exact ⟨_, _, rfl⟩
  | json v =>
    rcases cause with ⟨-, ⟨⟩⟩ | closed
    obtain ⟨e, refused⟩ := view_serves.refused o ticket (.json v) _ rfl closed
    exact ⟨_, e, refused⟩

def Pushes (b : Behaviour W (Outlet W Payload S) Unit S) (start : S) (v : Json) : Prop :=
  ∃ s u next, b.From (· = start) s ∧ b.next s = .client (.push (.json u) next) ∧
    v = u.toTransportCase

theorem pushes_of_accepted {t : Task S} {o : Outbox ChannelMessage} {ticket : Nat}
    (origin : b.From (· = start) t.state) (there : v ∈ accepted b o ticket t) :
    Pushes b start v := by
  unfold accepted Task.pushes? at there
  split at there
  · next u pushes =>
    split at pushes
    · next request next asked =>
      cases pushes
      split at there
      · cases List.mem_singleton.mp there
        exact ⟨t.state, u, next, origin, asked, rfl⟩
      · cases there
    · cases pushes
  · cases there

/-- What an act adds to the accepted values is pushed by the handler. -/
theorem OfStart.note (h : OfStart b command start c) {acc : Account}
    (before : ∀ v ∈ acc.accepted, Pushes b start v) (x : ChannelAct) :
    ∀ v ∈ (Channel.note b c acc x).accepted, Pushes b start v := by
  have more {vs : List Json} (new : ∀ v ∈ vs, Pushes b start v) :
      ∀ v ∈ (acc.accept vs).accepted, Pushes b start v :=
    List.forall_mem_append.mpr ⟨before, new⟩
  cases x with
  | attach | close | shut | drop => exact before
  | receive =>
    simp only [Channel.note]
    split
    · split <;> exact before
    · exact before
  | move now m =>
    cases m with
    | expire | release => exact before
    | drive pick =>
      have drive := h.drive
      simp only [Channel.note]
      split
      · next t running =>
        rw [running] at drive
        cases drive with | running origin =>
        split
        · exact before
        · exact more fun v there => pushes_of_accepted origin there
      · exact before
    | fork index pick =>
      simp only [Channel.note]
      split
      · next t alive =>
        have origin := h.forks t (List.mem_of_getElem? alive)
        exact more fun v there => pushes_of_accepted origin there
      · exact before

theorem accepted_of_returned {acc : Account} (h : Delivery c acc)
    (told : some (.data v) ∈ acc.returned) : v ∈ acc.accepted := by
  have among {vs : List Json} (taken : vs <+: acc.accepted) (there : some (.data v) ∈ heard vs) :
      v ∈ acc.accepted := by
    obtain ⟨u, mem, same⟩ := List.mem_map.mp there
    cases same
    exact taken.subset mem
  cases h with
  | unattached _ fresh =>
    rw [fresh] at told
    cases told
  | flowing _ _ _ _ heard flow => exact among flow.taken (heard ▸ told)
  | cancelled _ _ _ heard taken => exact among taken (heard ▸ told)
  | dropped _ _ _ _ heard taken => exact among taken (heard ▸ told)
  | complete _ _ _ _ heard taken terminal =>
    rw [heard] at told
    rcases List.mem_append.mp told with value | rest
    · exact among taken value
    · rcases List.mem_cons.mp rest with last | after
      · cases last
        cases terminal
      · cases (List.mem_replicate.mp after).2

end Channel
end CommandBridge

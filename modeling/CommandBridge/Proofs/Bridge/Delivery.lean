import CommandBridge.Proofs.Channel.Progress
import CommandBridge.Script.Application

/-!
# Delivery on a bridge

Whatever runs on a bridge, the subscription of a channel hears accepted values in order, then
one terminal message, then nothing. A handler that ends before its channel is cancelled is
heard to its end, and no read waits for that in vain.
-/

set_option autoImplicit false

namespace CommandBridge.Bridge

open Channel

variable {A : Application} {i : Nat} {c : Channel A.Stream}

/-- What holds of every channel of a bridge after every run. -/
theorem delivery_run (config : Config) (registry : Registry A) (world : A.World) (files : FileTree)
    (acts : List (Act A))
    (there : ((start config registry world files).run acts).channels[i]? = some c) :
    Delivery c (account i (start config registry world files) acts .empty) ∧ Lined A.stream c := by
  refine Sessions.history_induction (s := channelSessions A)
    (P := fun c acc => Delivery c acc ∧ Lined A.stream c) ?_ ?_ acts rfl there
  · rintro c ⟨name, start, capacity, expiry, rfl⟩
    exact ⟨delivery_create name start capacity expiry, lined_create name start capacity expiry⟩
  · rintro c acc w x ⟨d, l⟩
    exact ⟨delivery_step d (step A.stream c acc w x), lined_act d l w x⟩

def sole : Bridge Script.application :=
  start .default
    { commands := [("once", {
        name := "once", kind := .stream, params := [], returns := .stream .boolean, doc := none,
        module := none, handler := some (.stream (Script.StreamRun.start [.send (.bool true)])) })]
      sockets := [], definitions := .empty } .empty .empty

def soleRuns : List (Act Script.application) :=
  [.create "once" (.object []), .attach (Uuid.nth 0)] ++
    List.replicate 3 (.move (.channel 0 (.drive .ready)))

end CommandBridge.Bridge

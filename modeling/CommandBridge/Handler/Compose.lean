import CommandBridge.Handler.Action

/-!
# Putting applications together

Handlers of one application run unchanged on a larger world that holds theirs. Two
applications run side by side in their sum, and any number of instances of one in its
family. Each keeps to its own part of the world.
-/

set_option autoImplicit false

namespace CommandBridge

structure Focus (W V : Type) where
  get : W → V
  set : V → W → W

namespace Focus

variable {W V S T : Type}

def step (part : Focus W V) (wrap : S → T) (f : V → V × S) (w : W) : W × T :=
  let r := f (part.get w)
  (part.set r.1 w, wrap r.2)

def tryStep (part : Focus W V) (wrap : S → T) (f : V → Option (V × S)) (w : W) :
    Option (W × T) :=
  (f (part.get w)).map fun r => (part.set r.1 w, wrap r.2)

def first {V U : Type} : Focus (V × U) V := ⟨Prod.fst, fun v w => (v, w.2)⟩

def second {V U : Type} : Focus (V × U) U := ⟨Prod.snd, fun u w => (w.1, u)⟩

def item (fresh : V) (index : Nat) : Focus (List V) V :=
  ⟨fun w => w.getD index fresh, fun v w => w.set index v⟩

end Focus

variable {W V S T Req Res : Type}

def Alarm.map (wrap : S → T) (a : Alarm S) : Alarm T := ⟨a.delay, wrap a.next⟩

def Action.lift {Out Out' : Type} (part : Focus W V) (wrap : S → T) (client : Out → Out') :
    Action V Out Res S → Action W Out' Res T
  | .finish outcome => .finish outcome
  | .update f => .update (part.step wrap f)
  | .clock next => .clock fun now => wrap (next now)
  | .wait alarm ready => .wait (alarm.map (Alarm.map wrap)) (part.tryStep wrap ready)
  | .client request => .client (client request)

def Outlet.lift (part : Focus W V) (wrap : S → T) : Outlet V Req S → Outlet W Req T
  | .push request next => .push request fun failure => wrap (next failure)
  | .probe next => .probe fun closed => wrap (next closed)
  | .fork task next => .fork (wrap task) (wrap next)
  | .waitClosed closed alarm ready =>
    .waitClosed (wrap closed) (alarm.map (Alarm.map wrap)) (part.tryStep wrap ready)

namespace Behaviour

variable {U Out OutV OutU : Type}

def sum (v : Focus W V) (u : Focus W U) (clientV : OutV → Out) (clientU : OutU → Out)
    (b : Behaviour V OutV Res S) (c : Behaviour U OutU Res T) :
    Behaviour W Out Res (S ⊕ T) where
  next
    | .inl s => (b.next s).lift v .inl clientV
    | .inr t => (c.next t).lift u .inr clientU
  release
    | .inl s => fun w => v.set (b.release s (v.get w)) w
    | .inr t => fun w => u.set (c.release t (u.get w)) w

def indexed (part : Nat → Focus W V) (client : Nat → OutV → Out) (b : Behaviour V OutV Res S) :
    Behaviour W Out Res (Nat × S) where
  next s := (b.next s.2).lift (part s.1) (Prod.mk s.1) (client s.1)
  release s w := (part s.1).set (b.release s.2 ((part s.1).get w)) w

end Behaviour

namespace Application

def sum (A B : Application) : Application where
  World := A.World × B.World
  Call := A.Call ⊕ B.Call
  Stream := A.Stream ⊕ B.Stream
  Socket := A.Socket ⊕ B.Socket
  call := .sum .first .second Empty.elim Empty.elim A.call B.call
  stream := .sum .first .second (Outlet.lift .first .inl) (Outlet.lift .second .inr)
    A.stream B.stream
  socket := .sum .first .second (Outlet.lift .first .inl) (Outlet.lift .second .inr)
    A.socket B.socket
  entering := Sum.elim A.entering B.entering

def family (A : Application) (fresh : A.World) : Application where
  World := List A.World
  Call := Nat × A.Call
  Stream := Nat × A.Stream
  Socket := Nat × A.Socket
  call := .indexed (.item fresh) (fun _ => Empty.elim) A.call
  stream := .indexed (.item fresh) (fun i => Outlet.lift (.item fresh i) (Prod.mk i)) A.stream
  socket := .indexed (.item fresh) (fun i => Outlet.lift (.item fresh i) (Prod.mk i)) A.socket
  entering s := A.entering s.2

end Application
end CommandBridge

import CommandBridge.Script.Call
import CommandBridge.Script.Socket
import CommandBridge.Script.Stream

/-!
# Scripted applications

The application whose handlers are scripts over a shared journal.
-/

set_option autoImplicit false

namespace CommandBridge.Script

def application : Application where
  World := Journal
  Call := CallRun
  Stream := StreamRun
  Socket := SocketRun
  call := ⟨CallRun.next, fun _ j => j⟩
  stream := ⟨StreamRun.next, StreamRun.release⟩
  socket := ⟨SocketRun.next, SocketRun.release⟩

end CommandBridge.Script

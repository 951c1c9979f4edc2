import CommandBridge.Registry.Build

/-!
# Declarations inside a larger application

What an application declares can be offered by one that contains it: only the states
in which its handlers start are renamed.
-/

set_option autoImplicit false

namespace CommandBridge

variable {A B : Application}

structure Embedding (A B : Application) where
  call : A.Call → B.Call
  stream : A.Stream → B.Stream
  socket : A.Socket → B.Socket

def Handler.embed (e : Embedding A B) : Handler A → Handler B
  | .unary mode start => .unary mode fun args => e.call (start args)
  | .stream start => .stream fun args => e.stream (start args)

def Command.embed (e : Embedding A B) (c : Command A) : Command B where
  name := c.name
  kind := c.kind
  params := c.params
  returns := c.returns
  doc := c.doc
  module := c.module
  handler := c.handler.map (Handler.embed e)

def SocketHandler.embed (e : Embedding A B) (s : SocketHandler A) : SocketHandler B where
  name := s.name
  doc := s.doc
  module := s.module
  serverEvents := s.serverEvents
  clientEvents := s.clientEvents
  callbacks := s.callbacks.map fun c => (c.1, fun data => e.socket (c.2 data))
  onConnect := s.onConnect.map e.socket
  onDisconnect := s.onDisconnect.map e.socket

def Declarations.embed (e : Embedding A B) (d : Declarations A) : Declarations B where
  models := d.models
  commands := d.commands.map (Command.embed e)
  sockets := d.sockets.map (SocketHandler.embed e)

end CommandBridge

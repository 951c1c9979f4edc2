import CommandBridge.Bridge.Basic

/-!
# Starting a server

A server installs its client first, if it is told where, and then says what it offers.
When the client cannot be installed the server does not start.
-/

set_option autoImplicit false

namespace CommandBridge.Bridge

variable {A : Application}

def commandLine (c : Command A) : String :=
  match c.kind with
  | .unary => "  " ++ c.name
  | .stream => "  " ++ c.name ++ " [channel]"

def socketLine (s : SocketHandler A) : String := "  " ++ s.name ++ " [socket]"

def banner (config : Config) (r : Registry A) (address : String) : List String :=
  [config.title,
    toString r.commands.length ++ " commands, " ++ toString r.sockets.length ++ " sockets"] ++
    r.commandList.map commandLine ++ r.socketList.map socketLine ++
    ["Listening on http://" ++ address]

def farewell : String := "Shutting down"

def installClient (b : Bridge A) : FileTree × Except TypeScript.InstallError (List String) :=
  match b.config.generateTs with
  | none => (b.files, .ok [])
  | some path =>
    match TypeScript.install b.registry (.ofText path) b.files with
    | (files, .error e) => (files, .error e)
    | (files, .ok changed) => (files, .ok (if changed then ["Wrote " ++ path] else []))

def serveOnce (b : Bridge A) (address : String) :
    Bridge A × Except TypeScript.InstallError (List String) :=
  match b.installClient with
  | (files, .error e) => ({ b with files := files }, .error e)
  | (files, .ok lines) =>
    ({ b with files := files }.closeAll,
      .ok (lines ++ banner b.config b.registry address ++ [farewell]))

end CommandBridge.Bridge

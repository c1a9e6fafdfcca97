import LspHost.Config
import LspHost.Task.Lock

/-!
Transports: the way to a server's process, which is started with a command and released with it.
-/

namespace LspHost

/-- A transport: how its process is started, the process with the task that empties its error
output while it is held, and the lock under which messages are written. -/
structure Transport where
  command : Datum
  args : List String
  env : Environment
  cwd : Datum
  server : Option Nat
  drain : Option Nat
  writing : Lock

namespace Transport

/-- A transport that holds no process yet, in an environment. -/
def ofConfig (env : Environment) (c : ServerConfig) : Transport :=
  ⟨c.command, c.args, Environment.forServer env c.env, c.cwd, none, none, .free⟩

end Transport

end LspHost

/-!
Locks that are handed over in order: a release wakes the first task that waits, and the lock counts
as free until that task takes it.
-/

namespace LspHost

/-- A lock: whether it is held, and the tickets of the tasks that wait for it, first in front. -/
structure Lock where
  held : Bool
  waiters : List Nat
  deriving DecidableEq, Repr

namespace Lock

def free : Lock := ⟨false, []⟩

/-- Whether the lock can be taken at once. Who comes while others wait waits behind them. -/
def isOpen (l : Lock) : Bool := !l.held && l.waiters.isEmpty

end Lock

end LspHost

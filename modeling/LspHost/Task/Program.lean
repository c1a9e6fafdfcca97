import LspHost.Json.Basic

/-!
Programs of tasks that share one state and take turns.

A program looks at the state, changes it, and waits for tickets that others settle. Between two
waits it runs without interruption. Programs are data: `Program.bind` sequences them, and a run
interprets them, so that every interleaving is an order in which runs are resumed.
-/

namespace LspHost

/-- A program over states `σ` that ends with an `α` or fails with an `ε`. What a ticket is settled
with is handed to the program that waits for it. -/
inductive Program (σ ε α : Type) where
  | done (a : α)
  | fail (e : ε)
  /-- Looks at the state. -/
  | look (next : σ → Program σ ε α)
  /-- Changes the state. -/
  | change (f : σ → σ) (next : Program σ ε α)
  /-- Waits until a ticket is settled; goes on at once if it is already. -/
  | wait (ticket : Nat) (next : Except ε Json → Program σ ε α)
  /-- Lets every other task that can run go first. -/
  | pause (next : Except ε Json → Program σ ε α)

namespace Program

variable {σ ε α β : Type}

/-- One program, then another that may use its value. -/
def bind : Program σ ε α → (α → Program σ ε β) → Program σ ε β
  | .done a, f => f a
  | .fail e, _ => .fail e
  | .look k, f => .look fun s => bind (k s) f
  | .change g k, f => .change g (bind k f)
  | .wait t k, f => .wait t fun r => bind (k r) f
  | .pause k, f => .pause fun r => bind (k r) f

instance : Monad (Program σ ε) where
  pure := .done
  bind := bind

/-- Runs a program to its end and hands over how it ended, a failure included. -/
def attempt : Program σ ε α → Program σ ε (Except ε α)
  | .done a => .done (.ok a)
  | .fail e => .done (.error e)
  | .look k => .look fun s => attempt (k s)
  | .change g k => .change g (attempt k)
  | .wait t k => .wait t fun r => attempt (k r)
  | .pause k => .pause fun r => attempt (k r)

/-- Ends as was handed over. -/
def ofExcept : Except ε α → Program σ ε α
  | .ok a => .done a
  | .error e => .fail e

/-- The state. -/
def state : Program σ ε σ := .look .done

/-- A part of the state. -/
def peek (f : σ → β) : Program σ ε β := .look fun s => .done (f s)

/-- Changes the state. -/
def update (f : σ → σ) : Program σ ε Unit := .change f (.done ())

/-- Changes the state and hands over what the change yields. -/
def yield (f : σ → β × σ) : Program σ ε β :=
  .look fun s => .change (fun s => (f s).2) (.done (f s).1)

/-- Waits for a ticket. -/
def await (ticket : Nat) : Program σ ε Json := .wait ticket ofExcept

/-- Lets the others go first. -/
def rest : Program σ ε Unit :=
  .pause fun r => match r with
    | .ok _ => .done ()
    | .error e => .fail e

/-- Runs a program and then a last one, whatever the first ends with; a failure of the last one
wins. -/
def ensure (p : Program σ ε α) (last : Program σ ε Unit) : Program σ ε α :=
  bind (attempt p) fun r => bind last fun _ => ofExcept r

/-- Runs a program and, if it fails with a fault that a handler takes, the handler. -/
def recover (p : Program σ ε α) (handler : ε → Option (Program σ ε α)) : Program σ ε α :=
  bind (attempt p) fun r => match r with
    | .ok a => .done a
    | .error e => (handler e).getD (.fail e)

/-- Where a program stops: at its end, to wait for a ticket, or to let others go first. -/
inductive Stop (σ ε α : Type) where
  | done (a : α)
  | failed (e : ε)
  | waiting (ticket : Nat) (next : Except ε Json → Program σ ε α)
  | pausing (next : Except ε Json → Program σ ε α)

/-- Runs a program until it stops. A ticket that is settled already is not waited for. -/
def advance (outcome? : σ → Nat → Option (Except ε Json)) : Program σ ε α → σ → σ × Stop σ ε α
  | .done a, s => (s, .done a)
  | .fail e, s => (s, .failed e)
  | .look k, s => advance outcome? (k s) s
  | .change f k, s => advance outcome? k (f s)
  | .wait t k, s =>
    match outcome? s t with
    | some r => advance outcome? (k r) s
    | none => (s, .waiting t k)
  | .pause k, s => (s, .pausing k)

@[simp] theorem bind_done (a : α) (f : α → Program σ ε β) : bind (.done a) f = f a := rfl

@[simp] theorem bind_fail (e : ε) (f : α → Program σ ε β) : bind (.fail e) f = .fail e := rfl

theorem bind_pure (p : Program σ ε α) : bind p .done = p := by
  induction p with
  | done a => rfl
  | fail e => rfl
  | look k ih => simp only [bind, ih]
  | change g k ih => simp only [bind, ih]
  | wait t k ih => simp only [bind, ih]
  | pause k ih => simp only [bind, ih]

theorem bind_assoc {γ : Type} (p : Program σ ε α) (f : α → Program σ ε β)
    (g : β → Program σ ε γ) : bind (bind p f) g = bind p fun a => bind (f a) g := by
  induction p with
  | done a => rfl
  | fail e => rfl
  | look k ih => simp only [bind, ih]
  | change h k ih => simp only [bind, ih]
  | wait t k ih => simp only [bind, ih]
  | pause k ih => simp only [bind, ih]

end Program

end LspHost

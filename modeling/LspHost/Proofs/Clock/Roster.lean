import Mathlib.Data.ENat.Lattice
import LspHost.Client
import LspHost.Proofs.Clock.Stirring
import LspHost.Proofs.Ghost
import LspHost.Proofs.Task.Wp

/-!
# Who waits for what, and until when

The proofs about time keep a roster beside the world: whose a ticket is and what for, which locks a task holds, by
when it goes on at the latest, and which requests were made (`Inquiry`) and how they ended.

A task that is cancelled ends without any more waiting. Whoever waits for a timer goes on when it rings, and whoever
waits for a document, for a pipe or for a cancelled task does so in no time (`Prompt`). So no task waits longer than
its duty allows (`Duty.limit`).

The ledger of a world is the part that requests and locks are about; most of what tasks do leaves it alone.
-/

namespace LspHost

/-- A length of time in nanoseconds, possibly without end. -/
def Seconds.limit (t : Seconds) : ℕ∞ := t.nanos?.elim ⊤ fun n => n

/-- How long a request of a task may take. -/
def TaskKind.patience (o : SessionOptions) (c : Config) (method : Json) : TaskKind → Option Seconds
  | .call (.session _ .open) => some o.handshakeTimeout
  | .call (.session _ (.close grace)) => some grace
  | .call (.session ..) => some o.requestTimeout
  | .call (.supervisor (.operate _)) =>
    some (if method = .str "initialize" then o.handshakeTimeout else c.timeouts.shutdownGrace)
  | .call (.supervisor _) => some o.requestTimeout
  | _ => none

/-- Who serves in the background makes no requests. -/
theorem TaskKind.patience_of_background {κ : TaskKind} (back : κ.IsBackground) (o : SessionOptions) (c : Config)
    (method : Json) : κ.patience o c method = none := by
  cases κ <;> first | rfl | exact back.elim

/-- What a server is asked about a document: the method and the parameters of the request. -/
def SupervisorCall.query? : SupervisorCall → Option (Json × Json)
  | .hover uri line character =>
    some (.str "textDocument/hover", .obj [("textDocument", Session.documentRef (.str uri)),
      ("position", .obj [("line", line), ("character", character)])])
  | .tokens uri none =>
    some (.str "textDocument/semanticTokens/full", .obj [("textDocument", Session.documentRef (.str uri))])
  | .tokens uri (some r) =>
    some (.str "textDocument/semanticTokens/range", .obj [("textDocument", Session.documentRef (.str uri)), ("range", r.toJson)])
  | _ => none

/-- The document that a server is asked about. -/
def SupervisorCall.subject? : SupervisorCall → Option String
  | .hover uri _ _ | .tokens uri _ => some uri
  | _ => none

/-- A query may take as long as any other request. -/
theorem SupervisorCall.patience_of_subject {c : SupervisorCall} (about : c.subject?.isSome = true) (o : SessionOptions)
    (cfg : Config) (method : Json) : TaskKind.patience o cfg method (.call (.supervisor c)) = some o.requestTimeout := by
  cases c with
  | hover | tokens => rfl
  | _ => cases about

/-- What a query makes of what it is told: nothing if the time is up or the server is at fault. -/
def Supervisor.forgiven {α : Type} : Except Fault (Option α) → Except Fault (Option α)
  | .ok a => .ok a
  | .error f => if f = .timeout ∨ Supervisor.isServerFault f = true then .ok none else .error f

/-- What a query about a document yields, from how its request has ended. -/
def SupervisorCall.yields (r : Except Fault Json) : SupervisorCall → Except Fault Reply
  | .hover .. =>
    (Supervisor.forgiven (r.bind (Session.optionalAnswer " hover " "Hover" Hover.ofMembers))).map .hover
  | .tokens .. =>
    (Supervisor.forgiven (r.bind (Session.optionalAnswer "语义 token " "SemanticTokens" SemanticTokens.ofMembers))).map .tokens
  | _ => .ok .nothing

/-- What a query about a document yields that is not asked. -/
def SupervisorCall.nothing : SupervisorCall → Reply
  | .hover .. => .hover none
  | .tokens .. => .tokens none
  | _ => .nothing

/-- A query about a document may go to a session: the supervisor holds the session and serves the document, and the session
is running and its process alive. -/
structure World.Routes (s : World) (c : SupervisorCall) (i : Nat) : Prop where
  session : s.supervisor.session = some i
  alive : s.isSessionAlive i = true
  running : ∃ x, s.sessions[i]? = some x ∧ x.state = .running
  tracked : ∃ uri d, c.subject? = some uri ∧ s.supervisor.document? uri = some d ∧
    s.supervisor.handles uri d.languageId = .ok true

/-- A second, in nanoseconds. -/
def second : ℕ∞ := 1000000000

/-- How long an operation may take once it is carried out, beside the start of a process. -/
def Operation.allowance (c : Config) : Operation → ℕ∞
  | .start => c.timeouts.handshake.limit + 3 * second
  | .stop | .shutdown => 2 * c.timeouts.shutdownGrace.limit + 2 * second
  | .restart =>
    (2 * c.timeouts.shutdownGrace.limit + 2 * second) + (c.timeouts.handshake.limit + 3 * second)

/-- How long a task may take once it has the lock of lifecycle operations. -/
def TaskKind.allowance (c : Config) : TaskKind → ℕ∞
  | .call (.supervisor (.operate o)) => o.allowance c
  | _ => ⊤

/-- Whether an operation starts a process. -/
def Operation.launches : Operation → Bool
  | .start | .restart => true
  | .stop | .shutdown => false

/-- Whether a task may start a process. -/
def TaskKind.launches : TaskKind → Bool
  | .call (.supervisor (.operate o)) => o.launches
  | _ => true

/-- The time that a task is given: by when it must be done, and whether no more time is given for the start of a process. -/
structure Grant where
  time : ℕ∞
  launched : Bool

/-- All the time there is. -/
def Grant.endless : Grant := ⟨⊤, false⟩

/-- What time a task has that takes the lock of lifecycle operations. -/
noncomputable def TaskKind.award (κ : TaskKind) (c : Config) (now : Nat) (g : Grant) : Grant :=
  ⟨min g.time (now + κ.allowance c), g.launched || !κ.launches⟩

/-- A request that is written to a process. -/
def Record.asked? : Record → Option (Nat × Members)
  | .sent pid m => if Server.isRequest m then some (pid, m) else none
  | _ => none

/-- A response that a session is told. -/
def Record.answer? : Record → Option (Nat × Response)
  | .heard i (.response r) => some (i, r)
  | _ => none

/-- A session without what nobody waits for. -/
def Session.bare (x : Session) : Session := { x with diagnostics := [], handshake := none }

/-- A supervisor of whose documents only those are left with a uri that cannot be read. -/
def Supervisor.bare (v : Supervisor) : Supervisor :=
  { v with documents := v.documents.filter fun d => (Uri.parse? d.uri).isNone }

/-- What is known of a supervisor at any time: it takes up no session once more, and the uris of its documents can be read. -/
structure Supervisor.Plain (v : Supervisor) : Prop where
  reused : v.reused = none
  legible : ∀ d ∈ v.documents, (Uri.parse? d.uri).isSome = true

/-- The part of the world that requests, locks and processes are about. -/
structure Ledger where
  transports : List Transport
  sessions : List Session
  supervisor : Supervisor
  scripts : List Script
  attempts : Nat
  getters : List (Nat × Nat)
  requests : List (Nat × Members)
  answers : List (Nat × Response)

namespace Ledger

/-- The lock at a place. -/
def lock (L : Ledger) : Place → Lock
  | .lifecycle => L.supervisor.lifecycleLock
  | .documents => L.supervisor.documentLock
  | .writing i => ((L.transports[i]?).map Transport.writing).getD .free

end Ledger

namespace World

/-- The requests that were written, in order, each with its process. -/
def requests (s : World) : List (Nat × Members) := (s.journal.filterMap Record.asked?).reverse

/-- The responses that sessions were told, in order. -/
def answers (s : World) : List (Nat × Response) := (s.journal.filterMap Record.answer?).reverse

def ledger (s : World) : Ledger where
  transports := s.transports
  sessions := s.sessions.map Session.bare
  supervisor := s.supervisor.bare
  scripts := s.scripts
  attempts := s.attempts
  getters := s.getters
  requests := s.requests
  answers := s.answers

theorem ledger_lock (s : World) (p : Place) : s.ledger.lock p = p.lock s := by
  cases p <;> rfl

/-- How long the next process takes to start. -/
def spawnTime (s : World) : ℕ∞ := (scriptOf s.scripts s.attempts).spawnDelay.elim ⊤ fun n => n

/-- What time a task has that starts a process. -/
def launch (s : World) (g : Grant) : Grant := ⟨g.time + s.spawnTime, true⟩

/-- What time a task that does something with the lock of lifecycle operations has: it is given its time when it takes
the lock. -/
noncomputable def advance (t : Nat) (s s' : World) (g : Grant) : Grant :=
  if s.supervisor.lifecycleLock.held = false ∧ s'.supervisor.lifecycleLock.held = true then
    (s.loop.kind? t).elim g fun κ => κ.award s.supervisor.config s.loop.now g
  else g

/-- What time a task has after what it has done: it was given time when it took the lock of lifecycle operations, and
more for the first process that it starts. -/
noncomputable def bill (t : Nat) (s s' : World) (g : Grant) : Grant :=
  if s'.attempts = s.attempts ∨ (advance t s s' g).launched = true then advance t s s' g
  else s.launch (advance t s s' g)

/-- The number by which a process is known. -/
def pidAt? (s : World) (j : Nat) : Option Nat := (s.servers[j]?).map Server.pid

/-- A process is known by the same number whatever it is told. -/
theorem pidAt?_setServer {g : Server → Server} (pid : ∀ p, (g p).pid = p.pid) (id j : Nat) (s : World) :
    (s.setServer id g).pidAt? j = s.pidAt? j := by
  simp only [pidAt?, setServer, List.getElem?_modify]
  rcases s.servers[j]? with _ | p
  · rfl
  · by_cases e : id = j <;> simp [e, pid]

/-- A session is closed. -/
def HasClosed (s : World) (i : Nat) : Prop := ∃ x, s.sessions[i]? = some x ∧ x.state = .closed

/-- Somebody waits with a ticket for a process. -/
def Awaited (s : World) (k : Nat) : Prop := ∃ p ∈ s.servers, p.Awaited k

/-- Transports and sessions are never given up, and how they were made does not change. -/
structure Lasts (a b : World) : Prop where
  transports : a.transports.length ≤ b.transports.length
  options : ∀ (i : Nat) (o : SessionOptions), (a.sessions[i]?).map Session.options = some o →
    (b.sessions[i]?).map Session.options = some o
  config : b.supervisor.config = a.supervisor.config

theorem Lasts.refl (s : World) : s.Lasts s := ⟨Nat.le_refl _, fun _ _ h => h, rfl⟩

theorem Lasts.trans {a b c : World} (h : a.Lasts b) (h' : b.Lasts c) : a.Lasts c :=
  ⟨Nat.le_trans h.transports h'.transports, fun i o e => h'.options i o (h.options i o e), h'.config.trans h.config⟩

theorem Lasts.of_ledger {a b : World} (h : b.ledger = a.ledger) : a.Lasts b where
  transports := Nat.le_of_eq (congrArg (fun L : Ledger => L.transports.length) h).symm
  options i o e := by
    have bare (s : World) : (s.ledger.sessions[i]?).map Session.options = (s.sessions[i]?).map Session.options := by
      simp only [ledger, List.getElem?_map, Option.map_map]
      rfl
    rw [← bare, h, bare]
    exact e
  config := congrArg (fun L : Ledger => L.supervisor.config) h

end World

namespace Clock

/-- What a ticket is for: for what others do, for the exit of a process, for a timer or another ticket, or for a
response. -/
inductive Use where
  | wait
  | exit
  | relay
  | request
  deriving DecidableEq

/-- A ticket is for what others do. -/
def Use.Outward : Use → Prop
  | .wait | .exit => True
  | _ => False

end Clock

/-- What the tickets are for with which a task in the background waits. -/
def TaskKind.use : TaskKind → Clock.Use
  | .exitWatch _ => .exit
  | _ => .wait

namespace Clock

theorem use_of_foreground {κ : TaskKind} (h : ¬ κ.IsBackground) : κ.use = .wait := by
  cases κ with
  | exitWatch => exact absurd trivial h
  | reader | drain | trace | showEvents | terminal | call => rfl

theorem outward_use (κ : TaskKind) : κ.use.Outward := by cases κ <;> trivial

/-- A request as it was made: by which task on which session, when and for how long; `early` counts the responses
under its number that had come before. -/
structure Inquiry where
  session : Nat
  number : Nat
  ticket : Nat
  task : Nat
  method : Json
  params : Json
  issued : Nat
  time : Seconds
  early : Nat

namespace Inquiry

/-- When the time of a request is up. -/
def due (q : Inquiry) : ℕ∞ := q.issued + q.time.limit

/-- The message that a request is written as, if it is one. -/
def message? (q : Inquiry) : Option Members :=
  (Request.ofMembers [("id", .int q.number), ("method", q.method), ("params", q.params)]).toOption.map fun r =>
    (Message.request r).wireMembers.filter fun e => e.1 ≠ "jsonrpc"

/-- A request is what the supervisor was called to ask. -/
def Asks (q : Inquiry) (c : SupervisorCall) : Prop := c.query? = some (q.method, q.params)

/-- The responses under the number of a request. -/
def answers (q : Inquiry) (all : List (Nat × Response)) : List Response :=
  (all.filter fun a => a.1 = q.session ∧ a.2.id = some (.number q.number)).map Prod.snd

end Inquiry

/-- What a task is about to do before it waits again: nothing in particular, to end, or to close a session. -/
inductive Intent where
  | none
  | finish
  | close (session : Nat)
  deriving DecidableEq

/-- What a task is about to do stays so until it is done. -/
def Intent.Passes (c c' : Intent) (s : World) : Prop := c = .none ∨ c' = c ∨ ∃ i, c = .close i ∧ s.HasClosed i

/-- What a task has in hand: the locks that it holds, the one it waits for, by when it must be done, the request that
it has made, which may not be written yet, the session that it opens, and what it is about to do. -/
structure Duty where
  holds : List Place
  queued : Option (Place × Nat)
  quota : Grant
  asking : Option Inquiry
  unsent : Bool
  opening : Option Nat
  closing : Intent

namespace Duty

def idle : Duty := ⟨[], none, .endless, none, false, none, .none⟩

/-- By when a task goes on at the latest. -/
noncomputable def limit (d : Duty) : ℕ∞ := min d.quota.time ((d.asking.map Inquiry.due).getD ⊤)

/-- Nothing is in hand. -/
structure Clear (d : Duty) : Prop where
  holds : d.holds = []
  queued : d.queued = none
  asking : d.asking = none
  opening : d.opening = none
  closes : ∀ i, d.closing ≠ .close i

theorem clear_idle : idle.Clear := ⟨rfl, rfl, rfl, rfl, fun _ e => by cases e⟩

theorem limit_idle : idle.limit = ⊤ := rfl

end Duty

/-- What the proofs keep beside the world: whose a ticket is and what for, what the tasks have in hand, by when each
goes on at the latest, which tasks were cancelled, which sessions have had a process, for which session a process was
started, and the requests: those that were made, those that have ended and those that were written to a process. -/
structure Roster where
  owner : Nat → Option (Nat × Use)
  duty : Nat → Duty
  alarm : Nat → ℕ∞
  doomed : Nat → Prop
  used : Nat → Prop
  home : Nat → Option Nat
  asks : List Inquiry
  ended : List (Inquiry × Except Fault Json)
  written : List (Inquiry × Nat)

namespace Roster

def blank : Roster := ⟨fun _ => none, fun _ => .idle, fun _ => ⊤, fun _ => False, fun _ => False, fun _ => none, [], [], []⟩

/-- A ticket gets an owner. -/
def own (γ : Roster) (k t : Nat) (use : Use) : Roster :=
  { γ with owner := fun j => if j = k then some (t, use) else γ.owner j }

/-- A task has something else in hand. -/
def charge (γ : Roster) (t : Nat) (d : Duty) : Roster :=
  { γ with duty := fun u => if u = t then d else γ.duty u }

/-- A task will go on by some time. -/
def ring (γ : Roster) (t : Nat) (time : ℕ∞) : Roster :=
  { γ with alarm := fun u => if u = t then time else γ.alarm u }

/-- A task is cancelled. -/
def doom (γ : Roster) (u : Nat) : Roster := { γ with doomed := fun v => v = u ∨ γ.doomed v }

/-- A session gets a process. -/
def use (γ : Roster) (i : Nat) : Roster := { γ with used := fun j => j = i ∨ γ.used j }

/-- A process is started for a session. -/
def house (γ : Roster) (pid i : Nat) : Roster :=
  { γ with home := fun n => if n = pid then some i else γ.home n }

variable (γ : Roster)

@[simp] theorem own_self (k t : Nat) (u : Use) : (γ.own k t u).owner k = some (t, u) := by simp [own]

theorem own_ne {j k : Nat} (t : Nat) (u : Use) (h : j ≠ k) : (γ.own k t u).owner j = γ.owner j := by simp [own, h]

@[simp] theorem charge_self (t : Nat) (d : Duty) : (γ.charge t d).duty t = d := by simp [charge]

theorem charge_ne {t u : Nat} (d : Duty) (h : u ≠ t) : (γ.charge t d).duty u = γ.duty u := by simp [charge, h]

@[simp] theorem house_self (pid i : Nat) : (γ.house pid i).home pid = some i := by simp [house]

theorem house_ne {pid n : Nat} (i : Nat) (h : n ≠ pid) : (γ.house pid i).home n = γ.home n := by simp [house, h]

@[simp] theorem ring_self (t : Nat) (time : ℕ∞) : (γ.ring t time).alarm t = time := by simp [ring]

theorem ring_ne {t u : Nat} (time : ℕ∞) (h : u ≠ t) : (γ.ring t time).alarm u = γ.alarm u := by simp [ring, h]

/-- How a ticket may be settled: a relay with a value, and what others do only fails if the task is cancelled. -/
structure Proper (u : Nat) (use : Use) (r : Except Fault Json) : Prop where
  relay : use = .relay → ∃ v, r = .ok v
  wait : use.Outward → ∀ f, r = .error f → f = .cancelled ∧ γ.doomed u

theorem proper_ok (u : Nat) (use : Use) (v : Json) : γ.Proper u use (.ok v) :=
  ⟨fun _ => ⟨v, rfl⟩, fun _ _ e => by cases e⟩

end Roster

/-! ## What holds at all times -/

/-- Who waits for the exit or an output of a process: a ticket for an exit is a watch's, and settled with a value only if
the process is dead. -/
structure Exits (γ : Roster) (s : World) : Prop where
  exits : ∀ i p, s.servers[i]? = some p → ∀ k ∈ p.exitWaiters, p.isAlive = true ∧
    ∃ u, γ.owner k = some (u, .exit) ∧ s.loop.kind? u = some (.exitWatch i)
  streams : ∀ p ∈ s.servers, ∀ (c : Channel) (k : Nat) (d : Demand), (c.get p).waiter = some (k, d) →
    ∃ u, γ.owner k = some (u, .wait)
  watches : ∀ k u, γ.owner k = some (u, .exit) → ∃ j p, s.loop.kind? u = some (.exitWatch j) ∧ s.servers[j]? = some p ∧
    (s.loop.outcome? k = none → k ∈ p.exitWaiters) ∧ ∀ v, s.loop.outcome? k = some (.ok v) → p.isAlive = false

/-- Whose the tickets are, and how they may be settled. -/
structure Tickets (γ : Roster) (s : World) : Prop where
  sane : s.loop.Sane
  issued : ∀ k v, γ.owner k = some v → k < s.loop.tickets.length
  endings : ∀ u k, s.loop.ending? u = some k → γ.owner k = none
  unfed : ∀ k u use, γ.owner k = some (u, use) → use ≠ .relay → ¬ s.loop.Fed k
  fed : ∀ k, s.loop.Fed k → k < s.loop.tickets.length
  proper : ∀ k u use r, γ.owner k = some (u, use) → s.loop.outcome? k = some r → γ.Proper u use r
  awaited : Exits γ s

/-- A cancelled task is about to end, or has. -/
def CalledOff (u : Nat) (l : Loop) : Prop :=
  (∃ e, l.ending? u = some e ∧ l.isSettled e = true) ∨ l.isInterrupted u = true ∨
    ∃ k, l.waitingFor? u = some k ∧ l.outcome? k = some (.error .cancelled)

/-- What the tasks are and wait for; `t` runs. -/
structure Tasks (t : Option Nat) (γ : Roster) (L : Ledger) (l : Loop) : Prop where
  kinds : ∀ u κ, l.kind? u = some κ → κ.Sessional
  doomed : ∀ u, γ.doomed u → ∃ κ, l.kind? u = some κ ∧ κ.IsBackground
  interrupted : ∀ u, l.isInterrupted u = true → γ.doomed u
  woken : ∀ u k, l.isInterrupted u = true → l.waitingFor? u = some k → l.isSettled k = true
  waiting : ∀ u κ k, l.kind? u = some κ → κ.IsBackground → l.waitingFor? u = some k → γ.owner k = some (u, κ.use)
  calledOff : ∀ u, t ≠ some u → γ.doomed u → CalledOff u l
  running : ∀ u, t = some u → l.waitingFor? u = none
  drains : ∀ (i : Nat) (T : Transport) (e : Nat), L.transports[i]? = some T → T.drain = some e →
    ∃ u j, l.ending? u = some e ∧ l.kind? u = some (.drain j)
  readers : ∀ (i : Nat) (x : Session) (e : Nat), L.sessions[i]? = some x → x.reader = some e →
    ∃ u, l.ending? u = some e ∧ l.kind? u = some (.reader i)

/-- A lock: who waits for it and who holds it. -/
structure Locked (p : Place) (γ : Roster) (L : Ledger) (l : Loop) : Prop where
  nodup : (L.lock p).waiters.Nodup
  queue : ∀ k, k ∈ (L.lock p).waiters ↔ ∃ u, (γ.duty u).queued = some (p, k)
  holder : (L.lock p).held = true → ∃ u, p ∈ (γ.duty u).holds
  handed : (L.lock p).held = false → ∀ k, (L.lock p).waiters.head? = some k → l.isSettled k = true

/-- The fault of a request that could not be written. -/
def Unwritten (f : Fault) : Prop :=
  (∃ m, f = .misfit m) ∨ f = .closed .notConnected ∨ (∃ reason, f = .closed (.writeFailed reason)) ∨
    f = Transport.missing "stdin"

/-- The fault of a message that could not be written to a process. -/
def Cut (f : Fault) : Prop :=
  f = .closed .notConnected ∨ (∃ reason, f = .closed (.writeFailed reason)) ∨ f = Transport.missing "stdin"

/-- The fault of a request that could not be written, because it is no message or for want of a pipe. -/
def Inquiry.Fails (q : Inquiry) (f : Fault) : Prop := (q.message? = none ∧ ∃ m, f = .misfit m) ∨ Cut f

theorem Inquiry.Fails.unwritten {q : Inquiry} {f : Fault} (h : q.Fails f) : Unwritten f := h.imp_left And.right

/-- How a request ends whose ticket was settled: a cancelled one has run out of time. -/
def verdict : Except Fault Json → Except Fault Json
  | .error .cancelled => .error .timeout
  | r => r

/-- The requests: their numbers, tickets and times, and how they end. -/
structure Asked (γ : Roster) (L : Ledger) (l : Loop) : Prop where
  numbers : ∀ (i : Nat) (x : Session), L.sessions[i]? = some x →
    (γ.asks.filter fun q => q.session = i).map Inquiry.number = List.range' 1 x.lastRequest
  sessions : ∀ q ∈ γ.asks, q.session < L.sessions.length
  tickets : (γ.asks.map Inquiry.ticket).Nodup
  owned : ∀ q ∈ γ.asks, γ.owner q.ticket = some (q.task, .request)
  patience : ∀ q ∈ γ.asks, ∃ κ x, l.kind? q.task = some κ ∧ L.sessions[q.session]? = some x ∧
    κ.patience x.options L.supervisor.config q.method = some q.time
  asking : ∀ u q, (γ.duty u).asking = some q → q ∈ γ.asks ∧ q.task = u ∧ ∀ r, (q, r) ∉ γ.ended
  finished : ∀ q ∈ γ.asks, (γ.duty q.task).asking = some q ∨ ∃ r, (q, r) ∈ γ.ended
  once : (γ.ended.map Prod.fst).Nodup
  verdicts : ∀ q r, (q, r) ∈ γ.ended → q ∈ γ.asks ∧
    ((∃ r', l.outcome? q.ticket = some r' ∧ r = verdict r') ∨ ∃ f, r = .error f ∧ q.Fails f)
  unheard : ∀ u q, (γ.duty u).asking = some q → l.outcome? q.ticket = none → (q.answers L.answers).length = q.early
  requests : L.requests = γ.written.filterMap fun w => w.1.message?.map (Prod.mk w.2)
  written : (γ.written.map Prod.fst).Nodup ∧
    ∀ w ∈ γ.written, w.1 ∈ γ.asks ∧ w.1.message?.isSome = true ∧ γ.home w.2 = some w.1.session
  unsent : ∀ u q, (γ.duty u).asking = some q → (γ.duty u).unsent = true → q ∉ γ.written.map Prod.fst
  queries : ∀ q ∈ γ.asks, ∀ c, l.kind? q.task = some (.call (.supervisor c)) → c.subject?.isSome = true →
    q.Asks c ∧ ∀ q' ∈ γ.asks, q'.task = q.task → q' = q

/-- The sessions: their tables of pending requests, and which of them have had a process. -/
structure Tables (γ : Roster) (L : Ledger) (l : Loop) : Prop where
  paired : L.sessions.length = L.transports.length ∧
    ∀ (i : Nat) (x : Session), L.sessions[i]? = some x → x.transport = i
  entries : ∀ (i : Nat) (x : Session) (n k : Nat), L.sessions[i]? = some x → (n, k) ∈ x.pending →
    ∃ u q, (γ.duty u).asking = some q ∧ q.session = i ∧ q.number = n ∧ q.ticket = k
  listed : ∀ u q (x : Session), (γ.duty u).asking = some q → l.outcome? q.ticket = none →
    L.sessions[q.session]? = some x → (q.number, q.ticket) ∈ x.pending
  closed : ∀ (i : Nat) (x : Session) (n k : Nat), L.sessions[i]? = some x → x.state = .closed → (n, k) ∈ x.pending →
    ∃ u q, (γ.duty u).asking = some q ∧ q.ticket = k ∧ q.method = .str "initialize"
  bare : ∀ (i : Nat) (T : Transport), L.transports[i]? = some T → ¬ γ.used i → T.server = none
  fresh : ∀ (i : Nat) (x : Session), L.sessions[i]? = some x → x.state = .notStarted →
    ¬ γ.used i ∧ ∀ u, (γ.duty u).opening ≠ some i
  openers : ∀ u i, (γ.duty u).opening = some i → ¬ γ.used i ∧ i < L.sessions.length ∧
    ∀ v, (γ.duty v).opening = some i → v = u
  bound : ∀ i, γ.used i → i < L.sessions.length
  held : ∀ i, L.supervisor.session = some i → γ.used i

/-- What holds whenever nobody is in the middle of a segment but `t`. -/
structure Inv (t : Option Nat) (γ : Roster) (s : World) : Prop where
  tickets : Tickets γ s
  tasks : Tasks t γ s.ledger s.loop
  locked : ∀ p, Locked p γ s.ledger s.loop
  queuers : ∀ u p k, (γ.duty u).queued = some (p, k) → γ.owner k = some (u, .wait)
  asked : Asked γ s.ledger s.loop
  tables : Tables γ s.ledger s.loop
  servers : ∀ (i : Nat) (T : Transport) (j : Nat), s.ledger.transports[i]? = some T → T.server = some j →
    ∃ pid, s.pidAt? j = some pid ∧ γ.home pid = some i
  homes : ∀ pid i, γ.home pid = some i → ∃ n, n < s.ledger.attempts ∧ pid = World.pidOf n
  idle : ∀ (i : Nat) (x : Session), s.ledger.sessions[i]? = some x → ¬ γ.used i → x.pending = []
  getters : s.ledger.getters = []
  plain : s.ledger.supervisor.Plain

/-! ## What tasks count on -/

/-- What nobody takes back. -/
structure Onward (a b : Roster × World) : Prop where
  grows : a.2.loop.Grows b.2.loop
  time : a.2.loop.now ≤ b.2.loop.now
  timers : a.2.loop.timerCount ≤ b.2.loop.timerCount ∧
    ∀ x ∈ b.2.loop.timers, x ∈ a.2.loop.timers ∨ a.2.loop.timerCount ≤ x.id
  owner : ∀ k v, a.1.owner k = some v → b.1.owner k = some v
  doomed : ∀ u, a.1.doomed u → b.1.doomed u
  used : ∀ i, a.1.used i → b.1.used i
  home : ∀ pid i, a.1.home pid = some i → b.1.home pid = some i
  asks : ∀ q ∈ a.1.asks, q ∈ b.1.asks
  ended : ∀ e ∈ a.1.ended, e ∈ b.1.ended
  lasts : a.2.Lasts b.2
  dead : ∀ i, a.1.used i → b.2.isConnected i = true → a.2.isConnected i = true

/-- What a task has when nothing is different that concerns it. -/
structure Stays (u : Nat) (a b : Roster × World) : Prop extends Onward a b where
  duty : b.1.duty u = a.1.duty u
  requests : ∀ k, a.1.owner k = some (u, .request) → b.2.loop.outcome? k = some (.error .cancelled) →
    a.2.loop.outcome? k = some (.error .cancelled)
  opener : ∀ i, (a.1.duty u).opening = some i → b.1.used i → a.1.used i

/-- What a task counts on while the others run: it keeps what it has in hand, nobody tampers with its relays, cancels
its requests or makes one in its name, and it does not have to wait longer. -/
structure Rely (u : Nat) (a b : Roster × World) : Prop extends Stays u a b where
  alarm : b.1.alarm u ≤ a.1.alarm u
  mine : ∀ q ∈ b.1.asks, q.task = u → q ∈ a.1.asks
  relays : ∀ k, a.1.owner k = some (u, .relay) → a.2.loop.Kept k b.2.loop

/-- A request is settled rightly by a task: with the first response that has come under its number since it was
made, by its own task when its time is up, by the reader of its session that ends, or by who closes its session. -/
def Rightly (t : Nat) (q : Inquiry) (r : Except Fault Json) (s : World) (does : Intent → Prop) : Prop :=
  (∃ a, (q.answers s.answers)[q.early]? = some a ∧ (q.answers s.answers).length = q.early + 1 ∧
    r = Session.outcomeOf a) ∨
  (q.answers s.answers).length = q.early ∧
    ((r = .error .cancelled ∧ t = q.task ∧ q.due ≤ s.loop.now) ∨
      (r = .error (.closed (.sessionLost (Session.nameOf q.session))) ∧
        s.loop.kind? t = some (.reader q.session) ∧ does .finish) ∨
      ((r = .error (.closed (.sessionClosed (Session.nameOf q.session))) ∨
        r = .error (.closed (.sessionAborted (Session.nameOf q.session)))) ∧ does (.close q.session)))

/-- A task has made a request just now: it has taken its number, and notes how many responses under that number have come. -/
structure Inquiry.Poses (q : Inquiry) (t : Nat) (s : World) : Prop where
  task : q.task = t
  issued : q.issued = s.loop.now
  early : q.early = (q.answers s.answers).length
  unsettled : s.loop.outcome? q.ticket = none
  number : ∃ x, s.sessions[q.session]? = some x ∧ x.lastRequest = q.number

/-- A task has made a request just now, and one that is a query of the supervisor goes where it may go. -/
structure Inquiry.Made (q : Inquiry) (t : Nat) (s : World) : Prop extends q.Poses t s where
  routed : ∃ κ, s.loop.kind? t = some κ ∧
    ∀ c, κ = .call (.supervisor c) → c.subject?.isSome = true → s.Routes c q.session

/-- What a task may do. -/
structure Acts (t : Nat) (f : World → World) (a : Roster × World) (γ' : Roster) : Prop where
  drives : a.2.loop.Drives (f a.2).loop
  onward : Onward a (γ', f a.2)
  endings : ∀ k, (f a.2).loop.Apart k → a.2.loop.Kept k (f a.2).loop
  spares : ∀ u, u ≠ t → Rely u a (γ', f a.2)
  alarms : ∀ u, u ≠ t → γ'.alarm u = a.1.alarm u
  closing : (a.1.duty t).closing.Passes (γ'.duty t).closing (f a.2)
  made : ∀ q ∈ γ'.asks, q ∉ a.1.asks → q.Made t (f a.2)
  rightly : ∀ q ∈ a.1.asks, a.2.loop.outcome? q.ticket = none → ∀ r, (f a.2).loop.outcome? q.ticket = some r →
    Rightly t q r a.2 ((γ'.duty t).closing = ·)
  bill : (γ'.duty t).quota = World.bill t a.2 (f a.2) (a.1.duty t).quota

/-- Something is under way that settles a ticket by some time. -/
def Coming (γ : Roster) (l : Loop) (k : Nat) (time : ℕ∞) : Prop :=
  l.Reached k ∨ (∃ x ∈ l.timers, x.Rings k ∧ (x.due : ℕ∞) ≤ time) ∨
    ∃ u e, γ.doomed u ∧ l.ending? u = some e ∧ Watcher.ticket k ∈ l.watchers e

/-- A task goes on by the time of its alarm, if it has one. -/
def Prompt (t : Nat) (on : Option Nat) (γ : Roster) (l : Loop) : Prop :=
  ∀ k, on = some k → γ.alarm t = ⊤ ∨ (γ.owner k = some (t, .relay) ∧ Coming γ l k (γ.alarm t)) ∨
    (∃ u, γ.doomed u ∧ l.ending? u = some k) ∨ ∃ p, p ≠ .lifecycle ∧ (γ.duty t).queued = some (p, k)

/-- How a task waits, with what it has in hand. Who holds the lock of a pipe lets go of it in no time, and who holds
the lock of the documents waits for nothing but a pipe. -/
structure Waits (t : Nat) (on : Option Nat) (γ : Roster) (l : Loop) : Prop where
  prompt : Prompt t on γ l
  limit : γ.alarm t ≤ (γ.duty t).limit
  pipes : ∀ i, .writing i ∈ (γ.duty t).holds → on = none
  documents : .documents ∈ (γ.duty t).holds → on = none ∨
    ∃ i k, on = some k ∧ (γ.duty t).queued = some (.writing i, k)
  queued : ∀ p k, (γ.duty t).queued = some (p, k) → on = some k
  closing : (γ.duty t).closing = .none
  issued : ∀ k, on = some k → k < l.tickets.length

/-- How tasks treat each other. -/
def discipline : Discipline Roster where
  Rely := Rely
  Acts := Acts
  Stops t on γ s :=
    Inv (some t) γ s ∧ ¬ γ.doomed t ∧ (s.loop.now : ℕ∞) ≤ γ.alarm t ∧ Waits t on γ s.loop ∧
      ∀ κ k, s.loop.kind? t = some κ → κ.IsBackground → on = some k → γ.owner k = some (t, κ.use)
  Resumes t on r γ s :=
    Inv (some t) γ s ∧ γ.alarm t = s.loop.now ∧ (γ.doomed t → r = .error .cancelled) ∧
      (¬ γ.doomed t → (∀ k, on = some k → s.loop.outcome? k = some r) ∧ (on = none → r = .ok .null))

/-- A task of a kind is in the middle of a segment. -/
structure Fit (t : Nat) (κ : TaskKind) (γ : Roster) (s : World) : Prop where
  inv : Inv (some t) γ s
  kind : s.loop.kind? t = some κ
  alarm : γ.alarm t = s.loop.now
  limit : (s.loop.now : ℕ∞) ≤ (γ.duty t).limit

/-- A task goes on with what it has in hand, and no time has passed. -/
structure Still (t : Nat) (κ : TaskKind) (a b : Roster × World) : Prop where
  fit : Fit t κ b.1 b.2
  stays : Stays t a b
  now : b.2.loop.now = a.2.loop.now

/-- A task goes on with what it has in hand, at most some time later. -/
structure Within (t : Nat) (κ : TaskKind) (n : ℕ∞) (a b : Roster × World) : Prop where
  fit : Fit t κ b.1 b.2
  stays : Stays t a b
  time : (b.2.loop.now : ℕ∞) ≤ a.2.loop.now + n

/-- A change of the world that a task may make, and after which it goes on. -/
structure Step (t : Nat) (κ : TaskKind) (f : World → World) (γ : Roster) (s : World) (γ' : Roster) : Prop where
  acts : Acts t f (γ, s) γ'
  still : Still t κ (γ, s) (γ', f s)

end Clock

end LspHost

import LspHost.Proofs.Ghost
import LspHost.Proofs.Task.Wp

/-!
# The invariant of a supervised client

`Inv` holds whenever no task is in the middle of a segment. Its parts:

* `Tickets`: every ticket that is stored anywhere has the role of that place, and every outcome fits
  the role of its ticket.
* `Tasks`: only tasks that serve a session are ever cancelled, and a cancelled task ends at its next
  turn.
* `LockSound`: a lock is held iff somebody holds it, and at most one waiter has been woken.
* `Life`: a process that is alive belongs to the newest transport, and while no lifecycle operation
  runs the supervisor holds nothing or a running session.
* `Order`: what was written to a process, and what waits to be written, is a conversation.
* `Mirror`: the changes of documents that the process of the held session was told, and those that
  are about to be told, make the supervisor's documents.
* `Sealed`: nothing is written after the exit.

`Keeps` holds whatever anybody does. `Minds t` is what task `t` counts on in its own calls that do not
change sessions or documents, `Mute t` in those that say nothing, and `Rely t` what it counts on while it
waits: nobody else writes what only it may write.
-/

namespace LspHost

/-- A process that can be found while it lives, and that exits when it is killed. -/
def Script.Tame (s : Script) : Prop := s.onKill = .obeys ∧ s.onTerminate ≠ .gone

/-- What never changes while a client runs. -/
structure Setting where
  config : Config
  scripts : List Script
  cwd : String

namespace Setting

/-- All processes can be killed. -/
def Tame (σ : Setting) : Prop := ∀ s ∈ σ.scripts, s.Tame

/-- The workspace has a path. -/
def Resolvable (σ : Setting) : Prop :=
  ∃ w, Session.workspaceOf σ.cwd σ.config.workspaceDir = .ok w

end Setting

/-! ## Tickets and tasks -/

/-- The fault of a task that finds a line too long to be read. -/
def overlongFault (found : Bool) : Fault := .plain .badValue (overlongText found)

/-- How tasks that serve a session end. -/
def EndFits (γ : Ghost) (s : World) (u : Nat) : TaskKind → Except Fault Json → Prop
  | .exitWatch j, r =>
    (∀ v, r = .ok v → s.overview.Dead j) ∧ ∀ f, r = .error f → f = .cancelled ∧ γ.doomed u = true
  | .drain j, r =>
    ∀ f, r = .error f →
      (f = .cancelled ∧ γ.doomed u = true) ∨ ∃ found, f = overlongFault found ∧ s.Overlong j
  | _, _ => True

/-- How a ticket is settled that is for something. -/
def Fits (γ : Ghost) (s : World) : Role → Except Fault Json → Prop
  | .unissued, _ => False
  | .relay, r => ∃ v, r = .ok v
  | .request _, r => ∀ f, r = .error f → f = .cancelled ∨ Supervisor.isServerFault f = true
  | .stream _ _ u, r => ∀ f, r = .error f → f = .cancelled ∧ γ.doomed u = true
  | .exit j u, r =>
    (∀ v, r = .ok v → s.overview.Dead j) ∧ ∀ f, r = .error f → f = .cancelled ∧ γ.doomed u = true
  | .lock _ u _, r => ∀ f, r = .error f → f = .cancelled ∧ γ.doomed u = true
  | .ending u κ _, r =>
    γ.phase u = .ended ∧ (γ.doomed u = true → r = .error .cancelled) ∧ EndFits γ s u κ r

/-- Jobs settle only tickets that are there for it. -/
def JobFits (γ : Ghost) : Job → Prop
  | .settle k _ => γ.role k = .relay
  | _ => True

/-- Every ticket that is stored somewhere has the role of that place. -/
structure Tickets (γ : Ghost) (s : World) : Prop where
  unissued : ∀ k, γ.role k = .unissued ↔ s.loop.tickets.length ≤ k
  fits : ∀ k r, s.loop.outcome? k = some r → Fits γ s (γ.role k) r
  timers : ∀ x ∈ s.loop.timers, JobFits γ x.job
  ready : ∀ job ∈ s.loop.ready, JobFits γ job
  watchers : ∀ (k : Nat) (T : Ticket), s.loop.tickets[k]? = some T → ∀ r, Watcher.ticket r ∈ T.watchers →
    γ.role r = .relay
  endings : ∀ (u : Nat) (T : TaskState), s.loop.tasks[u]? = some T → ∃ keeper, γ.role T.ending = .ending u T.kind keeper
  ended : ∀ k u κ keeper, γ.role k = .ending u κ keeper →
    s.loop.ending? u = some k ∧ s.loop.kind? u = some κ
  streams : ∀ (j : Nat) (p : Server) (c : Channel) (k : Nat) (d : Demand),
    s.servers[j]? = some p → (c.get p).waiter = some (k, d) → ∃ u, γ.role k = .stream j c u
  exits : ∀ (j : Nat) (p : Server) (k : Nat), s.servers[j]? = some p → k ∈ p.exitWaiters →
    ∃ u, γ.role k = .exit j u
  pending : ∀ (i : Nat) (x : Session) (e : Nat × Nat), s.sessions[i]? = some x → e ∈ x.pending →
    ∃ u, γ.role e.2 = .request u
  getters : s.getters = []

/-- Only tasks that serve a session are cancelled, and they end at their next turn; the task `t` is
running. -/
structure Tasks (t : Option Nat) (γ : Ghost) (s : World) : Prop where
  supervised : ∀ u κ, s.loop.kind? u = some κ → κ.Supervised
  running : ∀ u, t = some u → γ.phase u = .ready
  stopped : ∀ u, s.loop.waitingFor? u = (γ.phase u).on?
  background : ∀ u, γ.doomed u = true → ∃ κ, s.loop.kind? u = some κ ∧ κ.IsBackground
  interrupted : ∀ u, s.loop.isInterrupted u = true → γ.doomed u = true
  waits : ∀ u κ k, s.loop.kind? u = some κ → κ.IsBackground → s.loop.waitingFor? u = some k →
    (γ.role k).owner? = some u
  doomed : ∀ u, some u ≠ t → γ.doomed u = true →
    γ.phase u = .ended ∨
    s.loop.isInterrupted u = true ∨
    ∃ k, s.loop.waitingFor? u = some k ∧ s.loop.outcome? k = some (.error .cancelled)
  drainers : ∀ u u' j, s.loop.kind? u = some (.drain j) → s.loop.kind? u' = some (.drain j) → u = u'
  undrained : ∀ j, (∀ u, s.loop.kind? u ≠ some (.drain j)) → s.errorWaiter? j = none
  awaited : ∀ j k d, s.errorWaiter? j = some (k, d) → ∀ v, s.loop.outcome? k ≠ some (.ok v)
  served : ∀ u j, s.loop.kind? u = some (.drain j) ∨ s.loop.kind? u = some (.exitWatch j) →
    j < s.servers.length

/-! ## Locks -/

/-- A lock is held iff somebody holds it, and only the first waiter is ever woken. -/
structure LockSound (γ : Ghost) (s : World) (p : Place) : Prop where
  nodup : (p.lock s).waiters.Nodup
  waiters : ∀ k ∈ (p.lock s).waiters, ∃ u m κ, γ.role k = .lock p u m ∧ s.loop.kind? u = some κ ∧ p.Suits κ
  held : (p.lock s).held = (γ.holder p).isSome
  granted : ∀ k ∈ (p.lock s).waiters, ∀ v, s.loop.outcome? k = some (.ok v) →
    (p.lock s).held = false ∧ (p.lock s).waiters.head? = some k

/-- Only lifecycle operations hold the lifecycle lock, and only calls that tell of documents their
lock. -/
structure Holders (γ : Ghost) (s : World) : Prop where
  known : ∀ p u, γ.holder p = some u → ∃ κ, s.loop.kind? u = some κ
  lifecycle : ∀ u, γ.holder .lifecycle = some u →
    ∃ o, s.loop.kind? u = some (.call (.supervisor (.operate o)))
  documents : ∀ u, γ.holder .documents = some u →
    ∃ c, s.loop.kind? u = some (.call (.supervisor c)) ∧ c.Tells

/-! ## Sessions, processes and documents -/

/-- No lifecycle operation is in progress: the supervisor holds nothing and no process is alive, or
it holds a session that is running. -/
structure Overview.AtRest (σ : Setting) (v : Overview) : Prop where
  idle : v.session = none → σ.Tame → σ.Resolvable → ∀ p ∈ v.processes, p.alive = false
  busy : ∀ i, v.session = some i → v.state? i = some .running ∧ ∃ j, v.serverOf? i = some j

/-- Sessions and their processes. -/
structure Life (σ : Setting) (γ : Ghost) (v : Overview) : Prop where
  config : v.config = σ.config
  scripts : v.scripts = σ.scripts
  cwd : v.cwd = σ.cwd
  reused : v.reused = none
  paired : v.seats.length = v.holds.length
  seats : ∀ (i : Nat) (x : Seat), v.seats[i]? = some x →
    x.transport = i ∧ x.workspaceDir = σ.config.workspaceDir
  commands : ∀ x ∈ v.holds, x.command = σ.config.server.command
  pids : ∀ (j j' : Nat) (p p' : Process), v.processes[j]? = some p → v.processes[j']? = some p' →
    p.pid = p'.pid → j = j'
  attempted : ∀ p ∈ v.processes, p.pid < World.pidOf v.attempts
  posted : ∀ x ∈ v.mail, ∃ p ∈ v.processes, p.pid = x.1
  tame : σ.Tame → ∀ p ∈ v.processes, p.script.Tame
  owned : ∀ i j, v.serverOf? i = some j → j < v.processes.length
  owner : ∀ i i' j, v.serverOf? i = some j → v.serverOf? i' = some j → i = i'
  deaf : ∀ p ∈ v.processes, p.listening = true → p.alive = true
  drains : ∀ (i : Nat) (x : Hold) (d : Nat), v.holds[i]? = some x → x.drain = some d →
    ∃ u j, x.server = some j ∧ γ.role d = .ending u (.drain j) none
  readers : ∀ (i : Nat) (x : Seat) (r : Nat), v.seats[i]? = some x → x.reader = some r →
    ∃ u, γ.role r = .ending u (.reader i) none
  unstarted : ∀ i, v.state? i = some .notStarted → v.serverOf? i = none
  newest : σ.Tame → σ.Resolvable → ∀ (j : Nat) (p : Process), v.processes[j]? = some p → p.alive = true →
    γ.newborn = some j ∨ ∃ i, i + 1 = v.holds.length ∧ v.serverOf? i = some j
  held : ∀ i, v.session = some i → i + 1 = v.seats.length ∧ v.Past i
  atRest : γ.holder .lifecycle = none → v.AtRest σ

/-- How far the conversation with a session in some state may have been planned. -/
def SessionState.Permits : SessionState → Talk → Prop
  | .initializing, st => st = .silent ∨ st = .greeted ∨ st = .open
  | .running, st => st = .open
  | .shuttingDown, st => st = .open ∨ st = .closing ∨ st = .done
  | _, _ => False

/-- Where the conversation with a process goes when all is written that waits to be. -/
def plannedAt (queue : Nat → List Said) (v : Overview) (i : Nat) (p : Process) : Option Talk :=
  Talk.planned? (saidIn v.mail p.pid ++ queue i) .silent

/-- What was written, and what waits to be written, is a conversation. -/
structure Order (queue : Nat → List Said) (v : Overview) : Prop where
  written : ∀ p ∈ v.processes, ∃ st, Talk.after? (saidIn v.mail p.pid) .silent = some st
  planned : ∀ (i j : Nat) (p : Process), v.serverOf? i = some j → v.processes[j]? = some p → p.listening = true →
    ∃ st state, plannedAt queue v i p = some st ∧ v.state? i = some state ∧ state.Permits st

/-- The process of the held session is told of all documents. -/
structure Mirror (h : Hands) (v : Overview) : Prop where
  distinct : (v.documents.map TrackedDocument.uri).Nodup
  legible : ∀ d ∈ v.documents, ∃ text, d.text = .str text
  followed : ∀ p ∈ v.processes, (Note.replay (notesIn v.mail p.pid)).isSome
  mirrored : ∀ (i j : Nat) (p : Process), v.session = some i → v.serverOf? i = some j → v.processes[j]? = some p →
    (p.pid, none) ∉ v.mail → Note.replay (notesIn v.mail p.pid ++ h.untold) = some v.documents
  done : h.holder .documents = none → h.untold = []
  early : ∀ (i j : Nat) (p : Process), v.state? i = some .initializing ∨ v.state? i = some .running →
    v.session ≠ some i → v.serverOf? i = some j → v.processes[j]? = some p →
    notesIn v.mail p.pid = []
  refused : ∀ p ∈ v.processes, (p.pid, none) ∈ v.mail → p.listening = false

/-- After the exit nothing is written any more: the process takes nothing, or the lifecycle operation
that says the exit holds the lock, or is about to close the input. -/
def Sealed (h : Hands) (v : Overview) : Prop :=
  ∀ (i j : Nat) (p : Process), h.parting ≠ some i → v.serverOf? i = some j →
    v.processes[j]? = some p → p.listening = true →
    Talk.after? (saidIn v.mail p.pid) .silent = some .done →
    ∃ u, h.holder (.writing i) = some u ∧ h.holder .lifecycle = some u

/-! ## The invariant -/

/-- The invariant while task `t` is in the middle of a segment. -/
structure Inv (σ : Setting) (t : Option Nat) (γ : Ghost) (s : World) : Prop where
  tickets : Tickets γ s
  tasks : Tasks t γ s
  locks : ∀ p, LockSound γ s p
  holders : Holders γ s
  life : Life σ γ s.overview
  order : Order (s.voice γ) s.overview
  mirror : Mirror γ.toHands s.overview
  closed : Sealed γ.toHands s.overview

/-! ## What a task counts on -/

/-- What stays as it is while a task holds the lifecycle lock. -/
structure LifeKept (v v' : Overview) : Prop where
  session : v'.session = v.session
  seats : v'.seats = v.seats
  holds : v'.holds = v.holds
  processes : v'.processes.length = v.processes.length
  attempts : v'.attempts = v.attempts

/-- What stays as it is while a task holds the lock of the documents: only a lifecycle operation can
give up the session, and then the documents do not matter. -/
structure DocumentsKept (v v' : Overview) : Prop where
  session : ∀ i, v.session = some i → v.Past i →
    v'.session = some i ∨ (v'.session = none ∧ ¬ v'.Listening i)
  gone : v.session = none → v'.session = none
  documents : v'.documents = v.documents ∨ v'.session = none

/-- `u` is the only one who may empty the error output of a process. -/
def Sole (s : World) (u j : Nat) : Prop := ∀ v, s.loop.kind? v = some (.drain j) → v = u

/-- What stays as it is whatever anybody does. -/
structure Keeps (a b : Ghost × World) : Prop where
  roles : ∀ k, a.1.role k ≠ .unissued → b.1.role k = a.1.role k
  loop : a.2.loop.Grows b.2.loop
  doomed : ∀ u, a.1.doomed u = true → b.1.doomed u = true
  ended : ∀ u, a.1.phase u = .ended → b.1.phase u = .ended
  processes : ∀ (j : Nat) (p : Process), a.2.overview.processes[j]? = some p →
    ∃ p' : Process, b.2.overview.processes[j]? = some p' ∧ p'.pid = p.pid ∧ p'.script = p.script ∧
      (p'.alive = true → p.alive = true) ∧ (p'.listening = true → p.listening = true)
  transports : a.2.transports.length ≤ b.2.transports.length
  sessions : a.2.sessions.length ≤ b.2.sessions.length
  past : ∀ i, a.2.overview.Past i → b.2.overview.Past i ∧
    (b.2.overview.Listening i → a.2.overview.Listening i) ∧
    ∀ j, b.2.overview.serverOf? i = some j → a.2.overview.serverOf? i = some j
  overlong : ∀ j, a.2.Overlong j → b.2.Overlong j
  mail : ∀ x ∈ a.2.overview.mail, x ∈ b.2.overview.mail

/-- What a task counts on that neither changes sessions or documents itself nor takes locks. -/
structure Minds (t : Nat) (a b : Ghost × World) : Prop extends Keeps a b where
  holder : ∀ p, a.1.holder p = some t ↔ b.1.holder p = some t
  life : a.1.holder .lifecycle = some t → LifeKept a.2.overview b.2.overview
  documents : a.1.holder .documents = some t → DocumentsKept a.2.overview b.2.overview

/-- What a task counts on that says nothing of its own. -/
structure Mute (t : Nat) (a b : Ghost × World) : Prop extends Minds t a b where
  planned : a.1.holder .lifecycle = some t → ∀ (i j : Nat) (p p' : Process), a.2.overview.serverOf? i = some j →
    a.2.overview.processes[j]? = some p → b.2.overview.processes[j]? = some p' →
    p'.listening = true →
    plannedAt (b.2.voice b.1) b.2.overview i p' = plannedAt (a.2.voice a.1) a.2.overview i p
  unheard : a.1.holder .lifecycle = some t → ∀ i, a.2.overview.serverOf? i = none →
    a.2.voice a.1 i = [] → b.2.voice b.1 i = []
  untold : a.1.holder .documents = some t → b.1.untold = a.1.untold

/-- What a task counts on while it waits. -/
structure Rely (t : Nat) (a b : Ghost × World) : Prop extends Mute t a b where
  queue : ∀ p k m, a.1.role k = .lock p t m → (k ∈ (p.lock b.2).waiters ↔ k ∈ (p.lock a.2).waiters)
  requests : ∀ k, a.1.role k = .request t →
    b.2.loop.outcome? k = some (.error .cancelled) → a.2.loop.outcome? k = some (.error .cancelled)
  kept : ∀ k u κ, a.1.role k = .ending u κ (some t) → b.1.doomed u = a.1.doomed u
  phase : b.1.phase t = a.1.phase t
  errors : ∀ j, Sole b.2 t j →
    (a.2.errorWaiter? j = none → b.2.errorWaiter? j = none) ∧
    (∀ k d, a.2.errorWaiter? j = some (k, d) →
      b.2.errorWaiter? j = some (k, d) ∨ (b.2.errorWaiter? j = none ∧ b.2.errorsMeet j d)) ∧
    (∀ d, a.2.errorsMeet j d → b.2.errorsMeet j d)

/-- A task may wait, or may go on. -/
structure Poised (σ : Setting) (t : Nat) (γ : Ghost) (s : World) : Prop where
  inv : Inv σ (some t) γ s
  ease : γ.AtEase

/-- How the tasks of a supervised client treat each other. A cancelled task goes on only to end. -/
def discipline (σ : Setting) : Discipline Ghost where
  Rely := Rely
  Stops t on γ s :=
    Poised σ t γ s ∧ γ.doomed t = false ∧
    ∀ κ k, s.loop.kind? t = some κ → κ.IsBackground → on = some k → (γ.role k).owner? = some t
  Resumes t on r γ s :=
    Poised σ t γ s ∧
    ((γ.doomed t = true ∧ r = .error .cancelled) ∨
     (γ.doomed t = false ∧ (∀ k, on = some k → s.loop.outcome? k = some r) ∧
      (on = none → r = .ok .null)))

section Changes

open Discipline

variable {α β : Type} {σ : Setting} {t : Nat} {γ : Ghost} {s : World}

theorem wp_update {f : World → World} {Q : Except Fault Unit → Ghost → World → Prop} (γ' : Ghost)
    (spares : (discipline σ).Spares t (γ, s) (γ', f s)) (h : Q (.ok ()) γ' (f s)) :
    (discipline σ).wp t (Program.update f : Act Unit) Q γ s := Wp.update γ' spares h

/-- A change of which the outcome is known. -/
theorem wp_updateTo {f : World → World} {Q : Except Fault Unit → Ghost → World → Prop} {s' : World}
    (γ' : Ghost) (step : f s = s') (spares : (discipline σ).Spares t (γ, s) (γ', s'))
    (h : Q (.ok ()) γ' s') : (discipline σ).wp t (Program.update f : Act Unit) Q γ s := by
  subst step
  exact wp_update γ' spares h

theorem wp_change {f : World → World} {g : Unit → Act β} {Q : Except Fault β → Ghost → World → Prop}
    (γ' : Ghost) (spares : (discipline σ).Spares t (γ, s) (γ', f s))
    (h : (discipline σ).wp t (g ()) Q γ' (f s)) :
    (discipline σ).wp t ((Program.update f : Act Unit) >>= g) Q γ s := Wp.change γ' spares h

theorem wp_yieldEnds {f : World → α × World} {Q : Except Fault α → Ghost → World → Prop} (γ' : Ghost)
    (spares : (discipline σ).Spares t (γ, s) (γ', (f s).2))
    (h : (discipline σ).wp t (.done (f s).1) Q γ' (f s).2) :
    (discipline σ).wp t (Program.yield f : Act α) Q γ s := ⟨γ', spares, h⟩

theorem wp_yield {f : World → α × World} {g : α → Act β} {Q : Except Fault β → Ghost → World → Prop}
    (γ' : Ghost) (spares : (discipline σ).Spares t (γ, s) (γ', (f s).2))
    (h : (discipline σ).wp t (g (f s).1) Q γ' (f s).2) :
    (discipline σ).wp t ((Program.yield f : Act α) >>= g) Q γ s := Wp.yield γ' spares h

end Changes

end LspHost

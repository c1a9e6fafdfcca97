import LspHost.Proofs.Ghost
import LspHost.Proofs.Process.Living
import LspHost.Proofs.Sweep
import LspHost.Proofs.Task.Only
import LspHost.Proofs.Wording

/-!
# What sessions and their processes change

A class of changes is a silent repertoire if it has whatever goes on in the client and its processes without being
recorded: a change of the event loop, of a stream, of a table (`SilentRepertoire`). It is a plain repertoire if it also has
what a session, its transport or its process does for the outside to see, except that a handshake is opened
(`PlainRepertoire`), and a repertoire if it has that, too, and sessions get on by it (`Repertoire`). Then a property of
programs that make such changes is one of connecting and disconnecting (`PlainRepertoire.connects`), of asking and telling
(`Repertoire.sweep`), and of the tasks that empty the error output of a process, wait for its exit or read its messages.

A relation between worlds is lenient if it holds across whatever is not recorded (`Lenient`), and permissive if it holds
across everything (`Permissive`). Then it holds across every change that these programs make (`Lenient.repertoire`,
`Permissive.repertoire`).
-/

namespace LspHost

open Act Program

/-- A record of what went to a process. -/
def Record.IsWire : Record → Prop
  | .spawned .. | .sent .. | .refused _ | .signalled .. => True
  | _ => False

/-- A record of a message that opens a handshake. -/
def Record.IsGreeting : Record → Prop
  | .sent _ m => m.IsGreeting
  | _ => False

theorem Record.IsGreeting.isWire {r : Record} (h : r.IsGreeting) : r.IsWire := by
  cases r <;> trivial

theorem Members.isGreeting_logged {m : Members} : m.logged.IsGreeting ↔ m.IsGreeting := by
  rw [IsGreeting, IsGreeting, get?_logged m "method" (by decide)]

/-- A response has no method. -/
theorem Response.not_isGreeting (r : Response) : ¬ (Message.response r).wireMembers.IsGreeting := by
  obtain ⟨_ | id, _ | result, _ | error⟩ := r <;>
    simp [Members.IsGreeting, Message.wireMembers, Response.wireMembers, Members.get?, List.lookup_cons, Gaps.field]

/-- A property `P` of programs that look at the world and make changes of a class `C`, which has whatever a session,
its transport or its process does in one go and nobody records. Worlds of which `V` holds cannot be told apart: they may
differ in the lock of lifecycle operations. -/
structure SilentRepertoire (V : World → World → Prop) (P : ∀ α : Type, Act α → Prop) (C : (World → World) → Prop) :
    Prop where
  alike : ∀ {a b : World}, V a b → ∃ l, b = a.withGate l
  done : ∀ {α : Type} (a : α), P α (pure a)
  fail : ∀ {α : Type} (f : Fault), P α (Program.fail f)
  bind : ∀ {α β : Type} {p : Act α} {f : α → Act β}, P α p → (∀ a, P β (f a)) → P β (p >>= f)
  attempt : ∀ {α : Type} {p : Act α}, P α p → P (Except Fault α) (Program.attempt p)
  view : ∀ {α β : Type} (f : World → α) {next : α → Act β}, (∀ a b, V a b → next (f b) = next (f a)) →
    (∀ a, P β (next a)) → P β (Program.peek f >>= next)
  rest : P Unit Program.rest
  await : ∀ ticket : Nat, P Json (Program.await ticket)
  update : ∀ {f : World → World}, C f → P Unit (Program.update f)
  yield : ∀ {α : Type} {f : World → α × World}, World.Gateless (fun s => (f s).1) → C (fun s => (f s).2) →
    P α (Program.yield f)
  still : C fun s => s
  after : ∀ {f g : World → World}, C f → C g → C fun s => g (f s)
  choose : ∀ {α : Type} (pick : World → α) {f : α → World → World}, (∀ a b, V a b → pick b = pick a) →
    (∀ x, C (f x)) → C fun s => f (pick s) s
  onLoop : ∀ {f : Loop → Loop}, (∀ l : Loop, l.Grows (f l)) → C fun s => { s with loop := f s.loop }
  setServer : ∀ (id : Nat) {f : Server → Server}, (∀ p, (f p).output = p.output) → C fun s => s.setServer id f
  withServer : ∀ (id : Nat) {f : Living → Living}, (∀ x, Living.Orderly x (f x)) → C fun s => s.withServer id f
  setTransport : ∀ (id : Nat) (f : Transport → Transport), C fun s => s.setTransport id f
  setSession : ∀ (id : Nat) {f : Session → Session}, Session.Inward f → C fun s => s.setSession id f

/-- Such a class that has, too, whatever a session, its transport or its process does for the outside to see, except that
a handshake is opened. -/
structure PlainRepertoire (V : World → World → Prop) (P : ∀ α : Type, Act α → Prop) (C : (World → World) → Prop) : Prop
    extends SilentRepertoire V P C where
  born : ∀ (pid : Nat) (script : Script), C fun s => { s with servers := s.servers ++ [Server.fresh pid script] }
  attempts : ∀ n : Nat, C fun s => { s with attempts := n }
  record : ∀ {r : Record}, r.IsWire → ¬ r.IsGreeting → C (World.record r)

/-- A property `P` of programs that look at the world and make changes of a class `C`, which has whatever a session,
its transport or its process does in one go. -/
structure Repertoire (V : World → World → Prop) (P : ∀ α : Type, Act α → Prop) (C : (World → World) → Prop) : Prop
    extends PlainRepertoire V P C where
  greet : ∀ {r : Record}, r.IsGreeting → C (World.record r)
  getOn : ∀ (id : Nat) {f : Session → Session}, (∀ x, (f x).options = x.options) →
    (∀ x, (f x).transport = x.transport) → (∀ x, (f x).diagnostics = x.diagnostics) → C fun s => s.setSession id f

namespace SilentRepertoire

variable {V : World → World → Prop} {P : ∀ α : Type, Act α → Prop} {C : (World → World) → Prop}
  (K : SilentRepertoire V P C) {α β : Type} {id server : Nat}
include K

theorem unseen {f : World → α} (gateless : World.Gateless f) : ∀ a b, V a b → f b = f a := by
  intro a b alike
  obtain ⟨l, rfl⟩ := K.alike alike
  exact gateless a l

theorem look (f : World → α) {next : α → Act β} (gateless : World.Gateless fun s => next (f s))
    (h : ∀ a, P β (next a)) : P β (Program.peek f >>= next) :=
  K.view f (K.unseen gateless) h

theorem select (pick : World → α) {f : α → World → World} (gateless : World.Gateless pick) (h : ∀ x, C (f x)) :
    C fun s => f (pick s) s :=
  K.choose pick (K.unseen gateless) h

theorem ofExcept (r : Except Fault α) : P α (Program.ofExcept r) := by
  cases r with
  | ok a => exact K.done a
  | error f => exact K.fail f

theorem ensure {p : Act α} {last : Act Unit} (first : P α p) (next : P Unit last) : P α (Program.ensure p last) :=
  K.bind (K.attempt first) fun r => K.bind next fun _ => K.ofExcept r

/-! ## Waiting -/

theorem ask {f : Loop → α × Loop} (grows : ∀ l : Loop, l.Grows (f l).2) : P α (Act.ask f) :=
  K.yield (fun _ _ => rfl) (K.onLoop grows)

theorem tell {f : Loop → Loop} (grows : ∀ l : Loop, l.Grows (f l)) : P Unit (Act.tell f) := K.update (K.onLoop grows)

theorem issue : P Nat Act.issue := K.ask Loop.grows_issue

theorem start {kind : TaskKind} : P Nat (Act.start kind) := K.ask fun l => l.grows_start kind

theorem dropTimer {timer : Nat} : P Unit (Act.tell (Loop.dropTimer · timer)) :=
  K.tell fun l => l.grows_dropTimer timer

theorem sleep {nanos : Option Nat} : P Unit (Act.sleep nanos) := by
  unfold Act.sleep
  split
  · exact K.rest
  · exact K.bind K.issue fun ticket => K.bind (K.ask fun l => l.grows_later ..) fun timer =>
      K.ensure (K.bind (K.await ticket) fun _ => K.done ()) K.dropTimer
  · exact K.bind K.issue fun ticket => K.bind (K.await ticket) fun _ => K.done ()

omit K in
theorem grows_cancelWithin (fuel : Nat) (l : Loop) (task : Nat) : l.Grows (l.cancelWithin fuel task) := by
  fun_induction Loop.cancelWithin fuel l task with
  | case1 | case2 | case3 => exact .refl _
  | case4 | case5 => exact Loop.grows_set_interrupted ‹_›
  | case6 _ _ _ _ _ _ _ _ _ _ _ ih => exact ih
  | case7 => exact Loop.grows_settle ..

theorem cancelTicket {ticket : Nat} : P Unit (Act.tell (Loop.cancelTicket · ticket)) := by
  refine K.tell fun l => ?_
  unfold Loop.cancelTicket
  split
  · exact grows_cancelWithin ..
  · exact Loop.grows_settle ..

theorem watch {ticket : Nat} {w : Watcher} : P Unit (Act.tell (Loop.watch · ticket w)) :=
  K.tell fun l => l.grows_watch ticket w

theorem unwatch {ticket : Nat} {w : Watcher} : P Unit (Act.tell (Loop.unwatch · ticket w)) :=
  K.tell fun l => l.grows_unwatch ticket w

theorem cancelAndWait {ticket : Nat} : P Unit (Act.cancelAndWait ticket) :=
  K.bind K.issue fun waiter => K.bind K.watch fun _ =>
    K.ensure (K.bind K.cancelTicket fun _ => K.bind (K.await waiter) fun _ => K.done ()) K.unwatch

theorem outcomeOrTimeout {ticket : Nat} : P Json (Act.outcomeOrTimeout ticket) := by
  refine K.look _ (fun _ _ => rfl) fun r => ?_
  split
  · exact K.done _
  · exact K.fail _
  · exact K.fail _
  · exact K.fail _

theorem giveUp {ticket waiter : Nat} : P Json (Act.giveUp ticket waiter) := by
  refine K.look _ (fun _ _ => rfl) fun r => ?_
  split
  · exact K.ofExcept _
  · exact K.bind K.unwatch fun _ => K.bind K.cancelAndWait fun _ => K.outcomeOrTimeout

theorem giveUpCancelled {ticket waiter : Nat} : P Json (Act.giveUpCancelled ticket waiter) := by
  refine K.look _ (fun _ _ => rfl) fun r => ?_
  split
  · exact K.ofExcept _
  · exact K.bind K.unwatch fun _ => K.bind K.cancelAndWait fun _ => K.fail _

theorem startTimer {time : Seconds} {waiter : Nat} : P (Option Nat) (Act.startTimer time waiter) := by
  unfold Act.startTimer
  split
  · exact K.bind (K.ask fun l => l.grows_later ..) fun _ => K.done _
  · exact K.done _

theorem waitFor {begin : Act Nat} (h : P Nat begin) (time : Seconds) : P Json (Act.waitFor begin time) := by
  unfold Act.waitFor
  split
  · refine K.bind K.issue fun waiter => K.bind K.startTimer fun timer => K.bind h fun ticket =>
      K.bind K.watch fun _ => K.ensure (K.bind (K.attempt (K.await waiter)) fun r => ?_) ?_
    · split
      · exact K.giveUpCancelled
      · exact K.giveUp
    · split
      · exact K.dropTimer
      · exact K.done ()
  · refine K.bind h fun ticket => K.look _ (fun _ _ => rfl) fun r => ?_
    split
    · exact K.ofExcept _
    · exact K.bind K.cancelAndWait fun _ => K.outcomeOrTimeout

theorem stopTask {ending : Nat} : P Unit (Act.stopTask ending) := by
  refine K.bind K.cancelTicket fun _ => K.bind (K.attempt (K.await ending)) fun r => ?_
  split
  · exact K.done ()
  · exact K.done ()
  · exact K.fail _

/-! ## Locks -/

section Locks

variable {place : LockPlace} (seen : ∀ a b, V a b → place.get b = place.get a)
include seen

theorem wakeFirst : P Unit (Act.wakeFirst place) := by
  -- Worlds that cannot be told apart have the same task in front of the line.
  have wakes : C fun s => (place.get s).waiters.head?.elim s fun ticket =>
      { s with loop := s.loop.settle ticket (.ok .null) } := by
    refine K.choose (fun s => (place.get s).waiters.head?) (fun a b alike => by rw [seen a b alike])
      (f := fun ticket s => ticket.elim s fun ticket =>
        { s with loop := s.loop.settle ticket (.ok .null) }) fun ticket => ?_
    cases ticket with
    | some ticket => exact K.onLoop fun l => Loop.grows_settle l ticket _
    | none => exact K.still
  refine K.update ((funext fun s => ?_ : (fun s => _) = _) ▸ wakes)
  rcases (place.get s).waiters with _ | ⟨ticket, _⟩ <;> rfl

variable (sets : ∀ f : Lock → Lock, C fun s => place.set (f (place.get s)) s)
include sets

omit seen in
theorem setLock (f : Lock → Lock) : P Unit (Act.setLock place f) := K.update (sets f)

theorem acquire : P Unit (Act.acquire place) := by
  refine K.view _ (fun a b alike => by rw [seen a b alike]) fun lock => ?_
  split
  · exact K.setLock sets _
  · refine K.bind K.issue fun ticket => K.bind (K.setLock sets _) fun _ => K.bind (K.attempt (K.await ticket)) fun r =>
      K.bind (K.setLock sets _) fun _ => ?_
    split
    · exact K.setLock sets _
    · refine K.view _ (fun a b alike => by rw [seen a b alike]) fun lock => ?_
      split
      · exact K.bind (K.wakeFirst seen) fun _ => K.fail _
      · exact K.fail _

theorem release : P Unit (Act.release place) := K.bind (K.setLock sets _) fun _ => K.wakeFirst seen

theorem locked {p : Act α} (h : P α p) : P α (Act.locked place p) :=
  K.bind (K.acquire seen sets) fun _ => K.ensure h (K.release seen sets)

end Locks

/-- The lock under which messages are written. -/
theorem writing {p : Act α} (h : P α p) : P α (Act.locked (Transport.writePlace id) p) :=
  K.locked (K.unseen fun _ _ => rfl) (fun f => K.select (fun s => ((s.transports[id]?).map Transport.writing).getD .free)
    (f := fun l s => s.setTransport id fun t => { t with writing := f l }) (fun _ _ => rfl) fun _ => K.setTransport ..) h

/-! ## Transports -/

/-- Reading a stream of a process, if what is done to the stream is in the repertoire. -/
theorem read {c : Channel} {d : Demand} (reads : ∀ f : Stream → Stream, C fun s => s.setServer server (c.set f)) :
    P Taken (Transport.read server c d) := by
  have waiting (w : Option (Nat × Demand)) : P Unit (Transport.setWaiter server c w) := K.update (reads _)
  have within (fuel : Nat) : P Taken (Transport.readWithin server c d fuel) := by
    induction fuel with
    | zero => exact K.fail _
    | succ fuel ih =>
      refine K.bind (K.yield (fun s l => ?_) ?_) fun taken => ?_
      · simp only [show (s.withGate l).servers = s.servers from rfl]
        split
        · rfl
        · split <;> rfl
      · -- What can be decided is taken from the stream.
        have takes : C fun s => (((s.servers[server]?).map c.get).bind fun x => x.take? d).elim s fun x =>
            s.setServer server (c.set fun _ => x.2) := by
          refine K.select (fun s => ((s.servers[server]?).map c.get).bind fun x => x.take? d)
            (f := fun x s => x.elim s fun x => s.setServer server (c.set fun _ => x.2)) (fun _ _ => rfl) fun x => ?_
          cases x with
          | some x => exact reads _
          | none => exact K.still
        refine (funext fun s => ?_ : (fun s => _) = _) ▸ takes
        rcases (s.servers[server]?).map c.get with _ | stream
        · rfl
        · simp only [Option.bind_some]
          rcases stream.take? d with _ | x <;> rfl
      · split
        · exact K.done _
        · refine K.look _ (fun _ _ => rfl) fun awaited => ?_
          split
          · exact K.fail _
          · exact K.bind K.issue fun ticket => K.bind (waiting _) fun _ =>
              K.bind (K.ensure (K.bind (K.await ticket) fun _ => K.done ()) (waiting _)) fun _ => ih
  exact K.look _ (fun _ _ => rfl) fun _ => within _

/-- Receiving a message, if what is done to the output of a process is in the repertoire. -/
theorem receive (reads : ∀ (server : Nat) (f : Stream → Stream), C fun s => s.setServer server (Channel.output.set f)) :
    P Message (Transport.receive id) := by
  refine K.look _ (fun _ _ => rfl) fun server => ?_
  split
  · exact K.fail _
  · refine K.bind (K.bind (K.read (reads _)) fun _ => K.done _) fun p => ?_
    split
    · exact K.done _
    · exact K.fail _
    · refine K.bind (K.bind (K.read (reads _)) fun _ => K.done _) fun p => ?_
      split
      · exact K.done _
      · exact K.fail _
      · exact K.fail _

theorem heldServer {use : String} : P Nat (Transport.heldServer id use) := by
  refine K.look _ (fun _ _ => rfl) fun server => ?_
  split
  · exact K.done _
  · exact K.fail _

theorem getTransport : P Transport (Transport.get id) := by
  refine K.look _ (fun _ _ => rfl) fun t => ?_
  split
  · exact K.done _
  · exact K.fail _

theorem updateTransport (f : Transport → Transport) : P Unit (.update fun s => s.setTransport id f) :=
  K.update (K.setTransport ..)

theorem abandon : P Unit (Transport.abandon id) := by
  have released : P Unit (do
      .update fun s => s.setTransport id fun t => { t with drain := none }
      let _ ← Transport.heldServer id "returncode"
      .update fun s => s.setTransport id fun t => { t with server := none } : Act Unit) :=
    K.bind (K.updateTransport _) fun _ => K.bind K.heldServer fun _ => K.updateTransport _
  refine K.bind K.getTransport fun t => ?_
  split
  · exact K.bind K.stopTask fun _ => released
  · exact released

/-- The task that empties the error output of a process. -/
theorem drainTurn : P Turn (Transport.drainTurn server) := by
  refine K.bind (K.read fun f => K.setServer server fun _ => rfl) fun taken => ?_
  split
  · exact K.done _
  · exact K.done _
  · exact K.fail _

/-- A task that waits for a process to exit. -/
theorem exitWatchTurn : P Turn (Transport.exitWatchTurn server) := by
  refine K.look _ (fun _ _ => rfl) fun alive => ?_
  split
  · exact K.bind K.issue fun ticket => K.bind (K.update (K.setServer _ fun _ => rfl)) fun _ =>
      K.bind (K.await ticket) fun _ => K.done _
  · exact K.done _

/-! ## Sessions -/

theorem getSession : P Session (Session.get id) := by
  refine K.look _ (fun _ _ => rfl) fun x => ?_
  split
  · exact K.done _
  · exact K.fail _

theorem amend {f : Session → Session} (inward : Session.Inward f) : P Unit (Session.modify id f) :=
  K.update (K.setSession id inward)

theorem setPending {f : Session → List (Nat × Nat)} : P Unit (Session.modify id fun x => { x with pending := f x }) :=
  K.amend ⟨fun _ => rfl, fun _ => rfl, fun _ => rfl, fun _ => rfl, fun _ => rfl⟩

theorem setReader {reader : Option Nat} : P Unit (Session.modify id fun x => { x with reader := reader }) :=
  K.amend ⟨fun _ => rfl, fun _ => rfl, fun _ => rfl, fun _ => rfl, fun _ => rfl⟩

omit K in
theorem grows_settleAll (pending : List (Nat × Nat)) (f : Fault) (l : Loop) :
    l.Grows (pending.foldl (fun l p => l.settle p.2 (.error f)) l) := by
  induction pending generalizing l with
  | nil => exact .refl l
  | cons p rest ih => exact (Loop.grows_settle ..).trans (ih _)

theorem failPending {f : Fault} : P Unit (Session.failPending id f) :=
  K.bind K.getSession fun x => K.bind (K.tell (grows_settleAll x.pending f)) fun _ => K.setPending

theorem stopReader : P Unit (Session.stopReader id) := by
  refine K.bind K.getSession fun x => ?_
  split
  · refine K.look _ (fun _ _ => rfl) fun settled => ?_
    split
    · exact K.bind K.stopTask fun _ => K.setReader
    · exact K.setReader
  · exact K.setReader

theorem handleResponse {r : Response} : P Unit (Session.handleResponse id r) := by
  have settles : C fun s => ((s.sessions[id]?).bind fun x => Session.awaited? x s.loop r).elim s fun ticket =>
      { s with loop := s.loop.settle ticket (Session.outcomeOf r) } := by
    refine K.select (fun s => (s.sessions[id]?).bind fun x => Session.awaited? x s.loop r)
      (f := fun ticket s => ticket.elim s fun ticket =>
        { s with loop := s.loop.settle ticket (Session.outcomeOf r) }) (fun _ _ => rfl) fun ticket => ?_
    cases ticket with
    | some ticket => exact K.onLoop fun l => Loop.grows_settle l ticket _
    | none => exact K.still
  refine K.update ((funext fun s => ?_ : (fun s => _) = _) ▸ settles)
  rcases s.sessions[id]? with _ | x
  · rfl
  · simp only [Option.bind_some]
    cases Session.awaited? x s.loop r <;> rfl

end SilentRepertoire

namespace PlainRepertoire

variable {V : World → World → Prop} {P : ∀ α : Type, Act α → Prop} {C : (World → World) → Prop}
  (K : PlainRepertoire V P C) {α β : Type} {id server : Nat}
include K

theorem recordRefusal : C (World.recordRefusal server) := by
  have refused : C fun s => (s.servers[server]?).elim s fun p => s.record (.refused p.pid) := by
    refine K.select (fun s => s.servers[server]?) (f := fun p s => p.elim s fun p => s.record (.refused p.pid))
      (fun _ _ => rfl) fun p => ?_
    cases p with
    | some p => exact K.record (r := .refused _) trivial id
    | none => exact K.still
  refine (funext fun s => ?_ : (fun s => _) = World.recordRefusal server) ▸ refused
  unfold World.recordRefusal
  cases s.servers[server]? <;> rfl

/-- Writing a message, if it may be recorded. -/
theorem write_of {m : Members} (records : ∀ pid, C (World.record (.sent pid m.logged))) :
    P Unit (Transport.write server m) := by
  have written : C fun s => (s.servers[server]?).elim s fun p =>
      if p.isListening then
        (s.record (.sent p.pid (m.filter fun e => e.1 ≠ "jsonrpc"))).withServer server (Server.receive server m)
      else s.recordRefusal server := by
    refine K.select (fun s => s.servers[server]?) (f := fun p s => p.elim s fun p =>
      if p.isListening then
        (s.record (.sent p.pid (m.filter fun e => e.1 ≠ "jsonrpc"))).withServer server (Server.receive server m)
      else s.recordRefusal server) (fun _ _ => rfl) fun p => ?_
    cases p with
    | some p =>
      dsimp only [Option.elim_some]
      split
      · exact K.after (records p.pid) (K.withServer _ (Living.orderly_receive server m))
      · exact K.recordRefusal
    | none => exact K.still
  refine K.update ((funext fun s => ?_ : (fun s => _) = _) ▸ written)
  cases s.servers[server]? <;> rfl

theorem closeInput : P Unit (Transport.closeInput id) := by
  refine K.look _ (fun _ _ => rfl) fun server => ?_
  split
  · exact K.done ()
  · exact K.update (K.withServer _ (Living.orderly_closeInput _))

theorem signal {sig : Signal} : P Bool (Transport.signal id sig) := by
  refine K.bind K.heldServer fun server => K.yield (fun s l => ?_) ?_
  · simp only [show (s.withGate l).servers = s.servers from rfl, show (s.withGate l).loop = s.loop from rfl]
    split <;> rfl
  · -- The signal is recorded, and the process acts on it.
    have acts : C fun s => ((s.servers[server]?).map Server.pid).elim s fun pid =>
        (s.record (.signalled pid sig)).withServer server fun x => (Server.signal sig x).2 := by
      refine K.select (fun s => (s.servers[server]?).map Server.pid) (f := fun pid s => pid.elim s fun pid =>
        (s.record (.signalled pid sig)).withServer server fun x => (Server.signal sig x).2) (fun _ _ => rfl) fun pid => ?_
      cases pid with
      | some pid =>
        exact K.after (K.record (r := .signalled ..) trivial fun e => e) (K.withServer _ (Living.orderly_signal sig))
      | none => exact K.still
    refine (funext fun s => ?_ : (fun s => _) = _) ▸ acts
    rcases found : s.servers[server]? with _ | p
    · rfl
    · have same : (Server.signal sig (s.loop, p)).2.2.pid = p.pid := (Living.orderly_signal sig (s.loop, p)).pid
      simp only [Option.map_some, Option.elim_some, World.withServer, found, same,
        show (s.record (.signalled p.pid sig)).servers = s.servers from rfl]
      rfl

theorem createServer {attempt : Nat} {script : Script} : P Nat (Transport.createServer attempt script) :=
  K.yield (fun _ _ => rfl) (K.select (fun s => s.servers.length)
    (f := fun server s => ({ s with servers := s.servers ++ [Server.fresh (World.pidOf attempt) script] } : World).withServer
      server (Server.perform server Server.noTrigger script.onStart)) (fun _ _ => rfl) fun _ =>
    K.after (K.born _ script) (K.withServer _ (Living.orderly_perform _ _ _)))

theorem attemptSpawn {command : List String} {cwd : Datum} : P (Nat × Script) (Transport.attemptSpawn command cwd) :=
  K.yield (fun _ _ => rfl) (K.select (fun s => s.attempts)
    (f := fun n s => { s.record (.spawned command cwd) with attempts := n + 1 }) (fun _ _ => rfl) fun _ =>
    K.after (K.record (r := .spawned ..) trivial fun e => e) (K.attempts _))

theorem write {m : Members} (plain : ¬ m.IsGreeting) : P Unit (Transport.write server m) :=
  K.write_of fun _ => K.record (r := .sent ..) trivial (mt Members.isGreeting_logged.mp plain)

/-- Sending a message, if it may be written. -/
theorem sendMessage {m : Members} (writes : ∀ server, P Unit (Transport.write server m)) : P Unit (Transport.send id m) := by
  refine K.look _ (fun _ _ => rfl) fun connected => ?_
  split
  · refine K.writing (K.bind K.heldServer fun server => K.bind (writes server) fun _ => K.bind K.rest fun _ =>
      K.look _ (fun _ _ => rfl) fun broken => ?_)
    split
    · exact K.bind (K.update K.recordRefusal) fun _ => K.fail _
    · exact K.done ()
  · have refused : C fun s => (s.serverOf? id).elim s fun server => s.recordRefusal server := by
      refine K.select (fun s => s.serverOf? id) (f := fun server s => server.elim s fun server => s.recordRefusal server)
        (fun _ _ => rfl) fun server => ?_
      cases server with
      | some server => exact K.recordRefusal
      | none => exact K.still
    refine K.bind (K.update ((funext fun s => ?_ : (fun s => _) = _) ▸ refused)) fun _ => K.fail _
    cases s.serverOf? id <;> rfl

/-- A request whose number was drawn, if it may be written. -/
theorem pose {number : Nat} {method params : Json} {time : Seconds}
    (writes : ∀ r, Request.ofMembers [("id", .int number), ("method", method), ("params", params)] = .ok r → ∀ server,
      P Unit (Transport.write server (Message.request r).wireMembers)) :
    P Json (Act.issue >>= fun ticket => Session.addPending id number ticket >>= fun _ =>
      Program.ensure (Session.sendRequest id number method params >>= fun _ => Act.waitFor (pure ticket) time)
        (Session.dropPending id number)) := by
  refine K.bind K.issue fun _ => K.bind K.setPending fun _ =>
    K.ensure (K.bind (K.bind K.getSession fun x => ?_) fun _ => K.waitFor (K.done _) time) K.setPending
  split
  · next r made => exact K.sendMessage (writes r made)
  · exact K.fail _

/-- A plain repertoire has all that is done with sessions but to lead them on, if it has requests. -/
theorem connects (asks : ∀ (id : Nat) {method : Json} (params : Json), method ≠ .str "initialize" →
    P Json (Session.request id method params)) : ConnectSweep P where
  done := K.done
  fail := K.fail
  bind := K.bind
  attempt := K.attempt
  look := K.look
  rest := K.rest
  watchExit _ time := K.waitFor K.start time
  writing _ _ _ := K.writing
  write _ _ := K.write
  refuse refusal := by
    obtain ⟨pick, gateless, same⟩ := refusal
    refine K.update ((funext same : _ = fun s => _) ▸ K.select pick (f := fun server s => server.elim s s.recordRefusal)
      gateless fun server => ?_)
    cases server with
    | some server => exact K.recordRefusal
    | none => exact K.still
  closeInput _ := K.closeInput
  signal _ _ := K.signal
  abandon _ := K.abandon
  mild _ _ mild := K.amend mild.toInward
  request := asks
  sleep _ := K.sleep
  attemptSpawn _ _ := K.attemptSpawn
  createServer _ _ := K.createServer
  holdServer _ _ := K.updateTransport _
  startDrain _ _ := K.bind K.start fun _ => K.updateTransport _
  startReader _ := K.bind K.start fun _ => K.setReader
  stopReader _ := K.stopReader
  failPending _ _ := K.failPending

theorem handleRequest {r : Request} : P Unit (Session.handleRequest id r) := by
  refine K.bind K.getSession fun x => K.bind (K.ofExcept _) fun answer =>
    K.bind (K.attempt (K.sendMessage fun _ => K.write answer.not_isGreeting)) fun r => ?_
  split
  · exact K.done ()
  · exact K.done ()
  · exact K.fail _

/-- The turn of a task that reads messages, if what it makes of them is in the repertoire. -/
theorem readerTurn (reads : ∀ (server : Nat) (f : Stream → Stream), C fun s => s.setServer server (Channel.output.set f))
    (heard : ∀ m : Message, C (World.record (.heard id m)))
    (diagnosed : ∀ params : Members, P Unit (Session.handleDiagnostics id params))
    (logged : ∀ (level : Int) (text : String), P Unit (Session.tellLog id level text)) :
    P Turn (Session.readerTurn id) := by
  have log (params : Members) : P Unit (Session.handleLog id params) := K.bind (K.ofExcept _) fun _ => logged ..
  have handled (m : Message) : P Unit (Session.handle id m) := by
    cases m with
    | response r => exact K.handleResponse
    | request r => exact K.handleRequest
    | notification n =>
      show P Unit (Session.handleNotification id n)
      unfold Session.handleNotification
      split
      · exact diagnosed _
      · exact log _
      · exact log _
      · exact K.done ()
  refine K.bind (K.attempt (K.bind K.getSession fun x => K.bind (K.receive reads) fun m =>
    K.bind (K.update (heard m)) fun _ => handled m)) fun r => ?_
  split
  · exact K.done _
  · split
    · exact K.done _
    · refine K.bind K.failPending fun _ => ?_
      split
      · exact K.done _
      · exact K.fail _

/-- A property of what readers, lifecycle operations and who closes a document do is one of all turns but those of hosts
that use sessions themselves or ask a server for anything. -/
theorem turn {κ : TaskKind} (sessional : κ.Sessional) (S : Sweep P) (edits : Sweep.Edits P)
    (reads : ∀ i, κ = .reader i → P Turn (Session.readerTurn i))
    (operates : ∀ o, κ = .call (.supervisor (.operate o)) → P LifecycleResult (Supervisor.operate o))
    (closes : ∀ uri, κ = .call (.supervisor (.closeDocument uri)) → P Bool (Supervisor.closeDocument uri))
    (relays : ∀ method params, κ = .call (.supervisor (.request method params)) → P Json (Supervisor.request method params))
    (uses : ∀ i c, κ = .call (.session i c) → P Reply (Session.run i c)) : P Turn (Client.turn κ) := by
  cases κ with
  | reader => exact reads _ rfl
  | drain => exact K.drainTurn
  | exitWatch => exact K.exitWatchTurn
  | trace | showEvents | terminal => exact sessional.elim
  | call c =>
    refine K.bind ?_ fun _ => K.done _
    cases c with
    | supervisor c =>
      cases c with
      | operate o => exact K.bind (operates o rfl) fun _ => K.done _
      | openDocument => exact K.bind (S.openDocument edits _ _ _) fun _ => K.done _
      | changeDocument => exact K.bind (S.changeDocument edits _ _) fun _ => K.done _
      | closeDocument => exact K.bind (closes _ rfl) fun _ => K.done _
      | hover => exact K.bind (S.askHover _ _ _) fun _ => K.done _
      | tokens => exact K.bind (S.askTokens _ _) fun _ => K.done _
      | request => exact K.bind (relays _ _ rfl) fun _ => K.done _
    | session i c => exact uses i c rfl
    | sleep => exact K.bind K.sleep fun _ => K.done _
    | act => exact K.bind (K.update (K.withServer _ (Living.orderly_perform _ _ _))) fun _ => K.done _
    | transport | host => exact sessional.elim

end PlainRepertoire

namespace Repertoire

variable {V : World → World → Prop} {P : ∀ α : Type, Act α → Prop} {C : (World → World) → Prop}
  (K : Repertoire V P C) {α β : Type} {id server : Nat}
include K

theorem write {m : Members} : P Unit (Transport.write server m) := by
  -- A message that opens a handshake is recorded as such, any other by the plain repertoire.
  by_cases greets : m.IsGreeting
  · exact K.write_of fun _ => K.greet (r := .sent ..) (Members.isGreeting_logged.mpr greets)
  · exact K.toPlainRepertoire.write greets

theorem setState {state : SessionState} : P Unit (Session.setState id state) :=
  K.update (K.getOn id (fun _ => rfl) (fun _ => rfl) fun _ => rfl)

theorem nextRequest : P Nat (Session.nextRequest id) := by
  refine K.yield (fun s l => ?_) ?_
  · simp only [show (s.withGate l).sessions = s.sessions from rfl]
    split <;> rfl
  · have counts : C fun s => (s.sessions[id]?).elim s fun _ =>
        s.setSession id fun x => { x with lastRequest := x.lastRequest + 1 } := by
      refine K.select (fun s => s.sessions[id]?) (f := fun x s => x.elim s fun _ =>
        s.setSession id fun x => { x with lastRequest := x.lastRequest + 1 }) (fun _ _ => rfl) fun x => ?_
      cases x with
      | some x => exact K.getOn id (fun _ => rfl) (fun _ => rfl) fun _ => rfl
      | none => exact K.still
    refine (funext fun s => ?_ : (fun s => _) = _) ▸ counts
    cases s.sessions[id]? <;> rfl

theorem askSession {method params : Json} {time : Seconds} : P Json (Session.ask id method params time) :=
  K.bind K.nextRequest fun _ => K.pose fun _ _ _ => K.write

theorem request {method params : Json} : P Json (Session.request id method params) := by
  refine K.bind K.getSession fun x => ?_
  split
  · exact K.askSession
  · exact K.fail _

theorem connects : ConnectSweep P := K.toPlainRepertoire.connects fun _ _ _ _ => K.request

/-- A repertoire has all that is done with sessions. -/
theorem sweep : SessionSweep id P :=
  { K.connects with
    setState := fun _ => K.setState
    ask := fun _ _ _ => K.askSession }

theorem openSession : P InitializeResult (Session.openSession id) := K.sweep.openSession fun _ _ => K.askSession

/-- Lifecycle operations, if what only they change is in the repertoire, too. -/
theorem lifecycle (withDocuments : ∀ {p : Act Unit}, P Unit p → P Unit (Act.locked Supervisor.documentPlace p))
    (made : P Nat Supervisor.nextSession) (told : Sweep.Tells P)
    (held : ∀ session : Option Nat, P Unit (Supervisor.modify fun v => { v with session := session })) :
    LifecycleSweep P :=
  { K.connects with
    openSession := fun _ => K.openSession
    closeSession := fun _ => K.sweep.closeSession
    withDocuments := withDocuments
    nextSession := made
    publish := told
    hold := held }

/-- A property of what readers, lifecycle operations and who closes a document do is one of all turns. -/
theorem turn {κ : TaskKind} (sessional : κ.Sessional) (edits : Sweep.Edits P)
    (reads : ∀ i, κ = .reader i → P Turn (Session.readerTurn i))
    (operates : ∀ o, κ = .call (.supervisor (.operate o)) → P LifecycleResult (Supervisor.operate o))
    (closes : ∀ uri, κ = .call (.supervisor (.closeDocument uri)) → P Bool (Supervisor.closeDocument uri))
    (forgets : ∀ i uri, κ = .call (.session i (.didClose uri)) → P Unit (Session.didClose i uri)) :
    P Turn (Client.turn κ) := by
  have S : Sweep P := K.connects.toSweep
  refine K.toPlainRepertoire.turn sessional S edits reads operates closes (fun _ _ _ => S.relay fun _ => K.request)
    fun i c e => ?_
  subst e
  cases c with
  | «open» => exact K.bind K.openSession fun _ => K.done _
  | close => exact K.bind (K.sweep.closeSession _) fun _ => K.done _
  | request => exact K.bind K.request fun _ => K.done _
  | hover => exact K.bind (S.hover _ _ _) fun _ => K.done _
  | tokens => exact K.bind (S.semanticTokens _ _) fun _ => K.done _
  | didOpen => exact K.bind (S.didOpen _ _ _ _) fun _ => K.done _
  | didChange => exact K.bind (S.notify _ (by decide)) fun _ => K.done _
  | didClose => exact K.bind (forgets _ _ rfl) fun _ => K.done _

end Repertoire

/-! ## Relations -/

/-- Every change that a program makes is one across which a relation holds. -/
def Program.Across {α : Type} (R : World → World → Prop) (p : Act α) : Prop := Only (fun f => ∀ s, R s (f s)) p

/-- A relation that holds across whatever a session, its transport or its process does in one go and nobody records. -/
structure Lenient (R : World → World → Prop) : Prop where
  refl : ∀ s, R s s
  trans : ∀ {a b c : World}, R a b → R b c → R a c
  onLoop : ∀ {s : World} {l : Loop}, s.loop.Grows l → R s { s with loop := l }
  setServer : ∀ {s : World} (id : Nat) {f : Server → Server}, (∀ p, (f p).output = p.output) →
    R s (s.setServer id f)
  acts : ∀ {s : World} {id : Nat} {p : Server} {x : Living}, s.servers[id]? = some p →
    Living.Orderly (s.loop, p) x → R s { s with loop := x.1, servers := s.servers.set id x.2 }
  setTransport : ∀ (s : World) (id : Nat) (f : Transport → Transport), R s (s.setTransport id f)
  setSession : ∀ (s : World) (id : Nat) {f : Session → Session}, (∀ x, (f x).options = x.options) →
    (∀ x, (f x).transport = x.transport) → (∀ x, (f x).diagnostics = x.diagnostics) → R s (s.setSession id f)

/-- A relation that holds across whatever a session, its transport or its process does in one go. -/
structure Permissive (R : World → World → Prop) : Prop extends Lenient R where
  born : ∀ (s : World) (pid : Nat) (script : Script), R s { s with servers := s.servers ++ [Server.fresh pid script] }
  attempts : ∀ (s : World) (n : Nat), R s { s with attempts := n }
  record : ∀ (s : World) {r : Record}, r.IsWire → R s (s.record r)

namespace Lenient

variable {R : World → World → Prop} (K : Lenient R)
include K

/-- A process acts. -/
theorem withServer {id : Nat} {f : Living → Living} (orderly : ∀ x, Living.Orderly x (f x)) (s : World) :
    R s (s.withServer id f) := by
  unfold World.withServer
  split
  · exact K.acts ‹_› (orderly _)
  · exact K.refl s

/-- The silent changes across which a lenient relation holds, and the programs that make no others. -/
theorem repertoire : SilentRepertoire Eq (fun _ p => Across R p) fun f => ∀ s, R s (f s) where
  alike {a _} same := ⟨a.gate, same.symm⟩
  done := .done
  fail := .fail
  bind := .bind
  attempt := .attempt
  view f _ _ := .look f
  rest := .rest
  await := .await
  update changes := .update changes
  yield _ changes := .yield changes
  still := K.refl
  after first next s := K.trans (first s) (next _)
  choose _ _ _ h s := h _ s
  onLoop grows s := K.onLoop (grows s.loop)
  setServer id _ output _ := K.setServer id output
  withServer _ _ := K.withServer
  setTransport id f s := K.setTransport s id f
  setSession id _ inward s := K.setSession s id inward.options inward.transport inward.diagnostics

end Lenient

/-- The changes across which a permissive relation holds, and the programs that make no others. -/
theorem Permissive.repertoire {R : World → World → Prop} (K : Permissive R) :
    Repertoire Eq (fun _ p => Across R p) fun f => ∀ s, R s (f s) where
  toSilentRepertoire := K.toLenient.repertoire
  born pid script s := K.born s pid script
  attempts n s := K.attempts s n
  record wire _ s := K.record s wire
  greet greets s := K.record s greets.isWire
  getOn id _ options transport diagnostics s := K.setSession s id options transport diagnostics

/-- Documents are edited by such changes if the relation holds across the edits and what is done with their lock. -/
theorem Permissive.edits {R : World → World → Prop} (K : Permissive R)
    (documentLock : ∀ (s : World) (l : Lock), R s (s.setSupervisor fun v => { v with documentLock := l }))
    (documents : ∀ (s : World) (ds : List TrackedDocument), R s (s.setSupervisor fun v => { v with documents := ds })) :
    Sweep.Edits fun _ p => Across R p where
  withDocuments h := K.repertoire.locked (fun _ _ same => by rw [same]) (fun _ s => documentLock s _) h
  edit f _ := .update fun s => documents s (f s.supervisor)

/-- Lifecycle operations make only such changes if the relation holds across what they alone do: they make sessions, tell
of their lives and hold them, one operation at a time. -/
theorem Permissive.operate {R : World → World → Prop} (K : Permissive R) (edits : Sweep.Edits fun _ p => Across R p)
    (made : ∀ s : World,
      R s (Supervisor.createSession s.supervisor.config.server (Supervisor.sessionOptions s.supervisor) s).2)
    (told : ∀ (s : World) (type : EventType) (session : Option Nat) (message : String), type ∈ EventType.lifecycle →
      R s (s.publishLifecycle type session message))
    (held : ∀ (s : World) (session : Option Nat), R s (s.setSupervisor fun v => { v with session := session }))
    (lifecycleLock : ∀ (s : World) (l : Lock), R s (s.setSupervisor fun v => { v with lifecycleLock := l }))
    (o : Operation) : Across R (Supervisor.operate o) := by
  have locked {p : Act LifecycleResult} (h : Across R p) : Across R (Act.locked Supervisor.lifecyclePlace p) :=
    K.repertoire.locked (fun _ _ same => by rw [same]) (fun _ s => lifecycleLock s _) h
  have makes : Across R Supervisor.nextSession := .yield fun s => by
    dsimp only
    split
    · exact K.refl s
    · exact made s
  refine (K.repertoire.lifecycle edits.withDocuments makes
    (fun type session message lifecycle => .update fun s => told s type session message lifecycle)
    fun session => .update fun s => held s session).operate edits (fun o policy p h => ?_) o
  refine .look _ fun v => ?_
  split
  · exact .done _
  · exact locked h

end LspHost

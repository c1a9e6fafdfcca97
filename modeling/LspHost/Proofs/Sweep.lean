import LspHost.Client

/-!
# What all parts of a client have in common

A property of programs that is kept when programs are put together, and that the parts have which settle
tickets, change a session or reach a process, is a property of whatever is made of these parts: of
disconnecting, of notifications and of queries, if requests other than the handshake have it (`Sweep`), and of documents,
if changes of the documents have it (`Sweep.Edits`). With the parts that make a process it is one of connecting
(`ConnectSweep`). With those that lead a session on it is one of closing that session, and of opening it if it is one of
its handshake (`SessionSweep`). With these and what the supervisor itself does it is one of lifecycle operations
(`LifecycleSweep`).
-/

namespace LspHost

open Act

/-- A change of a session by which it gets no further: how it was made, its state, the number of its last request and
what it was told stay as they are. -/
structure Session.Inward (f : Session → Session) : Prop where
  options : ∀ x, (f x).options = x.options
  transport : ∀ x, (f x).transport = x.transport
  state : ∀ x, (f x).state = x.state
  lastRequest : ∀ x, (f x).lastRequest = x.lastRequest
  diagnostics : ∀ x, (f x).diagnostics = x.diagnostics

/-- Such a change of what is known of a session by which nothing is learnt: the requests that wait for a response and the
task that reads its messages stay as they are, too. -/
structure Session.Mild (f : Session → Session) : Prop extends Session.Inward f where
  pending : ∀ x, (f x).pending = x.pending
  reader : ∀ x, (f x).reader = x.reader

/-- A session that has forgotten the diagnostics of a document. -/
def Session.forgetDocument (uri : Json) (x : Session) : Session :=
  { x with diagnostics := x.diagnostics.filter fun d => Json.str d.1 ≠ uri }

/-- A message that opens a handshake. -/
def Members.IsGreeting (m : Members) : Prop := m.get? "method" = some (.str "initialize")

theorem Notification.method_of_made {method : String} {params : Json} {n : Notification}
    (made : ofMembers [("method", .str method), ("params", params)] = .ok n) : n.method = method := by
  have said : Schema.required [("method", .str method), ("params", params)] "method" Schema.text? = .ok method := rfl
  unfold ofMembers at made
  rw [said] at made
  generalize Schema.optional _ "params" _ = p at made
  rcases p with p | p <;> cases made
  rfl

/-- The lock of lifecycle operations. -/
def World.gate (s : World) : Lock := s.supervisor.lifecycleLock

/-- The world with another lock of lifecycle operations. -/
def World.withGate (s : World) (l : Lock) : World := s.setSupervisor fun v => { v with lifecycleLock := l }

/-- What is seen of a world does not depend on the lock of lifecycle operations. -/
def World.Gateless {α : Type} (f : World → α) : Prop := ∀ s l, f (s.withGate l) = f s

/-- A change that notes at most that a process did not take what was written to it. -/
def World.Refusal (f : World → World) : Prop :=
  ∃ pick : World → Option Nat, World.Gateless pick ∧ ∀ s, f s = (pick s).elim s s.recordRefusal

/-- A property of programs that is kept when programs are put together, and that some parts have. What they look at
does not depend on the lock of lifecycle operations. -/
structure Sweep (P : ∀ α : Type, Act α → Prop) : Prop where
  done : ∀ {α : Type} (a : α), P α (pure a)
  fail : ∀ {α : Type} (f : Fault), P α (Program.fail f)
  bind : ∀ {α β : Type} {p : Act α} {f : α → Act β}, P α p → (∀ a, P β (f a)) → P β (p >>= f)
  attempt : ∀ {α : Type} {p : Act α}, P α p → P (Except Fault α) (Program.attempt p)
  look : ∀ {α β : Type} (f : World → α) {next : α → Act β}, World.Gateless (fun s => next (f s)) → (∀ a, P β (next a)) →
    P β (Program.peek f >>= next)
  rest : P Unit Program.rest
  watchExit : ∀ (server : Nat) (time : Seconds), P Json (Act.waitFor (Act.start (.exitWatch server)) time)
  writing : ∀ (id : Nat) {α : Type} {p : Act α}, P α p → P α (Act.locked (Transport.writePlace id) p)
  write : ∀ (server : Nat) {m : Members}, ¬ m.IsGreeting → P Unit (Transport.write server m)
  refuse : ∀ {f : World → World}, World.Refusal f → P Unit (Program.update f)
  closeInput : ∀ id : Nat, P Unit (Transport.closeInput id)
  signal : ∀ (id : Nat) (sig : Signal), P Bool (Transport.signal id sig)
  abandon : ∀ id : Nat, P Unit (Transport.abandon id)
  mild : ∀ (id : Nat) {f : Session → Session}, Session.Mild f → P Unit (Session.modify id f)
  request : ∀ (id : Nat) {method : Json} (params : Json), method ≠ .str "initialize" →
    P Json (Session.request id method params)

/-- What is done under the lock of the documents has a property if it has it without the lock, and changes of the
documents have it. -/
structure Sweep.Edits (P : ∀ α : Type, Act α → Prop) : Prop where
  withDocuments : ∀ {α : Type} {p : Act α}, P α p → P α (Act.locked Supervisor.documentPlace p)
  edit : ∀ f : Supervisor → List TrackedDocument, (∀ v l, f { v with lifecycleLock := l } = f v) →
    P Unit (Supervisor.modify fun v => { v with documents := f v })

namespace Sweep

variable {P : ∀ α : Type, Act α → Prop} (S : Sweep P) {α β : Type} {id : Nat}
include S

theorem peek {f : World → α} (gateless : World.Gateless f) : P α (Program.peek f) :=
  show P α (Program.peek f >>= pure) from S.look f (fun s l => congrArg Program.done (gateless s l)) S.done

theorem ofExcept (r : Except Fault α) : P α (Program.ofExcept r) := by
  cases r with
  | ok a => exact S.done a
  | error f => exact S.fail f

theorem ensure {p : Act α} {last : Act Unit} (first : P α p) (next : P Unit last) :
    P α (Program.ensure p last) :=
  S.bind (S.attempt first) fun r => S.bind next fun _ => S.ofExcept r

/-! ## Transports -/

theorem heldServer (use : String) : P Nat (Transport.heldServer id use) := by
  refine S.look _ (fun _ _ => rfl) fun server => ?_
  split
  · exact S.done _
  · exact S.fail _

theorem transport : P Transport (Transport.get id) := by
  refine S.look _ (fun _ _ => rfl) fun t => ?_
  split
  · exact S.done _
  · exact S.fail _

theorem deliver {m : Members} (plain : ¬ m.IsGreeting) : P Unit (Transport.deliver id m) := by
  refine S.bind (S.heldServer _) fun server => S.bind (S.write server plain) fun _ => S.bind S.rest fun _ =>
    S.look _ (fun _ _ => rfl) fun broken => ?_
  split
  · exact S.bind (S.refuse ⟨fun _ => some server, fun _ _ => rfl, fun _ => rfl⟩) fun _ => S.fail _
  · exact S.done ()

theorem send {m : Members} (plain : ¬ m.IsGreeting) : P Unit (Transport.send id m) := by
  refine S.look _ (fun _ _ => rfl) fun connected => ?_
  split
  · exact S.writing id (S.deliver plain)
  · refine S.bind (S.refuse ⟨fun s => s.serverOf? id, fun _ _ => rfl, fun s => ?_⟩) fun _ => S.fail _
    dsimp only
    cases s.serverOf? id <;> rfl

theorem wait (time : Seconds) : P Bool (Transport.wait id time) := by
  refine S.look _ (fun _ _ => rfl) fun server => ?_
  split
  · exact S.done true
  · refine S.bind (S.attempt (S.watchExit ..)) fun r => ?_
    split
    · exact S.done true
    · exact S.done false
    · exact S.fail _

theorem dismiss (time : Seconds) (exited : Bool) : P Bool (Transport.dismiss id time exited) := by
  refine S.bind (S.closeInput id) fun _ => ?_
  split
  · exact S.done true
  · refine S.bind (S.wait time) fun gone => ?_
    split
    · exact S.done true
    · refine S.bind (S.heldServer _) fun _ => S.bind (S.signal id .terminate) fun there => ?_
      split
      · refine S.bind (S.wait _) fun gone => ?_
        split
        · refine S.bind (S.signal id .kill) fun there => ?_
          split
          · exact S.bind (S.wait _) fun _ => S.done false
          · exact S.done false
        · exact S.done false
      · exact S.done false

theorem disconnect (time : Seconds) : P Bool (Transport.disconnect id time) := by
  refine S.look _ (fun _ _ => rfl) fun server => ?_
  split
  · exact S.done true
  · exact S.look _ (fun _ _ => rfl) fun exited => S.ensure (S.dismiss time exited) (S.abandon id)

theorem kill : P Unit (Transport.kill id) := by
  have gone : P Unit (do
      let _ ← Transport.disconnect id Transport.signalGrace : Act Unit) :=
    S.bind (S.disconnect _) fun _ => S.done ()
  refine S.look _ (fun _ _ => rfl) fun server => ?_
  split
  · exact S.done ()
  · refine S.look _ (fun _ _ => rfl) fun alive => ?_
    split
    · exact S.bind (S.signal id .kill) fun _ => gone
    · exact gone

/-! ## Sessions -/

theorem session : P Session (Session.get id) := by
  refine S.look _ (fun _ _ => rfl) fun x => ?_
  split
  · exact S.done _
  · exact S.fail _

theorem notify {method : String} (params : Json) (other : method ≠ "initialize") :
    P Unit (Session.notify id method params) := by
  refine S.bind S.session fun x => ?_
  split
  · next n made =>
    refine S.send fun greets => other ?_
    rw [← Notification.method_of_made made]
    exact Json.str.inj (Option.some.inj greets)
  · exact S.fail _

theorem hover (uri line character : Json) : P (Option Hover) (Session.hover id uri line character) :=
  S.bind (S.request id _ (by simp)) fun _ => S.ofExcept _

theorem semanticTokens (uri : Json) (range : Option Range) :
    P (Option SemanticTokens) (Session.semanticTokens id uri range) := by
  unfold Session.semanticTokens
  split
  · exact S.bind (S.request id _ (by simp)) fun _ => S.ofExcept _
  · exact S.bind (S.request id _ (by simp)) fun _ => S.ofExcept _

theorem didOpen (uri languageId version text : Json) :
    P Unit (Session.didOpen id uri languageId version text) := by
  unfold Session.didOpen
  split
  · exact S.notify _ (by decide)
  · exact S.fail _

theorem didClose {uri : Json} (forgets : P Unit (Session.modify id (Session.forgetDocument uri))) :
    P Unit (Session.didClose id uri) := by
  unfold Session.didClose
  split
  · exact S.bind forgets fun _ => S.notify _ (by decide)
  · exact S.fail _

/-! ## Documents and queries -/

theorem forward {tell : Nat → Act Unit} (h : ∀ id, P Unit (tell id)) : P Unit (Supervisor.forward tell) := by
  refine S.look _ (fun _ _ => rfl) fun v => ?_
  split
  · exact S.done ()
  · refine S.bind (S.attempt (h _)) fun r => ?_
    split
    · exact S.done ()
    · split
      · exact S.done ()
      · exact S.fail _

theorem belongs (uri languageId : String) : P Bool (Supervisor.belongs uri languageId) :=
  S.look _ (fun _ _ => rfl) fun _ => S.ofExcept _

theorem openDocument (edits : Sweep.Edits P) (uri languageId : String) (text : Json) :
    P Bool (Supervisor.openDocument uri languageId text) := by
  refine S.bind (S.belongs ..) fun belongs => ?_
  split
  · refine edits.withDocuments (S.look _ (fun _ _ => rfl) fun v => ?_)
    split
    · exact S.done true
    · exact S.bind (edits.edit _ fun _ _ => rfl) fun _ => S.bind (S.forward fun id => S.didOpen ..) fun _ => S.done true
  · exact S.done false

theorem changeDocument (edits : Sweep.Edits P) (uri : String) (text : Json) :
    P Bool (Supervisor.changeDocument uri text) := by
  refine edits.withDocuments (S.look _ (fun _ _ => rfl) fun v => ?_)
  split
  · exact S.done false
  · exact S.bind (edits.edit _ fun _ _ => rfl) fun _ => S.bind (S.forward fun id => S.notify _ (by decide)) fun _ => S.done true

theorem closeDocument (edits : Sweep.Edits P) {uri : String}
    (forgets : ∀ id, P Unit (Session.modify id (Session.forgetDocument (.str uri)))) :
    P Bool (Supervisor.closeDocument uri) := by
  refine edits.withDocuments (S.look _ (fun _ _ => rfl) fun v => ?_)
  split
  · exact S.done false
  · exact S.bind (edits.edit _ fun _ _ => rfl) fun _ => S.bind (S.forward fun id => S.didClose (forgets id)) fun _ =>
      S.done true

theorem routable (uri : String) : P (Option Nat) (Supervisor.routable uri) := by
  refine S.look _ (fun _ _ => rfl) fun v => ?_
  split
  · exact S.done _
  · refine S.bind (S.belongs ..) fun belongs => ?_
    split
    · split
      · exact S.done _
      · refine S.look _ (fun _ _ => rfl) fun alive => ?_
        split
        · exact S.done _
        · exact S.done _
    · exact S.done _

theorem query {ask : Act (Option α)} (h : P _ ask) : P _ (Supervisor.query ask) := by
  refine S.bind (S.attempt h) fun r => ?_
  split
  · exact S.done _
  · exact S.done _
  · split
    · exact S.done _
    · exact S.fail _

theorem askHover (uri : String) (line character : Json) :
    P (Option Hover) (Supervisor.hover uri line character) := by
  refine S.bind (S.routable uri) fun session => ?_
  split
  · exact S.done _
  · exact S.query (S.hover ..)

theorem askTokens (uri : String) (range : Option Range) :
    P (Option SemanticTokens) (Supervisor.semanticTokens uri range) := by
  refine S.bind (S.routable uri) fun session => ?_
  split
  · exact S.done _
  · exact S.query (S.semanticTokens ..)

theorem relay {method params : Json} (asks : ∀ id, P Json (Session.request id method params)) :
    P Json (Supervisor.request method params) := by
  refine S.look _ (fun _ _ => rfl) fun v => ?_
  split
  · exact asks _
  · exact S.fail _

theorem replay (session : Nat) (ds : List TrackedDocument) : P Unit (Supervisor.replay session ds) := by
  induction ds with
  | nil => exact S.done ()
  | cons d rest ih =>
    refine S.bind (S.attempt (S.didOpen ..)) fun r => ?_
    split
    · exact ih
    · split
      · exact S.done ()
      · exact S.fail _

end Sweep

/-! ## Sessions are opened and closed -/

/-- Such a property of the parts, too, that make a process and end what belongs to it. -/
structure ConnectSweep (P : ∀ α : Type, Act α → Prop) : Prop extends Sweep P where
  sleep : ∀ nanos : Option Nat, P Unit (Act.sleep nanos)
  attemptSpawn : ∀ (command : List String) (cwd : Datum), P (Nat × Script) (Transport.attemptSpawn command cwd)
  createServer : ∀ (attempt : Nat) (script : Script), P Nat (Transport.createServer attempt script)
  holdServer : ∀ id server : Nat,
    P Unit (Program.update fun s => s.setTransport id fun t => { t with server := some server })
  startDrain : ∀ id server : Nat, P Unit (Act.start (.drain server) >>= fun drain =>
    Program.update fun s => s.setTransport id fun t => { t with drain := some drain })
  startReader : ∀ id : Nat, P Unit (Act.start (.reader id) >>= fun reader =>
    Session.modify id fun x => { x with reader := some reader })
  stopReader : ∀ id : Nat, P Unit (Session.stopReader id)
  failPending : ∀ (id : Nat) (f : Fault), P Unit (Session.failPending id f)

namespace ConnectSweep

variable {P : ∀ α : Type, Act α → Prop} (S : ConnectSweep P) {id : Nat}
include S

theorem spawn (t : Transport) (command : String) : P Nat (Transport.spawn t command) := by
  refine S.bind (S.attemptSpawn ..) fun (attempt, script) => S.bind (S.sleep _) fun _ => ?_
  split
  · exact S.createServer ..
  · exact S.fail _
  · exact S.fail _
  · exact S.fail _

theorem connect : P Unit (Transport.connect id) := by
  refine S.bind S.transport fun t => ?_
  split
  · exact S.fail _
  · refine S.bind ?_ fun command => S.bind (S.spawn ..) fun server =>
      S.bind (S.holdServer ..) fun _ => S.startDrain ..
    unfold Transport.commandText
    split
    · exact S.done _
    · exact S.fail _

end ConnectSweep

/-- Such a property of the parts, too, that lead a session on, apart from its handshake. -/
structure SessionSweep (id : Nat) (P : ∀ α : Type, Act α → Prop) : Prop extends ConnectSweep P where
  setState : ∀ {state : SessionState}, state ≠ .notStarted → P Unit (Session.setState id state)
  ask : ∀ {method : Json} (params : Json) (time : Seconds), method ≠ .str "initialize" →
    P Json (Session.ask id method params time)

namespace SessionSweep

variable {P : ∀ α : Type, Act α → Prop} {id : Nat} (S : SessionSweep id P)
include S

theorem askShutdown (grace : Seconds) : P (List String) (Session.askShutdown id grace) := by
  refine S.bind (S.attempt (S.ask _ _ (by simp))) fun r => ?_
  split
  · exact S.done _
  · exact S.done _
  · split
    · exact S.done _
    · exact S.fail _

theorem sayExit : P Unit (Session.sayExit id) := by
  refine S.bind (S.attempt (S.notify _ (by decide))) fun r => ?_
  split
  · exact S.done ()
  · split
    · exact S.done ()
    · exact S.fail _

theorem abort : P Unit (Session.abort id) :=
  S.bind S.session fun _ => S.bind S.kill fun _ => S.bind (S.stopReader id) fun _ =>
    S.bind (S.failPending ..) fun _ => S.setState (by decide)

theorem closeSession (grace : Seconds) : P Unit (Session.closeSession id grace) := by
  refine S.bind S.session fun x => ?_
  split
  · exact S.setState (by decide)
  · refine S.bind (S.setState (by decide)) fun _ => S.bind (S.askShutdown _) fun problems => S.bind S.sayExit fun _ =>
      S.bind (S.disconnect _) fun exited => S.bind (S.stopReader id) fun _ => S.bind (S.failPending ..) fun _ =>
      S.bind (S.setState (by decide)) fun _ => ?_
    split
    · split
      · exact S.done ()
      · exact S.fail _
    · split
      · exact S.done ()
      · exact S.fail _

section Handshake

variable (greets : ∀ (params : Json) (time : Seconds), P Json (Session.ask id (.str "initialize") params time))
include greets

theorem shakeHands : P InitializeResult (Session.shakeHands id) := by
  refine S.bind S.session fun x => S.look _ (fun _ _ => rfl) fun cwd => S.bind (S.ofExcept _) fun params =>
    S.bind (greets ..) fun answer => ?_
  split
  · exact S.fail _
  · refine S.bind (S.mild id ?_) fun _ => S.bind (S.notify _ (by decide)) fun _ => S.done _
    exact ⟨⟨fun _ => rfl, fun _ => rfl, fun _ => rfl, fun _ => rfl, fun _ => rfl⟩, fun _ => rfl, fun _ => rfl⟩

theorem introduce : P InitializeResult (Session.introduce id) := by
  refine S.bind S.session fun x => S.bind (S.attempt (S.shakeHands greets)) fun r => ?_
  split
  · exact S.bind (S.setState (by decide)) fun _ => S.done _
  · exact S.bind S.abort fun _ => S.fail _
  · split
    · exact S.bind S.abort fun _ => S.fail _
    · exact S.fail _

/-- A session whose process was started is read and introduced. -/
theorem welcome : P InitializeResult (Act.start (.reader id) >>= fun reader =>
    Session.modify id (fun x => { x with reader := some reader }) >>= fun _ => Session.introduce id) := by
  have parts := S.bind (S.startReader id) fun _ => (S.introduce greets : P _ (Session.introduce id))
  rwa [show ∀ (p : Act Nat) (f : Nat → Act Unit) (q : Act InitializeResult),
    ((p >>= f) >>= fun _ => q) = p >>= fun a => f a >>= fun _ => q from
      fun p f q => Program.bind_assoc p f fun _ => q] at parts

theorem openSession : P InitializeResult (Session.openSession id) := by
  refine S.bind S.session fun x => ?_
  split
  · exact S.fail _
  · refine S.bind (S.setState (by decide)) fun _ => S.bind (S.attempt S.connect) fun r => ?_
    split
    · split
      · exact S.bind (S.setState (by decide)) fun _ => S.fail _
      · exact S.fail _
    · exact S.welcome greets

end Handshake

end SessionSweep

/-! ## Lifecycle operations -/

/-- News of lifecycle operations has a property. -/
def Sweep.Tells (P : ∀ α : Type, Act α → Prop) : Prop :=
  ∀ (type : EventType) (session : Option Nat) (message : String), type ∈ EventType.lifecycle →
    P Unit (Supervisor.publish type session message)

namespace Sweep

variable {P : ∀ α : Type, Act α → Prop} (S : Sweep P) (tells : Sweep.Tells P) {id : Nat}
include S

theorem pidOf : P (Option Int) (Supervisor.pidOf id) := S.peek fun _ _ => rfl

include tells in
theorem stopSession (closes : ∀ grace : Seconds, P Unit (Session.closeSession id grace))
    (letsGo : P Unit (Supervisor.modify fun v => { v with session := none })) :
    P LifecycleResult (Supervisor.stopSession id) := by
  have told (x : LifecycleResult) : P LifecycleResult
      (Supervisor.publish .sessionStopped (some id) x.message >>= fun _ => pure x) :=
    S.bind (tells _ _ _ (by decide)) fun _ => S.done x
  refine S.bind (tells _ _ _ (by decide)) fun _ => S.bind S.pidOf fun pid => S.look _ (fun _ _ => rfl) fun v =>
    S.bind (S.attempt (closes _)) fun r => S.bind letsGo fun _ => ?_
  dsimp only
  split
  · exact S.bind (S.done _) fun x => told x
  · split
    · exact S.bind (S.done _) fun x => told x
    · exact S.bind (S.fail _) fun x => told x

include tells in
theorem startFailed (kind : ErrorKind) (f : Fault) : P LifecycleResult (Supervisor.startFailed id kind f) :=
  S.bind (tells _ _ _ (by decide)) fun _ => S.done _

theorem takeUp (withDocuments : ∀ {p : Act Unit}, P Unit p → P Unit (Act.locked Supervisor.documentPlace p))
    (holds : P Unit (Supervisor.modify fun v => { v with session := some id })) : P Unit (Supervisor.takeUp id) :=
  withDocuments (S.bind holds fun _ => S.look _ (fun _ _ => rfl) fun _ => S.replay ..)

include tells in
theorem doRestart (stops : P LifecycleResult Supervisor.stopForRestart) (starts : P LifecycleResult Supervisor.doStart) :
    P LifecycleResult Supervisor.doRestart := by
  refine S.look _ (fun _ _ => rfl) fun v => S.bind (tells _ _ _ (by decide)) fun _ => S.bind stops fun stop =>
    S.bind starts fun start => ?_
  dsimp only
  split
  · exact S.look _ (fun _ _ => rfl) fun v => S.bind (tells _ _ _ (by decide)) fun _ => S.done _
  · exact S.done _

/-- An operation, if what is done under the lock of lifecycle operations is done under it. -/
theorem operate (edits : Sweep.Edits P)
    (serialized : ∀ (o : Operation) (policy : BusyPolicy) {p : Act LifecycleResult}, P _ p →
      P _ (Supervisor.serialized o policy p))
    (starts : P LifecycleResult Supervisor.doStart) (stops : P LifecycleResult Supervisor.doStop)
    (restarts : P LifecycleResult Supervisor.doRestart) (o : Operation) : P LifecycleResult (Supervisor.operate o) := by
  refine S.look _ (fun _ _ => rfl) fun v => ?_
  split
  · exact serialized _ _ starts
  · exact serialized _ _ stops
  · exact serialized _ _ restarts
  · exact S.bind (serialized _ _ stops) fun _ => S.bind (edits.edit (fun _ => []) fun _ _ => rfl) fun _ => S.done _

end Sweep

/-- Such a property of opening and closing sessions and of what the supervisor does with them. -/
structure LifecycleSweep (P : ∀ α : Type, Act α → Prop) : Prop extends Sweep P where
  openSession : ∀ id : Nat, P InitializeResult (Session.openSession id)
  closeSession : ∀ (id : Nat) (grace : Seconds), P Unit (Session.closeSession id grace)
  withDocuments : ∀ {p : Act Unit}, P Unit p → P Unit (Act.locked Supervisor.documentPlace p)
  nextSession : P Nat Supervisor.nextSession
  publish : Sweep.Tells P
  hold : ∀ session : Option Nat, P Unit (Supervisor.modify fun v => { v with session := session })

namespace LifecycleSweep

variable {P : ∀ α : Type, Act α → Prop} (S : LifecycleSweep P) {id : Nat}
include S

theorem stopSession : P LifecycleResult (Supervisor.stopSession id) :=
  S.toSweep.stopSession S.publish (S.closeSession id) (S.hold none)

theorem doStop : P LifecycleResult Supervisor.doStop := by
  refine S.look _ (fun _ _ => rfl) fun v => ?_
  split
  · exact S.done _
  · exact S.stopSession

theorem launch : P LifecycleResult Supervisor.launch := by
  refine S.bind S.nextSession fun session => S.bind (S.publish _ _ _ (by decide)) fun _ =>
    S.bind (S.attempt (S.openSession _)) fun r => ?_
  split
  · exact S.bind (S.takeUp S.withDocuments (S.hold _)) fun _ => S.look _ (fun _ _ => rfl) fun name =>
      S.bind (S.publish _ _ _ (by decide)) fun _ => S.bind S.pidOf fun _ => S.done _
  · exact S.startFailed S.publish ..
  · split
    · exact S.startFailed S.publish ..
    · exact S.fail _

theorem doStart : P LifecycleResult Supervisor.doStart := by
  refine S.look _ (fun _ _ => rfl) fun v => ?_
  split
  · exact S.launch
  · refine S.look _ (fun _ _ => rfl) fun alive => ?_
    split
    · exact S.bind S.pidOf fun _ => S.done _
    · exact S.bind S.stopSession fun _ => S.launch

theorem stopForRestart : P LifecycleResult Supervisor.stopForRestart := by
  refine S.look _ (fun _ _ => rfl) fun v => ?_
  split
  · exact S.done _
  · exact S.stopSession

theorem doRestart : P LifecycleResult Supervisor.doRestart :=
  S.toSweep.doRestart S.publish S.stopForRestart S.doStart

/-- An operation, if what is done under the lock of lifecycle operations is done under it. -/
theorem operate (edits : Sweep.Edits P)
    (serialized : ∀ (o : Operation) (policy : BusyPolicy) {p : Act LifecycleResult}, P _ p →
      P _ (Supervisor.serialized o policy p)) (o : Operation) : P LifecycleResult (Supervisor.operate o) :=
  S.toSweep.operate edits serialized S.doStart S.doStop S.doRestart o

end LifecycleSweep

end LspHost

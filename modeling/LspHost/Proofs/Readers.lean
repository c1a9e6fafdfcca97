import LspHost.Proofs.Clock.Correlation
import LspHost.Proofs.Diagnosis
import LspHost.Proofs.Upkeep

/-!
# Tasks that read messages

A reader takes one turn after the other, and what it has done before does not change. `Readership` says something of a reader
by its own deeds: between two turns, while it waits and after its end. If every turn leads from the first to the others, all
of it is true of the readers of every life (`Machine.Lives.reader_stands`).
-/

namespace LspHost

open Act Discipline Program

/-- The deeds of a task. -/
def deedsOf (t : Nat) (ds : List Deed) : List Deed := ds.filter fun d => d.task = t

theorem deedsOf_self (t : Nat) (γ : List Deed) (f : World → World) (s : World) :
    deedsOf t (γ ++ [⟨t, f, s⟩]) = deedsOf t γ ++ [⟨t, f, s⟩] := by
  simp [deedsOf]

theorem deedsOf_ne {t : Nat} (γ : List Deed) {d : Deed} (ne : d.task ≠ t) : deedsOf t (γ ++ [d]) = deedsOf t γ := by
  simp [deedsOf, ne]

/-! ## What a reader tells -/

/-- A record of what a session, or the supervisor, tells of what a server says. -/
def Record.IsTold : Record → Prop
  | .diagnosed .. | .logged .. | .listened .. => True
  | _ => False

/-- A relation that holds across whatever is kept and told of what a server says. -/
structure World.Telling (R : World → World → Prop) : Prop where
  refl : ∀ s, R s s
  trans : ∀ {a b c : World}, R a b → R b c → R a c
  record : ∀ {r : Record} (s : World), r.IsTold → R s (s.record r)
  publish : ∀ (e : Event) (s : World), R s (s.publish e)
  keep : ∀ (s : World) (id : Nat) (f : List (String × List Diagnostic) → List (String × List Diagnostic)),
    R s (s.setSession id fun x => { x with diagnostics := f x.diagnostics })

namespace World.Telling

variable {R : World → World → Prop} (K : World.Telling R) {i : Nat}
include K

theorem tellDiagnostics {p : PublishedDiagnostics} : Across R (Session.tellDiagnostics i p) := by
  refine .update fun s => ?_
  split
  · exact K.record s trivial
  · unfold Supervisor.hearDiagnostics
    split
    · dsimp only
      split
      · exact K.trans (K.publish _ s) (K.record _ trivial)
      · exact K.publish _ s
    · exact K.refl s
  · exact K.refl s

theorem handleDiagnostics {params : Members} : Across R (Session.handleDiagnostics i params) := by
  unfold Session.handleDiagnostics
  split
  · exact .done _
  · exact .bind (.update fun s => K.keep s i _) fun _ => K.tellDiagnostics

theorem tellLog {level : Int} {text : String} : Across R (Session.tellLog i level text) := by
  refine .update fun s => ?_
  split
  · exact K.record s trivial
  · exact K.publish _ s
  · exact K.refl s

end World.Telling

/-! ## Sessions and processes are never given up -/

/-- Sessions keep their transports, and there are as many processes as before. -/
structure World.Moors (a b : World) : Prop where
  loop : a.loop.Grows b.loop
  berths : ∀ (i : Nat) (x : Session), a.sessions[i]? = some x →
    ∃ y, b.sessions[i]? = some y ∧ y.transport = x.transport
  servers : a.servers.length ≤ b.servers.length

namespace World.Moors

variable {a b c : World}

theorem of_eq (loop : a.loop.Grows b.loop) (sessions : b.sessions = a.sessions)
    (servers : a.servers.length ≤ b.servers.length) : a.Moors b where
  loop := loop
  berths i x found := ⟨x, by rw [sessions]; exact found, rfl⟩
  servers := servers

theorem refl (a : World) : a.Moors a := of_eq (.refl _) rfl (Nat.le_refl _)

theorem trans (h : a.Moors b) (h' : b.Moors c) : a.Moors c where
  loop := h.loop.trans h'.loop
  berths i x found := by
    obtain ⟨y, found, same⟩ := h.berths i x found
    obtain ⟨z, found, same'⟩ := h'.berths i y found
    exact ⟨z, found, same'.trans same⟩
  servers := Nat.le_trans h.servers h'.servers

theorem setSession (s : World) (id : Nat) {f : Session → Session} (transport : ∀ x, (f x).transport = x.transport) :
    s.Moors (s.setSession id f) where
  loop := .refl _
  berths i x found := by
    refine ⟨if id = i then f x else x, ?_, by split <;> simp [transport]⟩
    simp only [World.setSession, List.getElem?_modify, found]
    split <;> rfl
  servers := Nat.le_refl _

theorem setServer (s : World) (id : Nat) (f : Server → Server) : s.Moors (s.setServer id f) :=
  of_eq (.refl _) rfl (Nat.le_of_eq (List.length_modify ..).symm)

theorem publish (e : Event) (s : World) : s.Moors (s.publish e) := by
  obtain ⟨l, waiting, grows, step⟩ := World.publish_eq e s
  rw [step]
  exact of_eq grows rfl (Nat.le_refl _)

/-- Whatever a session does, or its process, sessions keep their transports. -/
theorem permissive : Permissive World.Moors where
  refl := .refl
  trans := .trans
  onLoop grows := of_eq grows rfl (Nat.le_refl _)
  setServer id _ _ := setServer _ id _
  acts _ orderly := of_eq orderly.grows rfl (Nat.le_of_eq (List.length_set ..).symm)
  born _ _ _ := of_eq (.refl _) rfl (by simp)
  attempts _ _ := of_eq (.refl _) rfl (Nat.le_refl _)
  setTransport _ _ _ := of_eq (.refl _) rfl (Nat.le_refl _)
  setSession s id _ _ transport _ := setSession s id transport
  record _ _ _ := of_eq (.refl _) rfl (Nat.le_refl _)

theorem edits : Sweep.Edits fun _ p => Across World.Moors p :=
  permissive.edits (fun _ _ => of_eq (.refl _) rfl (Nat.le_refl _)) fun _ _ => of_eq (.refl _) rfl (Nat.le_refl _)

theorem forget {id : Nat} {uri : Json} : Across World.Moors (Session.modify id (Session.forgetDocument uri)) :=
  .update fun s => setSession s id fun _ => rfl

/-- A session is made. -/
theorem createSession (server : ServerConfig) (options : SessionOptions) (s : World) :
    s.Moors (Supervisor.createSession server options s).2 where
  loop := .refl _
  berths _ x found := ⟨x, (List.getElem?_append_left (List.getElem?_eq_some_iff.mp found).1).trans found, rfl⟩
  servers := Nat.le_refl _

/-- Lifecycle operations make sessions, and no session gets another transport. -/
theorem operate (o : Operation) : Across World.Moors (Supervisor.operate o) :=
  permissive.operate edits (fun s => createSession _ _ s) (fun s _ _ _ _ => publish _ s)
    (fun _ _ => of_eq (.refl _) rfl (Nat.le_refl _)) (fun _ _ => of_eq (.refl _) rfl (Nat.le_refl _)) o

theorem telling : World.Telling World.Moors where
  refl := refl
  trans := trans
  record _ _ := of_eq (.refl _) rfl (Nat.le_refl _)
  publish := publish
  keep s id _ := setSession s id fun _ => rfl

/-- No turn gives a session another transport. -/
theorem turn {κ : TaskKind} (sessional : κ.Sessional) : Across World.Moors (Client.turn κ) :=
  permissive.repertoire.turn sessional edits
    (fun _ _ => permissive.repertoire.readerTurn (fun id _ s => setServer s id _)
      (fun _ _ => of_eq (.refl _) rfl (Nat.le_refl _)) (fun _ => telling.handleDiagnostics) fun _ _ => telling.tellLog)
    (fun o _ => operate o)
    (fun _ _ => permissive.repertoire.connects.closeDocument edits fun _ => forget)
    fun _ _ _ => permissive.repertoire.connects.didClose forget

end World.Moors

/-! ## Nothing is taken back -/

/-- The account of all deeds so far: with each of them and since then the event loop has gone on. -/
def memory : Account (List Deed) where
  Holds γ s := ∀ d ∈ γ, d.before.loop.Grows d.after.loop ∧ d.after.loop.Grows s.loop
  Rely _ a b := a.2.loop.Grows b.2.loop
  Acts t f a γ' := γ' = a.1 ++ [⟨t, f, a.2⟩] ∧ a.2.Moors (f a.2)
  Known _ := True
  Serves := TaskKind.Sessional
  Waits _ _ _ _ := True
  Begins _ _ _ := True
  Ends _ _ _ _ _ := True
  Told _ _ _ _ _ := True

theorem memory_lawful : memory.Lawful where
  refl _ _ := .refl _
  trans _ _ _ _ := .trans
  acts _ _ _ _ acts _ _ := acts.2.loop
  grows _ _ _ rely := rely
  begins _ _ _ _ _ := trivial
  told _ _ _ _ _ _ _ := trivial
  ends _ _ _ _ _ _ := trivial
  backstage _ _ _ holds stage := ⟨fun d hd => (holds d hd).imp_right (·.trans stage.loop), fun _ => stage.loop⟩
  waits _ _ _ _ _ _ := trivial
  stops t k _ s _ holds _ stop := by
    subst stop
    have grows := (s.loop.grows_watch k (.task t)).trans (Loop.grows_setWaiting _ t (some k))
    exact ⟨fun d hd => (holds d hd).imp_right (·.trans grows), fun _ => grows⟩
  known _ _ _ _ := trivial
  interrupted _ _ _ _ _ _ _ _ := trivial
  turn t κ γ s sessional kind holds _ _ := by
    have kept : memory.discipline.wp t (Client.turn κ) (fun _ => memory.Holds) γ s :=
      Account.wp_only (A := memory) (I := memory.Holds)
        (fun f γ s moors holds => ⟨_, ⟨rfl, moors s⟩, fun d hd => by
          rcases List.mem_append.mp hd with old | new
          · exact (holds d old).imp_right (·.trans (moors s).loop)
          · rw [List.mem_singleton.mp new]
            exact ⟨(moors s).loop, .refl _⟩⟩)
        (fun _ _ holds => ⟨holds, fun _ => trivial⟩) (fun _ _ _ _ _ _ holds _ => holds) (World.Moors.turn sessional) holds
    refine Wp.mono (Wp.returns (Course.returns_turn sessional) kept) ?_
    rintro r γ' s' ⟨holds, returns⟩
    rcases r with f | κ' | x
    · exact ⟨holds, trivial⟩
    · exact ⟨holds, returns _ rfl κ' rfl, trivial⟩
    · exact ⟨holds, trivial⟩

/-- The event loop has gone on with every deed of a life, and since then. -/
theorem Machine.Lives.remembers {ds : List Deed} {m : Machine} (run : Machine.Lives ds m) {d : Deed} (known : d ∈ ds) :
    d.before.loop.Grows d.after.loop ∧ d.after.loop.Grows m.world.loop := by
  obtain ⟨γ, sound, rfl⟩ := run.account (T := fun ds γ => γ = ds) [] memory_lawful (fun _ _ _ _ => trivial)
    (fun _ _ _ => trivial) (fun _ _ _ _ _ _ _ _ _ _ hd => by cases hd) (fun _ _ => trivial) rfl
    (fun _ s server options holds => ⟨fun d hd => holds d hd, fun _ => .refl _⟩)
    (fun path traced => by simpa [traced] using path.collects id (fun d => [d]) fun _ _ _ _ => And.left) rfl
  exact sound.holds d known

/-! ## Accounts of readers -/

/-- What is said of a reader by its deeds: between two turns, while it waits, and when it has ended; and what it knows of the
world whenever it goes on. -/
structure Readership where
  known : World → Prop
  idle : Nat → List Deed → Prop
  halfway : Nat → List Deed → Prop
  concluded : Nat → Except Fault Reply → List Deed → Prop

namespace Readership

/-- The account of all deeds so far, with what is said of readers. -/
def account (P : Readership) : Account (List Deed) where
  Holds _ _ := True
  Rely t a b := a.2.Moors b.2 ∧ deedsOf t b.1 = deedsOf t a.1
  Acts t f a γ' := γ' = a.1 ++ [⟨t, f, a.2⟩] ∧ a.2.Moors (f a.2)
  Known := P.known
  Woken κ r := κ.IsBackground → ∀ f, r = .error f → f = .cancelled
  Serves := TaskKind.Sessional
  Waits t _ γ s := ∃ κ, s.loop.kind? t = some κ ∧ ∀ i, κ = .reader i → P.halfway i (deedsOf t γ)
  Begins t γ s := deedsOf t γ = [] ∨ ∃ κ, s.loop.kind? t = some κ ∧ ∀ i, κ = .reader i → P.idle i (deedsOf t γ)
  Ends t κ r γ _ := ∀ i, κ = .reader i → P.concluded i r (deedsOf t γ)
  Told t κ r γ _ := ∀ i, κ = .reader i → P.concluded i r (deedsOf t γ)

/-- How a turn of a reader leaves it. -/
structure Leaves (P : Readership) (i t : Nat) (r : Except Fault Turn) (γ : List Deed) (s : World) : Prop where
  kind : s.loop.kind? t = some (.reader i)
  onward : ∀ κ, r = .ok (.onward κ) → P.idle i (deedsOf t γ)
  finished : ∀ x, r = .ok (.finished x) → P.concluded i (.ok x) (deedsOf t γ)
  failed : ∀ f, r = .error f → P.concluded i (.error f) (deedsOf t γ)

/-- What is to be proved of a readership. -/
structure Lawful (P : Readership) : Prop where
  picks : ∀ (s : World) (l : Loop), P.known s → s.loop.Picks l → P.known { s with loop := l }
  sound : ∀ γ ds m, Clock.Sound γ ds m → P.known m.world
  fresh : ∀ i, P.idle i []
  interrupted : ∀ i own, P.idle i own → P.concluded i (.error .cancelled) own
  turn : ∀ t i γ s, s.loop.kind? t = some (.reader i) → P.known s → P.idle i (deedsOf t γ) →
    P.account.discipline.wp t (Session.readerTurn i) (P.Leaves i t) γ s

variable {P : Readership} {t i : Nat} {κ : TaskKind} {γ γ' : List Deed} {s s' : World}

/-- A turn that is no reader's. -/
theorem wp_other (sessional : κ.Sessional) (other : ∀ i, κ ≠ .reader i) (kind : s.loop.kind? t = some κ) :
    P.account.discipline.wp t (Client.turn κ) (fun _ _ s' => s'.loop.kind? t = some κ) γ s :=
  Account.wp_only (A := P.account) (I := fun _ s => s.loop.kind? t = some κ)
    (fun _ _ s moors kind => ⟨_, ⟨rfl, moors s⟩, (moors s).loop.kinds t κ kind⟩)
    (fun _ _ kind => ⟨trivial, fun _ => ⟨κ, kind, fun i e => absurd e (other i)⟩⟩)
    (fun _ _ _ _ kind rely _ _ => rely.1.loop.kinds t κ kind) (World.Moors.turn sessional) kind

/-- Every turn leaves a task as it should be. -/
theorem wp_turn (lawful : P.Lawful) (sessional : κ.Sessional) (kind : s.loop.kind? t = some κ)
    (known : P.known s) (begins : P.account.Begins t γ s) :
    P.account.discipline.wp t (Client.turn κ) (P.account.TurnEnds t κ) γ s := by
  by_cases reader : ∃ i, κ = .reader i
  · obtain ⟨i, rfl⟩ := reader
    have idle : P.idle i (deedsOf t γ) := by
      rcases begins with none | ⟨κ, kind', idle⟩
      · rw [none]
        exact lawful.fresh i
      · exact idle i (Option.some.inj (kind'.symm.trans kind))
    refine Wp.mono (Wp.returns (Course.returns_turn sessional) (lawful.turn t i γ s kind known idle)) ?_
    rintro r γ' s' ⟨leaves, returns⟩
    refine ⟨trivial, ?_⟩
    rcases r with f | κ' | x
    · exact fun j e => by cases e; exact leaves.failed f rfl
    · exact ⟨returns _ rfl κ' rfl, .inr ⟨_, leaves.kind, fun j e => by cases e; exact leaves.onward κ' rfl⟩⟩
    · exact fun j e => by cases e; exact leaves.finished x rfl
  · have other (i : Nat) : κ ≠ .reader i := fun e => reader ⟨i, e⟩
    refine Wp.mono (Wp.returns (Course.returns_turn sessional) (wp_other sessional other kind)) ?_
    rintro r γ' s' ⟨kind', returns⟩
    refine ⟨trivial, ?_⟩
    rcases r with f | κ' | x
    · exact fun i e => absurd e (other i)
    · exact ⟨returns _ rfl κ' rfl, .inr ⟨κ, kind', fun i e => absurd e (other i)⟩⟩
    · exact fun i e => absurd e (other i)

/-- The account of a lawful readership is kept. -/
theorem Lawful.account (lawful : P.Lawful) : P.account.Lawful where
  refl _ _ := ⟨.refl _, rfl⟩
  trans _ _ _ _ h h' := ⟨h.1.trans h'.1, h'.2.trans h.2⟩
  acts t f a γ' acts u other := ⟨acts.2, acts.1 ▸ deedsOf_ne _ fun e => other e.symm⟩
  grows _ _ _ rely := rely.1.loop
  begins t a b h rely := by
    rcases h with none | ⟨κ, kind, idle⟩
    · exact .inl (rely.2.trans none)
    · exact .inr ⟨κ, rely.1.loop.kinds t κ kind, rely.2 ▸ idle⟩
  told t κ r a b h rely i reader := by rw [rely.2]; exact h i reader
  ends _ _ _ _ _ h := h
  waits t _ a b h rely := by
    obtain ⟨κ, kind, halfway⟩ := h
    exact ⟨κ, rely.1.loop.kinds t κ kind, rely.2 ▸ halfway⟩
  backstage γ a b _ stage :=
    ⟨trivial, fun _ => ⟨.of_eq stage.loop (by rw [stage.rest]) (Nat.le_of_eq stage.servers.symm), rfl⟩⟩
  stops t k γ s s' _ _ stop := by
    subst stop
    exact ⟨trivial, fun _ => ⟨.of_eq ((Loop.grows_watch ..).trans (Loop.grows_setWaiting ..)) rfl (Nat.le_refl _), rfl⟩⟩
  known := lawful.picks
  interrupted t κ γ s _ kind _ begins i reader := by
    rcases begins with none | ⟨κ', kind', idle⟩
    · exact lawful.interrupted i _ (by rw [none]; exact lawful.fresh i)
    · obtain rfl := Option.some.inj (kind.symm.trans kind')
      exact lawful.interrupted i _ (idle i reader)
  turn _ _ _ _ sessional kind _ known begins := wp_turn lawful sessional kind known begins

/-! ## Readers at work -/

/-- A reader is at work, with deeds of which `D` holds; the transport of its session is known once it was looked up. -/
structure AtWork (D : List Deed → Prop) (t i : Nat) (o : Option Nat) (γ : List Deed) (s : World) : Prop where
  kind : s.loop.kind? t = some (.reader i)
  deeds : D (deedsOf t γ)
  berth : ∀ n, o = some n → ∃ x, s.sessions[i]? = some x ∧ x.transport = n

variable {D E : List Deed → Prop} {o : Option Nat} {R : World → World → Prop}

namespace AtWork

/-- The deeds of a reader that others leave alone. -/
theorem rely (h : AtWork D t i o γ s) (rely : P.account.Rely t (γ, s) (γ', s')) : AtWork D t i o γ' s' where
  kind := rely.1.loop.kinds t _ h.kind
  deeds := rely.2 ▸ h.deeds
  berth n e := by
    obtain ⟨x, found, same⟩ := h.berth n e
    obtain ⟨y, found', same'⟩ := rely.1.berths i x found
    exact ⟨y, found', same'.trans same⟩

/-- A deed that leads to other deeds of which something holds. -/
theorem deed {f : World → World} (h : AtWork D t i o γ s) (moors : s.Moors (f s)) (deeds : E (deedsOf t γ ++ [⟨t, f, s⟩])) :
    P.account.Acts t f (γ, s) (γ ++ [⟨t, f, s⟩]) ∧ AtWork E t i o (γ ++ [⟨t, f, s⟩]) (f s) := by
  refine ⟨⟨rfl, moors⟩, moors.loop.kinds t _ h.kind, by rw [deedsOf_self]; exact deeds, fun n e => ?_⟩
  obtain ⟨x, found, same⟩ := h.berth n e
  obtain ⟨y, found', same'⟩ := moors.berths i x found
  exact ⟨y, found', same'.trans same⟩

theorem mono (h : AtWork D t i o γ s) (imp : ∀ own, D own → E own) : AtWork E t i o γ s := ⟨h.kind, imp _ h.deeds, h.berth⟩

theorem forget (h : AtWork D t i o γ s) : AtWork D t i none γ s := ⟨h.kind, h.deeds, fun _ e => by cases e⟩

/-- Deeds by which something of them does not change, and with which a reader may wait, are kept. -/
theorem upkeep (moors : ∀ a b, R a b → a.Moors b) (steps : ∀ own f s, R s (f s) → D own → D (own ++ [⟨t, f, s⟩]))
    (halfway : ∀ own, D own → P.halfway i own) : P.account.Upkeep R t (AtWork D t i o) where
  step _ _ s changes h := ⟨_, h.deed (moors _ _ changes) (steps _ _ s changes h.deeds)⟩
  waits _ _ h := ⟨trivial, fun _ => ⟨_, h.kind, fun j e => by cases e; exact halfway _ h.deeds⟩⟩
  again _ _ _ _ h rely _ _ := h.rely rely
  cancelled _ _ _ h woken := woken _ h.kind trivial

end AtWork

end Readership

/-- What is said of readers is true in every life. -/
theorem Machine.Lives.reader_stands {P : Readership} {ds : List Deed} {m : Machine} (run : Machine.Lives ds m)
    (lawful : P.Lawful) {t i : Nat} (reader : m.world.loop.kind? t = some (.reader i)) :
    (∀ r, m.reply? t = some r → P.concluded i r (deedsOf t ds)) ∧
      (m.reply? t = none → m.isSuspended t = true → P.halfway i (deedsOf t ds)) ∧
      (m.reply? t = none → m.isSuspended t = false → P.idle i (deedsOf t ds)) := by
  obtain ⟨γ, sound, rfl⟩ := run.account (T := fun ds γ => γ = ds) [] lawful.account lawful.sound
    (fun _ _ woken => woken) (fun _ _ _ _ _ _ _ _ _ => trivial) (fun _ _ => .inl rfl) rfl
    (fun _ s server options _ => ⟨trivial, fun _ => ⟨World.Moors.createSession server options s, rfl⟩⟩)
    (fun path traced => by simpa [traced] using path.collects id (fun d => [d]) fun _ _ _ _ => And.left) rfl
  have stands := sound.stands t
  refine ⟨fun r reply => ?_, fun _ waits => ?_, fun none awake => ?_⟩
  · obtain ⟨κ, kind, told⟩ := stands.ended r reply
    exact told i (Option.some.inj (kind.symm.trans reader))
  · obtain ⟨x, hx, mine⟩ := List.any_eq_true.mp waits
    obtain ⟨⟨κ, kind, halfway⟩, -⟩ := stands.stopped x hx (of_decide_eq_true mine)
    exact halfway i (Option.some.inj (kind.symm.trans reader))
  · rcases stands.between awake (by simp [Machine.hasEnded, none]) with empty | ⟨κ, kind, idle⟩
    · rw [empty]
      exact lawful.fresh i
    · exact idle i (Option.some.inj (kind.symm.trans reader))

end LspHost

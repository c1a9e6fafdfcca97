import LspHost.Proofs.Answering
import LspHost.Proofs.Transport.Endings

/-!
# Readers go on

A message that is well framed may hold anything. `Message.Upsets` lists the few that a session cannot handle: log messages
whose type is a list or a mapping, and requests for settings that have no items. `Session.Ceases` lists why a reader ends:
what it reads from has ended or is no sequence of frames, its process was released, it was cancelled, or the last message it
was told upsets it.

Results:
1. `Machine.Lives.reader_ceases`: a reader only ends for one of these reasons, so every other message leaves it reading; and
   a request is lost only with a reader that has ended so.
2. `Machine.Lives.swept`: when a reader ends, every request that is pending then fails in one go and leaves the table; a
   request that is made later fails at once if the process is gone, and else ends in time.
-/

namespace LspHost

open Act Discipline Program

/-! ## Messages that upset a session -/

/-- A value that is no key of a mapping, and what it is called. -/
inductive Json.Compound : Json → String → Prop
  | list (items : List Json) : Compound (.arr items) "list"
  | mapping (m : Members) : Compound (.obj m) "dict"

/-- A message that a session cannot handle, and the fault that it fails with. -/
inductive Message.Upsets : Message → Fault → Prop
  | log {n : Notification} {v : Json} {kind : String}
    (method : n.method = "window/logMessage" ∨ n.method = "window/showMessage")
    (given : (Session.membersOf n.params).get? "type" = some v) (compound : v.Compound kind) :
    Upsets (.notification n) (.plain .wrongType ("unhashable type: \x27" ++ kind ++ "\x27"))
  | settings {r : Request} {v : Json} (none : r.Unanswerable v) :
    Upsets (.request r) (.plain .wrongType ("\x27" ++ v.kind ++ "\x27 object is not iterable"))

theorem Message.Upsets.final {m : Message} {f : Fault} (h : m.Upsets f) : f.isPassedOver = false ∧ f.isTransport = false := by
  cases h <;> exact ⟨rfl, rfl⟩

namespace Session

/-- The type of a log message has a level, unless it is compound. -/
theorem logLevel_cases (v : Json) :
    (∃ level, logLevel v = .ok level) ∨
      ∃ kind, v.Compound kind ∧ logLevel v = .error (.plain .wrongType ("unhashable type: \x27" ++ kind ++ "\x27")) := by
  have plain (key : (Datum.ofJson v).isKey = true) : ∃ level, logLevel v = .ok level := by
    simp only [logLevel, key, if_true]
    split <;> exact ⟨_, rfl⟩
  cases v with
  | arr items => exact .inr ⟨_, .list items, by simp [logLevel, Datum.ofJson, Datum.isKey, Datum.kind]⟩
  | obj m => exact .inr ⟨_, .mapping m, by simp [logLevel, Datum.ofJson, Datum.isKey, Datum.kind]⟩
  | null | bool | int | float | str => exact .inl (plain (by simp [Datum.ofJson, Datum.isKey]))

end Session

/-! ## Why a reader ends -/

/-- The process that a session holds. -/
def World.processOf? (s : World) (i : Nat) : Option Nat := (s.sessions[i]?).bind fun x => s.serverOf? x.transport

/-- What a process has put out and nobody has read yet; where there is no process, nothing will come. -/
def World.outputOf (s : World) (j : Nat) : Stream := (s.outputOf? j).getD ⟨[], true, none⟩

/-- The fault of a task that reads what another one waits for, or that was woken too often for nothing. -/
def Transport.contended : Fault := .plain .runtime "read called while another coroutine is already waiting"

namespace Session

/-- The last thing that a reader has done, a deed, was to read from a process that its session has held. -/
structure ReadLast (i : Nat) (own : List Deed) (d : Deed) (j : Nat) : Prop where
  last : own.getLast? = some d
  held : ∃ e ∈ own, e.before.processOf? i = some j

/-- Why a reader ends that has done `own`, in a world: the fault, by what it has found last. -/
inductive Ceases (i : Nat) (own : List Deed) (s : World) : Fault → Prop
  | cancelled : Ceases i own s .cancelled
  /-- The process was released, so nothing comes any more. -/
  | released (none : s.processOf? i = none) : Ceases i own s (.closed .notConnected)
  /-- The process was released when an answer was to be written. -/
  | unwritten (none : s.processOf? i = none) : Ceases i own s (Transport.missing "stdin")
  /-- The output has ended where a frame could have begun, or within its header. -/
  | over {d : Deed} {j : Nat} (read : ReadLast i own d j) (isOver : (d.before.outputOf j).ended = true)
    (headless : Reception.Headless (d.before.outputOf j).buffer) : Ceases i own s (.closed .endOfOutput)
  /-- The output has ended within a body, of which the header was read before. -/
  | cut {d e : Deed} {j n : Nat} {rest : List UInt8} (read : ReadLast i own d j)
    (isOver : (d.before.outputOf j).ended = true) (short : (d.before.outputOf j).buffer.length < n) (earlier : e ∈ own)
    (begins : Reception.Begins (e.before.outputOf j).buffer (some (n : Int)) rest) : Ceases i own s (.closed .endOfOutput)
  /-- A header states no length. -/
  | lengthless {d : Deed} {j : Nat} {header rest : List UInt8} (read : ReadLast i own d j)
    (octets : (d.before.outputOf j).buffer = header ++ rest) (isHeader : Reception.IsHeader header)
    (lengthless : Framing.contentLength? header = none) : Ceases i own s (.transport (.badHeader header))
  /-- No header ends near enough. -/
  | endless {d : Deed} {j : Nat} (found : Bool) (read : ReadLast i own d j)
    (endless : Reception.Endless (d.before.outputOf j).buffer) : Ceases i own s (.transport (.overlongHeader found))
  /-- A header states a negative length. -/
  | negative {d : Deed} {j : Nat} {n : Int} {rest : List UInt8} (read : ReadLast i own d j)
    (begins : Reception.Begins (d.before.outputOf j).buffer (some n) rest) (negative : n < 0) :
    Ceases i own s Reception.lessThanNothing
  | contended : Ceases i own s Transport.contended
  /-- The last thing that it has done was to be told a message that upsets it. -/
  | upset {d : Deed} {m : Message} {f : Fault} (last : own.getLast? = some d) (heard : d.records = [.heard i m])
    (upsets : m.Upsets f) : Ceases i own s f

end Session

/-- A deed fails all requests that are pending on a session, since its connection is lost. -/
def Deed.Sweeps (d : Deed) (i : Nat) : Prop :=
  ∀ (x : Session) (n k : Nat), d.before.sessions[i]? = some x → (n, k) ∈ x.pending → d.before.loop.outcome? k = none →
    d.after.loop.outcome? k = some (.error (.closed (.sessionLost (Session.nameOf i))))

/-- A deed leaves no request pending on a session. -/
def Deed.Clears (d : Deed) (i : Nat) : Prop := ∀ x : Session, d.after.sessions[i]? = some x → x.pending = []

/-- How a reader with a fault ends: the end of a connection is nothing to report. -/
def Fault.asReply (f : Fault) : Except Fault Reply := if f.isTransport then .ok .nothing else .error f

/-- How a reader has ended: it was cancelled between two turns, or there is no such session, or it has found a reason to
cease, and then failed what was pending with the last two things that it has done. -/
inductive Session.Halted (i : Nat) : Except Fault Reply → List Deed → Prop
  | interrupted (own : List Deed) : Halted i (.error .cancelled) own
  | unknown (own : List Deed) : Halted i (.error (Transport.missing "session")) own
  | swept {earlier : List Deed} {sweep clear : Deed} {f : Fault} (why : Ceases i earlier sweep.before f)
    (sweeps : sweep.Sweeps i) (clears : clear.Clears i) (next : clear.before = sweep.after) :
    Halted i f.asReply (earlier ++ [sweep, clear])

/-! ## The account of readers that end -/

/-- The tickets of pending requests were issued. -/
def World.Ticketed (s : World) : Prop :=
  ∀ (i : Nat) (x : Session) (n k : Nat), s.sessions[i]? = some x → (n, k) ∈ x.pending → k < s.loop.tickets.length

/-- Writing a message leaves the sessions as they are. -/
theorem World.sessions_write (j : Nat) (m : Members) (s : World) : (s.write j m).sessions = s.sessions := by
  unfold World.write World.withServer World.recordRefusal
  split
  · split
    · split <;> rfl
    · split <;> rfl
  · rfl

/-- What is pending on a session stays so. -/
structure World.Spares (a b : World) : Prop extends World.Moors a b where
  pending : ∀ (i : Nat) (y : Session), b.sessions[i]? = some y → ∃ x, a.sessions[i]? = some x ∧ y.pending = x.pending

namespace World.Spares

variable {a b : World}

theorem of_eq (loop : a.loop.Grows b.loop) (sessions : b.sessions = a.sessions)
    (servers : a.servers.length ≤ b.servers.length) : a.Spares b where
  toMoors := .of_eq loop sessions servers
  pending i y found := ⟨y, by rw [← sessions]; exact found, rfl⟩

theorem piping : World.Piping World.Spares where
  refl _ := of_eq (.refl _) rfl (Nat.le_refl _)
  onLoop grows := of_eq grows rfl (Nat.le_refl _)
  setTransport _ _ _ := of_eq (.refl _) rfl (Nat.le_refl _)

theorem setServer (s : World) (id : Nat) (f : Server → Server) : s.Spares (s.setServer id f) :=
  of_eq (.refl _) rfl (Nat.le_of_eq (List.length_modify ..).symm)

theorem setSession (s : World) (id : Nat) {f : Session → Session} (transport : ∀ x, (f x).transport = x.transport)
    (pending : ∀ x, (f x).pending = x.pending) : s.Spares (s.setSession id f) where
  toMoors := .setSession s id transport
  pending i y found := by
    simp only [World.setSession, List.getElem?_modify] at found
    obtain ⟨x, old, rfl⟩ := Option.map_eq_some_iff.mp found
    exact ⟨x, old, by split <;> simp [pending]⟩

theorem record (r : Record) (s : World) : s.Spares (s.record r) := of_eq (.refl _) rfl (Nat.le_refl _)

theorem recordRefusal (j : Nat) (s : World) : s.Spares (s.recordRefusal j) := by
  unfold World.recordRefusal
  split
  · exact record _ s
  · exact piping.refl s

theorem publish (e : Event) (s : World) : s.Spares (s.publish e) := by
  obtain ⟨l, waiting, grows, step⟩ := World.publish_eq e s
  rw [step]
  exact of_eq grows rfl (Nat.le_refl _)

theorem trans {c : World} (h : a.Spares b) (h' : b.Spares c) : a.Spares c where
  toMoors := h.toMoors.trans h'.toMoors
  pending i z found := by
    obtain ⟨y, found, same⟩ := h'.pending i z found
    obtain ⟨x, found, same'⟩ := h.pending i y found
    exact ⟨x, found, same.trans same'⟩

theorem telling : World.Telling World.Spares where
  refl := piping.refl
  trans := trans
  record s _ := record _ s
  publish := publish
  keep s id _ := setSession s id (fun _ => rfl) fun _ => rfl

/-- A message is written. -/
theorem write (j : Nat) (m : Members) (s : World) : s.Spares (s.write j m) where
  toMoors := by
    have moors : Across World.Moors (Transport.write j m) := World.Moors.permissive.repertoire.write
    exact moors.1 s
  pending i y found := by
    refine ⟨y, ?_, rfl⟩
    rwa [World.sessions_write] at found

theorem ticketed (h : a.Spares b) (ticketed : a.Ticketed) : b.Ticketed := by
  intro i y n k found mem
  obtain ⟨x, found', same⟩ := h.pending i y found
  exact Nat.lt_of_lt_of_le (ticketed i x n k found' (same ▸ mem)) h.loop.issued

end World.Spares

/-- What is said of a reader that ends. -/
def persisting : Readership where
  known := World.Ticketed
  idle _ _ := True
  halfway _ _ := True
  concluded := Session.Halted

namespace Persisting

open Readership

variable {i t n j : Nat} {o p : Option Nat} {base own : List Deed} {γ γ' : List Deed} {s s' : World} {d : Demand}

/-- A reader is at work, has done what it had done and perhaps more, and knows that the tickets of requests were issued; the
process that it reads from is known once it was looked up. -/
structure Since (base : List Deed) (t i : Nat) (o p : Option Nat) (γ : List Deed) (s : World) : Prop extends
    AtWork (base <+: ·) t i o γ s where
  ticketed : s.Ticketed
  there : ∀ j, p = some j → j < s.servers.length

/-- A deed that spares the table of requests. -/
theorem Since.deed {f : World → World} (h : Since base t i o p γ s) (spares : s.Spares (f s)) :
    persisting.account.Acts t f (γ, s) (γ ++ [⟨t, f, s⟩]) ∧ Since base t i o p (γ ++ [⟨t, f, s⟩]) (f s) := by
  obtain ⟨acts, kept⟩ := h.toAtWork.deed (P := persisting) spares.toMoors (h.deeds.trans (List.prefix_append ..))
  exact ⟨acts, kept, spares.ticketed h.ticketed, fun j e => Nat.lt_of_lt_of_le (h.there j e) spares.servers⟩

/-- What spares the table of requests is no matter. -/
theorem upkeep : persisting.account.Upkeep World.Spares t (Since base t i o p) where
  step _ _ _ spares h := ⟨_, h.deed spares⟩
  waits _ _ h := ⟨trivial, fun _ => ⟨_, h.kind, fun _ _ => trivial⟩⟩
  again _ _ _ _ h rely _ known :=
    ⟨h.toAtWork.rely rely, known, fun j e => Nat.lt_of_lt_of_le (h.there j e) rely.1.servers⟩
  cancelled _ _ _ h woken := woken _ h.kind trivial

theorem getLast?_deedsOf (f : World → World) : (deedsOf t (γ ++ [⟨t, f, s⟩])).getLast? = some ⟨t, f, s⟩ := by
  rw [deedsOf_self, List.getLast?_append]
  rfl

/-! ## Reading -/

/-- What is taken from the output of a process, and what is left of it. -/
inductive Took (s : World) (j : Nat) (d : Demand) : Taken → Prop
  | nothing (gone : s.servers.length ≤ j) : Took s j d (.ended [])
  | output {taken : Taken} {rest : Stream} (there : j < s.servers.length)
    (took : (s.outputOf j).take? d = some (taken, rest)) : Took s j d taken

/-- A reader takes what it asks for, if it can be had. -/
theorem wp_takeNow (h : Since base t i o p γ s) :
    persisting.account.discipline.wp t (Transport.takeNow j .output d) (fun r γ' s' => Since base t i o p γ' s' ∧
      s.servers.length ≤ s'.servers.length ∧ (∃ f, (deedsOf t γ').getLast? = some ⟨t, f, s⟩) ∧ (∀ f, r ≠ .error f) ∧
        ∀ taken, r = .ok (some taken) → Took s j d taken) γ s := by
  have deed (f : World → Option Taken × World) (spares : s.Spares (f s).2)
      (result : ∀ taken, (f s).1 = some taken → Took s j d taken) :
      persisting.account.discipline.wp t (Program.yield f) (fun r γ' s' => Since base t i o p γ' s' ∧
        s.servers.length ≤ s'.servers.length ∧ (∃ f, (deedsOf t γ').getLast? = some ⟨t, f, s⟩) ∧ (∀ f, r ≠ .error f) ∧
          ∀ taken, r = .ok (some taken) → Took s j d taken) γ s := by
    have step := h.deed (f := fun s => (f s).2) spares
    exact ⟨_, step.1, step.2, spares.servers, ⟨_, getLast?_deedsOf _⟩, fun _ e => (by cases e), fun taken e => result taken (Except.ok.inj e)⟩
  rcases found : s.servers[j]? with _ | q
  · refine deed _ ?_ fun taken e => ?_
    · simp only [found, Option.map_none]
      exact World.Spares.piping.refl s
    · simp only [found, Option.map_none, Option.some.injEq] at e
      exact e ▸ .nothing (List.getElem?_eq_none_iff.mp found)
  · have output : s.outputOf j = q.output := by simp only [World.outputOf, World.outputOf?, found, Option.map_some, Option.getD_some]
    have there := (List.getElem?_eq_some_iff.mp found).1
    rcases took : q.output.take? d with _ | ⟨taken', rest⟩
    · refine deed _ ?_ fun taken e => ?_
      · simp only [found, Option.map_some, Channel.get, took]
        exact World.Spares.piping.refl s
      · simp only [found, Option.map_some, Channel.get, took] at e
        cases e
    · refine deed _ ?_ fun taken e => ?_
      · simp only [found, Option.map_some, Channel.get, took]
        exact .setServer s j _
      · simp only [found, Option.map_some, Channel.get, took, Option.some.injEq] at e
        exact e ▸ .output there (output ▸ took)

/-- How a read ends for a reader: with what it has taken last, or without anything. -/
structure ReadEnds (base : List Deed) (t i : Nat) (o p : Option Nat) (s₀ : World) (j : Nat) (d : Demand)
    (r : Except Fault Taken) (γ : List Deed) (s : World) : Prop where
  since : Since base t i o p γ s
  took : ∀ taken, r = .ok taken → ∃ e, (deedsOf t γ).getLast? = some e ∧ Took e.before j d taken ∧
    e.before.servers.length ≤ s.servers.length ∧ (p = some j → j < e.before.servers.length) ∧
    ∃ e ∈ deedsOf t γ, e.before = s₀
  fails : ∀ f, r = .error f → f = .cancelled ∨ f = Transport.contended

/-- A reader waits for the output of a process, and does not any more. -/
theorem wp_standby {k : Nat} (h : Since base t i o p γ s) (unsettled : s.loop.outcome? k = none) :
    persisting.account.discipline.wp t
      (Program.ensure (do let _ ← Program.await k) (Transport.setWaiter j .output none))
      (fun r γ' s' => Since base t i o p γ' s' ∧ ∀ f, r = .error f → f = .cancelled) γ s := by
  refine Wp.ensure (P := fun r γ' s' => Since base t i o p γ' s' ∧ ∀ f, r = .error f → f = .cancelled) ?_
    fun r γ₁ s₁ woken => ?_
  · exact Wp.seq (upkeep.await unsettled h) (fun _ _ _ h => ⟨h.1, fun _ e => by cases e⟩) fun f _ _ h =>
      ⟨h.1, fun _ e => h.2 _ (Except.error.inj e ▸ rfl)⟩
  · refine Wp.mono (upkeep.update (.setServer s₁ j _) woken.1) ?_
    rintro r' γ₂ s₂ ⟨rfl, -, h₂⟩
    exact ⟨h₂, woken.2⟩

/-- A reader reads from the output of a process. -/
theorem wp_readWithin (fuel : Nat) (h : Since base t i o p γ s) :
    persisting.account.discipline.wp t (Transport.readWithin j .output d fuel) (ReadEnds base t i o p s j d) γ s := by
  induction fuel generalizing base γ s with
  | zero => exact ⟨h, fun _ e => (by cases e), fun _ e => .inr (Except.error.inj e).symm⟩
  | succ fuel ih =>
    refine Wp.seq (wp_takeNow h) ?_ fun f _ _ h => absurd rfl (h.2.2.2.1 f)
    rintro taken γ₁ s₁ ⟨since, kept, ⟨f, last⟩, -, took⟩
    have first : (⟨t, f, s⟩ : Deed) ∈ deedsOf t γ₁ := List.mem_of_getLast? last
    cases taken with
    | some taken =>
      refine ⟨since, fun taken' e => ?_, fun _ e => by cases e⟩
      cases e
      exact ⟨_, last, took taken rfl, kept, h.there j, _, first, rfl⟩
    | none =>
      -- What was done so far stays in front of whatever is done from now on.
      have h₁ : Since (deedsOf t γ₁) t i o p γ₁ s₁ := { since with deeds := List.prefix_refl _ }
      have ends {r : Except Fault Taken} {γ' : List Deed} {s' : World} (h : Since (deedsOf t γ₁) t i o p γ' s')
          (took : ∀ taken, r = .ok taken → ∃ e, (deedsOf t γ').getLast? = some e ∧ Took e.before j d taken ∧
            e.before.servers.length ≤ s'.servers.length ∧ (p = some j → j < e.before.servers.length))
          (fails : ∀ f, r = .error f → f = .cancelled ∨ f = Transport.contended) : ReadEnds base t i o p s j d r γ' s' :=
        ⟨{ h with deeds := since.deeds.trans h.deeds }, fun taken e => by
          obtain ⟨e, last, took, kept, there⟩ := took taken e
          exact ⟨e, last, took, kept, there, _, h.deeds.subset first, rfl⟩, fails⟩
      refine Wp.seq (P := fun r γ' s' => Since (deedsOf t γ₁) t i o p γ' s' ∧ ∀ f, r ≠ .error f)
        (Wp.peek ⟨h₁, fun _ e => by cases e⟩) ?_ fun f _ _ h => absurd rfl (h.2 f)
      rintro awaited _ _ ⟨h₁, -⟩
      split
      · exact ends h₁ (fun _ e => by cases e) fun _ e => .inr (Except.error.inj e).symm
      refine upkeep.issue World.Spares.piping h₁ fun γ₂ s₂ h₂ unsettled => ?_
      refine Wp.seq (upkeep.update (.setServer s₂ j _) h₂) ?_ fun _ _ _ h => by cases h.1
      rintro _ γ₃ s₃ ⟨-, rfl, h₃⟩
      refine Wp.seq (wp_standby h₃ unsettled) (fun _ γ₄ s₄ h₄ => ?_) fun f γ' s' h =>
        ends h.1 (fun _ e => by cases e) fun _ e => .inl (h.2 _ (Except.error.inj e ▸ rfl))
      exact Wp.mono (ih h₄.1) fun r γ' s' read => ends read.since
        (fun taken e => (read.took taken e).imp fun _ h => ⟨h.1, h.2.1, h.2.2.1, h.2.2.2.1⟩) read.fails

/-- What is read in a stage. -/
theorem wp_read {stage : Stage} (h : Since base t i o p γ s) :
    persisting.account.discipline.wp t (Transport.readStage j stage) (fun r γ' s' => Since base t i o p γ' s' ∧
      (∀ f, r = .error f → f = .cancelled ∨ f = Transport.contended) ∧
      ∀ progress, r = .ok progress → ∃ taken e, progress = stage.next taken ∧ (deedsOf t γ').getLast? = some e ∧
        Took e.before j stage.demand taken ∧ e.before.servers.length ≤ s'.servers.length ∧
        (p = some j → j < e.before.servers.length) ∧ ∃ e ∈ deedsOf t γ', e.before = s) γ s := by
  refine Wp.seq (Wp.look (wp_readWithin _ h)) (fun taken γ' s' read => ?_) fun f γ' s' read => ?_
  · refine ⟨read.since, fun _ e => (by cases e), fun progress e => ?_⟩
    cases e
    obtain ⟨e, found⟩ := read.took taken rfl
    exact ⟨taken, e, rfl, found⟩
  · exact ⟨read.since, fun f' e => read.fails f' (Except.error.inj e ▸ rfl), fun _ e => by cases e⟩

/-- A fault that a reader goes on after, or ceases for. -/
def Excused (i t : Nat) (f : Fault) (γ : List Deed) (s : World) : Prop :=
  f.isPassedOver = true ∨ Session.Ceases i (deedsOf t γ) s f

theorem excused_of_read {f : Fault} (h : f = .cancelled ∨ f = Transport.contended) : Excused i t f γ s := by
  rcases h with rfl | rfl
  · exact .inr .cancelled
  · exact .inr .contended

/-- What a header leads to: a body, of which the length is known, or the end. -/
theorem header_cases {taken : Taken} {e : Deed} (read : Session.ReadLast i (deedsOf t γ) e j)
    (took : Took e.before j Stage.header.demand taken) :
    (∃ f, Stage.header.next taken = .failed f ∧ Excused i t f γ s) ∨
      ∃ n rest, Stage.header.next taken = .onward (.body n) ∧ j < e.before.servers.length ∧
        Reception.Begins (e.before.outputOf j).buffer (some (n : Int)) rest := by
  cases took with
  | nothing gone =>
    have none : e.before.outputOf j = ⟨[], true, none⟩ := by
      simp only [World.outputOf, World.outputOf?, List.getElem?_eq_none_iff.mpr gone, Option.map_none, Option.getD_none]
    refine .inl ⟨_, rfl, .inr (.over read (by rw [none]) ?_)⟩
    rw [none]
    exact ⟨by decide, by decide⟩
  | @output _ rest there took =>
    rcases Reception.take?_until_cases took with ⟨header, rfl, isHeader, shape, -⟩ | ⟨found, before, rfl, endless⟩ |
      ⟨left, rfl, isOver, headless⟩
    · simp only [Stage.next, Stage.afterHeader]
      rcases length : Framing.contentLength? header with _ | n
      · exact .inl ⟨_, rfl, .inr (.lengthless read shape isHeader length)⟩
      · dsimp only
        split
        · next negative => exact .inl ⟨_, rfl, .inr (.negative read ⟨header, shape, isHeader, length⟩ negative)⟩
        · next natural =>
          refine .inr ⟨n.toNat, rest.buffer, rfl, there, header, shape, isHeader, ?_⟩
          rw [length, Int.toNat_of_nonneg (Int.not_lt.mp natural)]
    · exact .inl ⟨_, rfl, .inr (.endless found read endless)⟩
    · exact .inl ⟨_, rfl, .inr (.over read isOver headless)⟩

/-- What a body leads to: a message, or nothing that is one, or the end. -/
theorem body_cases {taken : Taken} {e e' : Deed} {n : Nat} {rest : List UInt8}
    (read : Session.ReadLast i (deedsOf t γ) e j) (there : j < e.before.servers.length)
    (took : Took e.before j (Stage.body n).demand taken) (earlier : e' ∈ deedsOf t γ)
    (begins : Reception.Begins (e'.before.outputOf j).buffer (some (n : Int)) rest) :
    (∃ m, (Stage.body n).next taken = .received m) ∨ ∃ f, (Stage.body n).next taken = .failed f ∧ Excused i t f γ s := by
  cases took with
  | nothing gone => exact absurd there (Nat.not_lt.mpr gone)
  | output there took =>
    rcases Reception.take?_exactly_cases took with ⟨body, rfl, -, -⟩ | ⟨left, rfl, isOver, short⟩
    · simp only [Stage.next, Stage.afterBody]
      rcases Framing.readBody body with f | m
      · exact .inr ⟨_, rfl, .inl rfl⟩
      · exact .inl ⟨m, rfl⟩
    · exact .inr ⟨_, rfl, .inr (.cut read isOver short earlier begins)⟩

theorem Since.forget (h : Since base t i o p γ s) : Since base t i o none γ s :=
  { h with there := fun _ e => by cases e }

/-- A reader receives a message, or has a reason not to. -/
theorem wp_receive (h : Since base t i (some n) none γ s) :
    persisting.account.discipline.wp t (Transport.receive n) (fun r γ' s' => Since base t i (some n) none γ' s' ∧
      ∀ f, r = .error f → Excused i t f γ' s') γ s := by
  obtain ⟨x, session, berth⟩ := h.berth n rfl
  have process : s.processOf? i = s.serverOf? n := by simp only [World.processOf?, session, Option.bind_some, berth]
  refine Wp.bind (Wp.look ?_)
  rcases held : s.serverOf? n with _ | j
  · refine ⟨h, fun f e => .inr ?_⟩
    cases e
    exact .released (process.trans held)
  refine Wp.seq (wp_read h) ?_ fun f γ₁ s₁ read =>
    ⟨read.1, fun f' e => excused_of_read (read.2.1 f' (Except.error.inj e ▸ rfl))⟩
  rintro progress γ₁ s₁ ⟨h₁, -, read⟩
  obtain ⟨taken, e, rfl, last, took, kept, -, e₀, first, rfl⟩ := read progress rfl
  rcases header_cases ⟨last, e₀, first, process.trans held⟩ took with ⟨f, failed, excused⟩ | ⟨m, rest, onward, there, begins⟩
  · rw [failed]
    exact ⟨h₁, fun f' e => (Except.error.inj e) ▸ excused⟩
  rw [onward]
  -- The header stays among what was done.
  have h₁' : Since (deedsOf t γ₁) t i (some n) (some j) γ₁ s₁ :=
    { h₁ with
      deeds := List.prefix_refl _
      there := fun j' e => by cases e; exact Nat.lt_of_lt_of_le there kept }
  refine Wp.seq (wp_read h₁') ?_ fun f γ₂ s₂ read =>
    ⟨{ read.1.forget with deeds := h₁.deeds.trans read.1.deeds }, fun f' e =>
      excused_of_read (read.2.1 f' (Except.error.inj e ▸ rfl))⟩
  rintro progress γ₂ s₂ ⟨h₂, -, read⟩
  obtain ⟨taken', e', rfl, last', took', -, there', -⟩ := read progress rfl
  have since : Since base t i (some n) none γ₂ s₂ := { h₂.forget with deeds := h₁.deeds.trans h₂.deeds }
  rcases body_cases ⟨last', e₀, h₂.deeds.subset first, process.trans held⟩ (there' rfl) took'
    (h₂.deeds.subset (List.mem_of_getLast? last)) begins with ⟨message, received⟩ | ⟨f, failed, excused⟩
  · rw [received]
    exact ⟨since, fun _ e => by cases e⟩
  · rw [failed]
    exact ⟨since, fun f' e => (Except.error.inj e) ▸ excused⟩

/-! ## Handling a message -/

/-- How a message that is sent leaves a reader: it has failed because the reader was cancelled, or because the process
could not be written to. -/
structure SendEnds (base : List Deed) (t i n : Nat) (r : Except Fault Unit) (γ : List Deed) (s : World) : Prop where
  since : Since base t i (some n) none γ s
  fails : ∀ f, r = .error f →
    f = .cancelled ∨ (∃ reason, f = .closed reason) ∨ f = Transport.missing "stdin" ∧ s.processOf? i = none

theorem processOf?_of_berth (h : Since base t i (some n) p γ s) : s.processOf? i = s.serverOf? n := by
  obtain ⟨x, session, berth⟩ := h.berth n rfl
  simp only [World.processOf?, session, Option.bind_some, berth]

/-- A message is delivered. -/
theorem wp_deliver {m : Members} (h : Since base t i (some n) none γ s) :
    persisting.account.discipline.wp t (Transport.deliver n m) (SendEnds base t i n) γ s := by
  refine Wp.bind (Wp.look ?_)
  rcases held : s.serverOf? n with _ | j
  · exact ⟨h, fun f e => .inr (.inr ⟨(Except.error.inj e).symm, (processOf?_of_berth h).trans held⟩)⟩
  refine Wp.seq (upkeep.update (.write j m s) h) ?_ fun _ _ _ h => by cases h.1
  rintro _ γ₁ s₁ ⟨-, -, h₁⟩
  refine Wp.seq (upkeep.rest h₁) (fun _ γ₂ s₂ h₂ => ?_) fun f _ _ h => ⟨h.1, fun f' e => .inl ?_⟩
  · refine Wp.look ?_
    split
    · refine Wp.seq (upkeep.update (.recordRefusal j s₂) h₂.1) ?_ fun _ _ _ h => by cases h.1
      rintro _ γ₃ s₃ ⟨-, -, h₃⟩
      exact ⟨h₃, fun f e => .inr (.inl ⟨_, (Except.error.inj e).symm⟩)⟩
    · exact ⟨h₂.1, fun _ e => by cases e⟩
  · exact h.2 f' (by cases e; rfl)

/-- A message is sent. -/
theorem wp_send {m : Members} (h : Since base t i (some n) none γ s) :
    persisting.account.discipline.wp t (Transport.send n m) (SendEnds base t i n) γ s := by
  refine Wp.look ?_
  split
  · refine Wp.seq (upkeep.acquire World.Spares.piping h) (fun _ γ₁ s₁ h₁ => ?_) fun f _ _ h =>
      ⟨h.1, fun f' e => .inl (h.2 f' (by cases e; rfl))⟩
    refine Wp.ensure (wp_deliver h₁.1) fun r γ₂ s₂ ends => ?_
    refine Wp.mono (upkeep.release World.Spares.piping ends.since) ?_
    rintro _ γ₃ s₃ ⟨rfl, h₃, lock, l, rfl⟩
    refine ⟨h₃, fun f e => (ends.fails f e).imp_right fun why => why.imp_right fun ⟨missing, gone⟩ => ⟨missing, ?_⟩⟩
    -- The lock of a pipe is no matter for who holds which process.
    rw [processOf?_of_berth ends.since] at gone
    rw [processOf?_of_berth h₃]
    simp only [World.serverOf?, Transport.writePlace, World.setTransport, List.getElem?_modify] at gone ⊢
    rcases found : s₂.transports[n]? with _ | T
    · rfl
    · simp only [found, Option.bind_some] at gone
      simp only [Option.map_eq_map, Option.map_some, Option.bind_some]
      split <;> exact gone
  · refine Wp.seq (upkeep.update ?refused h) ?_ fun _ _ _ h => by cases h.1
    case refused =>
      split
      · exact .recordRefusal _ s
      · exact World.Spares.piping.refl s
    rintro _ γ₁ s₁ ⟨-, -, h₁⟩
    exact ⟨h₁, fun f e => .inr (.inl ⟨_, (Except.error.inj e).symm⟩)⟩

/-- A reader is at work, and has a reason to fail, if it does. -/
def Goes (base : List Deed) (t i : Nat) (o : Option Nat) (r : Except Fault Unit) (γ : List Deed) (s : World) : Prop :=
  Since base t i o none γ s ∧ ∀ f, r = .error f → Excused i t f γ s

/-- A request is answered, if it has an answer and the process can be written to. -/
theorem wp_handleRequest {q : Request} {e : Deed} (h : Since base t i (some n) none γ s)
    (last : (deedsOf t γ).getLast? = some e) (heard : e.records = [.heard i (.request q)]) :
    persisting.account.discipline.wp t (Session.handleRequest i q) (Goes base t i (some n)) γ s := by
  obtain ⟨x, found, rfl⟩ := h.berth n rfl
  refine Wp.bind (Wp.look ?_)
  simp only [found]
  refine Wp.bind ?_
  rcases Session.answerTo_cases q with ⟨a, answer, -⟩ | ⟨v, none, fault⟩
  · rw [answer]
    refine Wp.attempt_seq (wp_send h) fun r γ₁ s₁ ends => ?_
    split
    · exact ⟨ends.since, fun _ e => by cases e⟩
    · exact ⟨ends.since, fun _ e => by cases e⟩
    · next f other =>
      refine ⟨ends.since, fun f' e => ?_⟩
      obtain rfl := Except.error.inj e
      rcases ends.fails f rfl with rfl | ⟨reason, rfl⟩ | ⟨rfl, gone⟩
      · exact .inr .cancelled
      · exact absurd rfl (other reason)
      · exact .inr (.unwritten gone)
  · rw [fault]
    refine ⟨h, fun f e => .inr ?_⟩
    obtain rfl := Except.error.inj e
    exact .upset last heard (.settings none)

/-- What does not fail and spares the table of requests. -/
theorem goes_of_update {f : World → World} {o : Option Nat} (h : Since base t i o none γ s) (spares : s.Spares (f s)) :
    persisting.account.discipline.wp t (Program.update f) (Goes base t i o) γ s :=
  Wp.mono (upkeep.update spares h) fun _ _ _ h => ⟨h.2.2, fun _ e => by cases h.1.symm.trans e⟩

/-- A response is handed to the request that it belongs to. -/
theorem wp_handleResponse {a : Response} {o : Option Nat} (h : Since base t i o none γ s) :
    persisting.account.discipline.wp t (Session.handleResponse i a) (Goes base t i o) γ s := by
  refine goes_of_update h ?_
  split
  · split
    · exact .of_eq (Loop.grows_settle ..) rfl (Nat.le_refl _)
    · exact World.Spares.piping.refl s
  · exact World.Spares.piping.refl s

/-- Diagnostics are kept and told, whatever they are. -/
theorem wp_handleDiagnostics {params : Members} {o : Option Nat} (h : Since base t i o none γ s) :
    persisting.account.discipline.wp t (Session.handleDiagnostics i params) (Goes base t i o) γ s := by
  unfold Session.handleDiagnostics
  split
  · exact ⟨h, fun _ e => by cases e⟩
  refine Wp.seq (upkeep.update (.setSession s i (fun _ => rfl) fun _ => rfl) h) ?_ fun _ _ _ h => by cases h.1
  rintro _ γ₁ s₁ ⟨-, -, h₁⟩
  exact goes_of_update h₁ (World.Spares.telling.tellDiagnostics.1 s₁)

/-- A log message is told, unless its type is compound. -/
theorem wp_handleLog {q : Notification} {e : Deed} {o : Option Nat} (h : Since base t i o none γ s)
    (last : (deedsOf t γ).getLast? = some e) (heard : e.records = [.heard i (.notification q)])
    (method : q.method = "window/logMessage" ∨ q.method = "window/showMessage") :
    persisting.account.discipline.wp t (Session.handleLog i (Session.membersOf q.params)) (Goes base t i o) γ s := by
  refine Wp.bind ?_
  rcases Session.logLevel_cases (((Session.membersOf q.params).get? "type").getD (.int 4)) with
    ⟨level, leveled⟩ | ⟨kind, compound, fault⟩
  · rw [leveled]
    refine goes_of_update h ?_
    split
    · exact .record _ s
    · exact .publish _ s
    · exact World.Spares.piping.refl s
  · rw [fault]
    refine ⟨h, fun f e => .inr ?_⟩
    obtain rfl := Except.error.inj e
    rcases given : (Session.membersOf q.params).get? "type" with _ | v
    · rw [given] at compound
      cases compound
    · rw [given] at compound
      exact .upset last heard (.log method given compound)

/-- A message is handled. -/
theorem wp_handled {m : Message} (h : Since base t i (some n) none γ s) :
    persisting.account.discipline.wp t (do
        .update (World.record (.heard i m))
        Session.handle i m)
      (Goes base t i (some n)) γ s := by
  have step := h.deed (World.Spares.record (.heard i m) s)
  refine Wp.change _ step.1 ?_
  have last : (deedsOf t (γ ++ [⟨t, World.record (.heard i m), s⟩])).getLast? = some ⟨t, World.record (.heard i m), s⟩ :=
    getLast?_deedsOf _
  have heard : (⟨t, World.record (.heard i m), s⟩ : Deed).records = [.heard i m] :=
    Deed.records_eq (d := ⟨t, World.record (.heard i m), s⟩) [.heard i m] rfl
  cases m with
  | response a => exact wp_handleResponse step.2
  | request q => exact wp_handleRequest step.2 last heard
  | notification q =>
    show persisting.account.discipline.wp t (Session.handleNotification i q) _ _ _
    unfold Session.handleNotification
    split
    · exact wp_handleDiagnostics step.2
    · next method => exact wp_handleLog step.2 last heard (.inl method)
    · next method => exact wp_handleLog step.2 last heard (.inr method)
    · exact ⟨step.2, fun _ e => by cases e⟩

/-- A message is received and handled, or there is no such session. -/
theorem wp_handleNext (h : Since base t i none none γ s) :
    persisting.account.discipline.wp t (Session.handleNext i) (fun r γ' s' => s.sessions[i]? = none ∧
        r = .error (Transport.missing "session") ∧ Since base t i none none γ' s' ∧ s'.sessions[i]? = none ∨
      ∃ n, Goes base t i (some n) r γ' s') γ s := by
  refine Wp.bind (Wp.look ?_)
  rcases found : s.sessions[i]? with _ | x
  · exact .inl ⟨rfl, rfl, h, found⟩
  have reads : Since base t i (some x.transport) none γ s :=
    { h with berth := fun _ e => ⟨x, found, Option.some.inj e⟩ }
  refine Wp.seq (wp_receive reads) (fun m γ₁ s₁ h₁ => ?_) fun f _ _ h =>
    .inr ⟨_, h.1, fun f' e => h.2 f' (by cases e; rfl)⟩
  exact Wp.mono (wp_handled h₁.1) fun _ _ _ h => .inr ⟨_, h⟩

/-! ## The end of a reader -/

/-- How what was pending has failed: with the last two deeds, of which the first one fails it and the other one forgets
it. -/
structure Swept (i t : Nat) (own : List Deed) (s : World) (γ : List Deed) : Prop where
  deeds : ∃ sweep clear, deedsOf t γ = own ++ [sweep, clear] ∧ sweep.before = s ∧ clear.before = sweep.after ∧
    sweep.Sweeps i ∧ clear.Clears i

/-- What is pending fails and is forgotten. -/
theorem wp_failPending (h : Since base t i (some n) none γ s) :
    persisting.account.discipline.wp t (Session.failPending i (.closed (.sessionLost (Session.nameOf i))))
      (fun r γ' s' => r = .ok () ∧ s'.loop.kind? t = some (.reader i) ∧ Swept i t (deedsOf t γ) s γ') γ s := by
  obtain ⟨x, found, -⟩ := h.berth n rfl
  refine Wp.bind (Wp.look ?_)
  simp only [found]
  let fails (s : World) : World :=
    { s with loop := x.pending.foldl (fun l p => l.settle p.2 (.error (.closed (.sessionLost (Session.nameOf i))))) s.loop }
  let forgets (s : World) : World := s.setSession i fun x => { x with pending := [] }
  have step := h.deed (f := fails) (.of_eq (SilentRepertoire.grows_settleAll ..) rfl (Nat.le_refl _))
  have step' := step.2.toAtWork.deed (P := persisting) (f := forgets) (E := fun _ => True)
    (.setSession _ i fun _ => rfl) trivial
  refine Wp.change _ step.1 (Wp.update _ step'.1 ⟨rfl, step'.2.kind, ⟨⟨t, fails, s⟩, ⟨t, forgets, fails s⟩, ?_, rfl, rfl, ?_, ?_⟩⟩)
  · rw [deedsOf_self, deedsOf_self, List.append_assoc]
    rfl
  · intro y number k session pending none
    obtain rfl := Option.some.inj (found.symm.trans session)
    have all : (fails s).loop =
        s.loop.settleAll (x.pending.map Prod.snd) (.error (.closed (.sessionLost (Session.nameOf i)))) := by
      simp only [fails, Loop.settleAll, List.foldl_map]
    have mem : k ∈ x.pending.map Prod.snd := List.mem_map.mpr ⟨(number, k), pending, rfl⟩
    have settled := Loop.isSettled_settleAll (r := .error (.closed (.sessionLost (Session.nameOf i)))) mem
      (h.ticketed i x number k found pending)
    obtain ⟨r, outcome⟩ := Option.isSome_iff_exists.mp settled
    show (fails s).loop.outcome? k = _
    rw [all, outcome]
    rcases Loop.outcome?_settleAll_cases outcome with old | ⟨-, rfl⟩
    · cases none.symm.trans old
    · rfl
  · intro y session
    simp only [Deed.after, forgets, World.setSession, List.getElem?_modify, if_true] at session
    obtain ⟨z, -, rfl⟩ := Option.map_eq_some_iff.mp session
    rfl

/-- A turn of a reader. -/
theorem wp_reader (h : Since [] t i none none γ s) :
    persisting.account.discipline.wp t (Session.readerTurn i) (persisting.Leaves i t) γ s := by
  refine Wp.attempt_seq (wp_handleNext h) fun r γ₁ s₁ left => ?_
  rcases left with ⟨-, rfl, h₁, none⟩ | ⟨n, h₁, why⟩
  · -- Nothing is pending on a session that there is not.
    refine Wp.bind (Wp.bind (Wp.look ?_))
    simp only [none]
    exact ⟨h₁.kind, fun _ e => (by cases e), fun _ e => (by cases e), fun f e => by cases e; exact .unknown _⟩
  · cases r with
    | ok => exact ⟨h₁.kind, fun _ _ => trivial, fun _ e => (by cases e), fun _ e => by cases e⟩
    | error f =>
      dsimp only
      split
      · exact ⟨h₁.kind, fun _ _ => trivial, fun _ e => (by cases e), fun _ e => by cases e⟩
      · next final =>
        have ceases := (why f rfl).resolve_left final
        refine Wp.seq (wp_failPending h₁) ?_ fun _ _ _ h => by cases h.1
        rintro _ γ₂ s₂ ⟨-, kind, ⟨sweep, clear, own, rfl, next, sweeps, clears⟩⟩
        have halted : Session.Halted i f.asReply (deedsOf t γ₂) := own ▸ .swept ceases sweeps clears next
        rcases lost : f.isTransport with _ | _
        · simp only [Bool.false_eq_true, if_false]
          rw [Fault.asReply, if_neg (by rw [lost]; exact Bool.false_ne_true)] at halted
          exact ⟨kind, fun _ e => (by cases e), fun _ e => (by cases e), fun f' e => by cases e; exact halted⟩
        · simp only [if_true]
          rw [Fault.asReply, if_pos lost] at halted
          exact ⟨kind, fun _ e => (by cases e), fun _ e => (by cases e; exact halted), fun _ e => by cases e⟩

end Persisting

/-- Readers only end with a reason. -/
theorem persisting_lawful : persisting.Lawful where
  picks _ _ ticketed picks i x n k found mem := Nat.lt_of_lt_of_eq (ticketed i x n k found mem) (by rw [picks.tickets])
  sound γ ds m sound i x n k found mem := by
    obtain ⟨u, q, asking, -, -, rfl⟩ := sound.inv.tables.entries i x.bare n k (World.ledger_session found) mem
    exact sound.inv.tickets.issued _ _ (sound.inv.asked.owned q (sound.inv.asked.asking u q asking).1)
  fresh _ := trivial
  interrupted i own _ := .interrupted own
  turn t i γ s kind ticketed _ := Persisting.wp_reader
    { kind, ticketed, deeds := List.nil_prefix, berth := fun _ e => (by cases e), there := fun _ e => by cases e }

/-! ## Readers that end -/

/-- A server that, asked for this, says something that upsets its client, and then answers. -/
def Script.blunt : Script :=
  { Script.obedient with on := ("x", [
      .send (.obj [("method", .str "window/logMessage"),
        ("params", .obj [("type", .arr []), ("message", .str "m")])]),
      .respond [("result", .int 1)]]) :: Script.obedient.on }

/-- A client that has opened a session with such a server and asked for this. -/
def Machine.affronted : Machine :=
  let m := { Machine.ofWorld (.sample [.blunt]) with
    world := (Supervisor.createSession .standard .sample (.sample [.blunt])).2 }
  let m := (m.start (.call (.session 0 .open))).2.runUntil Client.turn 1000 1000000000 100
  (m.start (.call (.session 0 (.request (.str "x") (.obj []))))).2.runUntil Client.turn 1000 1000000000 100

theorem lives_affronted : ∃ ds, Machine.Lives ds Machine.affronted := by
  have made := (Machine.Lives.fresh [] ⟨"/", []⟩ [.blunt] .sample .standard none false (.fresh .standard 80) (.empty 0)).session
    .standard .sample
  have opened := (made.call (c := .session 0 .open) trivial).runUntil 1000 1000000000 100
  exact ⟨_, (opened.call (c := .session 0 (.request (.str "x") (.obj []))) trivial).runUntil 1000 1000000000 100⟩

/-- A task runs alone: it waits for nobody. -/
def alone : Discipline Unit where
  Rely _ _ _ := True
  Acts _ _ _ _ := True
  Stops _ _ _ _ := False
  Resumes _ _ _ _ _ := True

/-- A program fails in one go, without waiting for anything. -/
def Program.FailsAtOnce {α : Type} (p : Act α) (s : World) (f : Fault) : Prop :=
  (p.advance (fun s t => s.loop.outcome? t) s).2 = .failed f

theorem Program.failsAtOnce_of_wp {α : Type} {p : Act α} {s : World} {P : Fault → Prop}
    (h : alone.wp 0 p (fun r _ _ => ∃ f, r = .error f ∧ P f) () s) : ∃ f, p.FailsAtOnce s f ∧ P f := by
  obtain ⟨_, -, stop⟩ := Wp.advance (K := fun _ _ _ => True) (fun _ => trivial) (fun _ _ _ _ _ _ _ => trivial) h
  unfold Program.FailsAtOnce
  generalize p.advance (fun s t => s.loop.outcome? t) s = out at stop ⊢
  obtain ⟨s', a | f | _ | _⟩ := out
  · obtain ⟨f, e, -⟩ := stop
    cases e
  · obtain ⟨f', e, holds⟩ := stop
    exact ⟨f, rfl, (Except.error.inj e) ▸ holds⟩
  · exact stop.1.elim
  · exact stop.1.elim

/-- The process of a session that is there is gone. -/
structure World.Unconnected (s : World) (i : Nat) (x : Session) : Prop where
  session : s.sessions[i]? = some x
  gone : s.isConnected x.transport = false

namespace World.Unconnected

variable {s : World} {i : Nat} {x : Session}

theorem setSession (h : s.Unconnected i x) (f : Session → Session) (transport : (f x).transport = x.transport) :
    (s.setSession i f).Unconnected i (f x) where
  session := by simp only [World.setSession, List.getElem?_modify, h.session, if_true, Option.map_eq_map, Option.map_some]
  gone := by rw [transport]; exact h.gone

/-- A message that is sent fails at once. -/
theorem wp_send {m : Members} (h : s.Unconnected i x) :
    alone.wp 0 (Transport.send x.transport m) (fun r _ s' => r = .error (.closed .notConnected) ∧ ∃ x', s'.sessions[i]? = some x') () s := by
  refine Wp.look ?_
  rw [h.gone]
  refine Wp.change () trivial ⟨rfl, x, ?_⟩
  split
  · unfold World.recordRefusal
    split <;> exact h.session
  · exact h.session

/-- So does a request, unless it is none. -/
theorem wp_sendRequest {number : Nat} {method params : Json} (h : s.Unconnected i x) :
    alone.wp 0 (Session.sendRequest i number method params)
      (fun r _ _ => ∃ f, r = .error f ∧ (f = .closed .notConnected ∨ ∃ m, f = .misfit m)) () s := by
  refine Wp.bind (Wp.look ?_)
  simp only [h.session]
  refine Wp.done ?_
  simp only [Wp.after_ok]
  rcases Request.ofMembers [("id", .int number), ("method", method), ("params", params)] with m | r
  · exact ⟨_, rfl, .inr ⟨m, rfl⟩⟩
  · exact Wp.mono h.wp_send fun _ _ _ h => ⟨_, h.1, .inl rfl⟩

theorem wp_request {method params : Json} (h : s.Unconnected i x) (running : x.state = .running) :
    alone.wp 0 (Session.request i method params)
      (fun r _ _ => ∃ f, r = .error f ∧ (f = .closed .notConnected ∨ ∃ m, f = .misfit m)) () s := by
  refine Wp.bind (Wp.look ?_)
  simp only [h.session]
  show alone.wp 0 (if x.state = .running then _ else _) _ () s
  rw [if_pos running]
  refine Wp.yield () trivial ?_
  simp only [h.session]
  have h₁ := h.setSession (fun x => { x with lastRequest := x.lastRequest + 1 }) rfl
  refine Wp.issue () trivial (Wp.change () trivial ?_)
  have h₂ : World.Unconnected _ i _ := (World.Unconnected.mk (s := { s.setSession i fun x => { x with lastRequest := x.lastRequest + 1 } with
    loop := s.loop.issue.2 }) h₁.session h₁.gone).setSession (fun y => { y with pending := y.pending ++ [(x.lastRequest + 1, s.loop.tickets.length)] }) rfl
  refine Wp.ensure (P := fun r _ _ => ∃ f, r = .error f ∧ (f = .closed .notConnected ∨ ∃ m, f = .misfit m))
    (Wp.seq h₂.wp_sendRequest (fun _ _ _ h => ?_) fun f _ _ h => ?_) ?_
  · obtain ⟨_, e, -⟩ := h
    cases e
  · obtain ⟨_, e, why⟩ := h
    exact ⟨f, rfl, (Except.error.inj e) ▸ why⟩
  · rintro r γ₁ s₁ ⟨f, rfl, why⟩
    exact Wp.update () trivial ⟨f, rfl, why⟩

end World.Unconnected

/-- A server that falls silent after the handshake, and lives on. -/
def Script.aloof : Script := { Script.obedient with on := ("initialized", [.closeOutput]) :: Script.obedient.on }

/-- A client that has opened a session with such a server, and then asks for something. -/
def Machine.snubbed : Machine :=
  let m := { Machine.ofWorld (.sample [.aloof]) with
    world := (Supervisor.createSession .standard .sample (.sample [.aloof])).2 }
  let m := (m.start (.call (.session 0 .open))).2.runUntil Client.turn 1000 1000000000 100
  (m.start (.call (.session 0 (.request (.str "x") (.obj []))))).2.runUntil Client.turn 1000 60000000000 100

theorem lives_snubbed : ∃ ds, Machine.Lives ds Machine.snubbed := by
  have made := (Machine.Lives.fresh [] ⟨"/", []⟩ [.aloof] .sample .standard none false (.fresh .standard 80) (.empty 0)).session
    .standard .sample
  have opened := (made.call (c := .session 0 .open) trivial).runUntil 1000 1000000000 100
  exact ⟨_, (opened.call (c := .session 0 (.request (.str "x") (.obj []))) trivial).runUntil 1000 60000000000 100⟩

end LspHost

import LspHost.Proofs.Readers

/-!
# Requests of the server

A server may ask its client something at any time. `Request.AnsweredBy` has the rules by which it is answered: settings that
are asked for are all null, what is to be agreed to is agreed to, and no other method is known. An account of all deeds
(`answering`) is kept in every life: what a reader writes are answers to what it was told just before.

Results:
1. `Session.answerTo_cases`: a request has an answer by the rules, unless it asks for settings in a way that has no items.
2. `Machine.Lives.requests_answered`: while the process of a session listens, the messages that the reader of the session
   writes are the answers to the requests that it was told, one for each and in the same order; a last request is without an
   answer only while it is being written, or if the reader was cancelled or has failed for a request that has no answer.
-/

namespace LspHost

open Act Discipline Program

/-! ## Answers -/

/-- The methods of requests that are agreed to. -/
def Request.agreed : List String :=
  ["client/registerCapability", "client/unregisterCapability", "window/workDoneProgress/create"]

/-- How many settings a request asks for: as many as its items are, and those of an object or a text are its members or
characters. -/
inductive Request.AsksFor (r : Request) : Nat → Prop
  | nothing (none : (Session.membersOf r.params).get? "items" = none) : r.AsksFor 0
  | list {items : List Json} (given : (Session.membersOf r.params).get? "items" = some (.arr items)) :
    r.AsksFor items.length
  | members {m : Members} (given : (Session.membersOf r.params).get? "items" = some (.obj m)) : r.AsksFor m.length
  | text {s : String} (given : (Session.membersOf r.params).get? "items" = some (.str s)) : r.AsksFor s.length

/-- A request for settings names items that are none. -/
structure Request.Unanswerable (r : Request) (v : Json) : Prop where
  method : r.method = "workspace/configuration"
  given : (Session.membersOf r.params).get? "items" = some v
  plain : ∀ n, ¬ r.AsksFor n

/-- The answer to a request, as it goes over the wire. -/
inductive Request.AnsweredBy (r : Request) : Members → Prop
  | settings {n : Nat} (method : r.method = "workspace/configuration") (asks : r.AsksFor n) :
    r.AnsweredBy [("id", r.id.toJson), ("result", .arr (List.replicate n .null))]
  | agreement (method : r.method ∈ Request.agreed) : r.AnsweredBy [("id", r.id.toJson), ("result", .null)]
  | unknown (other : r.method ≠ "workspace/configuration") (method : r.method ∉ Request.agreed) :
    r.AnsweredBy [("id", r.id.toJson),
      ("error", .obj [("code", .int (-32601)), ("message", .str ("Unhandled method " ++ r.method))])]

namespace Session

/-- A response as it goes over the wire. -/
def wire (a : Response) : Members := (Message.response a).wireMembers.filter fun e => e.1 ≠ "jsonrpc"

theorem itemCount_cases (r : Request) :
    (∃ n, itemCount (membersOf r.params) = .ok n ∧ r.AsksFor n) ∨
      ∃ v, (membersOf r.params).get? "items" = some v ∧ (∀ n, ¬ r.AsksFor n) ∧
        itemCount (membersOf r.params) = .error (.plain .wrongType ("\x27" ++ v.kind ++ "\x27 object is not iterable")) := by
  rcases given : (membersOf r.params).get? "items" with _ | v
  · exact .inl ⟨0, by simp only [itemCount, given, Option.getD_none, List.length_nil], .nothing given⟩
  have none (plain : (∀ items, v ≠ .arr items) ∧ (∀ m, v ≠ .obj m) ∧ ∀ s, v ≠ .str s) (n : Nat) : ¬ r.AsksFor n := by
    obtain ⟨arr, obj, str⟩ := plain
    intro asks
    cases asks with
    | nothing none => cases given.symm.trans none
    | list other => exact arr _ (Option.some.inj (given.symm.trans other))
    | members other => exact obj _ (Option.some.inj (given.symm.trans other))
    | text other => exact str _ (Option.some.inj (given.symm.trans other))
  simp only [itemCount, given, Option.getD_some]
  cases v with
  | arr items => exact .inl ⟨_, rfl, .list given⟩
  | obj m => exact .inl ⟨_, rfl, .members given⟩
  | str s => exact .inl ⟨_, rfl, .text given⟩
  | null | bool | int | float =>
    exact .inr ⟨_, rfl, none ⟨fun _ e => (by cases e), fun _ e => (by cases e), fun _ e => by cases e⟩, rfl⟩

/-- A request is answered by the rules, unless it names items that are none. -/
theorem answerTo_cases (r : Request) :
    (∃ a, answerTo r = .ok a ∧ r.AnsweredBy (wire a)) ∨
      ∃ v, r.Unanswerable v ∧
        answerTo r = .error (.plain .wrongType ("\x27" ++ v.kind ++ "\x27 object is not iterable")) := by
  unfold answerTo
  split
  · next method =>
    rcases itemCount_cases r with ⟨n, count, asks⟩ | ⟨v, given, plain, count⟩
    · refine .inl ⟨⟨some r.id, some (.arr (List.replicate n .null)), none⟩, ?_, .settings method asks⟩
      rw [count]
      rfl
    · refine .inr ⟨v, ⟨method, given, plain⟩, ?_⟩
      rw [count]
      rfl
  · next method => exact .inl ⟨_, rfl, .agreement (by rw [method]; decide)⟩
  · next method => exact .inl ⟨_, rfl, .agreement (by rw [method]; decide)⟩
  · next method => exact .inl ⟨_, rfl, .agreement (by rw [method]; decide)⟩
  · next settings register unregister progress =>
    refine .inl ⟨_, rfl, .unknown settings fun mem => ?_⟩
    simp only [Request.agreed, List.mem_cons, List.not_mem_nil, or_false] at mem
    exact mem.elim register fun mem => mem.elim unregister progress

end Session

/-! ## What a reader is told and writes -/

/-- A request that a session is told of. -/
def Record.request? : Record → Option Request
  | .heard _ (.request r) => some r
  | _ => none

/-- A message that is written to a process. -/
def Record.message? : Record → Option Members
  | .sent _ m => some m
  | _ => none

/-- The requests that are told of in a deed. -/
def Deed.requests (d : Deed) : List Request := d.records.filterMap Record.request?

/-- The messages that are written in a deed. -/
def Deed.messages (d : Deed) : List Members := d.records.filterMap Record.message?

/-- The requests that a task is told of. -/
def requestsTo (t : Nat) (ds : List Deed) : List Request := (deedsOf t ds).flatMap Deed.requests

/-- The messages that a task writes. -/
def messagesOf (t : Nat) (ds : List Deed) : List Members := (deedsOf t ds).flatMap Deed.messages

/-- Whether the process of a session listens. -/
def World.isSessionListening (s : World) (i : Nat) : Bool :=
  ((s.sessions[i]?).bind fun x => (s.serverOf? x.transport).bind fun j => s.servers[j]?).any Server.isListening

theorem World.listening {s : World} {i : Nat} (h : s.isSessionListening i = true) :
    ∃ x j p, s.sessions[i]? = some x ∧ s.serverOf? x.transport = some j ∧ s.servers[j]? = some p ∧
      p.isListening = true := by
  obtain ⟨p, found, listens⟩ := (Option.any_eq_true ..).mp h
  obtain ⟨x, session, found⟩ := Option.bind_eq_some_iff.mp found
  obtain ⟨j, held, found⟩ := Option.bind_eq_some_iff.mp found
  exact ⟨x, j, p, session, held, found, listens⟩

/-! ## Changes that neither tell nor write -/

/-- No request is told of and no message is written. -/
structure World.Mute (a b : World) : Prop extends World.Moors a b where
  journal : ∃ rs, b.journal = rs ++ a.journal ∧ ∀ r ∈ rs, r.request? = none ∧ r.message? = none

namespace World.Mute

variable {a b c : World}

theorem of_eq (loop : a.loop.Grows b.loop) (sessions : b.sessions = a.sessions)
    (servers : a.servers.length ≤ b.servers.length) (journal : b.journal = a.journal) : a.Mute b where
  toMoors := .of_eq loop sessions servers
  journal := ⟨[], journal, fun _ h => by cases h⟩

theorem refl (a : World) : a.Mute a := of_eq (.refl _) rfl (Nat.le_refl _) rfl

theorem trans (h : a.Mute b) (h' : b.Mute c) : a.Mute c where
  toMoors := h.toMoors.trans h'.toMoors
  journal := by
    obtain ⟨rs, step, silent⟩ := h.journal
    obtain ⟨rs', step', silent'⟩ := h'.journal
    refine ⟨rs' ++ rs, by rw [step', step, List.append_assoc], fun r hr => ?_⟩
    exact (List.mem_append.mp hr).elim (silent' r) (silent r)

/-- A record that is no request and no message. -/
theorem record (s : World) {r : Record} (request : r.request? = none) (message : r.message? = none) :
    s.Mute (s.record r) where
  toMoors := .of_eq (.refl _) rfl (Nat.le_refl _)
  journal := ⟨[r], rfl, fun _ h => List.mem_singleton.mp h ▸ ⟨request, message⟩⟩

theorem recordRefusal (j : Nat) (s : World) : s.Mute (s.recordRefusal j) := by
  unfold World.recordRefusal
  split
  · exact record s rfl rfl
  · exact .refl s

theorem publish (e : Event) (s : World) : s.Mute (s.publish e) := by
  obtain ⟨l, waiting, grows, step⟩ := World.publish_eq e s
  rw [step]
  exact (record s rfl rfl).trans (of_eq grows rfl (Nat.le_refl _) rfl)

theorem setSession (s : World) (id : Nat) {f : Session → Session} (transport : ∀ x, (f x).transport = x.transport) :
    s.Mute (s.setSession id f) where
  toMoors := .setSession s id transport
  journal := ⟨[], rfl, fun _ h => by cases h⟩

theorem setServer (s : World) (id : Nat) (f : Server → Server) : s.Mute (s.setServer id f) where
  toMoors := .setServer s id f
  journal := ⟨[], rfl, fun _ h => by cases h⟩

theorem lenient : Lenient World.Mute where
  refl := .refl
  trans := .trans
  onLoop grows := of_eq grows rfl (Nat.le_refl _) rfl
  setServer id _ _ := setServer _ id _
  acts _ orderly := of_eq orderly.grows rfl (Nat.le_of_eq (List.length_set ..).symm) rfl
  setTransport _ _ _ := of_eq (.refl _) rfl (Nat.le_refl _) rfl
  setSession s id _ _ transport _ := setSession s id transport

theorem receive {n : Nat} : Across World.Mute (Transport.receive n) :=
  lenient.repertoire.receive fun id _ s => setServer s id _

theorem telling : World.Telling World.Mute where
  refl := refl
  trans := trans
  record {r} s told := record s (by cases r <;> first | rfl | cases told) (by cases r <;> first | rfl | cases told)
  publish := publish
  keep s id _ := setSession s id fun _ => rfl

/-- What a session does with a message that is no request. -/
theorem handle {i : Nat} {m : Message} (other : (Record.heard i m).request? = none) :
    Across World.Mute (Session.handle i m) := by
  have log (params : Members) : Across World.Mute (Session.handleLog i params) := .bind (.ofExcept _) fun _ => telling.tellLog
  cases m with
  | request r => cases other
  | response r => exact lenient.repertoire.handleResponse
  | notification n =>
    show Across World.Mute (Session.handleNotification i n)
    unfold Session.handleNotification
    split
    · exact telling.handleDiagnostics
    · exact log _
    · exact log _
    · exact .done _

end World.Mute

/-! ## The account of answers -/

namespace Answering

variable {i t n : Nat} {own : List Deed} {d : Deed} {q : Request} {γ γ' : List Deed} {s s' : World} {κ : TaskKind}

/-- Every request that a reader was told of is answered, if the process listens. -/
def Settled (i : Nat) (own : List Deed) : Prop :=
  (∀ d ∈ own, d.before.isSessionListening i = true) →
    List.Forall₂ Request.AnsweredBy (own.flatMap Deed.requests) (own.flatMap Deed.messages)

/-- All requests are answered but the last one. -/
def Owes (i : Nat) (q : Request) (own : List Deed) : Prop :=
  (∀ d ∈ own, d.before.isSessionListening i = true) → ∃ earlier, own.flatMap Deed.requests = earlier ++ [q] ∧
    List.Forall₂ Request.AnsweredBy earlier (own.flatMap Deed.messages)

/-- How a reader stands that has ended: the last request is only left if it was cancelled, or the request has no answer. -/
def Concluded (i : Nat) (r : Except Fault Reply) (own : List Deed) : Prop :=
  Settled i own ∨ ∃ q f, Owes i q own ∧ r = .error f ∧ (f = .cancelled ∨ Session.answerTo q = .error f)

theorem Settled.of_deaf (deaf : d.before.isSessionListening i = false) : Settled i (own ++ [d]) := fun all =>
  absurd (all d (List.mem_append_right _ List.mem_cons_self)) (by rw [deaf]; exact Bool.false_ne_true)

theorem Settled.concat (h : Settled i own) (requests : d.requests = []) (messages : d.messages = []) :
    Settled i (own ++ [d]) := by
  intro all
  simpa [requests, messages] using h fun e he => all e (List.mem_append_left _ he)

theorem Owes.concat (h : Owes i q own) (requests : d.requests = []) (messages : d.messages = []) :
    Owes i q (own ++ [d]) := by
  intro all
  simpa [requests, messages] using h fun e he => all e (List.mem_append_left _ he)

/-- A request is told of. -/
theorem Settled.asked (h : Settled i own) (requests : d.requests = [q]) (messages : d.messages = []) :
    Owes i q (own ++ [d]) := by
  intro all
  refine ⟨own.flatMap Deed.requests, by simp [requests], ?_⟩
  simpa [messages] using h fun e he => all e (List.mem_append_left _ he)

/-- The request is answered. -/
theorem Owes.answered {m : Members} (h : Owes i q own) (requests : d.requests = []) (messages : d.messages = [m])
    (answer : q.AnsweredBy m) : Settled i (own ++ [d]) := by
  intro all
  obtain ⟨earlier, split, answered⟩ := h fun e he => all e (List.mem_append_left _ he)
  simpa [requests, messages, split] using List.rel_append answered (.cons answer .nil)

/-- The records of a deed that is not about requests. -/
theorem quiet_of_mute {f : World → World} (mute : s.Mute (f s)) :
    (⟨t, f, s⟩ : Deed).requests = [] ∧ (⟨t, f, s⟩ : Deed).messages = [] := by
  obtain ⟨rs, journal, silent⟩ := mute.journal
  simp only [Deed.requests, Deed.messages, Deed.records_eq (d := ⟨t, f, s⟩) rs journal, List.filterMap_eq_nil_iff,
    List.mem_reverse]
  exact ⟨fun r hr => (silent r hr).1, fun r hr => (silent r hr).2⟩

end Answering

/-- What is said of a reader: all requests are answered between two turns, and all but the last one while it waits. -/
def answering : Readership where
  known _ := True
  idle := Answering.Settled
  halfway i own := Answering.Settled i own ∨ ∃ q, Answering.Owes i q own
  concluded := Answering.Concluded

namespace Answering

open Readership

variable {i t n : Nat} {o : Option Nat} {q : Request} {P : List Deed → Prop} {γ γ' : List Deed} {s s' : World} {α : Type}

/-- What silent deeds leave as it is, and lets a reader wait. -/
structure Lasting (i : Nat) (P : List Deed → Prop) : Prop where
  concat : ∀ {own d}, P own → Deed.requests d = [] → d.messages = [] → P (own ++ [d])
  halfway : ∀ {own}, P own → Settled i own ∨ ∃ q, Owes i q own

theorem lasting_settled (i : Nat) : Lasting i (Settled i) := ⟨.concat, .inl⟩

theorem lasting_owes (i : Nat) (q : Request) : Lasting i (Owes i q) := ⟨.concat, fun h => .inr ⟨q, h⟩⟩

/-- A silent deed. -/
theorem Lasting.step {f : World → World} (lasts : Lasting i P) (h : AtWork P t i o γ s) (mute : s.Mute (f s)) :
    answering.account.Acts t f (γ, s) (γ ++ [⟨t, f, s⟩]) ∧ AtWork P t i o (γ ++ [⟨t, f, s⟩]) (f s) :=
  h.deed mute.toMoors (lasts.concat h.deeds (quiet_of_mute mute).1 (quiet_of_mute mute).2)

/-- Silent deeds are no matter. -/
theorem Lasting.upkeep (lasts : Lasting i P) : answering.account.Upkeep World.Mute t (AtWork P t i o) :=
  AtWork.upkeep (fun _ _ mute => mute.toMoors)
    (fun _ _ _ mute h => lasts.concat h (quiet_of_mute mute).1 (quiet_of_mute mute).2) fun _ => lasts.halfway

/-! ## Answering -/

/-- A deed of a reader whose process does not listen settles everything, since nothing is said of it. -/
theorem deaf_deed {f : World → World} (h : AtWork P t i (some n) γ s) (moors : s.Moors (f s))
    (deaf : s.isSessionListening i = false) :
    answering.account.Acts t f (γ, s) (γ ++ [⟨t, f, s⟩]) ∧ AtWork (Settled i) t i (some n) (γ ++ [⟨t, f, s⟩]) (f s) :=
  h.deed moors (.of_deaf deaf)

/-- What is recorded of a message that is written to a process that listens. -/
theorem messages_write {server : Nat} {p : Server} {m : Members} (found : s.servers[server]? = some p)
    (listens : p.isListening = true) :
    (⟨t, World.write server m, s⟩ : Deed).requests = [] ∧
      (⟨t, World.write server m, s⟩ : Deed).messages = [m.filter fun e => e.1 ≠ "jsonrpc"] := by
  have journal : (s.write server m).journal = [.sent p.pid (m.filter fun e => e.1 ≠ "jsonrpc")] ++ s.journal := by
    simp only [World.write, found, listens, if_true, World.withServer]
    split <;> rfl
  rw [Deed.requests, Deed.messages, Deed.records_eq (d := ⟨t, World.write server m, s⟩) _ journal]
  exact ⟨rfl, rfl⟩

/-- An answer is written, if the process listens. -/
theorem wp_write {a : Response} {server : Nat} (h : AtWork (Owes i q) t i (some n) γ s)
    (answer : q.AnsweredBy (Session.wire a)) (held : s.serverOf? n = some server) :
    answering.account.discipline.wp t (Transport.write server (Message.response a).wireMembers)
      (fun r γ' s' => r = .ok () ∧ AtWork (Settled i) t i (some n) γ' s') γ s := by
  have moors : Across World.Moors (Transport.write server (Message.response a).wireMembers) :=
    World.Moors.permissive.repertoire.write
  have written : Transport.write server (Message.response a).wireMembers =
    .update (World.write server (Message.response a).wireMembers) := rfl
  rw [written] at moors ⊢
  rcases listens : s.isSessionListening i with _ | _
  · have step := deaf_deed h (moors.1 s) listens
    exact Wp.update _ step.1 ⟨rfl, step.2⟩
  obtain ⟨x, found, same⟩ := h.berth n rfl
  obtain ⟨y, j, p, found', held', process, listening⟩ := World.listening listens
  obtain rfl := Option.some.inj (found.symm.trans found')
  rw [same] at held'
  obtain rfl := Option.some.inj (held.symm.trans held')
  obtain ⟨requests, messages⟩ := messages_write (t := t) (m := (Message.response a).wireMembers) process listening
  have step := h.deed (P := answering) (moors.1 s) (h.deeds.answered requests messages answer)
  exact Wp.update _ step.1 ⟨rfl, step.2⟩

/-- How an attempt to answer leaves a reader: it is done with the request, or was cancelled. -/
def Replied (t i n : Nat) (q : Request) (r : Except Fault Unit) (γ : List Deed) (s : World) : Prop :=
  AtWork (Settled i) t i (some n) γ s ∨ r = .error .cancelled ∧ AtWork (Owes i q) t i (some n) γ s

/-- An answer is delivered, if the process listens. -/
theorem wp_deliver {a : Response} (h : AtWork (Owes i q) t i (some n) γ s) (answer : q.AnsweredBy (Session.wire a)) :
    answering.account.discipline.wp t (Transport.deliver n (Message.response a).wireMembers)
      (fun _ γ' s' => AtWork (Settled i) t i (some n) γ' s' ∨
        AtWork (Owes i q) t i (some n) γ' s' ∧ s'.isSessionListening i = false) γ s := by
  have lasts := lasting_settled i
  refine Wp.bind (Wp.look ?_)
  rcases held : s.serverOf? n with _ | server
  · refine .inr ⟨h, ?_⟩
    obtain ⟨x, found, same⟩ := h.berth n rfl
    simp [World.isSessionListening, found, same, held]
  refine Wp.seq (wp_write h answer held) (fun _ γ₁ s₁ h₁ => ?_) fun _ _ _ h => by cases h.1
  refine Wp.mono (lasts.upkeep.wp (.bind .rest fun _ => .look _ fun broken => ?_) h₁.2) fun _ _ _ h => .inl h
  split
  · exact .bind (.update fun s => .recordRefusal server s) fun _ => .fail _
  · exact .done ()

/-- An answer is sent. -/
theorem wp_send {a : Response} (h : AtWork (Owes i q) t i (some n) γ s) (answer : q.AnsweredBy (Session.wire a)) :
    answering.account.discipline.wp t (Transport.send n (Message.response a).wireMembers) (Replied t i n q) γ s := by
  have lasts := lasting_settled i
  refine Wp.look ?_
  split
  · refine Wp.seq ((lasting_owes i q).upkeep.acquire World.Mute.lenient.piping h) (fun _ γ₁ s₁ h₁ => ?_) fun f _ _ h =>
      .inr ⟨by rw [h.2 f rfl], h.1⟩
    refine Wp.ensure (wp_deliver h₁.1 answer) ?_
    rintro r γ₂ s₂ (settled | ⟨owes, deaf⟩)
    · refine Wp.mono (lasts.upkeep.release World.Mute.lenient.piping settled) ?_
      rintro r' γ₃ s₃ ⟨rfl, settled, -⟩
      exact .inl settled
    · have step := deaf_deed owes
        (f := fun s => (Transport.writePlace n).set { (Transport.writePlace n).get s with held := false } s)
        (World.Moors.permissive.setTransport s₂ n _) deaf
      refine Wp.change _ step.1 (Wp.mono (lasts.upkeep.wakeFirst World.Mute.lenient.piping step.2) ?_)
      rintro r' γ₃ s₃ ⟨rfl, settled, -⟩
      exact .inl settled
  · next unconnected =>
    have deaf : s.isSessionListening i = false := by
      by_contra listens
      obtain ⟨x, found, same⟩ := h.berth n rfl
      obtain ⟨y, j, p, found', held, process, listening⟩ := World.listening ((Bool.not_eq_false _).mp listens)
      obtain rfl := Option.some.inj (found.symm.trans found')
      refine unconnected ?_
      simp only [Server.isListening, Bool.and_eq_true] at listening
      simp only [World.isConnected, ← same, held, World.isAlive, process, listening.1.1]
    refine Wp.change _ (deaf_deed h ?moors deaf).1 (.inl (deaf_deed h ?moors deaf).2)
    split
    · exact (World.Mute.recordRefusal _ s).toMoors
    · exact .refl s

/-- How a request leaves a reader: there is nothing more to say, or it was cancelled, or the request has no answer. -/
def Left (t i : Nat) (o : Option Nat) (r : Except Fault α) (γ : List Deed) (s : World) : Prop :=
  AtWork (Settled i) t i o γ s ∨
    ∃ q f n, AtWork (Owes i q) t i (some n) γ s ∧ r = .error f ∧ (f = .cancelled ∨ Session.answerTo q = .error f)

/-- A request is answered, unless the reader is cancelled meanwhile or the request has no answer. -/
theorem wp_handleRequest (h : AtWork (Owes i q) t i (some n) γ s) :
    answering.account.discipline.wp t (Session.handleRequest i q) (Left t i (some n)) γ s := by
  obtain ⟨x, found, rfl⟩ := h.berth n rfl
  refine Wp.bind (Wp.look ?_)
  simp only [found]
  rcases Session.answerTo_cases q with ⟨a, answer, rules⟩ | ⟨v, -, none⟩
  · refine Wp.bind ?_
    rw [answer]
    refine Wp.attempt_seq (P := Replied t i x.transport q) (wp_send h rules) ?_
    rintro r γ' s' (settled | ⟨rfl, owes⟩)
    · split <;> exact .inl settled
    · exact .inr ⟨q, .cancelled, _, owes, rfl, .inl rfl⟩
  · refine Wp.bind ?_
    rw [none]
    exact .inr ⟨q, _, _, h, rfl, .inr none⟩

/-- A message is handled. -/
theorem wp_handled {m : Message} (h : AtWork (Settled i) t i (some n) γ s) :
    answering.account.discipline.wp t (do
        .update (World.record (.heard i m))
        Session.handle i m)
      (Left t i (some n)) γ s := by
  have lasts := lasting_settled i
  have other (none : (Record.heard i m).request? = none) :
      answering.account.discipline.wp t (do
          .update (World.record (.heard i m))
          Session.handle i m)
        (Left t i (some n)) γ s :=
    Wp.mono (lasts.upkeep.wp (.bind (.update fun s => .record s none rfl) fun _ => World.Mute.handle none) h)
      fun _ _ _ h => .inl h
  cases m with
  | response | notification => exact other rfl
  | request q =>
    -- The request is owed an answer from now on.
    have records : (⟨t, World.record (.heard i (.request q)), s⟩ : Deed).records = [.heard i (.request q)] :=
      Deed.records_eq (d := ⟨t, World.record (.heard i (.request q)), s⟩) [.heard i (.request q)] rfl
    have step := h.deed (P := answering) (E := Owes i q) (f := World.record (.heard i (.request q))) (.of_eq (.refl _) rfl (Nat.le_refl _))
      (h.deeds.asked (by rw [Deed.requests, records]; rfl) (by rw [Deed.messages, records]; rfl))
    exact Wp.change _ step.1 (wp_handleRequest step.2)

/-- A message is received and handled. -/
theorem wp_handleNext (h : AtWork (Settled i) t i none γ s) :
    answering.account.discipline.wp t (Session.handleNext i) (Left t i none) γ s := by
  have lasts := lasting_settled i
  refine Wp.bind (Wp.look ?_)
  rcases found : s.sessions[i]? with _ | x
  · exact .inl h
  have reads : AtWork (Settled i) t i (some x.transport) γ s :=
    ⟨h.kind, h.deeds, fun _ e => ⟨x, found, Option.some.inj e⟩⟩
  refine Wp.seq (lasts.upkeep.wp World.Mute.receive reads) (fun m γ₁ s₁ h₁ => ?_) fun _ _ _ h => .inl h.forget
  exact Wp.mono (wp_handled h₁) fun _ _ _ h => h.imp_left AtWork.forget

/-- What is pending fails with the reader. -/
theorem Lasting.failPending {f : Fault} (lasts : Lasting i P) (h : AtWork P t i (some n) γ s) :
    answering.account.discipline.wp t (Session.failPending i f) (fun r γ' s' => r = .ok () ∧ AtWork P t i (some n) γ' s')
      γ s := by
  obtain ⟨x, found, -⟩ := h.berth n rfl
  refine Wp.bind (Wp.look ?_)
  simp only [found]
  have settled := lasts.step h (f := fun s =>
    { s with loop := x.pending.foldl (fun l p => l.settle p.2 (.error f)) s.loop })
    (.of_eq (SilentRepertoire.grows_settleAll ..) rfl (Nat.le_refl _) rfl)
  refine Wp.change _ settled.1 ?_
  have emptied := lasts.step settled.2 (f := fun s => s.setSession i fun x => { x with pending := [] })
    (.setSession _ i fun _ => rfl)
  exact Wp.update _ emptied.1 ⟨rfl, emptied.2⟩

/-- A reader that has nothing left to answer. -/
theorem leaves_of_settled {r : Except Fault Turn} (h : AtWork (Settled i) t i o γ s) : answering.Leaves i t r γ s :=
  ⟨h.kind, fun _ _ => h.deeds, fun _ _ => .inl h.deeds, fun _ _ => .inl h.deeds⟩

/-- A turn of a reader. -/
theorem wp_reader (h : AtWork (Settled i) t i none γ s) :
    answering.account.discipline.wp t (Session.readerTurn i) (answering.Leaves i t) γ s := by
  refine Wp.attempt_seq (wp_handleNext h) fun r γ₁ s₁ left => ?_
  rcases left with settled | ⟨q, f, n, owes, rfl, why⟩
  · split
    · exact leaves_of_settled settled
    · split
      · exact leaves_of_settled settled
      · refine Wp.seq ((lasting_settled i).upkeep.wp World.Mute.lenient.repertoire.failPending settled) (fun _ _ _ h => ?_)
          fun _ _ _ h => leaves_of_settled h
        split <;> exact leaves_of_settled h
  · -- Neither a cancelled reader goes on, nor one that does not know what to answer.
    have plain : f.isPassedOver = false ∧ f.isTransport = false := by
      rcases why with rfl | none
      · exact ⟨rfl, rfl⟩
      · rcases Session.answerTo_cases q with ⟨a, answer, -⟩ | ⟨v, -, fault⟩
        · cases answer.symm.trans none
        · obtain rfl := Except.error.inj (fault.symm.trans none)
          exact ⟨rfl, rfl⟩
    simp only [plain.1, plain.2, Bool.false_eq_true, if_false]
    refine Wp.seq ((lasting_owes i q).failPending owes) (fun _ γ₂ s₂ h => ?_) fun _ _ _ h => by cases h.1
    refine ⟨h.2.kind, fun _ e => (by cases e), fun _ e => (by cases e), fun f' e => ?_⟩
    cases e
    exact .inr ⟨q, f, h.2.deeds, rfl, why⟩

end Answering

/-- Every turn of a reader leaves it with all requests answered, or ended. -/
theorem answering_lawful : answering.Lawful where
  picks _ _ known _ := known
  sound _ _ _ _ := trivial
  fresh _ _ := .nil
  interrupted _ _ settled := .inl settled
  turn _ _ _ _ kind _ settled := Answering.wp_reader ⟨kind, settled, fun _ e => by cases e⟩

/-! ## Requests that are answered -/

/-- What has become of the requests that a reader was told of, and which messages it has written. -/
inductive Answered (m : Machine) (t : Nat) (requests : List Request) (messages : List Members) : Prop
  /-- Every request has its answer. -/
  | all (answered : List.Forall₂ Request.AnsweredBy requests messages)
  /-- The last one is being answered. -/
  | writing {earlier : List Request} {last : Request} (split : requests = earlier ++ [last])
    (answered : List.Forall₂ Request.AnsweredBy earlier messages) (waits : m.isSuspended t = true)
  /-- The reader was cancelled before it could write the last answer. -/
  | cancelled {earlier : List Request} {last : Request} (split : requests = earlier ++ [last])
    (answered : List.Forall₂ Request.AnsweredBy earlier messages) (ended : m.reply? t = some (.error .cancelled))
  /-- The last one has no answer, and the reader has ended with that. -/
  | stuck {earlier : List Request} {last : Request} {v : Json} (split : requests = earlier ++ [last])
    (answered : List.Forall₂ Request.AnsweredBy earlier messages) (none : last.Unanswerable v)
    (ended : m.reply? t =
      some (.error (.plain .wrongType ("\x27" ++ v.kind ++ "\x27 object is not iterable"))))

/-- A server that asks five things as soon as the handshake is over; nobody can know what the fourth one asks for. -/
def Script.curious : Script :=
  { Script.obedient with on := ("initialized", [
      .send (.obj [("id", .int 7), ("method", .str "workspace/configuration"),
        ("params", .obj [("items", .arr [.null, .null])])]),
      .send (.obj [("id", .str "a"), ("method", .str "client/registerCapability")]),
      .send (.obj [("id", .int 8), ("method", .str "workspace/applyEdit")]),
      .send (.obj [("id", .int 9), ("method", .str "workspace/configuration"), ("params", .obj [("items", .null)])]),
      .send (.obj [("id", .int 10), ("method", .str "workspace/applyEdit")])]) :: Script.obedient.on }

/-- A client that is asked to open a session with such a server. -/
def Machine.visiting : Machine :=
  ({ Machine.ofWorld (.sample [.curious]) with
    world := (Supervisor.createSession .standard .sample (.sample [.curious])).2 }.start (.call (.session 0 .open))).2

end LspHost

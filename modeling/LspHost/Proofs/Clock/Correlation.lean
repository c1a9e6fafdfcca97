import LspHost.Proofs.Clock.Timely

/-!
# Requests and their responses

Any number of tasks ask the servers of any number of sessions something at the same time, and servers answer in any order,
twice, not at all, or what nobody has asked. An `Exchange` lists the requests that were made, how they have ended and which
of them were written; `Exchange.Correlates` says that all of that is in order.

Result: every client that lives on has an exchange that is in order (`Machine.Lives.correlates`). A request that could not
be written ends with the fault of that, also while its session goes on (`unwritten_while_running`).
-/

namespace LspHost

open Clock

/-! ## How requests end -/

/-- How a request ends: with the first response under its number since it was made, when its time is up, with the reader of
its session, with its session that is closed in that moment, or with the fault of what could not be written. Only a request
that was not answered ends for lack of time, with the reader or with its session. -/
inductive Clock.Inquiry.Ends (ds : List Deed) (m : Machine) (q : Inquiry) : Except Fault Json → Prop
  | answered {d : Deed} {a : Response} (known : d ∈ ds) (settles : d.Settles q.ticket (Session.outcomeOf a))
    (first : (q.answers d.before.answers)[q.early]? = some a) (now : (q.answers d.before.answers).length = q.early + 1) :
    q.Ends ds m (Session.outcomeOf a)
  | late {d : Deed} (known : d ∈ ds) (settles : d.Settles q.ticket (.error .cancelled))
    (unheard : (q.answers d.before.answers).length = q.early) (mine : d.task = q.task) (due : q.due ≤ d.before.loop.now) :
    q.Ends ds m (.error .timeout)
  | lost {d : Deed} (known : d ∈ ds)
    (settles : d.Settles q.ticket (.error (.closed (.sessionLost (Session.nameOf q.session)))))
    (unheard : (q.answers d.before.answers).length = q.early)
    (reader : d.before.loop.kind? d.task = some (.reader q.session)) (ended : m.hasEnded d.task = true) :
    q.Ends ds m (.error (.closed (.sessionLost (Session.nameOf q.session))))
  | closed {d : Deed} {c : ClosedReason} (known : d ∈ ds) (settles : d.Settles q.ticket (.error (.closed c)))
    (unheard : (q.answers d.before.answers).length = q.early)
    (how : c = .sessionClosed (Session.nameOf q.session) ∨ c = .sessionAborted (Session.nameOf q.session))
    (shut : Shut ds d.task d.before.loop.now q.session) : q.Ends ds m (.error (.closed c))
  | unwritten {f : Fault} (fails : Unwritten f) : q.Ends ds m (.error f)

/-- The requests that were made, how they have ended, and which were written to which process; `home` tells for which
session a process was started. -/
structure Exchange where
  made : List Inquiry
  ended : List (Inquiry × Except Fault Json)
  written : List (Inquiry × Nat)
  home : Nat → Option Nat

namespace Exchange

/-- A request has not ended. -/
def Awaits (E : Exchange) (q : Inquiry) : Prop := q ∈ E.made ∧ ∀ r, (q, r) ∉ E.ended

/-- A request whose ticket is not settled waits for a response. -/
def Expects (E : Exchange) (m : Machine) (q : Inquiry) : Prop := E.Awaits q ∧ m.world.loop.outcome? q.ticket = none

/-- The requests of a run are in order. -/
structure Correlates (E : Exchange) (ds : List Deed) (m : Machine) : Prop where
  /-- Every session numbers its requests from one on. -/
  numbers : ∀ i x, m.world.sessions[i]? = some x →
    (E.made.filter fun q => q.session = i).map Inquiry.number = List.range' 1 x.lastRequest
  tickets : (E.made.map Inquiry.ticket).Nodup
  made : ∀ q ∈ E.made, ∃ d ∈ ds, d.task = q.task ∧ q.Poses q.task d.after
  /-- A request may take as long as its task says. -/
  times : ∀ q ∈ E.made, ∃ κ x, m.world.loop.kind? q.task = some κ ∧ m.world.sessions[q.session]? = some x ∧
    κ.patience x.options m.world.supervisor.config q.method = some q.time
  /-- What is written to processes are the messages of requests, no two of them with the same number to the same process. -/
  requests : m.world.requests = E.written.filterMap fun w => w.1.message?.map (Prod.mk w.2)
  written : (E.written.map Prod.fst).Nodup ∧
    ∀ w ∈ E.written, w.1 ∈ E.made ∧ w.1.message?.isSome = true ∧ E.home w.2 = some w.1.session
  ids : (m.world.requests.map fun e => (e.1, e.2.get? "id")).Nodup
  homes : ∀ i pid, m.world.pid? i = some pid → E.home pid = some i
  once : (E.ended.map Prod.fst).Nodup
  ends : ∀ q r, (q, r) ∈ E.ended → q ∈ E.made ∧ q.Ends ds m r
  /-- A request that has not ended does so in time. -/
  awaits : ∀ q, E.Awaits q → m.isSuspended q.task = true ∧ m.InTime q.due
  /-- The table of a session holds requests that have not ended, and all that wait for a response. A session that was closed
  may be waiting for its handshake. -/
  entries : ∀ i x n k, m.world.sessions[i]? = some x → (n, k) ∈ x.pending →
    ∃ q, E.Awaits q ∧ q.session = i ∧ q.number = n ∧ q.ticket = k ∧ (x.state = .closed → q.method = .str "initialize")
  gone : ∀ q r x k, (q, r) ∈ E.ended → m.world.sessions[q.session]? = some x → (q.number, k) ∉ x.pending
  listed : ∀ q x, E.Expects m q → m.world.sessions[q.session]? = some x → (q.number, q.ticket) ∈ x.pending
  /-- A response ends the request that expects it, and otherwise changes nothing. -/
  responses : ∀ i r, (∃ q, E.Expects m q ∧ q.Fits i r ∧
      m.world.answer i r = { m.world with loop := m.world.loop.settle q.ticket (Session.outcomeOf r) }) ∨
    (∀ q, E.Expects m q → ¬ q.Fits i r) ∧ m.world.answer i r = m.world
  /-- Who has asked a session something is told how that request has ended. -/
  replies : ∀ u i method params r, m.world.loop.kind? u = some (.call (.session i (.request method params))) →
    m.reply? u = some r → ∃ r', r = r'.map .value ∧
      ((∃ q, (q, r') ∈ E.ended ∧ q.task = u ∧ q.session = i ∧ q.method = method ∧ q.params = params) ∨ Unasked i r')

end Exchange

theorem Request.id_of_made {n : Nat} {method params : Json} {r : Request}
    (made : Request.ofMembers [("id", .int n), ("method", method), ("params", params)] = .ok r) : r.id = .number n := by
  have id : Schema.required [("id", .int n), ("method", method), ("params", params)] "id" RequestId.ofJson? =
      .ok (.number n) := rfl
  unfold Request.ofMembers at made
  rw [id] at made
  generalize Schema.required _ "method" _ = m at made
  generalize Schema.optional _ "params" _ = p at made
  rcases m with m | m <;> rcases p with p | p <;> cases made
  rfl

/-- A request is written with its number. -/
theorem Clock.Inquiry.id_of_message {q : Inquiry} {m : Members} (message : q.message? = some m) :
    m.get? "id" = some (.int q.number) := by
  obtain ⟨r, made, rfl⟩ := Option.map_eq_some_iff.mp message
  have id : r.id = .number q.number := by
    rcases e : Request.ofMembers [("id", .int q.number), ("method", q.method), ("params", q.params)] with f | r'
    · rw [e] at made
      cases made
    · rw [e] at made
      cases made
      exact Request.id_of_made e
  simp [Message.wireMembers, Request.toMembers, Members.get?, id, RequestId.toJson]

/-- Handling a response is what it does to the world. -/
theorem Session.handleResponse_eq (i : Nat) (r : Response) : Session.handleResponse i r = .update (World.answer i r) := rfl

namespace Clock

open Discipline

variable {u i k : Nat} {γ : Roster} {m : Machine} {ds : List Deed} {q : Inquiry} {r : Except Fault Json}

/-- What is done in the end was to be done, or a session was to be closed and is. -/
theorem does_finish {P : Intent → Prop} {t now : Nat} (h : Does ds t now P .finish) : P .finish :=
  h.resolve_right fun ⟨_, e, _⟩ => by cases e

/-- The exchange that a roster keeps. -/
def Roster.exchange (γ : Roster) : Exchange := ⟨γ.asks, γ.ended, γ.written, γ.home⟩

namespace Sound

/-- A request that has not ended is in the hand of its task. -/
theorem asking_of_awaits (h : Sound γ ds m) (awaits : γ.exchange.Awaits q) : (γ.duty q.task).asking = some q :=
  (h.inv.asked.finished q awaits.1).resolve_right fun ⟨r, ended⟩ => awaits.2 r ended

theorem awaits_of_asking (h : Sound γ ds m) (asking : (γ.duty u).asking = some q) : γ.exchange.Awaits q ∧ q.task = u := by
  obtain ⟨known, task, going⟩ := h.inv.asked.asking u q asking
  exact ⟨⟨known, going⟩, task⟩

/-- The task of a request that has not ended waits in time. -/
theorem awaits (h : Sound γ ds m) (awaits : γ.exchange.Awaits q) : m.isSuspended q.task = true ∧ m.InTime q.due := by
  have asking := h.asking_of_awaits awaits
  obtain ⟨x, hx, mine⟩ := h.suspended_of_busy fun clear => by cases clear.asking.symm.trans asking
  refine ⟨List.any_eq_true.mpr ⟨x, hx, decide_eq_true mine⟩, h.timely hx ?_⟩
  refine le_trans (h.stopped hx).waits.limit (le_trans (min_le_right ..) ?_)
  rw [mine, asking]
  exact le_refl _

/-- A request has ended because it could not be written, or whoever has settled it did so rightly. -/
theorem ended_cases (h : Sound γ ds m) (ended : (q, r) ∈ γ.ended) :
    (∃ f, r = .error f ∧ q.Fails f) ∨ q.Ends ds m r ∧ ∀ e, r ≠ .error (.misfit e) := by
  obtain ⟨known, ⟨r', outcome, rfl⟩ | failed⟩ := h.inv.asked.verdicts q r ended
  swap
  · exact .inl failed
  refine .inr ?_
  obtain ⟨d, hd, settles, rightly⟩ := h.history.settled q known r' outcome
  obtain ⟨a, first, now, rfl⟩ | ⟨unheard, ⟨rfl, mine, due⟩ | ⟨rfl, reader, finishes⟩ | ⟨how, closes⟩⟩ := rightly
  · have same : verdict (Session.outcomeOf a) = Session.outcomeOf a := by
      unfold Session.outcomeOf
      split <;> rfl
    rw [same]
    refine ⟨.answered hd settles first now, fun e => ?_⟩
    unfold Session.outcomeOf
    split <;> exact fun e => by cases e
  · exact ⟨.late hd settles unheard mine due, fun _ e => by cases e⟩
  · exact ⟨.lost hd settles unheard reader (does_finish finishes).2, fun _ e => by cases e⟩
  · have shut : Shut ds d.task d.before.loop.now q.session := by
      obtain ⟨e, -⟩ | ⟨i, e, shut⟩ := closes
      · cases e
      · cases e
        exact shut
    rcases how with rfl | rfl
    · exact ⟨.closed hd settles unheard (.inl rfl) shut, fun _ e => by cases e⟩
    · exact ⟨.closed hd settles unheard (.inr rfl) shut, fun _ e => by cases e⟩

/-- Requests that have ended were made, and end as they should. -/
theorem ends (h : Sound γ ds m) (ended : (q, r) ∈ γ.ended) : q ∈ γ.asks ∧ q.Ends ds m r := by
  refine ⟨(h.inv.asked.verdicts q r ended).1, ?_⟩
  rcases h.ended_cases ended with ⟨f, rfl, fails⟩ | ⟨ends, -⟩
  · exact .unwritten fails.unwritten
  · exact ends

/-- No two requests with the same number are written to the same process. -/
theorem ids_nodup (h : Sound γ ds m) : (m.world.requests.map fun e => (e.1, e.2.get? "id")).Nodup := by
  have asked := h.inv.asked
  have ids : m.world.requests.map (fun e => (e.1, e.2.get? "id")) =
      γ.written.map fun w => (w.2, some (Json.int w.1.number)) := by
    rw [show m.world.requests = _ from asked.requests, List.map_filterMap, ← List.filterMap_eq_map]
    refine List.filterMap_congr fun w hw => ?_
    obtain ⟨message, e⟩ := Option.isSome_iff_exists.mp (asked.written.2 w hw).2.1
    simp only [e, Option.map_some, Function.comp_apply, Inquiry.id_of_message e]
  rw [ids]
  refine List.Nodup.map_on (fun w hw w' hw' same => ?_) (List.Nodup.of_map _ asked.written.1)
  obtain ⟨known, -, home⟩ := asked.written.2 w hw
  obtain ⟨known', -, home'⟩ := asked.written.2 w' hw'
  simp only [Prod.mk.injEq, Option.some.injEq, Json.int.injEq, Nat.cast_inj] at same
  obtain ⟨pid, number⟩ := same
  have session : w.1.session = w'.1.session := by
    rw [pid] at home
    exact Option.some.inj (home.symm.trans home')
  exact Prod.ext (asked.number_inj known' known session number) pid

/-- The requests of a sound machine are in order. -/
theorem exchange (h : Sound γ ds m) : γ.exchange.Correlates ds m := by
  have asked := h.inv.asked
  have tables := h.inv.tables
  have entry {i n k : Nat} {x : Session} (found : m.world.sessions[i]? = some x) (mem : (n, k) ∈ x.pending) :
      ∃ q, γ.exchange.Awaits q ∧ q.session = i ∧ q.number = n ∧ q.ticket = k := by
    obtain ⟨u, q, asking, session, number, ticket⟩ := tables.entries i x.bare n k (World.ledger_session found) mem
    exact ⟨q, (h.awaits_of_asking asking).1, session, number, ticket⟩
  refine ⟨fun i x found => asked.numbers i x.bare (World.ledger_session found), asked.tickets,
    fun q known => ?_, fun q known => ?_, asked.requests, asked.written, h.ids_nodup, fun i pid held => ?_, asked.once, fun q r => h.ends, fun q => h.awaits, fun i x n k found mem => ?_, fun q r x k ended found mem => ?_,
    fun q x expects found => ?_, fun i r => ?_, fun u i method params r kind reply => ?_⟩
  · obtain ⟨d, hd, task, made⟩ := h.history.made q known
    exact ⟨d, hd, task, made.toPoses⟩
  · obtain ⟨κ, x, kind, found, time⟩ := asked.patience q known
    obtain ⟨y, found', rfl⟩ := Option.map_eq_some_iff.mp ((List.getElem?_map ..).symm.trans found)
    exact ⟨κ, y, kind, found', time⟩
  · obtain ⟨j, server, pid'⟩ := Option.bind_eq_some_iff.mp held
    obtain ⟨T, there, server⟩ := Option.bind_eq_some_iff.mp server
    obtain ⟨n, here, home⟩ := h.inv.servers i T j there server
    obtain rfl : n = pid := Option.some.inj (here.symm.trans pid')
    exact home
  · obtain ⟨q, awaits, session, number, ticket⟩ := entry found mem
    refine ⟨q, awaits, session, number, ticket, fun shut => ?_⟩
    obtain ⟨v, q', asking, ticket', method⟩ := tables.closed i x.bare n k (World.ledger_session found) shut mem
    have same : q' = q :=
      List.inj_on_of_nodup_map asked.tickets (asked.asking v q' asking).1 awaits.1 (ticket'.trans ticket.symm)
    rw [← same]
    exact method
  · obtain ⟨q', awaits, session, number, -⟩ := entry found mem
    have same := asked.number_inj (asked.verdicts q r ended).1 awaits.1 session number
    exact awaits.2 r (same ▸ ended)
  · exact tables.listed q.task q x.bare (h.asking_of_awaits expects.1) expects.2 (World.ledger_session found)
  · rcases answer_cases h.inv i r with ⟨u, q, asking, fits, unsettled, same⟩ | ⟨same, nobody⟩
    · exact .inl ⟨q, ⟨(h.awaits_of_asking asking).1, unsettled⟩, fits, same⟩
    · exact .inr ⟨fun q expects fits => nobody q.task q (h.asking_of_awaits expects.1) fits expects.2, same⟩
  · obtain ⟨κ, kind', told⟩ := ((h.stands u).ended r reply).told
    cases kind.symm.trans kind'
    exact told.asked i method params rfl

end Sound

end Clock

/-- What is done in a run until a ticket is settled, until nothing more happens before a point in time, or in at most so
many steps. -/
def Machine.deedsUntil (ticket deadline : Nat) : Nat → Machine → List Deed
  | 0, _ => []
  | fuel + 1, m =>
    if m.world.loop.isSettled ticket then []
    else
      match m.world.loop.nextTime? with
      | none => []
      | some time =>
        if deadline < time then []
        else
          match m.step? Client.turn with
          | none => []
          | some m' => m.deeds Client.turn ++ deedsUntil ticket deadline fuel m'

/-- What holds of a machine and of what was done in it holds later if every step keeps it. -/
theorem Machine.along_runUntil {R : List Deed → Machine → Prop}
    (step : ∀ ds m m', R ds m → m.step? Client.turn = some m' → R (ds ++ m.deeds Client.turn) m') {ds : List Deed}
    {m : Machine} (h : R ds m) (ticket deadline fuel : Nat) :
    R (ds ++ m.deedsUntil ticket deadline fuel) (m.runUntil Client.turn ticket deadline fuel) := by
  induction fuel generalizing ds m with
  | zero => rwa [Machine.deedsUntil, List.append_nil]
  | succ fuel ih =>
    simp only [Machine.runUntil, Machine.deedsUntil]
    split
    · rwa [List.append_nil]
    rcases m.world.loop.nextTime? with _ | time
    · rwa [List.append_nil]
    dsimp only
    split
    · rwa [List.append_nil]
    rcases next : m.step? Client.turn with _ | m'
    · rwa [List.append_nil]
    · dsimp only
      rw [← List.append_assoc]
      exact ih (step ds m m' h next)

/-- A life goes on. -/
theorem Machine.Lives.runUntil {ds : List Deed} {m : Machine} (run : Machine.Lives ds m) (ticket deadline fuel : Nat) :
    Machine.Lives (ds ++ m.deedsUntil ticket deadline fuel) (m.runUntil Client.turn ticket deadline fuel) :=
  Machine.along_runUntil (fun _ _ _ run step => run.step step) run ticket deadline fuel

/-- How a session is made on which nothing else is said. -/
def SessionOptions.sample : SessionOptions :=
  ⟨.standard, Session.standardHandshakeTimeout, Session.standardRequestTimeout, .null, none, .journal⟩

/-- A server that does not listen any more once it is asked for this, and lives on. -/
def Script.brittle : Script :=
  { Script.obedient with on := ("x", [.breakInput "[Errno 32] Broken pipe"]) :: Script.obedient.on }

/-- A client that has made a session with such a server, opened it and asked it for this. -/
def Machine.brittle : Machine :=
  let m := { Machine.ofWorld (.sample [.brittle]) with
    world := (Supervisor.createSession .standard .sample (.sample [.brittle])).2 }
  let m := (m.start (.call (.session 0 .open))).2.runUntil Client.turn 1000 1000000000 100
  (m.start (.call (.session 0 (.request (.str "x") (.obj []))))).2.runUntil Client.turn 1000 1000000000 100

theorem lives_brittle : ∃ ds, Machine.Lives ds Machine.brittle := by
  have made := (Machine.Lives.fresh [] ⟨"/", []⟩ [.brittle] .sample .standard none false (.fresh .standard 80) (.empty 0)).session
    .standard .sample
  have opened := (made.call (c := .session 0 .open) trivial).runUntil 1000 1000000000 100
  exact ⟨_, (opened.call (c := .session 0 (.request (.str "x") (.obj []))) trivial).runUntil 1000 1000000000 100⟩

end LspHost

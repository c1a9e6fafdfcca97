import LspHost.Proofs.Readers
import LspHost.Proofs.Sample

/-!
# What becomes of queries about documents

A query asks one thing, of the session that the supervisor holds when it is called, if that session can be asked, and nothing
else (`SupervisorCall.deeds_ne_nil_iff`). What it yields is what its request has come to: an object that the server has
answered, or nothing if there is none.

Result: every query of every life that has ended is answered in this way (`Machine.Lives.queries_answered`). It fails in one way
only, if its turn to write comes when its process has been given up (`query_fails_bereft`).
-/

namespace LspHost

open Clock

/-! ## What queries do first -/

namespace Program

variable {α β : Type} {t : Nat} {s : World} {p : Act α} {f : α → Act β}

/-- What follows does nothing more. -/
theorem deeds_bind_of_quiet (quiet : ∀ a s, (f a).deeds t s = []) : (p >>= f).deeds t s = p.deeds t s := by
  show (p.bind f).deeds t s = p.deeds t s
  induction p generalizing s with
  | done a => exact quiet a s
  | fail | pause => rfl
  | look k ih => exact ih s
  | change g k ih => exact congrArg _ ih
  | wait ticket k ih =>
    simp only [bind, deeds]
    split
    · exact ih _
    · rfl

/-- What is attempted is done. -/
theorem deeds_attempt : (attempt p).deeds t s = p.deeds t s := by
  induction p generalizing s with
  | done | fail | pause => rfl
  | look k ih => exact ih s
  | change g k ih => exact congrArg _ ih
  | wait ticket k ih =>
    simp only [attempt, deeds]
    split
    · exact ih _
    · rfl

theorem deeds_ofExcept (r : Except Fault α) : (ofExcept r : Act α).deeds t s = [] := by
  cases r <;> rfl

end Program

variable {u i : Nat} {s : World} {c : SupervisorCall} {uri : String} {method params : Json} {α : Type}

/-- A session is asked something if it is running. -/
theorem Session.deeds_request :
    (Session.request i method params).deeds u s ≠ [] ↔ ∃ x, s.sessions[i]? = some x ∧ x.state = .running := by
  unfold Session.request Session.get
  rcases found : s.sessions[i]? with _ | x
  · simp [bind, Program.bind, Program.peek, Program.deeds, found, Act.fail]
  · simp only [bind, Program.bind, Program.peek, Program.deeds, found, pure, Option.some.injEq, exists_eq_left']
    split
    · next running =>
      simp only [running, iff_true]
      exact List.cons_ne_nil _ _
    · next other => simp [other, Act.fail, Program.deeds]

/-- A query does something if there is a session to which it may go that is asked something then. -/
theorem Supervisor.deeds_routable {g : Option Nat → Act α} (about : c.subject? = some uri)
    (nobody : (g none).deeds u s = [])
    (somebody : ∀ i, (g (some i)).deeds u s ≠ [] ↔ ∃ x, s.sessions[i]? = some x ∧ x.state = .running) :
    (Supervisor.routable uri >>= g).deeds u s ≠ [] ↔ ∃ i, s.Routes c i := by
  -- Whoever may be asked is the present session, and the document is one that it is told of.
  have tracks {i : Nat} (routes : s.Routes c i) :
      ∃ d, s.supervisor.document? uri = some d ∧ s.supervisor.handles uri d.languageId = .ok true := by
    obtain ⟨uri', d, about', tracked, served⟩ := routes.tracked
    cases about.symm.trans about'
    exact ⟨d, tracked, served⟩
  have idle (silent : (Supervisor.routable uri >>= g).deeds u s = []) (off : ∀ i, ¬ s.Routes c i) :
      (Supervisor.routable uri >>= g).deeds u s ≠ [] ↔ ∃ i, s.Routes c i :=
    iff_of_false (not_not_intro silent) (not_exists.mpr off)
  unfold Supervisor.routable Supervisor.now Supervisor.belongs Supervisor.now at idle ⊢
  rcases tracked : s.supervisor.document? uri with _ | d
  · refine idle ?_ fun i routes => ?_
    · simp only [bind, Program.bind, Program.peek, Program.deeds, tracked, pure, nobody]
    · obtain ⟨d, tracked', -⟩ := tracks routes
      cases tracked.symm.trans tracked'
  rcases served : s.supervisor.handles uri d.languageId with f | _ | _
  · refine idle ?_ fun i routes => ?_
    · simp only [bind, Program.bind, Program.peek, Program.deeds, tracked, served, Program.ofExcept]
    · obtain ⟨d', tracked', served'⟩ := tracks routes
      cases tracked.symm.trans tracked'
      cases served.symm.trans served'
  · refine idle ?_ fun i routes => ?_
    · simp [bind, Program.bind, Program.peek, Program.deeds, tracked, served, Program.ofExcept, pure, nobody]
    · obtain ⟨d', tracked', served'⟩ := tracks routes
      cases tracked.symm.trans tracked'
      cases served.symm.trans served'
  rcases session : s.supervisor.session with _ | i
  · refine idle ?_ fun i routes => ?_
    · simp [bind, Program.bind, Program.peek, Program.deeds, tracked, served, session, Program.ofExcept, pure, nobody]
    · cases session.symm.trans routes.session
  rcases alive : s.isSessionAlive i with _ | _
  · refine idle ?_ fun j routes => ?_
    · simp [bind, Program.bind, Program.peek, Program.deeds, tracked, served, session, alive, Program.ofExcept, pure, nobody]
    · cases session.symm.trans routes.session
      cases alive.symm.trans routes.alive
  · simp only [bind, Program.bind, Program.peek, Program.deeds, tracked, served, session, alive, Program.ofExcept, pure, if_true]
    refine (somebody i).trans ⟨fun running => ⟨i, session, alive, running, uri, d, about, tracked, served⟩, ?_⟩
    rintro ⟨j, routes⟩
    cases session.symm.trans routes.session
    exact routes.running

/-- What a query makes of an answer it does without doing anything more. -/
theorem Supervisor.deeds_query {read : Json → Except Fault (Option α)} :
    (Supervisor.query (Session.request i method params >>= fun answer => .ofExcept (read answer))).deeds u s ≠ [] ↔
      ∃ x, s.sessions[i]? = some x ∧ x.state = .running := by
  have asks : (Supervisor.query (Session.request i method params >>= fun answer => .ofExcept (read answer))).deeds u s =
      (Session.request i method params).deeds u s := by
    refine (Program.deeds_bind_of_quiet fun r s => ?_).trans (Program.deeds_attempt.trans
      (Program.deeds_bind_of_quiet fun _ _ => Program.deeds_ofExcept _))
    split
    · rfl
    · rfl
    · split <;> rfl
  rw [asks]
  exact Session.deeds_request

/-- A query about a document does something exactly if there is a session to which it may go. -/
theorem SupervisorCall.deeds_ne_nil_iff (about : c.subject?.isSome = true) :
    (Client.turn (.call (.supervisor c))).deeds u s ≠ [] ↔ ∃ i, s.Routes c i := by
  have called {β : Type} (p : Act β) (reply : β → Reply) :
      ((p >>= fun a => pure (reply a)) >>= fun x => pure (Turn.finished x)).deeds u s = p.deeds u s :=
    (Program.deeds_bind_of_quiet fun _ _ => rfl).trans (Program.deeds_bind_of_quiet fun _ _ => rfl)
  cases c with
  | hover uri line character =>
    rw [show (Client.turn (.call (.supervisor (.hover uri line character)))).deeds u s = _ from called _ Reply.hover]
    exact Supervisor.deeds_routable rfl rfl fun i => Supervisor.deeds_query
  | tokens uri range =>
    rw [show (Client.turn (.call (.supervisor (.tokens uri range)))).deeds u s = _ from called _ Reply.tokens]
    refine Supervisor.deeds_routable rfl rfl fun i => ?_
    cases range with
    | none | some => exact Supervisor.deeds_query
  | _ => cases about

/-! ## What queries yield -/

/-- What a query asks can be written. -/
theorem Clock.Inquiry.message_of_asks {q : Inquiry} (asks : q.Asks c) :
    q.message? = some [("id", .int q.number), ("method", q.method), ("params", q.params)] := by
  obtain ⟨session, number, ticket, task, method, params, issued, time, early⟩ := q
  cases c with
  | hover =>
    cases asks
    rfl
  | tokens uri range =>
    cases range <;>
      · cases asks
        rfl
  | _ => cases asks

/-- What a query does not forgive is neither for lack of time nor the server's fault. -/
theorem Supervisor.forgiven_error {r : Except Fault (Option α)} {f : Fault} (failed : Supervisor.forgiven r = .error f) :
    r = .error f ∧ f ≠ .timeout ∧ Supervisor.isServerFault f = false := by
  rcases r with g | a
  · simp only [forgiven] at failed
    split at failed
    · cases failed
    · next other =>
      cases failed
      obtain ⟨timely, blameless⟩ := not_or.mp other
      exact ⟨rfl, timely, Bool.eq_false_iff.mpr blameless⟩
  · cases failed

/-- An answer that cannot be read is the server's fault. -/
theorem Session.isServerFault_of_optionalAnswer {what model : String} {read : Members → Except Misfit α} {v : Json} {f : Fault}
    (failed : Session.optionalAnswer what model read v = .error f) : Supervisor.isServerFault f = true := by
  unfold Session.optionalAnswer at failed
  split at failed
  · split at failed <;> cases failed
    rfl
  · cases failed

/-- A request fails for lack of time, by the server's fault, because it is no message, or for want of a pipe. -/
theorem Clock.Inquiry.Ends.fault {q : Inquiry} {ds : List Deed} {m : Machine} {r : Except Fault Json} {f : Fault}
    (ends : q.Ends ds m r) (failed : r = .error f) :
    f = .timeout ∨ Supervisor.isServerFault f = true ∨ (∃ e, f = .misfit e) ∨ f = Transport.missing "stdin" := by
  cases ends with
  | @answered _ a =>
    unfold Session.outcomeOf at failed
    split at failed <;> cases failed
    exact .inr (.inl rfl)
  | late => cases failed; exact .inl rfl
  | lost | closed => cases failed; exact .inr (.inl rfl)
  | unwritten fails =>
    cases failed
    rcases fails with misfit | rfl | ⟨_, rfl⟩ | missing
    · exact .inr (.inr (.inl misfit))
    · exact .inr (.inl rfl)
    · exact .inr (.inl rfl)
    · exact .inr (.inr (.inr missing))

/-- A query fails only as its request has, if that is neither for lack of time nor the server's fault. -/
theorem SupervisorCall.yields_error {r : Except Fault Json} {f : Fault} (failed : c.yields r = .error f) :
    r = .error f ∧ f ≠ .timeout ∧ Supervisor.isServerFault f = false := by
  have read {β : Type} {what model : String} {parse : Members → Except Misfit β} {reply : Option β → Reply}
      (failed : (Supervisor.forgiven (r.bind (Session.optionalAnswer what model parse))).map reply = .error f) :
      r = .error f ∧ f ≠ .timeout ∧ Supervisor.isServerFault f = false := by
    rcases e : Supervisor.forgiven (r.bind (Session.optionalAnswer what model parse)) with g | a
    · rw [e] at failed
      cases failed
      obtain ⟨unread, timely, blameless⟩ := Supervisor.forgiven_error e
      rcases r with g | v
      · cases unread
        exact ⟨rfl, timely, blameless⟩
      · cases blameless.symm.trans (Session.isServerFault_of_optionalAnswer unread)
    · rw [e] at failed
      cases failed
  cases c with
  | hover | tokens => exact read failed
  | _ => cases failed

/-- What has become of a query about a document: it was not asked and yields nothing, or it was asked of the one session to which
it may go, and yields what its request has come to. It fails in one way only. -/
inductive Exchange.Answers (E : Exchange) (ds : List Deed) (u : Nat) (c : SupervisorCall) : Except Fault Reply → Prop
  | unasked (silent : ∀ q ∈ E.made, q.task ≠ u) : E.Answers ds u c (.ok c.nothing)
  | asked {q : Inquiry} {r : Except Fault Json} (ended : (q, r) ∈ E.ended) (asks : q.Asks c)
    (sole : ∀ q' ∈ E.made, q'.task = u ↔ q' = q)
    (routed : ∃ d ∈ ds, d.task = u ∧ q.Poses u d.after ∧ d.after.Routes c q.session)
    (fails : ∀ f, c.yields r = .error f → f = Transport.missing "stdin") : E.Answers ds u c (c.yields r)

/-- A query of a sound machine that has ended. -/
theorem Clock.Sound.answers {γ : Roster} {ds : List Deed} {m : Machine} {r : Except Fault Reply} (run : Machine.Lives ds m) (h : Sound γ ds m)
    (kind : m.world.loop.kind? u = some (.call (.supervisor c))) (about : c.subject?.isSome = true)
    (reply : m.reply? u = some r) : γ.exchange.Answers ds u c r := by
  obtain ⟨κ, kind', told⟩ := ((h.stands u).ended r reply).told
  cases kind.symm.trans kind'
  cases told.queried c rfl about with
  | unasked silent => exact .unasked silent
  | @asked i method params r query got =>
    obtain ⟨q, ended, rfl, rfl, rfl, rfl⟩ := got
    have known := (h.ends ended).1
    obtain ⟨asks, sole⟩ := h.inv.asked.queries q known c kind about
    obtain ⟨d, hd, mine, made⟩ := h.history.made q known
    obtain ⟨κ, kind', routed⟩ := made.routed
    cases ((run.remembers hd).2.kinds _ κ kind').symm.trans kind
    refine .asked ended asks (fun q' known' => ⟨sole q' known', fun e => e ▸ rfl⟩)
      ⟨d, hd, mine, made.toPoses, routed c rfl about⟩ fun f failed => ?_
    obtain ⟨rfl, timely, blameless⟩ := SupervisorCall.yields_error failed
    rcases (h.ends ended).2.fault rfl with late | blamed | ⟨e, rfl⟩ | missing
    · exact absurd late timely
    · cases blameless.symm.trans blamed
    · rcases h.ended_cases ended with ⟨f, same, ⟨unwritten, -⟩ | cut⟩ | ⟨-, fits⟩
      · cases unwritten.symm.trans (Inquiry.message_of_asks asks)
      · cases same
        rcases cut with e | ⟨_, e⟩ | e <;> cases e
      · exact absurd rfl (fits e)
    · exact missing

/-- What was said about a place. -/
def Reply.hover? : Reply → Option (Option Hover)
  | .hover h => some h
  | _ => none

/-- A client that runs for a second, or until nothing more happens. -/
def Machine.second (m : Machine) : Machine := m.runUntil Client.turn 1000 1000000000 100

/-- A client that has opened a document and started such a server. -/
def Machine.opened (script : Script) : Machine :=
  let m := Machine.ofWorld (.sample [script])
  let m := (m.start (.call (.supervisor (.openDocument "file:///a.txt" "plaintext" (.str ""))))).2.second
  (m.start (.call (.supervisor (.operate .start)))).2.second

/-- A question about the first place of a document. -/
def SupervisorCall.hoverAt (uri : String) : SupervisorCall := .hover uri (.int 0) (.int 0)

theorem lives_opened (script : Script) : ∃ ds, Machine.Lives ds (.opened script) := by
  have opened := ((Machine.Lives.fresh [] ⟨"/", []⟩ [script] .sample .standard none false (.fresh .standard 80) (.empty 0)).call
    (c := .supervisor (.openDocument "file:///a.txt" "plaintext" (.str ""))) trivial).runUntil 1000 1000000000 100
  exact ⟨_, (opened.call (c := .supervisor (.operate .start)) trivial).runUntil 1000 1000000000 100⟩

/-- A server that has something to say about every place. -/
def Script.chatty : Script :=
  { Script.obedient with on := ("textDocument/hover", [.respond [("result", .obj [("contents", .str "h")])]]) :: Script.obedient.on }

/-- A client that has asked such a server about a document that is open, and about one that is not. -/
def Machine.chatting : Machine :=
  let m := ((Machine.opened .chatty).start (.call (.supervisor (.hoverAt "file:///a.txt")))).2.second
  (m.start (.call (.supervisor (.hoverAt "file:///b.txt")))).2.second

/-- A client whose server exits, and is stopped, while one message waits for another to be written. -/
def Machine.bereft : Machine :=
  let m := ((Machine.opened .obedient).start (.call (.supervisor (.changeDocument "file:///a.txt" (.str "x"))))).2
  let m := (m.start (.call (.supervisor (.hoverAt "file:///a.txt")))).2
  let m := (m.start (.call (.supervisor (.hoverAt "file:///a.txt")))).2
  let m := (m.start (.call (.act 0 [.exit 0]))).2
  (m.start (.call (.supervisor (.operate .stop)))).2.second

/-- A query fails whose turn to write comes when the process has been given up. -/
theorem query_fails_bereft : (∃ ds, Machine.Lives ds .bereft) ∧
    Machine.bereft.world.loop.kind? 6 = some (.call (.supervisor (.hoverAt "file:///a.txt"))) ∧
    (Machine.bereft.reply? 6).map (Except.map fun _ => ()) = some (.error (Transport.missing "stdin")) := by
  obtain ⟨ds, run⟩ := lives_opened .obedient
  have changed := run.call (c := .supervisor (.changeDocument "file:///a.txt" (.str "x"))) trivial
  have asked := (changed.call (c := .supervisor (.hoverAt "file:///a.txt")) trivial).call
    (c := .supervisor (.hoverAt "file:///a.txt")) trivial
  have exits := asked.call (c := .act 0 [.exit 0]) trivial
  exact ⟨⟨_, (exits.call (c := .supervisor (.operate .stop)) trivial).runUntil 1000 1000000000 100⟩, by decide +kernel,
    by decide +kernel⟩

end LspHost

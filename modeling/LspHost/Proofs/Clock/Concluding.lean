import LspHost.Proofs.Clock.Awaiting

/-!
# How requests end

Whatever has come of a request, its entry is taken from the table in the end, and the roster notes how it has ended
(`Fit.conclude`). A request on a session without a living process fails at once (`wp_ask_dead`), and any other one takes
no longer than its time (`wp_ask`).
-/

namespace LspHost

/-- A message that is lost because there is no living process. -/
def World.refuse (transport : Nat) (s : World) : World :=
  match s.serverOf? transport with
  | some server => s.recordRefusal server
  | none => s

theorem World.refuse_cases (s : World) (i : Nat) : s.refuse i = s ∨ ∃ pid, s.refuse i = s.record (.refused pid) := by
  unfold refuse recordRefusal
  split
  · split
    · exact .inr ⟨_, rfl⟩
    · exact .inl rfl
  · exact .inl rfl

theorem World.loop_refuse (s : World) (i : Nat) : (s.refuse i).loop = s.loop := by
  rcases s.refuse_cases i with same | ⟨pid, same⟩ <;> rw [same]
  rfl

theorem World.refuse_setSession {f : Session → Session} (i j : Nat) (s : World) :
    (s.refuse j).setSession i f = (s.setSession i f).refuse j := by
  unfold refuse recordRefusal
  rw [show (s.setSession i f).serverOf? j = s.serverOf? j from rfl]
  split
  · rw [show (s.setSession i f).servers = s.servers from rfl]
    split <;> rfl
  · rfl

/-- A session without the request of a number. -/
def Session.forget (n : Nat) (x : Session) : Session := { x with pending := x.pending.filter fun p => p.1 ≠ n }

namespace Clock

open Discipline

variable {t u i k : Nat} {o : Option Nat} {κ : TaskKind} {γ γ' : Roster} {s s' : World} {L : Ledger} {l : Loop} {d : Duty}
  {q : Inquiry} {x : Session} {a b c : Roster × World} {r : Except Fault Json} {α β : Type}

/-- A request of a task has ended, and the task has something else in hand. -/
def Roster.conclude (γ : Roster) (t : Nat) (q : Inquiry) (r : Except Fault Json) (d : Duty) : Roster :=
  { γ.charge t d with ended := γ.ended ++ [(q, r)] }

theorem Roster.conclude_asking (none : d.asking = none) {q' : Inquiry}
    (h : ((γ.conclude t q r d).duty u).asking = some q') : u ≠ t ∧ (γ.duty u).asking = some q' := by
  by_cases e : u = t
  · subst e
    rw [show (γ.conclude u q r d).duty u = d from γ.charge_self u d, none] at h
    cases h
  · exact ⟨e, by rwa [show (γ.conclude t q r d).duty u = γ.duty u from γ.charge_ne d e] at h⟩

/-- A request ends as it should. -/
def EndsWell (q : Inquiry) (r : Except Fault Json) (l : Loop) : Prop :=
  (∃ r', l.outcome? q.ticket = some r' ∧ r = verdict r') ∨ ∃ f, r = .error f ∧ q.Fails f

theorem Asked.conclude (h : Asked γ L l) (asking : (γ.duty t).asking = some q) (none : d.asking = none)
    (well : EndsWell q r l) : Asked (γ.conclude t q r d) (L.setSession q.session (Session.forget q.number)) l := by
  obtain ⟨known, task, going⟩ := h.asking t q asking
  have base := h.setSession (i := q.session) (f := Session.forget q.number) (fun _ => rfl) fun _ => rfl
  exact
    { base with
      asking := fun u q' e => by
        obtain ⟨ne, old⟩ := Roster.conclude_asking none e
        obtain ⟨known', task', going'⟩ := h.asking u q' old
        refine ⟨known', task', fun r' he => ?_⟩
        rcases List.mem_append.mp he with he | he
        · exact going' r' he
        · cases List.mem_singleton.mp he
          exact ne (task'.symm.trans task)
      finished := fun q' hq' => by
        rcases h.finished q' hq' with e | ⟨r', he⟩
        · by_cases same : q'.task = t
          · rw [same, asking] at e
            cases e
            exact .inr ⟨r, List.mem_append_right _ (List.mem_singleton_self _)⟩
          · refine .inl ?_
            rw [show (γ.conclude t q r d).duty q'.task = γ.duty q'.task from γ.charge_ne d same]
            exact e
        · exact .inr ⟨r', List.mem_append_left _ he⟩
      once := by
        show ((γ.ended ++ [(q, r)]).map Prod.fst).Nodup
        rw [List.map_append, List.nodup_append]
        refine ⟨h.once, List.nodup_singleton _, ?_⟩
        rintro q' hq' q'' hq'' rfl
        obtain ⟨e, he, same⟩ := List.mem_map.mp hq'
        refine going e.2 ?_
        rwa [show (q, e.2) = e from Prod.ext ((List.mem_singleton.mp hq'').symm.trans same.symm) rfl]
      verdicts := fun q' r' he => by
        rcases List.mem_append.mp he with he | he
        · exact h.verdicts q' r' he
        · cases List.mem_singleton.mp he
          exact ⟨known, well⟩
      unheard := fun u q' e => h.unheard u q' (Roster.conclude_asking none e).2
      unsent := fun u q' e e' => by
        obtain ⟨ne, old⟩ := Roster.conclude_asking none e
        rw [show (γ.conclude t q r d).duty u = γ.duty u from γ.charge_ne d ne] at e'
        exact h.unsent u q' old e' }

/-- Requests on one session have different numbers. -/
theorem Asked.number_inj (h : Asked γ L l) {q' : Inquiry} (known : q ∈ γ.asks) (known' : q' ∈ γ.asks)
    (session : q'.session = q.session) (number : q'.number = q.number) : q' = q := by
  have found := List.getElem?_eq_getElem (h.sessions q known)
  have numbers := h.numbers _ _ found
  have nodup : ((γ.asks.filter fun q' => q'.session = q.session).map Inquiry.number).Nodup := by
    rw [numbers]
    exact List.nodup_range'
  exact List.inj_on_of_nodup_map nodup (List.mem_filter.mpr ⟨known', by simpa using session⟩)
    (List.mem_filter.mpr ⟨known, by simp⟩) number

theorem Tables.conclude (h : Tables γ L l) (asked : Asked γ L l) (asking : (γ.duty t).asking = some q)
    (none : d.asking = none) (opening : d.opening = (γ.duty t).opening) :
    Tables (γ.conclude t q r d) (L.setSession q.session (Session.forget q.number)) l := by
  obtain ⟨known, task, going⟩ := asked.asking t q asking
  have openings (u : Nat) : ((γ.conclude t q r d).duty u).opening = (γ.duty u).opening := by
    by_cases e : u = t
    · subst e
      rw [show (γ.conclude u q r d).duty u = d from γ.charge_self u d, opening]
    · rw [show (γ.conclude t q r d).duty u = γ.duty u from γ.charge_ne d e]
  -- What is left of a table are the requests of others.
  have left {j n k : Nat} {y : Session} (found : (L.setSession q.session (Session.forget q.number)).sessions[j]? = some y)
      (mem : (n, k) ∈ y.pending) : ∃ y', L.sessions[j]? = some y' ∧ y'.state = y.state ∧ (n, k) ∈ y'.pending ∧
        (j = q.session → n ≠ q.number) := by
    rcases Ledger.getElem?_setSession found with ⟨ne, old⟩ | ⟨y', rfl, old, rfl⟩
    · exact ⟨y, old, rfl, mem, fun e => absurd e ne⟩
    · obtain ⟨mem, ne⟩ := List.mem_filter.mp mem
      exact ⟨y', old, rfl, mem, fun _ => by simpa using ne⟩
  have others {u : Nat} {q' : Inquiry} (e : (γ.duty u).asking = some q') (ne : u ≠ t) :
      ((γ.conclude t q r d).duty u).asking = some q' := by
    rw [show (γ.conclude t q r d).duty u = γ.duty u from γ.charge_ne d ne]
    exact e
  exact
    { paired := by
        refine ⟨by rw [Ledger.length_setSession]; exact h.paired.1, fun j y found => ?_⟩
        rcases Ledger.getElem?_setSession found with ⟨-, old⟩ | ⟨y, rfl, old, rfl⟩
        · exact h.paired.2 j y old
        · exact h.paired.2 _ y old
      entries := fun j y n k found mem => by
        obtain ⟨y', old, -, mem, ne⟩ := left found mem
        obtain ⟨u, q', asking', session, number, ticket⟩ := h.entries j y' n k old mem
        refine ⟨u, q', others asking' ?_, session, number, ticket⟩
        rintro rfl
        cases asking.symm.trans asking'
        exact ne session.symm number.symm
      listed := fun u q' y e unsettled found => by
        obtain ⟨ne, old⟩ := Roster.conclude_asking none e
        obtain ⟨known', task', -⟩ := asked.asking u q' old
        rcases Ledger.getElem?_setSession found with ⟨-, there⟩ | ⟨y, here, there, rfl⟩
        · exact h.listed u q' y old unsettled there
        · refine List.mem_filter.mpr ⟨h.listed u q' y old unsettled (here ▸ there), ?_⟩
          refine decide_eq_true fun number => ne ?_
          rw [← task', asked.number_inj known known' here number, task]
      closed := fun j y n k found shut mem => by
        obtain ⟨y', old, state, mem, ne⟩ := left found mem
        obtain ⟨u, q', asking', ticket, method⟩ := h.closed j y' n k old (state.trans shut) mem
        refine ⟨u, q', others asking' ?_, ticket, method⟩
        rintro rfl
        cases asking.symm.trans asking'
        obtain ⟨v, q'', asking'', session, number, ticket'⟩ := h.entries j y' n k old mem
        have same : q'' = q := by
          refine List.inj_on_of_nodup_map asked.tickets (asked.asking v q'' asking'').1 known ?_
          rw [ticket', ticket]
        subst same
        exact ne session.symm number.symm
      bare := h.bare
      fresh := fun j y found new => by
        have old : ¬ γ.used j ∧ ∀ u, (γ.duty u).opening ≠ some j := by
          rcases Ledger.getElem?_setSession found with ⟨-, old⟩ | ⟨y, rfl, old, rfl⟩
          · exact h.fresh j y old new
          · exact h.fresh _ y old new
        exact ⟨old.1, fun u => by rw [openings]; exact old.2 u⟩
      openers := fun u j e => by
        obtain ⟨unused, bound, sole⟩ := h.openers u j ((openings u).symm.trans e)
        exact ⟨unused, by rw [Ledger.length_setSession]; exact bound, fun v e' => sole v ((openings v).symm.trans e')⟩
      bound := fun j e => by rw [Ledger.length_setSession]; exact h.bound j e
      held := h.held }

theorem Roster.alike_conclude (queued : d.queued = (γ.duty t).queued) (holds : d.holds = (γ.duty t).holds) :
    γ.Alike (γ.conclude t q r d) := by
  refine ⟨rfl, rfl, rfl, fun u => ?_, fun u => ?_⟩ <;>
    by_cases same : u = t
  · subst same
    rw [show (γ.conclude u q r d).duty u = d from γ.charge_self u d, queued]
  · rw [show (γ.conclude t q r d).duty u = γ.duty u from γ.charge_ne d same]
  · subst same
    rw [show (γ.conclude u q r d).duty u = d from γ.charge_self u d, holds]
  · rw [show (γ.conclude t q r d).duty u = γ.duty u from γ.charge_ne d same]

/-- What a task has in hand is the same again once its request has ended. -/
structure Duty.Rests (d d' : Duty) : Prop where
  asking : d'.asking = none
  holds : d'.holds = d.holds
  queued : d'.queued = d.queued
  quota : d'.quota = d.quota
  opening : d'.opening = d.opening
  closing : d'.closing = d.closing

theorem acts_conclude (rests : (γ.duty t).Rests d) :
    Acts t (World.setSession q.session (Session.forget q.number)) (γ, s) (γ.conclude t q r d) := by
  refine acts_setSession (fun _ => rfl) { Roster.Moves.charge (t := t) (γ := γ) (d := d) (.of_eq rests.closing) with
    ended := fun e he => List.mem_append_left _ he } ?_
  rw [show (γ.conclude t q r d).duty t = d from γ.charge_self t d]
  exact rests.quota

/-- A request ends, and its entry is taken from the table. -/
theorem Fit.conclude (h : Fit t κ γ s) (asking : (γ.duty t).asking = some q) (rests : (γ.duty t).Rests d)
    (well : EndsWell q r s.loop) :
    Fit t κ (γ.conclude t q r d) (s.setSession q.session (Session.forget q.number)) where
  inv := by
    refine h.inv.setSession (Roster.alike_conclude rests.queued rests.holds) (fun _ => rfl)
      (fun y e found reader => h.inv.tasks.readers _ y e found reader) (h.inv.asked.conclude asking rests.asking well)
      (h.inv.tables.conclude h.inv.asked asking rests.asking rests.opening) fun j y found unused => ?_
    rcases Ledger.getElem?_setSession found with ⟨-, old⟩ | ⟨y, rfl, old, rfl⟩
    · exact h.inv.idle j y old unused
    · rw [Session.forget, h.inv.idle _ y old unused, List.filter_nil]
  kind := h.kind
  alarm := h.alarm
  limit := by
    have limit := h.limit
    rw [show (γ.conclude t q r d).duty t = d from γ.charge_self t d]
    simp only [Duty.limit, rests.asking, rests.quota, Option.map_none, Option.getD_none, le_min_iff, le_top, and_true] at limit ⊢
    exact limit.1

/-! ## To ask -/

/-- What a task may do depends on what becomes of the world only. -/
theorem Acts.congr {f g : World → World} (h : Acts t f a γ') (same : g a.2 = f a.2) : Acts t g a γ' where
  drives := by rw [same]; exact h.drives
  onward := by rw [same]; exact h.onward
  endings := by rw [same]; exact h.endings
  spares u ne := by rw [same]; exact h.spares u ne
  alarms := h.alarms
  closing := by rw [same]; exact h.closing
  made := by rw [same]; exact h.made
  rightly := by rw [same]; exact h.rightly
  bill := by rw [same]; exact h.bill

/-- A task gets a ticket of its own. -/
theorem acts_issue (fresh : γ.owner s.loop.tickets.length = none) (use : Use) :
    Acts t (fun s => { s with loop := s.loop.issue.2 }) (γ, s) (γ.own s.loop.tickets.length t use) := by
  refine acts (.own fresh) (s.loop.does_issue (P := fun _ => False)) (fun _ e => e.elim)
    (fun k _ _ _ e => by rwa [Loop.outcome?_issue] at e) (fun q _ unsettled r e => ?_) (.of_ledger rfl) (fun _ _ e => e)
    (bill_same rfl rfl)
  rw [Loop.outcome?_issue] at e
  cases unsettled.symm.trans e

/-- The request that a task makes next on a session. -/
def inquiry (t i : Nat) (x : Session) (method params : Json) (time : Seconds) (s : World) : Inquiry where
  session := i
  number := x.lastRequest + 1
  ticket := s.loop.tickets.length
  task := t
  method := method
  params := params
  issued := s.loop.now
  time := time
  early := ((s.answers.filter fun a => a.1 = i ∧ a.2.id = some (.number (x.lastRequest + 1 : Nat))).map Prod.snd).length

variable {method params : Json} {time : Seconds}

/-- A task may ask a session something: if it is called for a query about a document, it asks that where it may, and nothing
else before. -/
def MayAsk (t : Nat) (κ : TaskKind) (i : Nat) (method params : Json) (γ : Roster) (s : World) : Prop :=
  ∀ c, κ = .call (.supervisor c) → c.subject?.isSome = true →
    c.query? = some (method, params) ∧ s.Routes c i ∧ ∀ q ∈ γ.asks, q.task ≠ t

/-- Who may take another time for a request than for a query is not called for a query. -/
theorem mayAsk_of_patience {cfg : Config} {f : SessionOptions → Seconds} (patient : ∀ o, κ.patience o cfg method = some (f o))
    (other : ∃ o, f o ≠ o.requestTimeout) : MayAsk t κ i method params γ s := by
  rintro c rfl about
  obtain ⟨o, ne⟩ := other
  exact absurd (Option.some.inj ((patient o).symm.trans (c.patience_of_subject about o cfg method))) ne

theorem Fit.posable (h : Fit t κ γ s) (found : s.sessions[i]? = some x) (asking : (γ.duty t).asking = none)
    (patience : κ.patience x.options s.supervisor.config method = some time)
    (handshake : x.state = .closed → method = .str "initialize") (may : MayAsk t κ i method params γ s) :
    Posable t κ (inquiry t i x method params time s) (γ.own s.loop.tickets.length t .request) x.bare
      { s with loop := s.loop.issue.2 } where
  found := World.ledger_session found
  task := rfl
  mine := γ.own_self ..
  new q' known same := by
    have issued := h.inv.tickets.issued _ _ (h.inv.asked.owned q' known)
    rw [same] at issued
    exact Nat.lt_irrefl _ issued
  number := rfl
  issued := rfl
  early := rfl
  idle := asking
  patience := patience
  method := handshake
  query c e about := ⟨(may c e about).1, (may c e about).2.2⟩

theorem wp_nextRequest {g : Nat → Act β} {Q : Except Fault β → Roster → World → Prop} (found : s.sessions[i]? = some x)
    (next : discipline.wp t (g (x.lastRequest + 1)) Q γ (s.setSession i fun x => { x with lastRequest := x.lastRequest + 1 })) :
    discipline.wp t (Session.nextRequest i >>= g) Q γ s := by
  refine Wp.yield γ ?_ ?_
  · refine (acts_setSession (i := i) (f := fun x => { x with lastRequest := x.lastRequest + 1 }) (fun _ => rfl) (.refl t γ)
      rfl).congr ?_
    simp only [found]
  · simp only [found]
    exact next

/-- A session to which a query may go is still one when the query is noted. -/
theorem Routes.pose {c : SupervisorCall} {n k : Nat} (h : s.Routes c i) :
    ({ s with loop := s.loop.issue.2 }.setSession i (Session.pose n k)).Routes c i where
  session := h.session
  alive := by
    obtain ⟨x, found, -⟩ := h.running
    have alive := h.alive
    simp only [World.isSessionAlive, World.setSession, List.getElem?_modify_eq, found, Option.map_eq_map,
      Option.map_some] at alive ⊢
    exact alive
  running := by
    obtain ⟨x, found, running⟩ := h.running
    exact ⟨Session.pose n k x, by simp [World.setSession, found], running⟩
  tracked := h.tracked

/-- A task makes a request: it takes a number and a ticket and notes them in the table. -/
theorem wp_pose {g : Nat → Nat → Act β} {Q : Except Fault β → Roster → World → Prop} (h : Fit t κ γ s)
    (found : s.sessions[i]? = some x)
    (may : MayAsk t κ i method params γ s)
    (next : discipline.wp t (g (x.lastRequest + 1) s.loop.tickets.length) Q
      ((γ.own s.loop.tickets.length t .request).pose t (inquiry t i x method params time s))
      ({ s with loop := s.loop.issue.2 }.setSession i (Session.pose (x.lastRequest + 1) s.loop.tickets.length))) :
    discipline.wp t (Session.nextRequest i >>= fun n => Act.issue >>= fun k =>
      Session.addPending i n k >>= fun _ => g n k) Q γ s := by
  have issued := acts_issue (t := t) (s := s.setSession i fun x => { x with lastRequest := x.lastRequest + 1 })
    h.inv.tickets.fresh .request
  have same : World.setSession i (fun y => { y with pending := y.pending ++ [(x.lastRequest + 1, s.loop.tickets.length)] })
      { s.setSession i (fun x => { x with lastRequest := x.lastRequest + 1 }) with loop := s.loop.issue.2 } =
      { s with loop := s.loop.issue.2 }.setSession i (Session.pose (x.lastRequest + 1) s.loop.tickets.length) := by
    simp only [World.setSession, List.modify_modify_eq]
    rfl
  refine wp_nextRequest found (Wp.yield _ issued ?_)
  refine Wp.change ((γ.own s.loop.tickets.length t .request).pose t (inquiry t i x method params time s)) ?_ ?_
  · refine acts_setSession (fun _ => rfl) (.pose ⟨⟨rfl, rfl, rfl, outcome?_next s.loop,
      { x with lastRequest := x.lastRequest + 1, pending := x.pending ++ [(x.lastRequest + 1, s.loop.tickets.length)] }, ?_, rfl⟩,
      κ, h.kind, fun c e about => ?_⟩) (by rw [Roster.pose_self]; rfl)
    · simp [World.setSession, inquiry, found, Loop.issue]
    · have routes := Routes.pose (n := x.lastRequest + 1) (k := s.loop.tickets.length)
        (may c e about).2.1
      rw [← same] at routes
      exact routes
  · rw [← same] at next
    exact next

/-- A task has made a request just now. -/
structure Posed (t : Nat) (κ : TaskKind) (q : Inquiry) (a b : Roster × World) : Prop where
  fit : Fit t κ b.1 b.2
  onward : Onward a b
  duty : b.1.duty t = (a.1.duty t).pose q
  used : b.1.used = a.1.used
  outcomes : ∀ k, b.2.loop.outcome? k = a.2.loop.outcome? k
  new : a.1.owner q.ticket = none
  unsettled : b.2.loop.outcome? q.ticket = none
  issued : q.issued = b.2.loop.now
  now : b.2.loop.now = a.2.loop.now

theorem Fit.posed (h : Fit t κ γ s) (found : s.sessions[i]? = some x) (asking : (γ.duty t).asking = none)
    (patience : κ.patience x.options s.supervisor.config method = some time)
    (handshake : x.state = .closed → method = .str "initialize") (may : MayAsk t κ i method params γ s) (used : γ.used i) :
    Posed t κ (inquiry t i x method params time s) (γ, s)
      ((γ.own s.loop.tickets.length t .request).pose t (inquiry t i x method params time s),
        { s with loop := s.loop.issue.2 }.setSession i (Session.pose (x.lastRequest + 1) s.loop.tickets.length)) := by
  have issued := h.issue .request (by decide)
  have outcomes (k : Nat) : s.loop.issue.2.outcome? k = s.loop.outcome? k := Loop.outcome?_issue ..
  exact
    { fit := issued.still.fit.pose (h.posable found asking patience handshake may) used
      onward :=
        { issued.still.stays.toOnward with
          asks := fun q' known => List.mem_append_left _ known
          lasts := issued.still.stays.lasts.trans
            (lasts_setSession (f := Session.pose (x.lastRequest + 1) s.loop.tickets.length) (fun _ => rfl) i _) }
      duty := Roster.pose_self ..
      used := rfl
      outcomes
      new := h.inv.tickets.fresh
      unsettled := outcome?_next s.loop
      issued := rfl
      now := rfl }

/-- A request of a task has ended with an outcome. -/
def Got (t i : Nat) (method params : Json) (r : Except Fault Json) (γ : Roster) : Prop :=
  ∃ q, (q, r) ∈ γ.ended ∧ q.task = t ∧ q.session = i ∧ q.method = method ∧ q.params = params

/-- A task writes the request that it has made, waits for the response and takes its entry from the table. -/
theorem wp_conclude (posed : Posed t κ q a (γ, s)) (foreground : ¬ κ.IsBackground) (free : (a.1.duty t).Free)
    (asking : (a.1.duty t).asking = none) (room : (a.2.loop.now : ℕ∞) + q.time.limit ≤ (a.1.duty t).quota.time) :
    discipline.wp t (Program.ensure (Session.sendRequest q.session q.number q.method q.params >>= fun _ =>
      Act.waitFor (pure q.ticket) q.time) (Session.dropPending q.session q.number))
      (fun r γ' s' => Within t κ q.time.limit a (γ', s') ∧ (q, r) ∈ γ'.ended) γ s := by
  have duty : γ.duty t = (a.1.duty t).pose q := posed.duty
  have due : q.due = a.2.loop.now + q.time.limit := by rw [Inquiry.due, posed.issued, posed.now]
  refine Wp.ensure (wp_exchange posed.fit foreground (by rw [duty]; exact ⟨free.pipes, free.documents, free.queued, free.closing⟩)
    (by rw [duty]; rfl) (by rw [duty]; rfl) (by rw [posed.unsettled]; exact fun e => by cases e) posed.issued
    (by rw [duty, due]; exact room)) fun r γ₁ s₁ done => ?_
  obtain ⟨u, keeps⟩ := done.keeps
  have duty₁ : γ₁.duty t = ((a.1.duty t).pose q).mark u := by
    rw [show γ₁.duty t = _ from keeps.duty]
    exact (Roster.charge_self ..).trans (by rw [duty])
  have asking₁ : (γ₁.duty t).asking = some q := by rw [duty₁]; rfl
  have rests : (γ₁.duty t).Rests (a.1.duty t) := by rw [duty₁]; exact ⟨asking, rfl, rfl, rfl, rfl, rfl⟩
  have concluded := acts_conclude (q := q) (r := r) (s := s₁) rests
  have fit := done.fit.conclude asking₁ rests done.result
  refine Wp.update _ concluded ⟨⟨fit, ⟨?_, Roster.charge_self .., fun k mine e => ?_, fun j e used => ?_⟩, ?_⟩,
    List.mem_append_right _ (List.mem_singleton_self _)⟩
  · have onward : Onward (γ, s) (γ₁, s₁) := { keeps.toOnward with }
    exact posed.onward.trans (onward.trans concluded.onward)
  · have other : k ≠ q.ticket := by
      rintro rfl
      cases posed.new.symm.trans mine
    rw [← posed.outcomes k]
    exact keeps.requests k other (posed.onward.owner k _ mine) e
  · have used' := keeps.opener j (by rw [show Roster.duty (γ.charge t _) t = _ from Roster.charge_self .., duty]; exact e) used
    rw [← posed.used]
    exact used'
  · have limit := done.fit.limit
    rw [Duty.limit_asking asking₁, le_min_iff, due] at limit
    exact limit.2

/-! ## To ask in vain -/

theorem Ledger.setSession_setSession {f g : Session → Session} (L : Ledger) (i : Nat) :
    (L.setSession i f).setSession i g = L.setSession i fun x => g (f x) := by
  simp only [Ledger.setSession, List.modify_modify_eq]
  rfl

theorem Roster.Alike.trans {γ'' : Roster} (h : γ.Alike γ') (h' : γ'.Alike γ'') : γ.Alike γ'' where
  owner := h'.owner.trans h.owner
  home := h'.home.trans h.home
  doomed := h'.doomed.trans h.doomed
  queued u := (h'.queued u).trans (h.queued u)
  holds u := (h'.holds u).trans (h.holds u)

/-- A request is made and ends at once, on whatever session. -/
theorem Fit.bounce (h : Fit t κ γ s) (p : Posable t κ q γ x s) (well : EndsWell q r s.loop) :
    Fit t κ ((γ.pose t q).conclude t q r (γ.duty t))
      ((s.setSession q.session (Session.pose q.number q.ticket)).setSession q.session (Session.forget q.number)) := by
  have asking : ((γ.pose t q).duty t).asking = some q := by rw [Roster.pose_self]; rfl
  have posed := h.inv.asked.pose h.kind p
  have asked := posed.conclude asking p.idle well
  have tables := (h.inv.tables.pose p).conclude (r := r) posed asking p.idle (by rw [Roster.pose_self]; rfl)
  rw [Ledger.setSession_setSession] at asked tables
  have alike : (γ.pose t q).Alike ((γ.pose t q).conclude t q r (γ.duty t)) :=
    Roster.alike_conclude (by rw [Roster.pose_self]; rfl) (by rw [Roster.pose_self]; rfl)
  have same : (s.setSession q.session (Session.pose q.number q.ticket)).setSession q.session (Session.forget q.number) =
      s.setSession q.session fun x => Session.forget q.number (Session.pose q.number q.ticket x) := by
    simp only [World.setSession, List.modify_modify_eq]
    rfl
  rw [same]
  refine ⟨h.inv.setSession ((γ.alike_pose t q).trans alike) (fun _ => rfl)
    (fun y e found reader => h.inv.tasks.readers _ y e found reader) asked tables fun j y found unused => ?_,
    h.kind, h.alarm, ?_⟩
  · rcases Ledger.getElem?_setSession found with ⟨-, old⟩ | ⟨y, rfl, old, rfl⟩
    · exact h.inv.idle j y old unused
    · simp [Session.forget, Session.pose, h.inv.idle _ y old unused]
  · rw [show ((γ.pose t q).conclude t q r (γ.duty t)).duty t = γ.duty t from Roster.charge_self ..]
    exact h.limit

theorem passive_refuse (i : Nat) (s : World) : Passive s (s.refuse i) := by
  rcases s.refuse_cases i with same | ⟨pid, same⟩ <;> rw [same]
  · exact .refl s
  · exact passive_record rfl rfl s

theorem acts_refuse (i : Nat) : Acts t (World.refuse i) (γ, s) γ := by
  have lasts := World.Lasts.of_ledger (passive_refuse i s).ledger
  rcases s.refuse_cases i with same | ⟨pid, same⟩
  · exact acts_silent (.refl t γ) (s.loop_refuse i) lasts (fun j _ e => by rw [same] at e; exact e)
      (by rw [same]; exact bill_same rfl rfl)
  · exact acts_silent (.refl t γ) (s.loop_refuse i) lasts (fun j _ e => by rw [same] at e; exact e)
      (by rw [same]; exact bill_same rfl rfl)

/-- A message to a transport without a living process is lost at once. -/
theorem wp_send_dead {m : Members} (dead : s.isConnected i = false) :
    discipline.wp t (Transport.send i m) (fun r γ' s' => r = .error (.closed .notConnected) ∧ γ' = γ ∧ s' = s.refuse i) γ s := by
  refine Wp.look ?_
  simp only [dead, Bool.false_eq_true, if_false]
  exact Wp.change (f := World.refuse i) γ (acts_refuse i) ⟨rfl, rfl, rfl⟩

/-- A request without a living process is not written. -/
theorem wp_sendRequest_dead (found : s.sessions[q.session]? = some x) (dead : s.isConnected x.transport = false) :
    discipline.wp t (Session.sendRequest q.session q.number q.method q.params)
      (fun r γ' s' => (∃ f, r = .error f ∧ q.Fails f) ∧ γ' = γ ∧ (s' = s ∨ s' = s.refuse x.transport)) γ s := by
  refine wp_getKnown found ?_
  split
  · refine Wp.mono (wp_send_dead dead) ?_
    rintro r γ' s' ⟨rfl, rfl, rfl⟩
    exact ⟨⟨_, rfl, .inr (.inl rfl)⟩, rfl, .inr rfl⟩
  · next m misfit =>
    exact ⟨⟨_, rfl, .inl ⟨by simp only [Inquiry.message?, misfit, Except.toOption, Option.map_none], m, rfl⟩⟩, rfl, .inl rfl⟩

/-- A request that was made just now fails, and its entry is taken from the table. -/
theorem wp_bounce {y : Session} {rest : Unit → Act Json} (h : Fit t κ γ s) (p : Posable t κ q γ x s)
    (found : s.sessions[q.session]? = some y) (dead : s.isConnected y.transport = false) :
    discipline.wp t (Program.ensure (Session.sendRequest q.session q.number q.method q.params >>= rest)
      (Session.dropPending q.session q.number)) (fun r γ' s' => Still t κ (γ, s) (γ', s') ∧ (q, r) ∈ γ'.ended) (γ.pose t q)
        (s.setSession q.session (Session.pose q.number q.ticket)) := by
  have found' : (s.setSession q.session (Session.pose q.number q.ticket)).sessions[q.session]? =
      some (Session.pose q.number q.ticket y) := by simp [World.setSession, found]
  refine Wp.ensure (P := fun r γ' s' => (∃ f, r = .error f ∧ q.Fails f) ∧ γ' = γ.pose t q ∧
    (s' = s.setSession q.session (Session.pose q.number q.ticket) ∨
      s' = (s.setSession q.session (Session.pose q.number q.ticket)).refuse y.transport))
    (Wp.seq (wp_sendRequest_dead found' dead) ?_ ?_) ?_
  · rintro _ γ' s' ⟨⟨f, e, -⟩, -⟩
    cases e
  · rintro f γ' s' ⟨⟨f', e, unwritten⟩, same, how⟩
    cases e
    exact ⟨⟨f, rfl, unwritten⟩, same, how⟩
  · rintro r γ' s' ⟨⟨f, rfl, unwritten⟩, rfl, how⟩
    have bounced := h.bounce p (.inr ⟨f, rfl, unwritten⟩)
    have rests : ((γ.pose t q).duty t).Rests (γ.duty t) := by
      rw [Roster.pose_self]
      exact ⟨p.idle, rfl, rfl, rfl, rfl, rfl⟩
    have concluded := acts_conclude (q := q) (r := .error f) (s := s') rests
    have posed : Onward (γ, s) (γ.pose t q, s.setSession q.session (Session.pose q.number q.ticket)) :=
      { Onward.refl (γ, s) with
        asks := fun q' known => List.mem_append_left _ known
        lasts := lasts_setSession (f := Session.pose q.number q.ticket) (fun _ => rfl) q.session s }
    have all : s'.loop = s.loop ∧ Onward (γ.pose t q, s.setSession q.session (Session.pose q.number q.ticket)) (γ.pose t q, s') ∧
        Fit t κ ((γ.pose t q).conclude t q (.error f) (γ.duty t)) (s'.setSession q.session (Session.forget q.number)) := by
      rcases how with rfl | rfl
      · exact ⟨rfl, .refl _, bounced⟩
      · have refused := acts_refuse (t := t) (γ := γ.pose t q) (s := s.setSession q.session (Session.pose q.number q.ticket))
          y.transport
        refine ⟨World.loop_refuse .., refused.onward, ?_⟩
        rw [World.refuse_setSession]
        exact (bounced.passive (passive_refuse y.transport _)).still.fit
    obtain ⟨loop, onward, fit⟩ := all
    refine Wp.update _ concluded ⟨⟨fit, ⟨posed.trans (onward.trans concluded.onward), Roster.charge_self ..,
      fun k _ e => ?_, fun _ _ e => e⟩, ?_⟩, List.mem_append_right _ (List.mem_singleton_self _)⟩
    · rw [← loop]
      exact e
    · rw [← loop]
      rfl

/-- A task asks a session without a living process: the request fails at once. -/
theorem wp_ask_dead (h : Fit t κ γ s) (found : s.sessions[i]? = some x) (asking : (γ.duty t).asking = none)
    (patience : κ.patience x.options s.supervisor.config method = some time)
    (handshake : x.state = .closed → method = .str "initialize")
    (may : MayAsk t κ i method params γ s)
    (dead : s.isConnected x.transport = false) :
    discipline.wp t (Session.ask i method params time)
      (fun r γ' s' => Still t κ (γ, s) (γ', s') ∧ Got t i method params r γ') γ s := by
  have issued := h.issue .request (by decide)
  have posable : Posable t κ (inquiry t i x method params time s) (γ.own s.loop.tickets.length t .request) x.bare
      { s with loop := s.loop.issue.2 } := h.posable found asking patience handshake may
  refine wp_pose h found may (Wp.mono (wp_bounce issued.still.fit posable found dead) ?_)
  rintro r γ' s' ⟨still, ended⟩
  exact ⟨issued.still.trans still, _, ended, rfl, rfl, rfl, rfl⟩

/-- A task asks a session, which takes no longer than the time of its request. -/
theorem wp_ask (h : Fit t κ γ s) (foreground : ¬ κ.IsBackground) (free : (γ.duty t).Free)
    (found : s.sessions[i]? = some x) (asking : (γ.duty t).asking = none)
    (patience : κ.patience x.options s.supervisor.config method = some time)
    (handshake : x.state = .closed → method = .str "initialize")
    (may : MayAsk t κ i method params γ s)
    (room : (s.loop.now : ℕ∞) + time.limit ≤ (γ.duty t).quota.time) :
    discipline.wp t (Session.ask i method params time)
      (fun r γ' s' => Within t κ time.limit (γ, s) (γ', s') ∧ Got t i method params r γ') γ s := by
  rcases connected : s.isConnected x.transport with _ | _
  · exact Wp.mono (wp_ask_dead h found asking patience handshake may connected) fun _ _ _ asked => ⟨asked.1.within, asked.2⟩
  · have paired := h.inv.tables.paired.2 i x.bare (World.ledger_session found)
    have used : γ.used i := by
      by_contra unused
      rw [show x.transport = i from paired] at connected
      rcases there : s.transports[i]? with _ | T
      · simp [World.isConnected, World.serverOf?, there] at connected
      · have none := h.inv.tables.bare i T there unused
        simp [World.isConnected, World.serverOf?, there, none] at connected
    exact wp_pose h found may (Wp.mono (wp_conclude (h.posed found asking patience handshake may used) foreground free asking room)
      fun _ _ _ asked => ⟨asked.1, _, asked.2, rfl, rfl, rfl, rfl⟩)

end Clock

end LspHost

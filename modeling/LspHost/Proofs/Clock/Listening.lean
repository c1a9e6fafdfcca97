import LspHost.Proofs.Clock.Supervising

/-!
# Tasks in the background

Readers, drains and watches wait without end for what a process writes and for its exit, and end at once when they are
cancelled (`wp_read`, `wp_drainTurn`, `wp_exitWatchTurn`). A response that a reader is told ends the request that it belongs
to, the first of its number since the request was made (`wp_hear`); a reader that ends takes the requests that are left with
it (`wp_readerTurn`).
-/

namespace LspHost

/-- A session handles a response: the request that it belongs to ends with it. -/
def World.answer (i : Nat) (r : Response) (s : World) : World :=
  match s.sessions[i]? with
  | some x =>
    match Session.awaited? x s.loop r with
    | some k => { s with loop := s.loop.settle k (Session.outcomeOf r) }
    | none => s
  | none => s

/-- A session is told a response. -/
def World.respond (i : Nat) (r : Response) (s : World) : World := s.record (.heard i (.response r))

namespace Clock

open Discipline

variable {t u i j k : Nat} {o : Option Nat} {κ : TaskKind} {γ γ' : Roster} {s s' : World} {L : Ledger} {l : Loop} {d : Duty}
  {q : Inquiry} {x : Session} {a b c : Roster × World} {n m : ℕ∞} {α β : Type}

/-! ## To wait for a process -/

/-- What there is to see to when a process is told of somebody who waits for it. -/
theorem Inv.setServer (h : Inv o γ s) {g : Server → Server} {id : Nat} (exits : Exits γ (s.setServer id g))
    (pid : ∀ p, (g p).pid = p.pid) : Inv o γ (s.setServer id g) where
  tickets := { h.tickets with awaited := exits }
  tasks := h.tasks
  locked := h.locked
  queuers := h.queuers
  asked := h.asked
  tables := h.tables
  servers i T j found held := by
    simp only [World.pidAt?_setServer pid]
    exact h.servers i T j found held
  homes := h.homes
  idle := h.idle
  getters := h.getters
  plain := h.plain

/-- A task waits for an output of a process with a ticket of its own. -/
theorem Exits.expect (h : Exits γ s) {g : Server → Server} (id : Nat) (mine : γ.owner k = some (t, .wait))
    (streams : ∀ (p : Server) (c : Channel) (j : Nat) (d : Demand), (c.get (g p)).waiter = some (j, d) →
      (c.get p).waiter = some (j, d) ∨ j = k)
    (exits : ∀ p, (g p).exitWaiters = p.exitWaiters) (alive : ∀ p, (g p).isAlive = p.isAlive) :
    Exits γ (s.setServer id g) where
  exits i q found j mem := by
    obtain ⟨p, old, rfl | rfl⟩ := World.getElem?_setServer found
    · exact h.exits i q old j mem
    · obtain ⟨lives, rest⟩ := h.exits i p old j (exits p ▸ mem)
      exact ⟨(alive p).trans lives, rest⟩
  streams q mem c j d waits := by
    obtain ⟨i, found⟩ := List.mem_iff_getElem?.mp mem
    obtain ⟨p, old, rfl | rfl⟩ := World.getElem?_setServer found
    · exact h.streams q (List.mem_of_getElem? old) c j d waits
    · rcases streams p c j d waits with before | rfl
      · exact h.streams p (List.mem_of_getElem? old) c j d before
      · exact ⟨t, mine⟩
  watches j u owned := by
    obtain ⟨i, p, kind, found, waits, gone⟩ := h.watches j u owned
    obtain ⟨q, now, rfl | rfl⟩ := World.getElem?_setServer_of found (j := id) (g := g)
    · exact ⟨i, q, kind, now, waits, gone⟩
    · exact ⟨i, _, kind, now, fun none => exits p ▸ waits none, fun v e => (alive p).trans (gone v e)⟩

/-- A task waits for the exit of a living process with a ticket that nobody has. -/
theorem Exits.enlist (h : Exits γ s) {p : Server} (fresh : γ.owner k = none) (kind : s.loop.kind? t = some (.exitWatch i))
    (found : s.servers[i]? = some p) (alive : p.isAlive = true) (unsettled : s.loop.outcome? k = none) :
    Exits (γ.own k t .exit) (s.setServer i fun p => { p with exitWaiters := p.exitWaiters ++ [k] }) where
  exits j q now k' mem := by
    have kept {u : Nat} (mine : γ.owner k' = some (u, .exit)) : (γ.own k t .exit).owner k' = some (u, .exit) := by
      refine (γ.own_ne t .exit ?_).trans mine
      rintro rfl
      cases fresh.symm.trans mine
    rw [World.setServer, List.getElem?_modify] at now
    obtain ⟨q', old, rfl⟩ := Option.map_eq_some_iff.mp now
    by_cases e : i = j
    · subst e
      cases found.symm.trans old
      simp only [if_pos] at mem ⊢
      rcases List.mem_append.mp mem with mem | mem
      · obtain ⟨lives, u, mine, kind'⟩ := h.exits i p old k' mem
        exact ⟨lives, u, kept mine, kind'⟩
      · cases List.mem_singleton.mp mem
        exact ⟨alive, t, γ.own_self .., kind⟩
    · rw [if_neg e] at mem ⊢
      obtain ⟨lives, u, mine, kind'⟩ := h.exits j q' old k' mem
      exact ⟨lives, u, kept mine, kind'⟩
  streams q mem c j d waits := by
    obtain ⟨j', now⟩ := List.mem_iff_getElem?.mp mem
    obtain ⟨p', old, same⟩ := World.getElem?_setServer now
    obtain ⟨u, mine⟩ := h.streams p' (List.mem_of_getElem? old) c j d
      (by rcases same with rfl | rfl <;> cases c <;> exact waits)
    refine ⟨u, (γ.own_ne t .exit ?_).trans mine⟩
    rintro rfl
    cases fresh.symm.trans mine
  watches j u owned := by
    by_cases same : j = k
    · subst same
      rw [Roster.own_self] at owned
      cases owned
      refine ⟨i, { p with exitWaiters := p.exitWaiters ++ [j] }, kind, ?_, fun _ => ?_, fun v e => ?_⟩
      · simp [World.setServer, found]
      · exact List.mem_append_right _ (List.mem_singleton_self _)
      · cases unsettled.symm.trans e
    · obtain ⟨i', p', kind', found', waits, gone⟩ := h.watches j u ((γ.own_ne t .exit same).symm.trans owned)
      obtain ⟨q, now, rfl | rfl⟩ := World.getElem?_setServer_of found' (j := i)
        (g := fun p => { p with exitWaiters := p.exitWaiters ++ [k] })
      · exact ⟨i', q, kind', now, waits, gone⟩
      · exact ⟨i', _, kind', now, fun none => List.mem_append_left _ (waits none), gone⟩

theorem isConnected_setServer {g : Server → Server} (alive : ∀ p, (g p).isAlive = p.isAlive) (id i : Nat) (s : World) :
    (s.setServer id g).isConnected i = s.isConnected i := by
  have same (j : Nat) : (s.setServer id g).isAlive j = s.isAlive j := by
    simp only [World.isAlive, World.setServer, List.getElem?_modify]
    rcases s.servers[j]? with _ | p
    · rfl
    · by_cases e : id = j <;> simp [e, alive]
  simp only [World.isConnected, same]
  rfl

/-- A task tells a process that it waits for it. -/
theorem Fit.setServer (h : Fit t κ γ s) {g : Server → Server} (id : Nat) (moves : γ.Moves t (s.setServer id g) γ')
    (duty : γ'.duty = γ.duty) (used : γ'.used = γ.used) (alarm : γ'.alarm = γ.alarm) (inv : Inv (some t) γ' (s.setServer id g))
    (alive : ∀ p, (g p).isAlive = p.isAlive) : Step t κ (World.setServer id g) γ s γ' := by
  have act : Acts t (World.setServer id g) (γ, s) γ' :=
    acts_silent moves rfl ⟨Nat.le_refl _, fun _ _ e => e, rfl⟩
      (fun i _ connected => by rwa [isConnected_setServer alive] at connected) (by rw [duty]; exact bill_same rfl rfl)
  exact act.step ⟨inv, h.kind, by rw [alarm]; exact h.alarm, by rw [duty]; exact h.limit⟩ (by rw [duty]) used fun _ _ e => e

/-- A task goes on some time later, and fails if it was cancelled. -/
def Attends (t : Nat) (κ : TaskKind) (a : Roster × World) (r : Except Fault α) (γ : Roster) (s : World) : Prop :=
  Within t κ ⊤ a (γ, s) ∧ (γ.doomed t → r = .error .cancelled)

theorem Attends.trans {r : Except Fault α} (h : Within t κ ⊤ a b) (h' : Attends t κ b r γ s) : Attends t κ a r γ s :=
  ⟨(h.trans h'.1).mono le_top, h'.2⟩

theorem Goes.attends {r : Except Fault α} (h : Goes t κ a r γ s) : Attends t κ a r γ s := ⟨h.1.within, h.2⟩

theorem Attends.of_still {r : Except Fault α} (calm : ¬ γ.doomed t) (still : Still t κ (γ, s) (γ, s')) :
    Attends t κ (γ, s) r γ s' := ⟨still.within, fun doomed => absurd doomed calm⟩

/-- A task waits for a ticket of its own without end. -/
theorem wp_attend (h : Fit t κ γ s) (calm : ¬ γ.doomed t) (fresh : (γ.duty t).Fresh) (unsettled : s.loop.outcome? k = none)
    (mine : γ.owner k = some (t, κ.use)) :
    discipline.wp t (Program.await k) (fun r γ' s' => Attends t κ (γ, s) r γ' s' ∧
      (¬ γ'.doomed t → s'.loop.outcome? k = some r)) (γ.ring t ⊤) s := by
  refine wp_await_until h calm le_top (.of_free fresh.poised.toFree ?_ ?_ ?_) (fun _ => mine) unsettled ?_
  · show _ ≤ (γ.duty t).limit
    rw [fresh.limit]
    exact le_top
  · exact fun j _ => .inl (γ.ring_self t ⊤)
  · intro j e
    cases e
    exact h.inv.tickets.issued k _ mine
  · intro γ' s' r w
    exact ⟨⟨⟨w.fit, w.stays.of_ring, by simp⟩, w.doomed⟩, fun off => (w.outcome off).1 k rfl⟩

/-- A process is replaced by what it is changed to. -/
theorem setServer_congr {f g : Server → Server} {p : Server} (found : s.servers[i]? = some p) (same : f p = g p) :
    s.setServer i f = s.setServer i g := by
  have servers : s.servers.modify i f = s.servers.modify i g := by
    apply List.ext_getElem?
    intro j
    by_cases e : i = j
    · subst e
      simp only [List.getElem?_modify_eq, found, Option.map_eq_map, Option.map_some, same]
    · simp only [List.getElem?_modify_ne _ _ e]
  simp only [World.setServer, servers]

/-- A stream is changed in what nobody waits for. -/
theorem passive_setStream {f : Stream → Stream} (waiter : ∀ st, (f st).waiter = st.waiter ∨ (f st).waiter = none) (j : Nat)
    (c : Channel) (s : World) : Passive s (s.setServer j (c.set f)) := by
  refine .setServer j (fun p c' k d waits => ?_) (fun p => c.exitWaiters_set ..) (fun p => by cases c <;> rfl)
    (fun p => by cases c <;> rfl) s
  by_cases e : c' = c
  · subst e
    rw [c'.get_set_self] at waits
    rcases waiter (c'.get p) with same | none
    · rwa [← same]
    · cases none.symm.trans waits
  · rwa [Channel.get_set_ne _ _ e] at waits

/-- A task takes what has arrived. -/
theorem wp_takeNow {c : Channel} {d : Demand} (h : Fit t κ γ s) :
    discipline.wp t (Transport.takeNow j c d) (fun r γ' s' => (∃ v, r = .ok v) ∧ γ' = γ ∧ Still t κ (γ, s) (γ, s')) γ s := by
  have ends {f : World → Option Taken × World} (passive : Passive s (f s).2) :
      discipline.wp t (Program.yield f) (fun r γ' s' => (∃ v, r = .ok v) ∧ γ' = γ ∧ Still t κ (γ, s) (γ, s')) γ s := by
    have step := h.passive (f := fun s => (f s).2) passive
    exact ⟨γ, step.acts, ⟨_, rfl⟩, rfl, step.still⟩
  refine ends ?_
  rcases found : s.servers[j]? with _ | p
  · exact .refl s
  · rcases took : (c.get p).take? d with _ | ⟨taken, rest⟩
    · simp only [Option.map_some, took]
      exact .refl s
    · simp only [Option.map_some, took]
      obtain ⟨⟨taken', left⟩, -, e⟩ := Option.map_eq_some_iff.mp took
      have rest_eq : rest = { c.get p with buffer := left } := (Prod.mk.inj e).2.symm
      rw [setServer_congr (g := c.set fun st => { st with buffer := left }) found
        (by rw [rest_eq]; cases c <;> rfl)]
      exact passive_setStream (f := fun st => { st with buffer := left }) (fun _ => .inl rfl) j c s

theorem Attends.fresh {v : α} (h : Attends t κ (γ, s) (.ok v) γ' s') (fresh : (γ.duty t).Fresh) :
    ¬ γ'.doomed t ∧ (γ'.duty t).Fresh := by
  have same : γ'.duty t = γ.duty t := h.1.stays.duty
  exact ⟨fun doomed => (by cases h.2 doomed), by rw [same]; exact fresh⟩

/-- A task says that it waits for a stream, waits, and takes it back. -/
theorem wp_awaitStream {c : Channel} {d : Demand} (h : Fit t κ γ s) (calm : ¬ γ.doomed t) (use : κ.use = .wait) (fresh : (γ.duty t).Fresh)
    (unsettled : s.loop.outcome? k = none) (mine : γ.owner k = some (t, .wait)) {g : Unit → Act β}
    {Q : Except Fault β → Roster → World → Prop}
    (next : ∀ γ' s', Attends t κ (γ, s) (.ok ()) γ' s' → discipline.wp t (g ()) Q γ' s')
    (fails : ∀ γ' s' f, Attends t κ (γ, s) (.error f : Except Fault Unit) γ' s' → Q (.error f) γ' s') :
    discipline.wp t (Transport.setWaiter j c (some (k, d)) >>= fun _ =>
      Program.ensure (do let _ ← Program.await k) (Transport.setWaiter j c none) >>= g) Q γ s := by
  have exits : Exits γ (s.setServer j (c.set fun st => { st with waiter := some (k, d) })) := by
    refine h.inv.tickets.awaited.expect j mine (fun p c' i d' waits => ?_) (fun p => c.exitWaiters_set ..)
      fun p => by cases c <;> rfl
    by_cases e : c' = c
    · subst e
      rw [c'.get_set_self] at waits
      cases waits
      exact .inr rfl
    · exact .inl (by rwa [Channel.get_set_ne _ _ e] at waits)
  have step := h.setServer j (.refl t γ) rfl rfl rfl (h.inv.setServer exits fun p => c.pid_set ..) fun p => by cases c <;> rfl
  · refine Wp.change (γ.ring t ⊤) step.acts.ring (Wp.seq (P := Attends t κ (γ, s)) (Wp.ensure (P := Attends t κ (γ, s))
      (Wp.seq (P := Attends t κ (γ, s)) (Wp.mono (wp_attend step.still.fit calm fresh unsettled (use ▸ mine)) ?_) ?_ ?_) ?_) ?_ ?_)
    · exact fun r γ' s' attends => .trans step.still.within attends.1
    · exact fun v γ' s' attends => ⟨attends.1, fun doomed => (by cases attends.2 doomed)⟩
    · exact fun f γ' s' attends => ⟨attends.1, fun doomed => (by cases attends.2 doomed; rfl)⟩
    · intro r γ' s' attends
      have taken := attends.1.fit.passive
        (passive_setStream (f := fun st => { st with waiter := none }) (fun _ => .inr rfl) j c s')
      exact Wp.update _ taken.acts ⟨attends.1.still taken.still, attends.2⟩
    · exact fun v γ' s' attends => next γ' s' attends
    · exact fun f γ' s' attends => fails γ' s' f attends

/-- A task in the background reads a stream. -/
theorem wp_readWithin {c : Channel} {d : Demand} (fuel : Nat) (h : Fit t κ γ s) (calm : ¬ γ.doomed t)
    (use : κ.use = .wait) (fresh : (γ.duty t).Fresh) : discipline.wp t (Transport.readWithin j c d fuel) (Attends t κ (γ, s)) γ s := by
  induction fuel generalizing γ s with
  | zero => exact Attends.of_still calm (.refl h)
  | succ fuel ih =>
    refine Wp.seq (wp_takeNow h) ?_ ?_
    · rintro (_ | taken) γ₁ s₁ ⟨-, rfl, still⟩
      · refine Wp.seq (P := fun _ γ' s' => γ' = γ₁ ∧ s' = s₁) (Wp.peek ⟨rfl, rfl⟩) ?_ ?_
        · rintro awaited γ₂ s₂ ⟨rfl, rfl⟩
          split
          · exact Attends.of_still calm still
          have issued := still.fit.issue .wait (by decide)
          refine Wp.yield _ issued.acts (wp_awaitStream issued.still.fit calm use fresh (outcome?_next s₂.loop) (γ₂.own_self ..)
            (fun γ₃ s₃ attends => ?_) fun γ₃ s₃ f attends => ?_)
          · obtain ⟨calm₃, fresh₃⟩ := attends.fresh fresh
            exact Wp.mono (ih attends.1.fit calm₃ fresh₃) fun r γ₄ s₄ more =>
              .trans (still.within.still issued.still) (.trans attends.1 more)
          · exact ⟨(still.trans issued.still).trans_within attends.1, fun doomed => (by cases attends.2 doomed; rfl)⟩
        · rintro f γ₂ s₂ ⟨rfl, rfl⟩
          exact Attends.of_still calm still
      · exact Attends.of_still calm still
    · rintro f γ₁ s₁ ⟨⟨v, e⟩, -⟩
      cases e

theorem wp_read {c : Channel} {d : Demand} (h : Fit t κ γ s) (calm : ¬ γ.doomed t) (use : κ.use = .wait) (fresh : (γ.duty t).Fresh) :
    discipline.wp t (Transport.read j c d) (Attends t κ (γ, s)) γ s := Wp.look (wp_readWithin _ h calm use fresh)

/-! ## Messages -/

theorem wp_attend_seq {p : Act α} {g : α → Act β} (first : discipline.wp t p (Attends t κ (γ, s)) γ s)
    (fresh : (γ.duty t).Fresh)
    (next : ∀ v γ' s', Fit t κ γ' s' → ¬ γ'.doomed t → (γ'.duty t).Fresh → discipline.wp t (g v) (Attends t κ (γ', s')) γ' s') :
    discipline.wp t (p >>= g) (Attends t κ (γ, s)) γ s := by
  refine Wp.seq first (fun v γ' s' attends => ?_) fun f γ' s' attends => ⟨attends.1, fun doomed => (by cases attends.2 doomed; rfl)⟩
  obtain ⟨calm', fresh'⟩ := attends.fresh fresh
  exact Wp.mono (next v γ' s' attends.1.fit calm' fresh') fun r γ'' s'' more => .trans attends.1 more

/-- A reader reads a piece of a frame. -/
theorem wp_readStage {stage : Stage} (h : Fit t κ γ s) (calm : ¬ γ.doomed t) (use : κ.use = .wait) (fresh : (γ.duty t).Fresh) :
    discipline.wp t (Transport.readStage j stage) (Attends t κ (γ, s)) γ s :=
  wp_attend_seq (wp_read h calm use fresh) fresh fun _ _ _ fit calm _ => Attends.of_still calm (.refl fit)

/-- A reader receives a message. -/
theorem wp_receive (h : Fit t κ γ s) (calm : ¬ γ.doomed t) (use : κ.use = .wait) (fresh : (γ.duty t).Fresh) :
    discipline.wp t (Transport.receive i) (Attends t κ (γ, s)) γ s := by
  refine wp_server? ?_
  split
  · exact Attends.of_still calm (.refl h)
  · refine wp_attend_seq (wp_readStage h calm use fresh) fresh fun progress γ₁ s₁ fit₁ calm₁ fresh₁ => ?_
    split
    · exact Attends.of_still calm₁ (.refl fit₁)
    · exact Attends.of_still calm₁ (.refl fit₁)
    · refine wp_attend_seq (wp_readStage fit₁ calm₁ use fresh₁) fresh₁ fun progress γ₂ s₂ fit₂ calm₂ fresh₂ => ?_
      split <;> exact Attends.of_still calm₂ (.refl fit₂)

/-! ## Responses -/

variable {r : Response}

theorem ledger_respond (i : Nat) (r : Response) (s : World) :
    (s.respond i r).ledger = { s.ledger with answers := s.ledger.answers ++ [(i, r)] } := by
  simp only [World.ledger, World.respond, World.record, World.requests, World.answers, List.filterMap_cons, Record.asked?,
    Record.answer?, List.reverse_cons]

/-- A response belongs to a request. -/
def Inquiry.Fits (q : Inquiry) (i : Nat) (r : Response) : Prop := i = q.session ∧ r.id = some (.number q.number)

theorem Inquiry.answers_fits (q : Inquiry) (all : List (Nat × Response)) (fits : q.Fits i r) :
    q.answers (all ++ [(i, r)]) = q.answers all ++ [r] := by
  simp [answers, fits.1, fits.2]

theorem Inquiry.answers_other (q : Inquiry) (all : List (Nat × Response)) (other : ¬ q.Fits i r) :
    q.answers (all ++ [(i, r)]) = q.answers all := by
  have none : ([(i, r)] : List (Nat × Response)).filter
      (fun a => a.1 = q.session ∧ a.2.id = some (.number q.number)) = [] := by
    refine List.filter_eq_nil_iff.mpr fun a ha => ?_
    rw [List.mem_singleton.mp ha]
    simpa using fun e e' => other ⟨e, e'⟩
  simp only [answers, List.filter_append, none, List.append_nil]

/-- A response ends the request that it belongs to, if that still waits, and changes nothing else. -/
theorem answer_cases (h : Inv o γ s) (i : Nat) (r : Response) :
    (∃ u q, (γ.duty u).asking = some q ∧ q.Fits i r ∧ s.loop.outcome? q.ticket = none ∧
      s.answer i r = { s with loop := s.loop.settle q.ticket (Session.outcomeOf r) }) ∨
    s.answer i r = s ∧ ∀ u q, (γ.duty u).asking = some q → q.Fits i r → s.loop.outcome? q.ticket ≠ none := by
  rcases found : s.sessions[i]? with _ | x
  · refine .inr ⟨by simp only [World.answer, found], fun u q asking fits _ => ?_⟩
    have bound := h.asked.sessions q (h.asked.asking u q asking).1
    rw [World.length_ledger_sessions, ← fits.1] at bound
    exact absurd (List.getElem?_eq_none_iff.mp found) (Nat.not_le_of_lt bound)
  · have ledger := World.ledger_session found
    rcases e : r.id with _ | (n | name)
    · exact .inr ⟨by simp only [World.answer, found, Session.awaited?, e], fun u q _ fits => by cases e.symm.trans fits.2⟩
    · rcases entry : x.pending.find? fun p => (p.1 : Int) = n with _ | ⟨m, k⟩
      · refine .inr ⟨by simp only [World.answer, found, Session.awaited?, e, entry], fun u q asking fits unsettled => ?_⟩
        have listed := h.tables.listed u q x.bare asking unsettled (by rw [← fits.1]; exact ledger)
        have number := fits.2
        rw [e] at number
        cases number
        exact absurd (List.find?_eq_none.mp entry _ listed) (by simp)
      · have mem : (m, k) ∈ x.bare.pending := List.mem_of_find?_eq_some entry
        have number : (m : Int) = n := by simpa using List.find?_some entry
        obtain ⟨u, q, asking, rfl, rfl, rfl⟩ := h.tables.entries i x.bare m k ledger mem
        have fits : q.Fits q.session r := ⟨rfl, by rw [e, number]⟩
        have known := (h.asked.asking u q asking).1
        rcases unsettled : s.loop.outcome? q.ticket with _ | r'
        · refine .inl ⟨u, q, asking, fits, unsettled, ?_⟩
          simp only [World.answer, found, Session.awaited?, e, entry, Loop.isSettled, unsettled, Option.isSome_none,
            Bool.false_eq_true, if_false]
        · refine .inr ⟨?_, fun v q' asking' fits' => ?_⟩
          · simp only [World.answer, found, Session.awaited?, e, entry, Loop.isSettled, unsettled, Option.isSome_some, if_true]
          · have same : q' = q := by
              refine h.asked.number_inj known (h.asked.asking v q' asking').1 fits'.1.symm ?_
              have numbers := fits.2.symm.trans fits'.2
              simpa using numbers.symm
            rw [same, unsettled]
            exact fun e => by cases e
    · exact .inr ⟨by simp only [World.answer, found, Session.awaited?, e], fun u q _ fits => by cases e.symm.trans fits.2⟩

theorem answer_respond (i : Nat) (r : Response) (s : World) :
    (s.respond i r).answer i r = (s.answer i r).respond i r := by
  rcases found : s.sessions[i]? with _ | x
  · simp only [World.answer, World.respond, World.record, found]
  · rcases awaited : Session.awaited? x s.loop r with _ | k <;>
      simp only [World.answer, World.respond, World.record, found, awaited]

/-- A response is noted that ends no request that still waits. -/
theorem Inv.respond (h : Inv o γ s) (i : Nat) (r : Response)
    (heard : ∀ u q, (γ.duty u).asking = some q → q.Fits i r → s.loop.outcome? q.ticket ≠ none) : Inv o γ (s.respond i r) where
  tickets := h.tickets.same rfl rfl
  tasks := by rw [ledger_respond]; exact { h.tasks with }
  locked p := (h.locked p).of_lock (by rw [ledger_respond]; cases p <;> rfl)
  queuers := h.queuers
  asked := by
    rw [ledger_respond]
    refine { h.asked with unheard := fun u q asking unsettled => ?_ }
    rw [q.answers_other _ fun fits => heard u q asking fits unsettled]
    exact h.asked.unheard u q asking unsettled
  tables := by rw [ledger_respond]; exact { h.tables with }
  servers i T j found held := by
    rw [ledger_respond] at found
    exact h.servers i T j found held
  homes := by rw [ledger_respond]; exact h.homes
  idle := by rw [ledger_respond]; exact h.idle
  getters := by rw [ledger_respond]; exact h.getters
  plain := by rw [ledger_respond]; exact h.plain

theorem outcomeOf_ne (r : Response) : Session.outcomeOf r ≠ .error .cancelled := by
  unfold Session.outcomeOf
  split <;> exact fun e => by cases e

/-- The request that is asked under a ticket. -/
theorem Inv.asked_unique {q' : Inquiry} (h : Inv o γ s) (asking : (γ.duty u).asking = some q) (known : q' ∈ γ.asks)
    (ticket : q'.ticket = q.ticket) : q' = q :=
  List.inj_on_of_nodup_map h.asked.tickets known (h.asked.asking u q asking).1 ticket

/-- A response that was noted ends the request that it belongs to. -/
theorem acts_answer (h : Inv o γ s) (asking : (γ.duty u).asking = some q) (fits : q.Fits i r)
    (unsettled : s.loop.outcome? q.ticket = none) :
    Acts t (fun s => { s with loop := s.loop.settle q.ticket (Session.outcomeOf r) }) (γ, s.respond i r) γ := by
  have mine := h.asked.owned q (h.asked.asking u q asking).1
  refine acts (.refl t γ) (Loop.does_settle q.ticket _) ?_ ?_ ?_ ⟨Nat.le_refl _, fun _ _ e => e, rfl⟩ (fun _ _ e => e)
    (bill_same rfl rfl)
  · rintro k rfl
    exact ⟨(Loop.apart_settle ..).not.mpr (h.tickets.not_apart mine), fun v relay => by cases mine.symm.trans relay⟩
  · intro k v _ _ cancelled
    rcases Loop.outcome?_settle_cases cancelled with old | ⟨-, e⟩
    · exact old
    · exact absurd e.symm (outcomeOf_ne r)
  · intro q' known before r' after
    rcases Loop.outcome?_settle_cases after with old | ⟨ticket, rfl⟩
    · cases before.symm.trans old
    · obtain rfl := h.asked_unique asking known ticket
      have answers : q'.answers (s.respond i r).answers = q'.answers s.answers ++ [r] := by
        have noted := congrArg Ledger.answers (ledger_respond i r s)
        rw [show (s.respond i r).answers = s.answers ++ [(i, r)] from noted, q'.answers_fits _ fits]
      have count : (q'.answers s.answers).length = q'.early := h.asked.unheard u q' asking unsettled
      refine .inl ⟨r, ?_, ?_, rfl⟩
      · rw [answers, ← count, List.getElem?_concat_length]
      · rw [answers, List.length_append, count]
        rfl

/-- A reader is told a response. -/
theorem wp_hear (h : Fit t κ γ s) :
    discipline.wp t (Program.update (World.respond i r) >>= fun _ => Program.update (World.answer i r))
      (fun _ γ' s' => γ' = γ ∧ Still t κ (γ, s) (γ, s')) γ s := by
  have noted : Acts t (World.respond i r) (γ, s) γ :=
    acts_silent (.refl t γ) rfl ⟨Nat.le_refl _, fun _ _ e => e, rfl⟩ (fun _ _ e => e) (bill_same rfl rfl)
  refine Wp.change γ noted ?_
  rcases answer_cases h.inv i r with ⟨u, q, asking, fits, unsettled, step⟩ | ⟨same, heard⟩
  · have known := (h.inv.asked.asking u q asking).1
    have mine := h.inv.asked.owned q known
    have act := acts_answer (t := t) h.inv asking fits unsettled
    have world : (s.respond i r).answer i r =
        { s.respond i r with loop := s.loop.settle q.ticket (Session.outcomeOf r) } := by
      rw [answer_respond, step]
      rfl
    have grows := s.loop.grows_settle q.ticket (Session.outcomeOf r)
    have settled : Inv (some t) γ { s with loop := s.loop.settle q.ticket (Session.outcomeOf r) } := by
      refine h.inv.onward rfl (fun _ _ h => h) (h.inv.tickets.settle (fun v use owns => ?_) fun v _ owns => ?_) grows
        (Loop.tasks_settle ..)
      · cases mine.symm.trans owns
        exact ⟨fun e => (by cases e), fun e => (by cases e)⟩
      · cases mine.symm.trans owns
    have inv : Inv (some t) γ { s.respond i r with loop := s.loop.settle q.ticket (Session.outcomeOf r) } := by
      refine settled.respond i r fun v q' asking' fits' waits => ?_
      have number : q'.number = q.number := by
        have numbers := fits'.2.symm.trans fits.2
        simpa using numbers
      have same := h.inv.asked.number_inj known (h.inv.asked.asking v q' asking').1 (fits'.1.symm.trans fits.1) number
      rw [same] at waits
      have ended := Loop.isSettled_settle (Session.outcomeOf r) (h.inv.tickets.issued _ _ mine)
      rw [Loop.isSettled, waits] at ended
      cases ended
    refine Wp.update γ (act.congr world) ?_
    rw [world]
    refine ⟨rfl, h.onward inv grows (Loop.now_settle_eq ..) rfl rfl, ⟨noted.onward.trans act.onward, rfl, fun k _ e => ?_,
      fun _ _ e => e⟩, Loop.now_settle_eq ..⟩
    rcases Loop.outcome?_settle_cases e with old | ⟨-, e⟩
    · exact old
    · exact absurd e.symm (outcomeOf_ne r)
  · have world : (s.respond i r).answer i r = s.respond i r := by rw [answer_respond, same]
    have act : Acts t (fun s => s) (γ, s.respond i r) γ :=
      acts_silent (.refl t γ) rfl (.refl _) (fun _ _ e => e) (bill_same rfl rfl)
    refine Wp.update γ (act.congr world) ?_
    rw [world]
    exact ⟨rfl, ⟨h.inv.respond i r heard, h.kind, h.alarm, h.limit⟩, ⟨noted.onward, rfl, fun _ _ e => e, fun _ _ e => e⟩, rfl⟩

/-! ## What a server says -/

/-- A task changes the world passively, and that is all. -/
theorem wp_passively {f : World → World} (h : Fit t κ γ s) (calm : ¬ γ.doomed t) (passive : Passive s (f s)) :
    discipline.wp t (Program.update f) (Attends t κ (γ, s)) γ s :=
  Wp.update γ (h.passive passive).acts (Attends.of_still calm (h.passive passive).still)

theorem passive_hearDiagnostics (nobody : s.getters = []) (i : Nat) (uri : String) (count : Nat) :
    Passive s (Supervisor.hearDiagnostics i uri count s) := by
  unfold Supervisor.hearDiagnostics
  split
  · refine (passive_publish nobody ⟨.diagnostics, .midnight, some (Session.nameOf i), .diagnostics uri count⟩).trans ?_
    dsimp only
    split
    · exact passive_record rfl rfl _
    · exact .refl _
  · exact .refl s

/-- A reader passes on diagnostics. -/
theorem wp_handleDiagnostics (h : Fit t κ γ s) (calm : ¬ γ.doomed t) (params : Members) :
    discipline.wp t (Session.handleDiagnostics i params) (Attends t κ (γ, s)) γ s := by
  unfold Session.handleDiagnostics
  split
  · exact Wp.done (Attends.of_still calm (.refl h))
  · next p _ =>
    refine wp_passive h (passive_setSession
      (f := fun x => { x with diagnostics := Session.putDiagnostics p.uri p.diagnostics x.diagnostics }) (fun _ => rfl) i s)
      fun still => Wp.mono (wp_passively still.fit calm ?_) fun _ _ _ told => .trans still.within told
    split
    · exact passive_record rfl rfl _
    · exact passive_hearDiagnostics still.fit.inv.getters ..
    · exact .refl _

/-- A reader passes on a log message. -/
theorem wp_handleLog (h : Fit t κ γ s) (calm : ¬ γ.doomed t) (params : Members) :
    discipline.wp t (Session.handleLog i params) (Attends t κ (γ, s)) γ s := by
  refine Wp.bind (Wp.ofExcept ?_)
  rcases Session.logLevel ((params.get? "type").getD (.int 4)) with f | level
  · exact Attends.of_still calm (.refl h)
  · rw [Wp.after_ok]
    refine wp_passively h calm ?_
    split
    · exact passive_record rfl rfl s
    · exact passive_publish h.inv.getters _
    · exact .refl s

/-- A reader answers a request of the server. -/
theorem wp_handleRequest (h : Fit t κ γ s) (calm : ¬ γ.doomed t) (use : κ.use = .wait) (fresh : (γ.duty t).Fresh) (r : Request) :
    discipline.wp t (Session.handleRequest i r) (Attends t κ (γ, s)) γ s := by
  refine wp_getOr (fun x _ => ?_) fun _ => Attends.of_still calm (.refl h)
  refine Wp.bind (Wp.ofExcept ?_)
  rcases Session.answerTo r with f | answer
  · exact Attends.of_still calm (.refl h)
  · rw [Wp.after_ok]
    refine Wp.attempt_seq (wp_sendPassive h calm use fresh.poised.toFree.maySend (Server.isRequest_response answer))
      fun r γ₁ s₁ sent => ?_
    have told := sent.1.attends
    split
    · exact ⟨told.1, fun doomed => by cases told.2 doomed⟩
    · -- A connection that is closed is not a task that is cancelled.
      exact ⟨told.1, fun doomed => by cases told.2 doomed⟩
    · exact ⟨told.1, fun doomed => by cases told.2 doomed; rfl⟩

/-- A reader receives a message, notes it and handles it. -/
theorem wp_handleNext (h : Fit t κ γ s) (calm : ¬ γ.doomed t) (use : κ.use = .wait) (fresh : (γ.duty t).Fresh) :
    discipline.wp t (Session.handleNext i) (Attends t κ (γ, s)) γ s := by
  refine wp_getOr (fun x _ => ?_) fun _ => Attends.of_still calm (.refl h)
  refine wp_attend_seq (wp_receive h calm use fresh) fresh fun m γ₁ s₁ fit calm₁ fresh₁ => ?_
  have quiet (asked : (Record.heard i m).answer? = none) (act : Act Unit)
      (run : ∀ s₂, Fit t κ γ₁ s₂ → discipline.wp t act (Attends t κ (γ₁, s₂)) γ₁ s₂) :
      discipline.wp t (Program.update (World.record (.heard i m)) >>= fun _ => act) (Attends t κ (γ₁, s₁)) γ₁ s₁ :=
    wp_passive fit (passive_record rfl asked s₁) fun still =>
      Wp.mono (run _ still.fit) fun _ _ _ told => .trans still.within told
  cases m with
  | response r =>
    refine Wp.mono (wp_hear fit) ?_
    rintro r' γ₂ s₂ ⟨rfl, still⟩
    exact Attends.of_still calm₁ still
  | request r => exact quiet rfl _ fun s₂ fit₂ => wp_handleRequest fit₂ calm₁ use fresh₁ r
  | notification n =>
    refine quiet rfl _ fun s₂ fit₂ => ?_
    simp only [Session.handle, Session.handleNotification]
    split
    · exact wp_handleDiagnostics fit₂ calm₁ _
    · exact wp_handleLog fit₂ calm₁ _
    · exact wp_handleLog fit₂ calm₁ _
    · exact Wp.done (Attends.of_still calm₁ (.refl fit₂))


/-! ## Turns -/

/-- How a turn of a task ends: with nothing in hand, as one that was cancelled if it was, and one that goes on can take its
time. Who was called to ask something hands over how the request has ended. -/
structure Turned (t : Nat) (κ : TaskKind) (r : Except Fault Turn) (γ : Roster) (s : World) : Prop where
  fit : Fit t κ γ s
  clear : (γ.duty t).Clear
  doomed : γ.doomed t → r = .error .cancelled
  onward : ∀ κ', r = .ok (.onward κ') → κ' = κ ∧ κ.IsBackground ∧ (γ.duty t).Fresh
  told : ∀ r', r = r'.map .finished → Told t κ r' γ
  watched : ∀ j x, κ = .exitWatch j → r = .ok x → s.isAlive j = false

/-- A turn that has waited for nothing but a process ends. -/
theorem Attends.turned {r : Except Fault Turn} (h : Attends t κ (γ, s) r γ' s') (back : κ.IsBackground)
    (fresh : (γ.duty t).Fresh) (same : ∀ κ', r = .ok (.onward κ') → κ' = κ)
    (watched : ∀ j x, κ = .exitWatch j → r = .ok x → s'.isAlive j = false) : Turned t κ r γ' s' := by
  have duty : γ'.duty t = γ.duty t := h.1.stays.duty
  exact ⟨h.1.fit, by rw [duty]; exact fresh.toClear, h.2, fun κ' e => ⟨same κ' e, back, by rw [duty]; exact fresh⟩,
    fun _ _ => told_of_background back, watched⟩

/-- One turn of the task that empties the error output of a process. -/
theorem wp_drainTurn (kind : κ = .drain j) (h : Fit t κ γ s) (calm : ¬ γ.doomed t) (fresh : (γ.duty t).Fresh) :
    discipline.wp t (Transport.drainTurn j) (Turned t κ) γ s := by
  have back : κ.IsBackground := by rw [kind]; trivial
  refine Wp.seq (wp_read h calm (by rw [kind]; rfl) fresh) (fun taken γ₁ s₁ attends => ?_) fun f γ₁ s₁ attends => ?_
  · have goes (r : Except Fault Turn) (same : ∀ κ', r = .ok (.onward κ') → κ' = κ) : Turned t κ r γ₁ s₁ :=
      Attends.turned (r := r) ⟨attends.1, fun doomed => by cases attends.2 doomed⟩ back fresh same
        fun _ _ e => by cases kind.symm.trans e
    subst kind
    split
    · exact goes _ fun κ' e => by cases e; rfl
    · refine goes _ fun κ' e => ?_
      split at e <;> cases e
      rfl
    · exact goes _ fun κ' e => by cases e
  · exact Attends.turned (r := .error f) ⟨attends.1, fun doomed => by cases attends.2 doomed; rfl⟩ back fresh
      (fun κ' e => by cases e) fun _ _ _ e => by cases e

/-- A ticket is issued that nobody has. -/
theorem Fit.issueNobodys (h : Fit t κ γ s) : Step t κ (fun s => { s with loop := s.loop.issue.2 }) γ s γ := by
  have outcomes (k : Nat) : s.loop.issue.2.outcome? k = s.loop.outcome? k := Loop.outcome?_issue ..
  refine (acts (.refl t γ) (s.loop.does_issue (P := fun _ => False)) (fun _ e => e.elim)
    (fun k _ _ _ e => (outcomes k).symm.trans e) (fun q _ unsettled r e => ?_) (.of_ledger rfl) (fun _ _ e => e)
    (bill_same rfl rfl)).step ?_ rfl rfl fun k _ e => (outcomes k).symm.trans e
  · cases unsettled.symm.trans ((outcomes _).symm.trans e)
  · exact h.onward (h.inv.onward rfl (fun _ _ h => h) h.inv.tickets.issue s.loop.grows_issue rfl) s.loop.grows_issue rfl rfl rfl

/-- A watch waits for the exit of a living process. -/
theorem Fit.enlist {p : Server} (h : Fit t (.exitWatch j) γ s) (found : s.servers[j]? = some p) (alive : p.isAlive = true) :
    Step t (.exitWatch j) (World.setServer j fun p => { p with exitWaiters := p.exitWaiters ++ [s.loop.tickets.length] }) γ
      { s with loop := s.loop.issue.2 } (γ.own s.loop.tickets.length t .exit) := by
  have fit := h.issueNobodys.still.fit
  have fresh : γ.owner s.loop.tickets.length = none := h.inv.tickets.fresh
  have moves {w : World} : γ.Moves t w (γ.own s.loop.tickets.length t .exit) := .own fresh
  have unsettled := outcome?_next s.loop
  have exits := fit.inv.tickets.awaited.enlist fresh fit.kind found alive unsettled
  have next : ¬ s.loop.issue.2.Fed s.loop.tickets.length := fun fed =>
    ((Loop.Kept.issue s.loop s.loop.tickets.length).unfed fun fed =>
      absurd (h.inv.tickets.fed _ fed) (Nat.lt_irrefl _)).1 fed
  have tickets : Tickets (γ.own s.loop.tickets.length t .exit)
      (({ s with loop := s.loop.issue.2 } : World).setServer j
        fun p => { p with exitWaiters := p.exitWaiters ++ [s.loop.tickets.length] }) :=
    fit.inv.tickets.ownTold rfl fresh (by simp [Loop.issue]) (fun v e =>
      absurd (h.inv.tickets.sane.endings v _ e) (Nat.lt_irrefl _)) next unsettled exits
  have inv : Inv (some t) (γ.own s.loop.tickets.length t .exit)
      (({ s with loop := s.loop.issue.2 } : World).setServer j
        fun p => { p with exitWaiters := p.exitWaiters ++ [s.loop.tickets.length] }) :=
    fit.inv.regardServers rfl rfl (fun i pid here => (World.pidAt?_setServer (by intro p; rfl) j i _).trans here) tickets
      (moves (w := s)).owner rfl
  exact fit.setServer j moves rfl rfl rfl inv fun _ => rfl

/-- The turn of a task that waits for a process to exit. -/
theorem wp_exitWatchTurn (h : Fit t (.exitWatch j) γ s) (calm : ¬ γ.doomed t) (fresh : (γ.duty t).Fresh) :
    discipline.wp t (Transport.exitWatchTurn j) (Turned t (.exitWatch j)) γ s := by
  refine Wp.look ?_
  split
  · next alive =>
    obtain ⟨p, found, lives⟩ : ∃ p, s.servers[j]? = some p ∧ p.isAlive = true := by
      unfold World.isAlive at alive
      split at alive
      · next p found => exact ⟨p, found, alive⟩
      · cases alive
    have issued := h.issueNobodys
    refine Wp.yield _ issued.acts ?_
    have step := h.enlist found lives
    have still := issued.still.trans step.still
    refine Wp.change _ step.acts.ring (Wp.seq (wp_attend step.still.fit calm fresh (outcome?_next s.loop) (γ.own_self ..))
      ?_ ?_)
    · rintro v γ₁ s₁ ⟨attends, outcome⟩
      have calm₁ : ¬ γ₁.doomed t := fun doomed => by cases attends.2 doomed
      refine Attends.turned (r := .ok (.finished .nothing)) ⟨still.trans_within attends.1, fun doomed => absurd doomed calm₁⟩
        trivial fresh (fun κ' e => by cases e) fun j' _ e _ => ?_
      cases e
      have mine := attends.1.stays.owner _ _ (γ.own_self s.loop.tickets.length t .exit)
      obtain ⟨j', p', kind, found', -, gone⟩ := attends.1.fit.inv.tickets.awaited.watches _ _ mine
      cases attends.1.fit.kind.symm.trans kind
      simp only [World.isAlive, found', gone v (outcome calm₁)]
    · rintro f γ₁ s₁ ⟨attends, -⟩
      exact Attends.turned (r := .error f)
        ⟨still.trans_within attends.1, fun doomed => by cases attends.2 doomed; rfl⟩ trivial fresh
        (fun κ' e => by cases e) fun _ _ _ e => by cases e
  · next dead =>
    refine Attends.turned (Attends.of_still calm (.refl h)) trivial fresh (fun κ' e => by cases e) fun j' _ e _ => ?_
    cases e
    exact (Bool.not_eq_true _).mp dead

/-- A reader that ends takes the requests of its session with it, and fails unless the connection is what was lost. -/
theorem wp_readerEnds {f : Fault} (h : Fit t (.reader i) γ s) (found : s.sessions[i]? = some x) (fresh : (γ.duty t).Fresh)
    (doomed : γ.doomed t → f = .cancelled) :
    discipline.wp t (Session.failPending i (.closed (.sessionLost (Session.nameOf i))) >>= fun _ =>
      if f.isTransport then pure (.finished .nothing) else Act.fail f) (Turned t (.reader i)) γ s := by
  refine Wp.seq (wp_failPending h .finish found fresh.closing (.inl ⟨rfl, rfl, rfl⟩)) ?_ ?_
  · rintro _ γ' s' ⟨-, rfl, still, -⟩
    have ends (r : Except Fault Turn) (off : γ.doomed t → r = .error .cancelled) (last : ∀ κ', r ≠ .ok (.onward κ')) :
        Turned t (.reader i) r (γ.charge t ((γ.duty t).wind .finish)) s' := by
      refine ⟨still.fit, ?_, off, fun κ' e => absurd e (last κ'), fun _ _ => told_of_background trivial, fun _ _ e => by cases e⟩
      rw [Roster.charge_self]
      exact ⟨fresh.holds, fresh.queued, fresh.asking, fresh.opening, fun _ e => by cases e⟩
    split
    · next lost =>
      refine ends _ (fun off => ?_) fun κ' e => by cases e
      rw [doomed off] at lost
      cases lost
    · exact ends _ (fun off => by rw [doomed off]) fun κ' e => by cases e
  · rintro f' γ' s' ⟨e, -⟩
    cases e

/-- One turn of the task that reads the messages of a session. -/
theorem wp_readerTurn (kind : κ = .reader i) (h : Fit t κ γ s) (calm : ¬ γ.doomed t) (fresh : (γ.duty t).Fresh) :
    discipline.wp t (Session.readerTurn i) (Turned t κ) γ s := by
  subst kind
  rcases found : s.sessions[i]? with _ | x
  · refine Wp.attempt_seq (P := fun r γ' s' => r = .error (Transport.missing "session") ∧ γ' = γ ∧ s' = s)
      (wp_getOr (fun x e => by cases found.symm.trans e) fun _ => ⟨rfl, rfl, rfl⟩) ?_
    rintro r γ₁ s₁ ⟨rfl, rfl, rfl⟩
    show discipline.wp t (Session.failPending i (.closed (.sessionLost (Session.nameOf i))) >>= fun _ =>
      Act.fail (Transport.missing "session")) _ _ _
    refine Wp.seq (P := fun r γ' s' => (∀ v, r ≠ .ok v) ∧ γ' = γ₁ ∧ s' = s₁)
      (wp_getOr (fun x e => by cases found.symm.trans e) fun _ => ⟨fun _ e => (by cases e), rfl, rfl⟩) ?_ ?_
    · rintro v γ₂ s₂ ⟨fails, -⟩
      exact absurd rfl (fails v)
    · rintro f γ₂ s₂ ⟨-, rfl, rfl⟩
      exact ⟨h, fresh.toClear, fun doomed => absurd doomed calm, fun κ' e => (by cases e), fun _ _ => told_of_background trivial,
        fun _ _ e => by cases e⟩
  · refine Wp.attempt_seq (wp_handleNext h calm rfl fresh) fun r γ₁ s₁ attends => ?_
    have on (live : r ≠ .error .cancelled) : Turned t (.reader i) (.ok (.onward (.reader i))) γ₁ s₁ :=
      Attends.turned (r := .ok (.onward (.reader i))) ⟨attends.1, fun doomed => absurd (attends.2 doomed) live⟩ trivial
        fresh (fun κ' e => by cases e; rfl) fun _ _ e => by cases e
    split
    · exact on fun e => by cases e
    · next f =>
      split
      · next passed => exact on fun e => by cases e; cases passed
      · have last : (s₁.sessions[i]?).map Session.options = some x.options :=
          attends.1.stays.lasts.options i x.options (by rw [found]; rfl)
        obtain ⟨y, found', -⟩ := Option.map_eq_some_iff.mp last
        have duty : γ₁.duty t = γ.duty t := attends.1.stays.duty
        exact wp_readerEnds attends.1.fit found' (by rw [duty]; exact fresh) fun doomed => by cases attends.2 doomed; rfl

/-- One turn of a task. -/
theorem wp_turn (h : Fit t κ γ s) (calm : ¬ γ.doomed t) (fresh : (γ.duty t).Fresh) (silent : ∀ q ∈ γ.asks, q.task ≠ t) :
    discipline.wp t (Client.turn κ) (Turned t κ) γ s := by
  have sessional := h.inv.tasks.kinds t κ h.kind
  cases κ with
  | reader i => exact wp_readerTurn rfl h calm fresh
  | drain j => exact wp_drainTurn rfl h calm fresh
  | exitWatch j => exact wp_exitWatchTurn h calm fresh
  | call c =>
    have ends (r : Except Fault Turn) (last : ∀ κ', r ≠ .ok (.onward κ')) {γ' : Roster} {s' : World}
        (rested : Rested t (.call c) γ' s') (told : ∀ r', r = r'.map .finished → Told t (.call c) r' γ') :
        Turned t (.call c) r γ' s' :=
      ⟨rested.fit, rested.clear, fun doomed => absurd doomed (rested.fit.calm fun back => back), fun κ' e => absurd e (last κ'),
        told, fun _ _ e => by cases e⟩
    refine Wp.seq (wp_runCall rfl h fresh silent) (fun v γ' s' ended => ends (.ok (.finished v)) (fun κ' e => by cases e) ended.1
      fun r' e => ?_) fun f γ' s' ended => ends (.error f) (fun κ' e => by cases e) ended.1 fun r' e => ?_
    · cases r' <;> cases e
      exact ended.2
    · cases r' <;> cases e
      exact ended.2
  | trace => exact sessional.elim
  | showEvents => exact sessional.elim
  | terminal => exact sessional.elim

end Clock

end LspHost

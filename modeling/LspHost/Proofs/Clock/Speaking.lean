import LspHost.Proofs.Clock.Locks

/-!
# Messages in time

A message is written while its sender holds the lock of the pipe, which takes no time. A request that is written is
noted as written (`Roster.utter`); other messages leave the ledger alone.

`wp_send` is about both: what is written may change what the sender has in hand, and nothing else does.
-/

namespace LspHost

/-- What a request says is a request. -/
theorem Server.isRequest_request (r : Request) :
    Server.isRequest ((Message.request r).wireMembers.filter fun e => e.1 ≠ "jsonrpc") = true := by
  obtain ⟨id, method, params⟩ := r
  rcases params with _ | params <;>
    simp [isRequest, Message.wireMembers, Request.toMembers, Members.get?, Gaps.field, List.lookup_cons]

theorem Server.isRequest_notification (n : Notification) :
    Server.isRequest ((Message.notification n).wireMembers.filter fun e => e.1 ≠ "jsonrpc") = false := by
  obtain ⟨method, params⟩ := n
  rcases params with _ | params <;>
    simp [isRequest, Message.wireMembers, Notification.toMembers, Members.get?, Gaps.field, List.lookup_cons]

theorem Server.isRequest_response (r : Response) :
    Server.isRequest ((Message.response r).wireMembers.filter fun e => e.1 ≠ "jsonrpc") = false := by
  obtain ⟨id, result, error⟩ := r
  rcases id with _ | id <;> rcases result with _ | result <;> rcases error with _ | error <;>
    simp [isRequest, Message.wireMembers, Response.wireMembers, Members.get?, Gaps.field, List.lookup_cons]

namespace World

/-- A message is written to a process. -/
def write (server : Nat) (m : Members) (s : World) : World :=
  match s.servers[server]? with
  | some p =>
    if p.isListening then
      (s.record (.sent p.pid (m.filter fun e => e.1 ≠ "jsonrpc"))).withServer server (Server.receive server m)
    else s.recordRefusal server
  | none => s

/-- What is recorded for others concerns neither requests nor responses. -/
theorem ledger_record {r : Record} (asked : r.asked? = none) (answer : r.answer? = none) (s : World) :
    (s.record r).ledger = s.ledger := by
  simp only [ledger, record, requests, answers, List.filterMap_cons, asked, answer]

/-- A request that is written. -/
theorem requests_record {r : Record} {e : Nat × Members} (asked : r.asked? = some e) (s : World) :
    (s.record r).requests = s.requests ++ [e] := by
  simp only [requests, record, List.filterMap_cons, asked, List.reverse_cons]

end World

namespace Clock

open Discipline

variable {t i j : Nat} {o : Option Nat} {κ : TaskKind} {γ γ' : Roster} {s s' : World} {m : Members} {d : Duty} {q : Inquiry}
  {a b : Roster × World} {α β : Type}

theorem passive_record {r : Record} (asked : r.asked? = none) (answer : r.answer? = none) (s : World) :
    Passive s (s.record r) := .still (World.ledger_record asked answer s) rfl rfl

theorem passive_recordRefusal (j : Nat) (s : World) : Passive s (s.recordRefusal j) := by
  unfold World.recordRefusal
  split
  · exact passive_record rfl rfl s
  · exact .refl s

/-- Whatever asks for nothing is written passively. -/
theorem passive_write (asks : Server.isRequest (m.filter fun e => e.1 ≠ "jsonrpc") = false) (j : Nat) (s : World) :
    Passive s (s.write j m) := by
  unfold World.write
  split
  · split
    · refine (passive_record ?_ rfl s).trans (.withServer j (Living.stirs_receive j m) _)
      simp only [Record.asked?, asks, Bool.false_eq_true, if_false]
    · exact passive_recordRefusal j s
  · exact .refl s

/-! ## Requests -/

/-- What a task has in hand when its request is written, or not to be written any more. -/
def Duty.mark (d : Duty) (unsent : Bool) : Duty := { d with unsent := unsent }

/-- A request is written to a process. -/
def Roster.utter (γ : Roster) (t : Nat) (q : Inquiry) (pid : Nat) : Roster :=
  { γ.charge t ((γ.duty t).mark false) with written := γ.written ++ [(q, pid)] }

/-- What the roster of a request that is written is like apart from that. -/
theorem Inv.utter {m' : Members} (h : Inv o γ s) (asking : (γ.duty t).asking = some q) (unsent : (γ.duty t).unsent = true)
    (message : q.message? = some m') (asks : Server.isRequest m' = true) {pid : Nat} (home : γ.home pid = some q.session) :
    Inv o (γ.utter t q pid) (s.record (.sent pid m')) := by
  have alike : (γ.duty t).Alike ((γ.duty t).mark false) := ⟨rfl, rfl⟩
  obtain ⟨known, task, going⟩ := h.asked.asking t q asking
  have asked : Asked (γ.utter t q pid) (s.record (.sent pid m')).ledger s.loop :=
    { h.asked with
      asking := fun u q e => h.asked.asking u q ((alike.charge u).asking.symm.trans e)
      finished := fun q' hq' => by
        rw [show ((γ.utter t q pid).duty q'.task).asking = _ from (alike.charge q'.task).asking]
        exact h.asked.finished q' hq'
      unheard := fun u q e => h.asked.unheard u q ((alike.charge u).asking.symm.trans e)
      requests := by
        show (s.record (.sent pid m')).requests = (γ.written ++ [(q, pid)]).filterMap fun w => w.1.message?.map (Prod.mk w.2)
        rw [World.requests_record (e := (pid, m')) (by simp only [Record.asked?, asks, if_true]), List.filterMap_append,
          show s.requests = _ from h.asked.requests]
        simp only [List.filterMap_cons, message, Option.map_some, List.filterMap_nil]
      written := by
        refine ⟨?_, fun w hw => ?_⟩
        · show ((γ.written ++ [(q, pid)]).map Prod.fst).Nodup
          rw [List.map_append]
          refine List.nodup_append.mpr ⟨h.asked.written.1, List.nodup_singleton q, ?_⟩
          rintro a ha b hb rfl
          rw [List.mem_singleton.mp hb] at ha
          exact h.asked.unsent t q asking unsent ha
        · rcases List.mem_append.mp hw with old | new
          · exact h.asked.written.2 w old
          · rw [List.mem_singleton.mp new, message]
            exact ⟨known, rfl, home⟩
      unsent := fun u q' e e' => by
        have ne : u ≠ t := by
          rintro rfl
          rw [show (γ.utter u q pid).duty u = (γ.duty u).mark false from γ.charge_self u _] at e'
          cases e'
        rw [show (γ.utter t q pid).duty u = γ.duty u from γ.charge_ne _ ne] at e e'
        intro mem
        rw [show (γ.utter t q pid).written = γ.written ++ [(q, pid)] from rfl, List.map_append] at mem
        rcases List.mem_append.mp mem with old | new
        · exact h.asked.unsent u q' e e' old
        · rw [List.mem_singleton.mp new] at e
          exact ne ((h.asked.asking u q e).2.1.symm.trans task) }
  exact
    { tickets := { h.tickets with
        proper := fun k u use r e e' => ⟨(h.tickets.proper k u use r e e').relay, (h.tickets.proper k u use r e e').wait⟩
        awaited := { h.tickets.awaited with } }
      tasks := { h.tasks with }
      locked := fun p => by
        have locked := ((h.locked p).charge (t := t) (d := (γ.duty t).mark false) (fun _ => .rfl) fun e => e)
        have same : (s.record (.sent pid m')).ledger.lock p = s.ledger.lock p := by cases p <;> rfl
        exact { (locked.of_lock same) with }
      queuers := fun u p k e => by
        refine h.queuers u p k ?_
        by_cases same : u = t
        · subst same
          rwa [show (γ.utter u q pid).duty u = (γ.duty u).mark false from γ.charge_self u _] at e
        · rwa [show (γ.utter t q pid).duty u = γ.duty u from γ.charge_ne _ same] at e
      asked := asked
      tables := { (h.tables.charge alike) with }
      servers := h.servers
      homes := h.homes
      idle := h.idle
      getters := h.getters
      plain := h.plain }

/-- Something is recorded first. -/
theorem Acts.of_record {f g : World → World} {r : Record} {γ'' : Roster} (h : Acts t g (γ', s.record r) γ'')
    (same : f s = g (s.record r)) (answer : r.answer? = none) (moves : γ.Moves t (s.record r) γ') (asks : γ'.asks = γ.asks)
    (quota : (γ'.duty t).quota = (γ.duty t).quota) (closing : (γ'.duty t).closing = (γ.duty t).closing) :
    Acts t f (γ, s) γ'' := by
  have base : Acts t (World.record r) (γ, s) γ' := by
    refine acts (P := fun _ => False) moves (.refl _) (fun _ e => e.elim) (fun _ _ _ _ e => e)
      (fun q _ unsettled r' e => ?_) ⟨Nat.le_refl _, fun _ _ e => e, rfl⟩ (fun _ _ e => e)
      (quota.trans (bill_same rfl rfl))
    cases unsettled.symm.trans e
  have answers : (s.record r).answers = s.answers := by
    simp only [World.answers, World.record, List.filterMap_cons, answer]
  exact
    { drives := by rw [same]; exact h.drives
      onward := by rw [same]; exact base.onward.trans h.onward
      endings := by rw [same]; exact h.endings
      spares := fun u ne => by rw [same]; exact (base.spares u ne).trans (h.spares u ne)
      alarms := fun u ne => (h.alarms u ne).trans (base.alarms u ne)
      closing := by rw [same, ← closing]; exact h.closing
      made := fun q mem new => by
        rw [same]
        exact h.made q mem (by rw [asks]; exact new)
      rightly := fun q hq unsettled r' e => by
        rw [same] at e
        have rightly := h.rightly q (moves.asks q hq) unsettled r' e
        simp only [Rightly, answers] at rightly ⊢
        exact rightly
      bill := by
        rw [same, ← quota]
        exact h.bill }

/-- A task writes its request. -/
theorem Fit.utter (h : Fit t κ γ s) (asking : (γ.duty t).asking = some q) (unsent : (γ.duty t).unsent = true)
    (message : q.message? = some (m.filter fun e => e.1 ≠ "jsonrpc"))
    (asks : Server.isRequest (m.filter fun e => e.1 ≠ "jsonrpc") = true) (held : s.serverOf? q.session = some j) :
    ∃ γ' b, γ'.doomed = γ.doomed ∧ Acts t (World.write j m) (γ, s) γ' ∧
      Still t κ (γ.charge t ((γ.duty t).mark b), s) (γ', s.write j m) := by
  -- Whoever does not listen any more is told nothing.
  have quiet (p : Passive s (s.write j m)) :
      ∃ γ' b, γ'.doomed = γ.doomed ∧ Acts t (World.write j m) (γ, s) γ' ∧
      Still t κ (γ.charge t ((γ.duty t).mark b), s) (γ', s.write j m) := by
    have step := h.passive (f := World.write j m) p
    refine ⟨γ, true, rfl, step.acts, ?_⟩
    rw [← unsent, show (γ.duty t).mark (γ.duty t).unsent = γ.duty t from rfl, Roster.charge_duty]
    exact step.still
  rcases found : s.servers[j]? with _ | p
  · exact quiet (by simp only [World.write, found]; exact .refl s)
  · rcases listening : p.isListening with _ | _
    · refine quiet ?_
      simp only [World.write, found, listening, Bool.false_eq_true, if_false]
      exact passive_recordRefusal j s
    · have same : s.write j m =
          (s.record (.sent p.pid (m.filter fun e => e.1 ≠ "jsonrpc"))).withServer j (Server.receive j m) := by
        simp only [World.write, found, listening, if_true]
      have home : γ.home p.pid = some q.session := by
        obtain ⟨T, there, server⟩ := Option.bind_eq_some_iff.mp held
        obtain ⟨pid, here, home⟩ := h.inv.servers _ T j there server
        simp only [World.pidAt?, found, Option.map_some] at here
        rwa [Option.some.inj here]
      have fit : Fit t κ (γ.utter t q p.pid) (s.record (.sent p.pid (m.filter fun e => e.1 ≠ "jsonrpc"))) :=
        { inv := h.inv.utter asking unsent message asks home
          kind := h.kind
          alarm := h.alarm
          limit := by
            rw [show (γ.utter t q p.pid).duty t = (γ.duty t).mark false from γ.charge_self t _]
            exact h.limit }
      have passive := Passive.withServer j (Living.stirs_receive j m)
        (s.record (.sent p.pid (m.filter fun e => e.1 ≠ "jsonrpc")))
      have step := fit.passive (f := fun s => s.withServer j (Server.receive j m)) passive
      have moves {w : World} : γ.Moves t w (γ.utter t q p.pid) :=
        { Roster.Moves.charge (t := t) (s := w) (γ := γ) (d := (γ.duty t).mark false) (.of_eq rfl) with }
      have acts : Acts t (World.write j m) (γ, s) (γ.utter t q p.pid) := by
        have duty : (γ.utter t q p.pid).duty t = (γ.duty t).mark false := γ.charge_self t _
        exact step.acts.of_record same rfl moves rfl (by rw [duty]; rfl) (by rw [duty]; rfl)
      refine ⟨γ.utter t q p.pid, false, rfl, acts, ?_⟩
      have still := Still.shift acts.onward (by rw [same]; exact step.still.fit) rfl (by rw [same]; exact step.still.now)
        fun k e => ?_
      · rwa [show (γ.utter t q p.pid).duty t = (γ.duty t).mark false from γ.charge_self t _] at still
      · rw [same] at e
        rcases passive.told k _ e with old | e
        · exact old
        · cases e

/-! ## To write a message -/

/-- What is left of a task that has said something: its request may be written now, and it fails as one may say. -/
structure Said (B : Bool → Prop) (F : Fault → Prop) (t : Nat) (κ : TaskKind) (a : Roster × World) (r : Except Fault Unit)
    (b : Roster × World) : Prop where
  still : ∃ unsent, B unsent ∧ Still t κ (a.1.charge t ((a.1.duty t).mark unsent), a.2) b
  doomed : b.1.doomed t → r = .error .cancelled
  fails : ∀ f, r = .error f → F f ∨ b.1.doomed t

/-- A task may write a message to the process of a transport, and afterwards its request is written or not as one may say. -/
def MayWrite (B : Bool → Prop) (t : Nat) (κ : TaskKind) (i : Nat) (m : Members) (d : Duty) : Prop :=
  B d.unsent ∧ ∀ j γ s, Fit t κ γ s → s.serverOf? i = some j → (γ.duty t).asking = d.asking → (γ.duty t).unsent = d.unsent →
    ∃ γ' b, B b ∧ γ'.doomed = γ.doomed ∧ Acts t (World.write j m) (γ, s) γ' ∧
      Still t κ (γ.charge t ((γ.duty t).mark b), s) (γ', s.write j m)

/-- Whoever asks for nothing may write. -/
theorem mayWrite_passive (asks : Server.isRequest (m.filter fun e => e.1 ≠ "jsonrpc") = false) :
    MayWrite (fun b => b = d.unsent) t κ i m d := by
  refine ⟨rfl, fun j γ s h _ _ unsent => ?_⟩
  have step := h.passive (f := World.write j m) (passive_write asks j s)
  refine ⟨γ, _, rfl, rfl, step.acts, ?_⟩
  rw [← unsent, show (γ.duty t).mark (γ.duty t).unsent = γ.duty t from rfl, Roster.charge_duty]
  exact step.still

/-- Who has a request to write may write it. -/
theorem mayWrite_request (asking : d.asking = some q) (unsent : d.unsent = true)
    (message : q.message? = some (m.filter fun e => e.1 ≠ "jsonrpc"))
    (asks : Server.isRequest (m.filter fun e => e.1 ≠ "jsonrpc") = true) : MayWrite (fun _ => True) t κ q.session m d := by
  refine ⟨trivial, fun j γ s h held asks' unsent' => ?_⟩
  obtain ⟨γ', b, same, acts, still⟩ := h.utter (asks'.trans asking) (unsent'.trans unsent) message asks held
  exact ⟨γ', b, trivial, same, acts, still⟩

theorem wp_heldServer (use : String) (γ : Roster) (s : World) :
    discipline.wp t (Transport.heldServer i use) (fun r γ' s' => γ' = γ ∧ s' = s ∧
      ((∃ j, r = .ok j ∧ s.serverOf? i = some j) ∨ r = .error (Transport.missing use) ∧ s.serverOf? i = none)) γ s := by
  refine Wp.look ?_
  split
  · next j held => exact ⟨rfl, rfl, .inl ⟨j, rfl, held⟩⟩
  · next none => exact ⟨rfl, rfl, .inr ⟨rfl, none⟩⟩

/-- A task that goes on with no more to say. -/
theorem Said.of_still {B : Bool → Prop} {F : Fault → Prop} {r : Except Fault Unit} (idle : B (γ.duty t).unsent) (still : Still t κ (γ, s) b)
    (doomed : b.1.doomed t → r = .error .cancelled) (fails : ∀ f, r = .error f → F f ∨ b.1.doomed t) :
    Said B F t κ (γ, s) r b := by
  refine ⟨⟨_, idle, ?_⟩, doomed, fails⟩
  show Still t κ (γ.charge t ((γ.duty t).mark (γ.duty t).unsent), s) b
  rw [show (γ.duty t).mark (γ.duty t).unsent = γ.duty t from rfl, Roster.charge_duty]
  exact still

/-- A task that holds the lock of a pipe writes a message. -/
theorem wp_deliver {B : Bool → Prop} (h : Fit t κ γ s) (calm : ¬ γ.doomed t) (queued : (γ.duty t).queued = none)
    (closing : (γ.duty t).closing = .none) (may : MayWrite B t κ i m (γ.duty t)) :
    discipline.wp t (Transport.deliver i m) (fun r γ' s' => Said B Cut t κ (γ, s) r (γ', s')) γ s := by
  refine Wp.seq (wp_heldServer "stdin" γ s) ?_ ?_
  · rintro j γ' s' ⟨rfl, rfl, found⟩
    have held : s'.serverOf? i = some j := by
      rcases found with ⟨j', e, held⟩ | ⟨e, -⟩
      · cases e
        exact held
      · cases e
    obtain ⟨γ₁, b, hb, same, acts, still⟩ := may.2 j _ _ h held rfl rfl
    have duty : γ₁.duty t = (γ'.duty t).mark b := still.stays.duty.trans (Roster.charge_self ..)
    have said {r : Except Fault Unit} {γ₂ : Roster} {s₂ : World} (more : Still t κ (γ₁, World.write j m s') (γ₂, s₂))
        (doomed : γ₂.doomed t → r = .error .cancelled) (fails : ∀ f, r = .error f → Cut f ∨ γ₂.doomed t) :
        Said B Cut t κ (γ', s') r (γ₂, s₂) := ⟨⟨b, hb, still.trans more⟩, doomed, fails⟩
    refine Wp.change (f := World.write j m) γ₁ acts (Wp.seq (P := fun r γ₂ s₂ =>
      Goes t κ (γ₁, World.write j m s') r γ₂ s₂ ∧ (¬ γ₂.doomed t → r = .ok ()))
      (wp_rest still.fit (by rw [same]; exact calm) (by rw [duty]; exact queued) (by rw [duty]; exact closing)
        fun γ₂ s₂ r goes ok => ⟨goes, ok⟩) ?_ ?_)
    · intro _ γ₂ s₂ goes
      obtain ⟨⟨more, doomed⟩, -⟩ := goes
      have calm' : ¬ γ₂.doomed t := fun e => by cases doomed e
      refine Wp.look ?_
      split
      · next reason _ =>
        have step := more.fit.passive (f := World.recordRefusal j) (passive_recordRefusal j s₂)
        refine Wp.change _ step.acts (said (more.trans step.still) (fun e => absurd e calm') fun f e => ?_)
        cases e
        exact .inl (.inr (.inl ⟨reason, rfl⟩))
      · exact said more (fun e => absurd e calm') fun f e => by cases e
    · intro f γ₂ s₂ goes
      obtain ⟨⟨more, doomed⟩, ok⟩ := goes
      refine said more (fun e => by cases doomed e; rfl) fun f' e => ?_
      by_cases off : γ₂.doomed t
      · exact .inr off
      · cases ok off
  · rintro f γ' s' ⟨rfl, rfl, ⟨j, e, -⟩ | ⟨e, -⟩⟩
    · cases e
    · cases e
      exact .of_still may.1 (.refl h) (fun e => absurd e calm) fun f e => by cases e; exact .inl (.inr (.inr rfl))

/-- A task changes the world passively, and goes on. -/
theorem wp_passive {f : World → World} {g : Unit → Act β} {Q : Except Fault β → Roster → World → Prop} (h : Fit t κ γ s)
    (passive : Passive s (f s)) (next : Still t κ (γ, s) (γ, f s) → discipline.wp t (g ()) Q γ (f s)) :
    discipline.wp t (Program.update f >>= g) Q γ s :=
  Wp.change γ (h.passive passive).acts (next (h.passive passive).still)

/-- A task that has these things in hand may take the lock of a pipe. -/
structure Duty.MaySend (d : Duty) : Prop where
  queued : d.queued = none
  closing : d.closing = .none
  pipes : ∀ i, .writing i ∉ d.holds

theorem Duty.Free.maySend (h : d.Free) : d.MaySend := ⟨h.queued, h.closing, h.pipes⟩

/-- A task sends a message. -/
theorem wp_send {B : Bool → Prop} (h : Fit t κ γ s) (calm : ¬ γ.doomed t) (use : κ.use = .wait) (free : (γ.duty t).MaySend)
    (may : MayWrite B t κ i m (γ.duty t)) :
    discipline.wp t (Transport.send i m) (fun r γ' s' => Said B Cut t κ (γ, s) r (γ', s')) γ s := by
  refine Wp.look ?_
  split
  · next connected =>
    have there : (Place.writing i).Exists s := by
      rcases Nat.lt_or_ge i s.transports.length with inside | outside
      · exact inside
      · simp only [World.isConnected, World.serverOf?, List.getElem?_eq_none outside, Option.bind_none,
          Bool.false_eq_true] at connected
    have passing : Place.writing i ≠ .lifecycle := Ne.symm Place.lifecycle_ne_writing
    have taking : (γ.duty t).MayTake (.writing i) := ⟨free.queued, free.closing, free.pipes, fun _ => ⟨i, rfl⟩⟩
    show discipline.wp t (Act.locked (Place.writing i).toLockPlace (Transport.deliver i m)) _ γ s
    refine wp_locked (R := fun r γ₂ s₂ => ∃ γ₁ s₁, Took t κ (.writing i) s.loop.now (γ, s) (γ₁, s₁) ∧
      Said B Cut t κ (γ₁, s₁) r (γ₂, s₂)) h calm use there taking (.inl ⟨passing, rfl⟩) (fun γ₁ s₁ took => ?_) ?_ ?_ fun γ₁ s₁ missed => ?_
    · have duty := (took.held passing).1
      refine Wp.mono (wp_deliver (B := B) took.fit took.calm (by rw [duty]; exact free.queued) (by rw [duty]; exact free.closing)
        ?_) fun r γ₂ s₂ said => ⟨γ₁, s₁, took, said⟩
      rw [duty]
      exact may
    · rintro r γ₂ s₂ ⟨γ₁, s₁, took, said⟩
      obtain ⟨b, -, still⟩ := said.still
      refine ⟨still.fit, exists_lasts there (took.stays.lasts.trans still.stays.lasts), ?_⟩
      rw [show γ₂.duty t = (γ₁.duty t).mark b from still.stays.duty.trans (Roster.charge_self ..), (took.held passing).1]
      exact free.queued
    · rintro r γ₂ s₂ s₃ ⟨γ₁, s₁, took, said⟩ released
      obtain ⟨b, hb, still⟩ := said.still
      obtain ⟨duty, now⟩ := took.held passing
      have back : (γ₂.duty t).drop (.writing i) = (γ.duty t).mark b := by
        rw [show γ₂.duty t = (γ₁.duty t).mark b from still.stays.duty.trans (Roster.charge_self ..), duty]
        simp only [Duty.hold, Duty.mark, Duty.drop, List.erase_cons_head]
      have stays := (took.stays.next still.stays (by rw [show (γ₁, s₁).1.duty t = _ from duty]; rfl)).next released.stays
        (by rw [back, show (γ₁, s₁).1.duty t = _ from duty]; rfl)
      rw [back] at stays released ⊢
      exact ⟨⟨b, hb, released.fit, stays, released.now.trans (still.now.trans now)⟩, said.doomed, said.fails⟩
    · have still : Still t κ (γ, s) (γ₁, s₁) :=
        ⟨missed.fit, missed.stays, Nat.le_antisymm (by exact_mod_cast missed.time) missed.stays.time⟩
      exact .of_still may.1 still (fun _ => rfl) fun f e => .inr missed.doomed
  · refine wp_passive h ?_ fun still => .of_still may.1 still (fun e => absurd e calm) fun f e => ?_
    · split
      · exact passive_recordRefusal _ s
      · exact .refl s
    · cases e
      exact .inl (.inl rfl)

/-- A task that has no request to write sends a message. -/
theorem wp_sendPassive (h : Fit t κ γ s) (calm : ¬ γ.doomed t) (use : κ.use = .wait) (free : (γ.duty t).MaySend)
    (asks : Server.isRequest (m.filter fun e => e.1 ≠ "jsonrpc") = false) :
    discipline.wp t (Transport.send i m) (fun r γ' s' => Goes t κ (γ, s) r γ' s' ∧
      ∀ f, r = .error f → Unwritten f ∨ γ'.doomed t) γ s := by
  refine Wp.mono (wp_send h calm use free (mayWrite_passive asks)) fun r γ' s' said => ?_
  obtain ⟨b, rfl, still⟩ := said.still
  rw [show (γ.duty t).mark (γ.duty t).unsent = γ.duty t from rfl, Roster.charge_duty] at still
  exact ⟨⟨still, said.doomed⟩, fun f e => (said.fails f e).imp_left .inr⟩

/-- A task looks up a session, or fails at once. -/
theorem wp_getOr {g : Session → Act β} {Q : Except Fault β → Roster → World → Prop}
    (next : ∀ x, s.sessions[i]? = some x → discipline.wp t (g x) Q γ s)
    (missing : s.sessions[i]? = none → Q (.error (Transport.missing "session")) γ s) :
    discipline.wp t (Session.get i >>= g) Q γ s := by
  refine Wp.bind (Wp.look ?_)
  split
  · next x found => exact next x found
  · next none => exact missing none

/-- A task looks up a session that there is. -/
theorem wp_getKnown {x : Session} {g : Session → Act β} {Q : Except Fault β → Roster → World → Prop}
    (found : s.sessions[i]? = some x) (next : discipline.wp t (g x) Q γ s) :
    discipline.wp t (Session.get i >>= g) Q γ s := by
  refine wp_getOr (fun y found' => ?_) fun none => ?_
  · cases found.symm.trans found'
    exact next
  · cases found.symm.trans none

/-- A task sends a notification. -/
theorem wp_notify {method : String} {params : Json} (h : Fit t κ γ s) (foreground : ¬ κ.IsBackground)
    (free : (γ.duty t).MaySend) :
    discipline.wp t (Session.notify i method params) (fun _ γ' s' => Still t κ (γ, s) (γ', s')) γ s := by
  refine wp_getOr (fun x _ => ?_) fun _ => .refl h
  split
  · exact Wp.mono (wp_sendPassive h (h.calm foreground) (use_of_foreground foreground) free (Server.isRequest_notification _)) fun r γ' s' said => said.1.1
  · exact .refl h

end Clock

end LspHost

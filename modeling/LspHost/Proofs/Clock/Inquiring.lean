import LspHost.Proofs.Clock.Speaking

/-!
# Requests in time

A request gets its number, its ticket and its entry in the table of pending requests in one go (`Fit.pose`). It is
written, and waited for until its time is up. Whatever comes of that, its entry is gone in the end, and the roster knows
how it has ended (`wp_ask`).
-/

namespace LspHost

namespace Session

/-- A change of a session that those who wait for nothing but diagnostics do not see. -/
def Frank (f : Session → Session) : Prop := ∀ x, (f x).bare = f x.bare

/-- A session with one more request. -/
def pose (n k : Nat) (x : Session) : Session :=
  { x with lastRequest := x.lastRequest + 1, pending := x.pending ++ [(n, k)] }

end Session

/-- The ledger with another session. -/
def Ledger.setSession (L : Ledger) (i : Nat) (f : Session → Session) : Ledger :=
  { L with sessions := L.sessions.modify i f }

theorem World.ledger_setSession {f : Session → Session} (frank : Session.Frank f) (i : Nat) (s : World) :
    (s.setSession i f).ledger = s.ledger.setSession i f := by
  have sessions : (s.sessions.modify i f).map Session.bare = (s.sessions.map Session.bare).modify i f := by
    apply List.ext_getElem?
    intro j
    simp only [List.getElem?_map, List.getElem?_modify]
    rcases s.sessions[j]? with _ | x
    · rfl
    · by_cases e : i = j
      · simp [e, frank x]
      · simp [e]
  simp only [ledger, setSession, Ledger.setSession, sessions]
  rfl

namespace Ledger

variable {L : Ledger} {i j : Nat} {f : Session → Session} {y : Session}

/-- A session of a ledger with another session is an old one, or the other one. -/
theorem getElem?_setSession (found : (L.setSession i f).sessions[j]? = some y) :
    (j ≠ i ∧ L.sessions[j]? = some y) ∨ ∃ x, j = i ∧ L.sessions[i]? = some x ∧ y = f x := by
  simp only [setSession, List.getElem?_modify] at found
  obtain ⟨x, at_, rfl⟩ := Option.map_eq_some_iff.mp found
  by_cases e : i = j
  · subst e
    exact .inr ⟨x, rfl, at_, by simp⟩
  · exact .inl ⟨Ne.symm e, by simpa [e] using at_⟩

theorem setSession_self {x : Session} (found : L.sessions[i]? = some x) : (L.setSession i f).sessions[i]? = some (f x) := by
  simp [setSession, found]

theorem setSession_ne (h : j ≠ i) : (L.setSession i f).sessions[j]? = L.sessions[j]? := by
  simp [setSession, Ne.symm h]

@[simp] theorem length_setSession : (L.setSession i f).sessions.length = L.sessions.length := by simp [setSession]

theorem lock_setSession (p : Place) : (L.setSession i f).lock p = L.lock p := by cases p <;> rfl

end Ledger

/-- What a ledger knows of a session. -/
theorem World.ledger_session {s : World} {i : Nat} {x : Session} (found : s.sessions[i]? = some x) :
    s.ledger.sessions[i]? = some x.bare := by
  simp only [ledger, List.getElem?_map, found, Option.map_some]

namespace Clock

open Discipline

variable {t u i k : Nat} {o : Option Nat} {κ : TaskKind} {γ γ' : Roster} {s s' : World} {L : Ledger} {l : Loop} {m : Members} {d : Duty}
  {q : Inquiry} {f : Session → Session} {x : Session} {a b : Roster × World} {α β : Type}

/-! ## A session changes -/

/-- A task changes something that the event loop does not see. -/
theorem acts_silent {f : World → World} (moves : γ.Moves t (f s) γ') (loop : (f s).loop = s.loop) (lasts : s.Lasts (f s))
    (dead : ∀ i, γ.used i → (f s).isConnected i = true → s.isConnected i = true)
    (bill : (γ'.duty t).quota = World.bill t s (f s) (γ.duty t).quota) : Acts t f (γ, s) γ' := by
  refine acts (P := fun _ => False) moves (by rw [loop]; exact .refl _) (fun _ e => e.elim)
    (fun _ _ _ _ e => by rwa [loop] at e) (fun q _ unsettled r e => ?_) lasts dead bill
  rw [loop] at e
  cases unsettled.symm.trans e

theorem lasts_setSession (options : ∀ x, (f x).options = x.options) (i : Nat) (s : World) : s.Lasts (s.setSession i f) := by
  refine ⟨Nat.le_refl _, fun j o e => ?_, rfl⟩
  simp only [World.setSession, List.getElem?_modify] at e ⊢
  rcases found : s.sessions[j]? with _ | x
  · simp [found] at e
  · by_cases same : i = j <;> simpa [found, same, options] using e

theorem acts_setSession (options : ∀ x, (f x).options = x.options) (moves : γ.Moves t (s.setSession i f) γ')
    (quota : (γ'.duty t).quota = (γ.duty t).quota) : Acts t (World.setSession i f) (γ, s) γ' :=
  acts_silent moves rfl (lasts_setSession options i s) (fun _ _ e => e) (quota.trans (bill_same rfl rfl))

theorem Tasks.setSession (h : Tasks o γ L l)
    (readers : ∀ x e, L.sessions[i]? = some x → (f x).reader = some e →
      ∃ u, l.ending? u = some e ∧ l.kind? u = some (.reader i)) : Tasks o γ (L.setSession i f) l :=
  { h with
    readers := fun j y e found reader => by
      rcases Ledger.getElem?_setSession found with ⟨-, old⟩ | ⟨x, rfl, old, rfl⟩
      · exact h.readers j y e old reader
      · exact readers x e old reader }

theorem Asked.setSession (h : Asked γ L l) (last : ∀ x, (f x).lastRequest = x.lastRequest)
    (options : ∀ x, (f x).options = x.options) : Asked γ (L.setSession i f) l :=
  { h with
    numbers := fun j y found => by
      rcases Ledger.getElem?_setSession found with ⟨-, old⟩ | ⟨x, rfl, old, rfl⟩
      · exact h.numbers j y old
      · rw [last]; exact h.numbers j x old
    sessions := fun q hq => by rw [Ledger.length_setSession]; exact h.sessions q hq
    patience := fun q hq => by
      obtain ⟨κ, x, kind, found, rest⟩ := h.patience q hq
      by_cases e : q.session = i
      · rw [e] at found ⊢
        exact ⟨κ, f x, kind, Ledger.setSession_self found, by rw [options]; exact rest⟩
      · exact ⟨κ, x, kind, (Ledger.setSession_ne e).trans found, rest⟩ }

/-- Two rosters differ in requests and in who opens what only. -/
structure Roster.Alike (γ γ' : Roster) : Prop where
  owner : γ'.owner = γ.owner
  home : γ'.home = γ.home
  doomed : γ'.doomed = γ.doomed
  queued : ∀ u, (γ'.duty u).queued = (γ.duty u).queued
  holds : ∀ u, (γ'.duty u).holds = (γ.duty u).holds

theorem Roster.Alike.refl (γ : Roster) : γ.Alike γ := ⟨rfl, rfl, rfl, fun _ => rfl, fun _ => rfl⟩

theorem Tickets.alike (h : Tickets γ s) (alike : γ.Alike γ') : Tickets γ' s where
  sane := h.sane
  issued := by rw [alike.owner]; exact h.issued
  endings := by rw [alike.owner]; exact h.endings
  unfed := by rw [alike.owner]; exact h.unfed
  fed := h.fed
  proper k u use r e e' := by
    rw [alike.owner] at e
    have proper := h.proper k u use r e e'
    exact ⟨proper.relay, fun wait f fails => by rw [alike.doomed]; exact proper.wait wait f fails⟩
  awaited :=
    { exits := by rw [alike.owner]; exact h.awaited.exits
      streams := by rw [alike.owner]; exact h.awaited.streams
      watches := by rw [alike.owner]; exact h.awaited.watches }

theorem Tasks.alikeRoster (h : Tasks o γ L l) (alike : γ.Alike γ') : Tasks o γ' L l :=
  { h with
    doomed := by rw [alike.doomed]; exact h.doomed
    interrupted := by rw [alike.doomed]; exact h.interrupted
    waiting := by rw [alike.owner]; exact h.waiting
    calledOff := by rw [alike.doomed]; exact h.calledOff }

theorem Locked.alike {p : Place} (h : Locked p γ L l) (alike : γ.Alike γ') : Locked p γ' L l where
  nodup := h.nodup
  queue k := by simp only [alike.queued]; exact h.queue k
  holder held := by simp only [alike.holds]; exact h.holder held
  handed := h.handed

/-- What there is to see to when a session changes. -/
theorem Inv.setSession (h : Inv o γ s) (alike : γ.Alike γ') (frank : Session.Frank f)
    (readers : ∀ x e, s.ledger.sessions[i]? = some x → (f x).reader = some e →
      ∃ u, s.loop.ending? u = some e ∧ s.loop.kind? u = some (.reader i))
    (asked : Asked γ' (s.ledger.setSession i f) s.loop) (tables : Tables γ' (s.ledger.setSession i f) s.loop)
    (idle : ∀ (j : Nat) (y : Session), (s.ledger.setSession i f).sessions[j]? = some y → ¬ γ'.used j → y.pending = []) :
    Inv o γ' (s.setSession i f) where
  tickets := (h.tickets.alike alike).same rfl rfl
  tasks := by rw [World.ledger_setSession frank]; exact (h.tasks.setSession readers).alikeRoster alike
  locked p := by
    rw [World.ledger_setSession frank]
    exact ((h.locked p).alike alike).of_lock (Ledger.lock_setSession p)
  queuers u p k e := by
    rw [alike.owner]
    exact h.queuers u p k ((alike.queued u).symm.trans e)
  asked := by rw [World.ledger_setSession frank]; exact asked
  tables := by rw [World.ledger_setSession frank]; exact tables
  servers := by rw [World.ledger_setSession frank, alike.home]; exact h.servers
  homes := by rw [World.ledger_setSession frank, alike.home]; exact h.homes
  idle := by rw [World.ledger_setSession frank]; exact idle
  getters := h.getters
  plain := h.plain

/-! ## To make a request -/

/-- What a task has in hand that has made a request. -/
def Duty.pose (d : Duty) (q : Inquiry) : Duty := { d with asking := some q, unsent := true }

/-- A task has made a request. -/
def Roster.pose (γ : Roster) (t : Nat) (q : Inquiry) : Roster :=
  { γ.charge t ((γ.duty t).pose q) with asks := γ.asks ++ [q] }

theorem Roster.pose_self (γ : Roster) (t : Nat) (q : Inquiry) : (γ.pose t q).duty t = (γ.duty t).pose q := γ.charge_self t _

theorem Roster.Moves.pose (made : q.Made t s) : γ.Moves t s (γ.pose t q) :=
  { Roster.Moves.charge (t := t) (s := s) (γ := γ) (d := (γ.duty t).pose q) (.of_eq rfl) with
    asks := fun _ known => List.mem_append_left _ known
    made := fun q' mem new => by
      rcases List.mem_append.mp mem with old | here
      · exact absurd old new
      · rwa [List.mem_singleton.mp here] }

theorem Roster.pose_ne (γ : Roster) {t u : Nat} (q : Inquiry) (h : u ≠ t) : (γ.pose t q).duty u = γ.duty u := γ.charge_ne _ h

/-- A request that may be made: its ticket is new, its number is the next one, its time is one that the task may take,
and a session that is closed is asked for nothing but its handshake. -/
structure Posable (t : Nat) (κ : TaskKind) (q : Inquiry) (γ : Roster) (x : Session) (s : World) : Prop where
  found : s.ledger.sessions[q.session]? = some x
  task : q.task = t
  mine : γ.owner q.ticket = some (t, .request)
  new : ∀ q' ∈ γ.asks, q'.ticket ≠ q.ticket
  number : q.number = x.lastRequest + 1
  issued : q.issued = s.loop.now
  early : q.early = (q.answers s.answers).length
  idle : (γ.duty t).asking = none
  patience : κ.patience x.options s.supervisor.config q.method = some q.time
  method : x.state = .closed → q.method = .str "initialize"
  query : ∀ c, κ = .call (.supervisor c) → c.subject?.isSome = true → q.Asks c ∧ ∀ q' ∈ γ.asks, q'.task ≠ t

theorem Asked.pose (h : Asked γ s.ledger s.loop) (kind : s.loop.kind? t = some κ) (p : Posable t κ q γ x s) :
    Asked (γ.pose t q) (s.ledger.setSession q.session (Session.pose q.number q.ticket)) s.loop := by
  have fresh : q ∉ γ.asks := fun known => p.new q known rfl
  have asking {u : Nat} {q' : Inquiry} (e : ((γ.pose t q).duty u).asking = some q') :
      (u = t ∧ q' = q) ∨ u ≠ t ∧ (γ.duty u).asking = some q' := by
    by_cases same : u = t
    · subst same
      rw [Roster.pose_self] at e
      cases e
      exact .inl ⟨rfl, rfl⟩
    · rw [Roster.pose_ne _ _ same] at e
      exact .inr ⟨same, e⟩
  exact
    { h with
      numbers := fun j y found => by
        show ((γ.asks ++ [q]).filter fun q => q.session = j).map Inquiry.number = _
        rw [List.filter_append, List.map_append]
        rcases Ledger.getElem?_setSession found with ⟨ne, old⟩ | ⟨y, rfl, old, rfl⟩
        · rw [h.numbers j y old]
          simp [Ne.symm ne]
        · cases p.found.symm.trans old
          rw [h.numbers _ _ old]
          simp only [List.filter_cons, decide_true, if_true, List.filter_nil, List.map_cons, List.map_nil, p.number,
            Session.pose, List.range'_1_concat, Nat.add_comm 1]
      sessions := fun q' hq' => by
        rw [Ledger.length_setSession]
        rcases List.mem_append.mp hq' with old | new
        · exact h.sessions q' old
        · rw [List.mem_singleton.mp new]
          exact (List.getElem?_eq_some_iff.mp p.found).1
      tickets := by
        show ((γ.asks ++ [q]).map Inquiry.ticket).Nodup
        rw [List.map_append, List.nodup_append]
        refine ⟨h.tickets, List.nodup_singleton _, ?_⟩
        rintro a ha b hb rfl
        obtain ⟨q', hq', e⟩ := List.mem_map.mp ha
        exact p.new q' hq' (e.trans (List.mem_singleton.mp hb))
      owned := fun q' hq' => by
        rcases List.mem_append.mp hq' with old | new
        · exact h.owned q' old
        · rw [List.mem_singleton.mp new, p.task]
          exact p.mine
      patience := fun q' hq' => by
        have there {j : Nat} {y : Session} (found : s.ledger.sessions[j]? = some y) :
            ∃ y', (s.ledger.setSession q.session (Session.pose q.number q.ticket)).sessions[j]? = some y' ∧
              y'.options = y.options := by
          by_cases e : j = q.session
          · subst e
            exact ⟨_, Ledger.setSession_self found, rfl⟩
          · exact ⟨y, (Ledger.setSession_ne e).trans found, rfl⟩
        rcases List.mem_append.mp hq' with old | new
        · obtain ⟨κ', y, kind', found, time⟩ := h.patience q' old
          obtain ⟨y', found', options⟩ := there found
          exact ⟨κ', y', kind', found', by rw [options]; exact time⟩
        · rw [List.mem_singleton.mp new, p.task]
          obtain ⟨y', found', options⟩ := there p.found
          exact ⟨κ, y', kind, found', by rw [options]; exact p.patience⟩
      asking := fun u q' e => by
        rcases asking e with ⟨rfl, rfl⟩ | ⟨-, old⟩
        · exact ⟨List.mem_append_right _ (List.mem_singleton_self _), p.task, fun r he => fresh (h.verdicts _ r he).1⟩
        · exact ⟨List.mem_append_left _ (h.asking u q' old).1, (h.asking u q' old).2⟩
      finished := fun q' hq' => by
        rcases List.mem_append.mp hq' with old | new
        · by_cases same : q'.task = t
          · rcases h.finished q' old with e | ended
            · rw [same, p.idle] at e
              cases e
            · exact .inr ended
          · rw [Roster.pose_ne _ _ same]
            exact h.finished q' old
        · rw [List.mem_singleton.mp new, p.task, Roster.pose_self]
          exact .inl rfl
      verdicts := fun q' r he => ⟨List.mem_append_left _ (h.verdicts q' r he).1, (h.verdicts q' r he).2⟩
      unheard := fun u q' e unsettled => by
        rcases asking e with ⟨rfl, rfl⟩ | ⟨-, old⟩
        · exact p.early.symm
        · exact h.unheard u q' old unsettled
      written := ⟨h.written.1, fun q' hq' => ⟨List.mem_append_left _ (h.written.2 q' hq').1, (h.written.2 q' hq').2⟩⟩
      unsent := fun u q' e e' => by
        rcases asking e with ⟨rfl, rfl⟩ | ⟨ne, old⟩
        · intro mem
          obtain ⟨w, hw, e⟩ := List.mem_map.mp mem
          exact fresh (e ▸ (h.written.2 w hw).1)
        · rw [Roster.pose_ne _ _ ne] at e'
          exact h.unsent u q' old e'
      queries := fun q₁ known c kind₁ about => by
        have first (mine : q₁.task = t) : q.Asks c ∧ ∀ q' ∈ γ.asks, q'.task ≠ t :=
          p.query c (Option.some.inj (kind.symm.trans (mine ▸ kind₁))) about
        rcases List.mem_append.mp known with old | new
        · refine ⟨(h.queries q₁ old c kind₁ about).1, fun q₂ known₂ mine => ?_⟩
          rcases List.mem_append.mp known₂ with old₂ | new₂
          · exact (h.queries q₁ old c kind₁ about).2 q₂ old₂ mine
          · rw [List.mem_singleton.mp new₂, p.task] at mine
            exact absurd mine.symm ((first mine.symm).2 q₁ old)
        · rw [List.mem_singleton.mp new] at first ⊢
          refine ⟨(first p.task).1, fun q₂ known₂ mine => ?_⟩
          rcases List.mem_append.mp known₂ with old₂ | new₂
          · exact absurd (mine.trans p.task) ((first p.task).2 q₂ old₂)
          · exact List.mem_singleton.mp new₂ }

theorem Tables.pose (h : Tables γ s.ledger s.loop) (p : Posable t κ q γ x s) :
    Tables (γ.pose t q) (s.ledger.setSession q.session (Session.pose q.number q.ticket)) s.loop := by
  have kept {u : Nat} {q' : Inquiry} (e : (γ.duty u).asking = some q') : ((γ.pose t q).duty u).asking = some q' := by
    rw [Roster.pose_ne]
    · exact e
    · rintro rfl
      rw [p.idle] at e
      cases e
  have opening (u : Nat) : ((γ.pose t q).duty u).opening = (γ.duty u).opening := by
    by_cases same : u = t
    · subst same
      rw [Roster.pose_self]
      rfl
    · rw [Roster.pose_ne _ _ same]
  exact
    { paired := by
        refine ⟨by rw [Ledger.length_setSession]; exact h.paired.1, fun j y found => ?_⟩
        rcases Ledger.getElem?_setSession found with ⟨-, old⟩ | ⟨y, rfl, old, rfl⟩
        · exact h.paired.2 j y old
        · exact h.paired.2 _ y old
      entries := fun j y n k found mem => by
        rcases Ledger.getElem?_setSession found with ⟨-, old⟩ | ⟨y, rfl, old, rfl⟩
        · obtain ⟨u, q', asking, rest⟩ := h.entries j y n k old mem
          exact ⟨u, q', kept asking, rest⟩
        · rcases List.mem_append.mp mem with mem | new
          · obtain ⟨u, q', asking, rest⟩ := h.entries _ y n k old mem
            exact ⟨u, q', kept asking, rest⟩
          · cases List.mem_singleton.mp new
            exact ⟨t, q, by rw [Roster.pose_self]; rfl, rfl, rfl, rfl⟩
      listed := fun u q' y e unsettled found => by
        by_cases same : u = t
        · subst same
          rw [Roster.pose_self] at e
          cases e
          rcases Ledger.getElem?_setSession found with ⟨ne, -⟩ | ⟨y, -, -, rfl⟩
          · exact absurd rfl ne
          · exact List.mem_append_right _ (List.mem_singleton_self _)
        · rw [Roster.pose_ne _ _ same] at e
          rcases Ledger.getElem?_setSession found with ⟨-, old⟩ | ⟨y, here, old, rfl⟩
          · exact h.listed u q' y e unsettled old
          · exact List.mem_append_left _ (h.listed u q' y e unsettled (here ▸ old))
      closed := fun j y n k found shut mem => by
        rcases Ledger.getElem?_setSession found with ⟨-, old⟩ | ⟨y, rfl, old, rfl⟩
        · obtain ⟨u, q', asking, rest⟩ := h.closed j y n k old shut mem
          exact ⟨u, q', kept asking, rest⟩
        · rcases List.mem_append.mp mem with mem | new
          · obtain ⟨u, q', asking, rest⟩ := h.closed _ y n k old shut mem
            exact ⟨u, q', kept asking, rest⟩
          · cases List.mem_singleton.mp new
            cases p.found.symm.trans old
            exact ⟨t, q, by rw [Roster.pose_self]; rfl, rfl, p.method shut⟩
      bare := h.bare
      fresh := fun j y found new => by
        have old : ¬ γ.used j ∧ ∀ u, (γ.duty u).opening ≠ some j := by
          rcases Ledger.getElem?_setSession found with ⟨-, old⟩ | ⟨y, rfl, old, rfl⟩
          · exact h.fresh j y old new
          · exact h.fresh _ y old new
        exact ⟨old.1, fun u => by rw [opening]; exact old.2 u⟩
      openers := fun u j e => by
        obtain ⟨unused, bound, sole⟩ := h.openers u j ((opening u).symm.trans e)
        exact ⟨unused, by rw [Ledger.length_setSession]; exact bound, fun v e' => sole v ((opening v).symm.trans e')⟩
      bound := fun j e => by rw [Ledger.length_setSession]; exact h.bound j e
      held := h.held }

theorem Roster.alike_pose (γ : Roster) (t : Nat) (q : Inquiry) : γ.Alike (γ.pose t q) := by
  refine ⟨rfl, rfl, rfl, fun u => ?_, fun u => ?_⟩ <;>
    by_cases same : u = t
  · subst same
    rw [Roster.pose_self]
    rfl
  · rw [Roster.pose_ne _ _ same]
  · subst same
    rw [Roster.pose_self]
    rfl
  · rw [Roster.pose_ne _ _ same]

/-- A request is noted. -/
theorem Fit.pose (h : Fit t κ γ s) (p : Posable t κ q γ x s) (used : γ.used q.session) :
    Fit t κ (γ.pose t q) (s.setSession q.session (Session.pose q.number q.ticket)) where
  inv := h.inv.setSession (γ.alike_pose t q) (fun _ => rfl) (fun y e found reader => h.inv.tasks.readers _ y e found reader)
    (h.inv.asked.pose h.kind p) (h.inv.tables.pose p) fun j y found unused => by
      rcases Ledger.getElem?_setSession found with ⟨-, old⟩ | ⟨y, rfl, old, rfl⟩
      · exact h.inv.idle j y old unused
      · exact absurd used unused
  kind := h.kind
  alarm := h.alarm
  limit := by
    have limit := h.limit
    rw [Roster.pose_self]
    simp only [Duty.limit, Duty.pose, le_min_iff, Option.map_some, Option.getD_some] at limit ⊢
    refine ⟨limit.1, ?_⟩
    rw [show (s.setSession q.session (Session.pose q.number q.ticket)).loop.now = q.issued from p.issued.symm]
    exact le_self_add

end Clock

end LspHost

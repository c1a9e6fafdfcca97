import LspHost.Proofs.Process.Living
import LspHost.Proofs.Settling

/-!
# What processes do

Whatever a process does, it does not come back to life and does not listen again: it fades. So nothing
that it does breaks the invariant, and no task minds it (`quiet_perform`). It writes to its outputs, which
wakes who waits for them, it exits, which wakes who waits for that, and it sets timers for what it
puts off.
-/

namespace LspHost

variable {σ : Setting} {t : Option Nat} {γ : Ghost} {s : World}

/-! ## Overviews of fading processes -/

/-- What a process was not before it is not later. -/
structure Process.Fades (p p' : Process) : Prop where
  pid : p'.pid = p.pid
  script : p'.script = p.script
  alive : p'.alive = true → p.alive = true
  listening : p'.listening = true → p.listening = true ∧ p'.alive = true

/-- The same processes, each of which may have faded. -/
structure Faded (ps qs : List Process) : Prop where
  length : qs.length = ps.length
  each : ∀ (j : Nat) (q : Process), qs[j]? = some q → ∃ p, ps[j]? = some p ∧ p.Fades q

namespace Faded

variable {ps qs : List Process} {v : Overview}

theorem mem (f : Faded ps qs) {q : Process} (h : q ∈ qs) : ∃ p ∈ ps, p.Fades q := by
  obtain ⟨j, hj⟩ := List.mem_iff_getElem?.mp h
  obtain ⟨p, hp, fades⟩ := f.each j q hj
  exact ⟨p, List.mem_of_getElem? hp, fades⟩

theorem forth (f : Faded ps qs) {j : Nat} {p : Process} (h : ps[j]? = some p) :
    ∃ q, qs[j]? = some q ∧ p.Fades q := by
  have bound : j < qs.length := by
    rw [f.length]; exact (List.getElem?_eq_some_iff.mp h).1
  have found : qs[j]? = some qs[j] := List.getElem?_eq_getElem bound
  obtain ⟨p', hp', fades⟩ := f.each j _ found
  obtain rfl : p = p' := Option.some.inj (h.symm.trans hp')
  exact ⟨_, found, fades⟩

theorem life (f : Faded v.processes qs) (h : Life σ γ v) :
    Life σ γ { v with processes := qs } :=
  { h with
    pids := fun j j' q q' hq hq' e => by
      obtain ⟨p, hp, fades⟩ := f.each j q hq
      obtain ⟨p', hp', fades'⟩ := f.each j' q' hq'
      exact h.pids j j' p p' hp hp' (by rw [← fades.pid, ← fades'.pid]; exact e)
    attempted := fun q hq => by
      obtain ⟨p, hp, fades⟩ := f.mem hq
      rw [fades.pid]; exact h.attempted p hp
    posted := fun x hx => by
      obtain ⟨p, hp, e⟩ := h.posted x hx
      obtain ⟨j, hj⟩ := List.mem_iff_getElem?.mp hp
      obtain ⟨q, hq, fades⟩ := f.forth hj
      exact ⟨q, List.mem_of_getElem? hq, fades.pid.trans e⟩
    tame := fun tame q hq => by
      obtain ⟨p, hp, fades⟩ := f.mem hq
      rw [fades.script]; exact h.tame tame p hp
    owned := fun i j hi => by
      show j < qs.length
      rw [f.length]; exact h.owned i j hi
    deaf := fun q hq listens => by
      obtain ⟨p, hp, fades⟩ := f.mem hq
      exact (fades.listening listens).2
    newest := fun tame resolvable j q hq alive => by
      obtain ⟨p, hp, fades⟩ := f.each j q hq
      exact h.newest tame resolvable j p hp (fades.alive alive)
    atRest := fun free =>
      ⟨fun none tame resolvable q hq => by
        obtain ⟨p, hp, fades⟩ := f.mem hq
        have dead := (h.atRest free).idle none tame resolvable p hp
        rcases e : q.alive with _ | _
        · rfl
        · rw [fades.alive e] at dead; exact dead,
      (h.atRest free).busy⟩ }

theorem order {queue : Nat → List Said} (f : Faded v.processes qs) (h : Order queue v) :
    Order queue { v with processes := qs } where
  written q hq := by
    obtain ⟨p, hp, fades⟩ := f.mem hq
    rw [fades.pid]; exact h.written p hp
  planned i j q hi hq listens := by
    obtain ⟨p, hp, fades⟩ := f.each j q hq
    obtain ⟨st, state, planned, rest⟩ := h.planned i j p hi hp (fades.listening listens).1
    exact ⟨st, state, by simpa only [plannedAt, fades.pid] using planned, rest⟩

theorem mirror {hands : Hands} (f : Faded v.processes qs) (h : Mirror hands v) :
    Mirror hands { v with processes := qs } :=
  { h with
    followed := fun q hq => by
      obtain ⟨p, hp, fades⟩ := f.mem hq
      rw [fades.pid]; exact h.followed p hp
    mirrored := fun i j q hi hj hq unharmed => by
      obtain ⟨p, hp, fades⟩ := f.each j q hq
      rw [fades.pid] at unharmed ⊢
      exact h.mirrored i j p hi hj hp unharmed
    early := fun i j q state other hj hq => by
      obtain ⟨p, hp, fades⟩ := f.each j q hq
      rw [fades.pid]; exact h.early i j p state other hj hp
    refused := fun q hq harmed => by
      obtain ⟨p, hp, fades⟩ := f.mem hq
      have deaf := h.refused p hp (by rw [← fades.pid]; exact harmed)
      rcases e : q.listening with _ | _
      · rfl
      · rw [(fades.listening e).1] at deaf; exact deaf }

theorem closed {hands : Hands} (f : Faded v.processes qs) (h : Sealed hands v) :
    Sealed hands { v with processes := qs } := by
  intro i j q other hj hq listens ended
  obtain ⟨p, hp, fades⟩ := f.each j q hq
  rw [fades.pid] at ended
  exact h i j p other hj hp (fades.listening listens).1 ended

/-- One process fades. -/
theorem set {j : Nat} {p q : Process} (found : ps[j]? = some p) (fades : p.Fades q)
    (deaf : ∀ p ∈ ps, p.listening = true → p.alive = true) : Faded ps (ps.set j q) where
  length := List.length_set ..
  each i r hr := by
    have bound := (List.getElem?_eq_some_iff.mp found).1
    by_cases e : i = j
    · subst e
      rw [List.getElem?_set_self bound] at hr
      cases hr
      exact ⟨p, found, fades⟩
    · rw [List.getElem?_set_ne (Ne.symm e)] at hr
      exact ⟨r, hr, rfl, rfl, fun h => h, fun h => ⟨h, deaf r (List.mem_of_getElem? hr) h⟩⟩

end Faded

/-! ## Changes of one server -/

/-- The world with a server and an event loop in the place of the ones that were there. -/
def World.live (s : World) (j : Nat) (a : Living) : World :=
  { s with loop := a.1, servers := s.servers.set j a.2 }

theorem World.live_get {j : Nat} {p : Server} (a : Living) (found : s.servers[j]? = some p) :
    (s.live j a).servers[j]? = some a.2 :=
  List.getElem?_set_self (List.getElem?_eq_some_iff.mp found).1

@[simp] theorem World.live_live (s : World) (j : Nat) (a b : Living) :
    (s.live j a).live j b = s.live j b := by simp [World.live]

@[simp] theorem World.live_loop (s : World) (j : Nat) (a : Living) : (s.live j a).loop = a.1 := rfl

/-- Nothing has changed when a server is put where it was. -/
theorem World.live_same {j : Nat} {p : Server} (l : Loop) (found : s.servers[j]? = some p) :
    s.live j (l, p) = { s with loop := l } := by
  have bound := (List.getElem?_eq_some_iff.mp found).1
  have same : s.servers.set j p = s.servers := by
    rw [← (List.getElem?_eq_some_iff.mp found).2]; exact List.set_getElem_self bound
  simp only [World.live, same]

theorem World.overview_live (s : World) (j : Nat) (l : Loop) (p : Server) :
    (s.live j (l, p)).overview =
      { s.overview with processes := s.overview.processes.set j p.shown } := by
  simp [World.overview, World.live, World.mail, List.map_set]

theorem World.lock_live (s : World) (j : Nat) (a : Living) (p : Place) :
    p.lock (s.live j a) = p.lock s := by cases p <;> rfl

/-- What must be true of a change of one server. -/
structure ServerStep (γ : Ghost) (s : World) (j : Nat) (p p' : Server) : Prop where
  found : s.servers[j]? = some p
  fades : p.shown.Fades p'.shown
  overlong : p.errors.Overlong → p'.errors.Overlong
  streams : ∀ (c : Channel) (k : Nat) (d : Demand), (c.get p').waiter = some (k, d) →
    ∃ u, γ.role k = .stream j c u
  exits : ∀ k ∈ p'.exitWaiters, ∃ u, γ.role k = .exit j u
  undrained : (∀ u, s.loop.kind? u ≠ some (.drain j)) → p'.errors.waiter = none
  awaited : ∀ k d, p'.errors.waiter = some (k, d) → ∀ v, s.loop.outcome? k ≠ some (.ok v)

namespace ServerStep

variable {j : Nat} {p p' : Server}

theorem get (h : ServerStep γ s j p p') {i : Nat} {q : Server}
    (hq : (s.live j (s.loop, p')).servers[i]? = some q) :
    (i = j ∧ q = p') ∨ (i ≠ j ∧ s.servers[i]? = some q) := by
  by_cases e : i = j
  · subst e
    rw [World.live_get _ h.found] at hq
    exact .inl ⟨rfl, (Option.some.inj hq).symm⟩
  · exact .inr ⟨e, by simpa only [World.live, List.getElem?_set_ne (Ne.symm e)] using hq⟩

theorem errorWaiter? (h : ServerStep γ s j p p') (i : Nat) :
    (s.live j (s.loop, p')).errorWaiter? i =
      if i = j then p'.errors.waiter else s.errorWaiter? i := by
  by_cases e : i = j
  · subst e
    simp [World.errorWaiter?, World.live_get _ h.found]
  · simp [World.errorWaiter?, World.live, List.getElem?_set_ne (Ne.symm e), e]

theorem faded (h : ServerStep γ s j p p') (inv : Inv σ t γ s) :
    Faded s.overview.processes (s.overview.processes.set j p'.shown) :=
  .set (by simp [World.overview, h.found]) h.fades inv.life.deaf

theorem dead (h : ServerStep γ s j p p') {i : Nat} (dead : s.overview.Dead i) :
    (s.live j (s.loop, p')).overview.Dead i := by
  obtain ⟨q, hq, gone⟩ := dead
  rw [World.overview_live]
  by_cases e : i = j
  · subst e
    have same : p.shown = q := by
      simpa only [World.overview, List.getElem?_map, h.found, Option.map_some,
        Option.some.injEq] using hq
    refine ⟨p'.shown, List.getElem?_set_self (List.getElem?_eq_some_iff.mp hq).1, ?_⟩
    rcases e : p'.shown.alive with _ | _
    · rfl
    · rw [← same, h.fades.alive e] at gone; exact gone
  · exact ⟨q, by rw [List.getElem?_set_ne (Ne.symm e)]; exact hq, gone⟩

theorem long (h : ServerStep γ s j p p') {i : Nat} (long : s.Overlong i) :
    (s.live j (s.loop, p')).Overlong i := by
  obtain ⟨q, hq, ended⟩ := long
  by_cases e : i = j
  · subst e
    obtain rfl : p = q := Option.some.inj (h.found.symm.trans hq)
    exact ⟨p', World.live_get _ h.found, h.overlong ended⟩
  · exact ⟨q, by simpa only [World.live, List.getElem?_set_ne (Ne.symm e)] using hq, ended⟩

theorem inv (h : ServerStep γ s j p p') (inv : Inv σ t γ s) :
    Inv σ t γ (s.live j (s.loop, p')) where
  tickets :=
    { inv.tickets with
      fits := fun k r hr =>
        (inv.tickets.fits k r hr).mono (fun _ e => e) (fun _ e => e) (fun _ e => h.dead e)
          (fun _ e => h.long e) fun _ _ _ _ e => e
      streams := fun i q c k d hq hw => by
        rcases h.get hq with ⟨rfl, rfl⟩ | ⟨-, hq⟩
        · exact h.streams c k d hw
        · exact inv.tickets.streams i q c k d hq hw
      exits := fun i q k hq hk => by
        rcases h.get hq with ⟨rfl, rfl⟩ | ⟨-, hq⟩
        · exact h.exits k hk
        · exact inv.tickets.exits i q k hq hk }
  tasks :=
    { inv.tasks with
      undrained := fun i none => by
        rw [h.errorWaiter?]
        split
        · next e => subst e; exact h.undrained none
        · exact inv.tasks.undrained i none
      awaited := fun i k d hw => by
        rw [h.errorWaiter?] at hw
        split at hw
        · exact h.awaited k d hw
        · exact inv.tasks.awaited i k d hw
      served := fun u i hu => by
        simpa only [World.live, List.length_set] using inv.tasks.served u i hu }
  locks q :=
    { nodup := by rw [World.lock_live]; exact (inv.locks q).nodup
      waiters := by rw [World.lock_live]; exact (inv.locks q).waiters
      held := by rw [World.lock_live]; exact (inv.locks q).held
      granted := by rw [World.lock_live]; exact (inv.locks q).granted }
  holders := ⟨inv.holders.known, inv.holders.lifecycle, inv.holders.documents⟩
  life := by rw [World.overview_live]; exact (h.faded inv).life inv.life
  order := by rw [World.overview_live]; exact (h.faded inv).order inv.order
  mirror := by rw [World.overview_live]; exact (h.faded inv).mirror inv.mirror
  closed := by rw [World.overview_live]; exact (h.faded inv).closed inv.closed

theorem rely (h : ServerStep γ s j p p') (inv : Inv σ t γ s) {u : Nat}
    (errors : Sole s u j → (p.errors.waiter = none → p'.errors.waiter = none) ∧
      (∀ k d, p.errors.waiter = some (k, d) →
        p'.errors.waiter = some (k, d) ∨ (p'.errors.waiter = none ∧ p'.errors.meets d = true)) ∧
      ∀ d, p.errors.meets d = true → p'.errors.meets d = true) :
    Rely u (γ, s) (γ, s.live j (s.loop, p')) where
  roles _ _ := rfl
  loop := .refl _
  doomed _ e := e
  ended _ e := e
  holder _ := .rfl
  processes i q hq := by
    obtain ⟨q', hq', fades⟩ := (h.faded inv).forth hq
    exact ⟨q', by rw [World.overview_live]; exact hq', fades.pid, fades.script, fades.alive,
      fun e => (fades.listening e).1⟩
  transports := Nat.le_refl _
  sessions := Nat.le_refl _
  past i hi := by
    rw [World.overview_live]
    refine ⟨hi, fun listening => ?_, fun _ e => e⟩
    obtain ⟨n, q', hn, hq', listens⟩ := listening
    obtain ⟨q, hq, fades⟩ := (h.faded inv).each n q' hq'
    exact ⟨n, q, hn, hq, (fades.listening listens).1⟩
  overlong _ e := h.long e
  mail _ e := by rw [World.overview_live]; exact e
  life _ := by rw [World.overview_live]; exact ⟨rfl, rfl, rfl, List.length_set .., rfl⟩
  documents _ := by rw [World.overview_live]; exact ⟨fun _ e _ => .inl e, fun e => e, .inl rfl⟩
  queue q _ _ _ := by rw [World.lock_live]
  requests _ _ e := e
  kept _ _ _ _ := rfl
  phase := rfl
  errors i sole := by
    have waits : s.errorWaiter? j = p.errors.waiter := by simp [World.errorWaiter?, h.found]
    have meets (d : Demand) (e : s.errorsMeet i d) : (s.live j (s.loop, p')).errorsMeet i d := by
      obtain ⟨q, hq, m⟩ := e
      by_cases e : i = j
      · subst e
        obtain rfl : p = q := Option.some.inj (h.found.symm.trans hq)
        exact ⟨p', World.live_get _ h.found, (errors sole).2.2 d m⟩
      · exact ⟨q, by simpa only [World.live, List.getElem?_set_ne (Ne.symm e)] using hq, m⟩
    refine ⟨fun e => ?_, fun k d e => ?_, meets⟩
    · rw [h.errorWaiter?]
      split
      · next same => subst same; exact (errors sole).1 (waits.symm.trans e)
      · exact e
    · rw [h.errorWaiter?]
      split
      · next same =>
        subst same
        exact ((errors sole).2.1 k d (waits.symm.trans e)).imp_right fun freed =>
          ⟨freed.1, p', World.live_get _ h.found, freed.2⟩
      · exact .inl e
  planned _ i n q q' hi hq hq' _ := by
    rw [World.overview_live] at hq' ⊢
    obtain ⟨q₀, hq₀, fades⟩ := (h.faded inv).each n q' hq'
    obtain rfl : q = q₀ := Option.some.inj (hq.symm.trans hq₀)
    simp only [plannedAt, World.voice, World.queued, World.lock_live, fades.pid]
  unheard _ i _ silent := by
    rw [← silent]
    simp only [World.voice, World.queued, World.lock_live]
  untold _ := rfl

end ServerStep

/-! ## Streams and exits -/

theorem Process.Fades.refl (p : Server) : p.shown.Fades p.shown :=
  ⟨rfl, rfl, fun e => e, fun e => ⟨e, by
    simp only [Server.shown, Server.isListening, Bool.and_eq_true] at e ⊢; exact e.1.1⟩⟩

/-- A process of which less is left, with the same name and script. -/
theorem Server.fades {p p' : Server} (pid : p'.pid = p.pid) (script : p'.script = p.script)
    (alive : p'.isAlive = true → p.isAlive = true)
    (inputClosed : p.inputClosed = true → p'.inputClosed = true)
    (inputBroken : p.inputBroken.isSome = true → p'.inputBroken.isSome = true) :
    p.shown.Fades p'.shown where
  pid := pid
  script := script
  alive := alive
  listening listens := by
    simp only [shown, isListening, Bool.and_eq_true, Bool.not_eq_true', Option.isNone_iff_eq_none] at listens ⊢
    refine ⟨⟨⟨alive listens.1.1, ?_⟩, ?_⟩, listens.1.1⟩
    · rcases e : p.inputClosed with _ | _
      · rfl
      · rw [inputClosed e] at listens; cases listens.1.2
    · rcases e : p.inputBroken with _ | reason
      · rfl
      · have := inputBroken (by rw [e]; rfl)
        rw [listens.2] at this
        cases this

namespace Channel

theorem shown_set (c : Channel) (f : Stream → Stream) (p : Server) : (c.set f p).shown = p.shown := by
  cases c <;> rfl

end Channel

/-! ## Changes that nobody minds -/

section Living

variable {j : Nat} {p p' : Server} (inv : Inv σ t γ s) (found : s.servers[j]? = some p)
include inv found

/-- A change of a server that leaves alone who waits for it. -/
theorem quiet_live (fades : p.shown.Fades p'.shown) (errors : p.errors.Grows p'.errors)
    (waiters : ∀ c : Channel, (c.get p').waiter = (c.get p).waiter)
    (exits : ∀ k ∈ p'.exitWaiters, k ∈ p.exitWaiters ∨ ∃ u, γ.role k = .exit j u) :
    Quiet σ t (γ, s) (γ, s.live j (s.loop, p')) := by
  have same : p'.errors.waiter = p.errors.waiter := waiters .errors
  have waits : s.errorWaiter? j = p.errors.waiter := by simp [World.errorWaiter?, found]
  have step : ServerStep γ s j p p' :=
    { found, fades, overlong := errors.overlong
      streams := fun c k d hw =>
        inv.tickets.streams j p c k d found (by rw [← waiters]; exact hw)
      exits := fun k hk => (exits k hk).elim (inv.tickets.exits j p k found) fun h => h
      undrained := fun none => by rw [same, ← waits]; exact inv.tasks.undrained j none
      awaited := fun k d hw => inv.tasks.awaited j k d (by rw [waits, ← same]; exact hw) }
  exact ⟨step.inv inv, fun u => step.rely inv fun _ =>
    ⟨fun e => by rw [same]; exact e, fun k d e => .inl (by rw [same]; exact e), errors.meets⟩⟩

/-- Octets arrive in a stream, or it ends. -/
theorem quiet_stir (c : Channel) {f : Stream → Stream} (grows : ∀ x : Stream, x.Grows (f x))
    (waiter : ∀ x : Stream, (f x).waiter = x.waiter) :
    Quiet σ t (γ, s) (γ, s.live j (Server.stir c f (s.loop, p))) := by
  have passive : Quiet σ t (γ, s) (γ, s.live j (s.loop, c.set (fun _ => f (c.get p)) p)) := by
    refine quiet_live inv found ?_ (c.errors_set p (grows _)) (fun c' => ?_) fun k hk => ?_
    · rw [c.shown_set]; exact .refl p
    · by_cases e : c' = c
      · subst e; rw [c'.get_set_self, waiter]
      · rw [Channel.get_set_ne _ p e]
    · rw [c.exitWaiters_set] at hk; exact .inl hk
  have waits : s.errorWaiter? j = p.errors.waiter := by simp [World.errorWaiter?, found]
  simp only [Server.stir, Server.rouse]
  split
  · next k d hw =>
    have old : (c.get p).waiter = some (k, d) := by rw [← waiter]; exact hw
    obtain ⟨u, role⟩ := inv.tickets.streams j p c k d found old
    split
    · next meets =>
      -- First nobody waits any more, then the ticket is settled.
      have errors : p.errors.Grows (c.set (fun _ => { f (c.get p) with waiter := none }) p).errors :=
        c.errors_set p ((grows _).trans (Stream.grows_of_eq rfl rfl))
      have step : ServerStep γ s j p (c.set (fun _ => { f (c.get p) with waiter := none }) p) :=
        { found
          fades := by rw [c.shown_set]; exact .refl p
          overlong := errors.overlong
          streams := fun c' k' d' hw' => by
            by_cases e : c' = c
            · subst e; rw [c'.get_set_self] at hw'; cases hw'
            · rw [Channel.get_set_ne _ p e] at hw'
              exact inv.tickets.streams j p c' k' d' found hw'
          exits := fun k' hk' => by
            rw [c.exitWaiters_set] at hk'; exact inv.tickets.exits j p k' found hk'
          undrained := fun none => by
            cases c with
            | output => rw [← inv.tasks.undrained j none, waits]; rfl
            | errors => rfl
          awaited := fun k' d' hw' => by
            cases c with
            | output => exact inv.tasks.awaited j k' d' (by rw [waits]; exact hw')
            | errors => cases hw' }
      have first : Quiet σ t (γ, s) (γ, s.live j
          (s.loop, c.set (fun _ => { f (c.get p) with waiter := none }) p)) := by
        refine ⟨step.inv inv, fun u => step.rely inv fun _ => ?_⟩
        cases c with
        | output => exact ⟨fun e => e, fun _ _ e => .inl e, fun _ e => e⟩
        | errors =>
          refine ⟨fun _ => rfl, fun k' d' e => .inr ⟨rfl, ?_⟩, errors.meets⟩
          have same : d' = d := by
            have := old.symm.trans e; cases this; rfl
          rw [same]
          exact (Stream.grows_of_eq rfl rfl).meets d meets
      refine first.trans (quiet_settle first.inv ?_ (fun v e => ?_) (fun q v m e => ?_)
        fun i d' hw' => ?_)
      · rw [role]; exact fun _ e => by cases e
      · rw [role] at e; cases e
      · rw [role] at e; cases e
      · rw [step.errorWaiter?] at hw'
        split at hw'
        · cases c with
          | output =>
            next e =>
            subst e
            obtain ⟨u', role'⟩ := inv.tickets.streams i p .errors k d' found hw'
            rw [role] at role'; cases role'
          | errors => cases hw'
        · next other =>
          obtain ⟨q, hq, hw''⟩ := Option.bind_eq_some_iff.mp hw'
          obtain ⟨u', role'⟩ := inv.tickets.streams i q .errors k d' hq hw''
          rw [role] at role'; cases role'
          exact absurd rfl other
    · exact passive
  · exact passive

theorem quiet_emit (bytes : List UInt8) :
    Quiet σ t (γ, s) (γ, s.live j (Server.emit bytes (s.loop, p))) :=
  quiet_stir inv found .output (fun x => x.grows_feed bytes) fun x => by unfold Stream.feed; split <;> rfl

theorem quiet_complain (bytes : List UInt8) :
    Quiet σ t (γ, s) (γ, s.live j (Server.complain bytes (s.loop, p))) :=
  quiet_stir inv found .errors (fun x => x.grows_feed bytes) fun x => by unfold Stream.feed; split <;> rfl

theorem quiet_closeOutput : Quiet σ t (γ, s) (γ, s.live j (Server.closeOutput (s.loop, p))) :=
  quiet_stir inv found .output Stream.grows_close fun _ => rfl

theorem quiet_closeErrors : Quiet σ t (γ, s) (γ, s.live j (Server.closeErrors (s.loop, p))) :=
  quiet_stir inv found .errors Stream.grows_close fun _ => rfl

end Living

/-! ## What a script does -/

/-- Something that a process does and that nobody minds. -/
def Quietly (σ : Setting) (t : Option Nat) (γ : Ghost) (j : Nat) (f : Living → Living) : Prop :=
  ∀ (s : World) (p : Server), Inv σ t γ s → s.servers[j]? = some p →
    Quiet σ t (γ, s) (γ, s.live j (f (s.loop, p)))

/-- A process does one more thing. -/
theorem Quiet.more {j : Nat} {p : Server} {a : Living} {f : Living → Living}
    (h : Quiet σ t (γ, s) (γ, s.live j a)) (found : s.servers[j]? = some p)
    (quietly : Quietly σ t γ j f) : Quiet σ t (γ, s) (γ, s.live j (f a)) := by
  have next := quietly _ _ h.inv (World.live_get a found)
  rw [World.live_live] at next
  exact h.trans next

/-- The exit: both outputs end, then those are woken who wait for it. -/
theorem quiet_exit (j : Nat) (code : Int) : Quietly σ t γ j (Server.exit code) := by
  intro s p inv found
  have dies : Quiet σ t (γ, s) (γ, s.live j (s.loop, { p with exitCode := some code })) :=
    quiet_live inv found (Server.fades rfl rfl (fun e => by cases e) (fun e => e) fun e => e) (.refl _)
      (fun c => by cases c <;> rfl) fun _ h => .inl h
  have ends := (dies.more found fun _ _ inv found => quiet_closeOutput inv found).more found
    fun _ _ inv found => quiet_closeErrors inv found
  have gone : (Server.closeErrors (Server.closeOutput
      (s.loop, { p with exitCode := some code }))).2.exitCode = some code := rfl
  show Quiet σ t (γ, s) (γ, s.live j (Server.announceExit (Server.closeErrors
    (Server.closeOutput (s.loop, { p with exitCode := some code })))))
  generalize Server.closeErrors (Server.closeOutput (s.loop, { p with exitCode := some code })) = a
    at ends gone ⊢
  obtain ⟨l, q⟩ := a
  have gone : q.exitCode = some code := gone
  have cleared : Quiet σ t (γ, s) (γ, s.live j (l, { q with exitWaiters := [] })) := by
    refine ends.trans ?_
    have next : Quiet σ t (γ, s.live j (l, q))
        (γ, (s.live j (l, q)).live j (l, { q with exitWaiters := [] })) :=
      quiet_live ends.inv (World.live_get _ found) (.refl q) (.refl _) (fun c => by cases c <;> rfl)
        fun _ h => by cases h
    rw [World.live_live] at next
    exact next
  have dead : (s.live j (l, { q with exitWaiters := [] })).overview.Dead j := by
    refine ⟨Server.shown { q with exitWaiters := [] }, ?_, ?_⟩
    · simp [World.overview, World.live_get _ found]
    · simp [Server.shown, Server.isAlive, gone]
  have waits (k : Nat) (hk : k ∈ q.exitWaiters) : ∃ u, γ.role k = .exit j u :=
    ends.inv.tickets.exits j q k (World.live_get _ found) hk
  refine cleared.trans (quiet_settleAll cleared.inv q.exitWaiters (fun k hk => ?_) (fun k hk u e => ?_)
    (fun k hk _ _ _ e => ?_) fun k hk i d hw => ?_)
  all_goals obtain ⟨v, role⟩ := waits k hk
  · rw [role]; exact ⟨fun _ _ => dead, fun _ e => by cases e⟩
  · rw [role] at e; cases e
  · rw [role] at e; cases e
  · obtain ⟨q', hq', hw'⟩ := Option.bind_eq_some_iff.mp hw
    obtain ⟨u', role'⟩ := cleared.inv.tickets.streams i q' .errors k d hq' hw'
    rw [role] at role'; cases role'

theorem quiet_act (j : Nat) (trigger : Trigger) (a : Action) :
    Quietly σ t γ j (Server.act trigger a) := by
  intro s p inv found
  cases a with
  | respond m => exact quiet_emit inv found _
  | echo => exact quiet_emit inv found _
  | send v => exact quiet_emit inv found _
  | body bytes => exact quiet_emit inv found _
  | raw bytes => exact quiet_emit inv found _
  | complain bytes => exact quiet_complain inv found _
  | delay _ =>
    show Quiet σ t (γ, s) (γ, s.live j (s.loop, p))
    rw [World.live_same _ found]; exact .refl inv
  | exit code => exact quiet_exit j code s p inv found
  | closeOutput => exact quiet_closeOutput inv found
  | breakInput reason =>
    exact quiet_live inv found (Server.fades rfl rfl (fun e => e) (fun e => e) fun _ => rfl) (.refl _)
      (fun c => by cases c <;> rfl) fun _ h => .inl h

/-- Whatever a script says, nobody minds. -/
theorem quiet_perform (j : Nat) (trigger : Trigger) (actions : List Action) :
    Quietly σ t γ j (Server.perform j trigger actions) := by
  induction actions with
  | nil =>
    intro s p inv found
    show Quiet σ t (γ, s) (γ, s.live j (s.loop, p))
    rw [World.live_same _ found]; exact .refl inv
  | cons a rest ih =>
    intro s p inv found
    have idle : Quiet σ t (γ, s) (γ, s.live j (s.loop, p)) := by
      rw [World.live_same _ found]; exact .refl inv
    have goesOn (h : Server.perform j trigger (a :: rest) (s.loop, p) =
        if p.isAlive then Server.perform j trigger rest (Server.act trigger a (s.loop, p))
        else (s.loop, p)) :
        Quiet σ t (γ, s) (γ, s.live j (Server.perform j trigger (a :: rest) (s.loop, p))) := by
      rw [h]
      split
      · exact (quiet_act j trigger a s p inv found).more found ih
      · exact idle
    cases a with
    | delay time =>
      simp only [Server.perform]
      split
      · rw [World.live_same _ found]; exact quiet_later inv _ _ trivial
      · exact idle
    | _ => exact goesOn rfl

/-- A message arrives, and the process reacts to it. -/
theorem quiet_receive (j : Nat) (m : Members) : Quietly σ t γ j (Server.receive j m) := by
  intro s p inv found
  have counted : Quiet σ t (γ, s) (γ, s.live j
      (s.loop, { p with seen := Server.countMethod (Server.methodOf m) p.seen })) :=
    quiet_live inv found (.refl p) (.refl _) (fun c => by cases c <;> rfl) fun _ h => .inl h
  exact counted.more found (quiet_perform j _ _)

/-- The input closes, and the process reacts to it. -/
theorem quiet_closeInput (j : Nat) : Quietly σ t γ j (Server.closeInput j) := by
  intro s p inv found
  show Quiet σ t (γ, s) (γ, s.live j (if p.inputClosed then (s.loop, p) else
    Server.perform j Server.noTrigger p.script.onInputClosed
      (s.loop, { p with inputClosed := true })))
  split
  · rw [World.live_same _ found]; exact .refl inv
  · have closed : Quiet σ t (γ, s) (γ, s.live j (s.loop, { p with inputClosed := true })) :=
      quiet_live inv found (Server.fades rfl rfl (fun e => e) (fun _ => rfl) fun e => e) (.refl _)
        (fun c => by cases c <;> rfl) fun _ h => .inl h
    exact closed.more found (quiet_perform j _ _)

/-- A server acts, if there is one. -/
theorem quiet_withServer {j : Nat} {f : Living → Living} (inv : Inv σ t γ s)
    (quietly : Quietly σ t γ j f) : Quiet σ t (γ, s) (γ, s.withServer j f) := by
  unfold World.withServer
  split
  · next p found => exact quietly s p inv found
  · exact .refl inv

end LspHost

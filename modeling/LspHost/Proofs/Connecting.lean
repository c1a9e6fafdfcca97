import LspHost.Proofs.Releasing

/-!
# Starting a process

A process that is started is nobody's (`inv_born`) until its transport takes hold of it (`inv_settled`).
It has been told nothing, and nobody has anything to say to it yet, as its session is not known to
anybody but the lifecycle operation that opens it.
-/

namespace LspHost

open Discipline

variable {σ : Setting} {t i j : Nat} {γ γ' : Ghost} {s s' : World}

theorem getElem?_push_cases {α : Type} {l : List α} {x y : α} {n : Nat}
    (h : (l ++ [x])[n]? = some y) : l[n]? = some y ∨ (n = l.length ∧ y = x) := by
  rcases Nat.lt_trichotomy n l.length with lt | rfl | gt
  · exact .inl (by rwa [List.getElem?_append_left lt] at h)
  · exact .inr ⟨rfl, by simpa using h.symm⟩
  · rw [List.getElem?_eq_none (by simpa using Nat.succ_le_of_lt gt)] at h
    cases h

/-- Sessions and transports are as they were, and so are those that nobody has anything to say to. -/
structure Stays (t : Nat) (a b : Ghost × World) : Prop extends Manages t a b where
  seats : b.2.overview.seats = a.2.overview.seats
  grips : b.2.overview.holds = a.2.overview.holds
  unheard : ∀ i, a.2.overview.serverOf? i = none → a.2.voice a.1 i = [] → b.2.voice b.1 i = []

theorem Stays.serverOf? {a b : Ghost × World} (h : Stays t a b) (n : Nat) :
    b.2.overview.serverOf? n = a.2.overview.serverOf? n := by
  simp only [Overview.serverOf?, h.grips]

theorem Stays.trans {a b c : Ghost × World} (h : Stays t a b) (h' : Stays t b c) : Stays t a c where
  toManages := h.toManages.trans h'.toManages
  seats := h'.seats.trans h.seats
  grips := h'.grips.trans h.grips
  unheard i none silent := h'.unheard i ((h.serverOf? i).trans none) (h.unheard i none silent)

theorem Mute.stays {a b : Ghost × World} (h : Mute t a b) (held : a.1.holder .lifecycle = some t) :
    Stays t a b where
  toManages := h.toMinds.manages held
  seats := (h.life held).seats
  grips := (h.life held).holds
  unheard := h.unheard held

/-! ## Attempts -/

/-- The process of an attempt that is under way: nobody has its number yet. -/
structure Attempt (σ : Setting) (attempt : Nat) (script : Script) (v : Overview) : Prop where
  fresh : ∀ q ∈ v.processes, q.pid ≠ World.pidOf attempt
  counted : World.pidOf attempt < World.pidOf v.attempts
  tame : σ.Tame → script.Tame

theorem Attempt.minds {attempt : Nat} {script : Script} {a b : Ghost × World}
    (h : Attempt σ attempt script a.2.overview) (minds : Minds t a b)
    (held : a.1.holder .lifecycle = some t) : Attempt σ attempt script b.2.overview where
  fresh q' hq' := by
    obtain ⟨n, hn⟩ := List.mem_iff_getElem?.mp hq'
    have bound : n < a.2.overview.processes.length := by
      rw [← (minds.life held).processes]; exact (List.getElem?_eq_some_iff.mp hn).1
    obtain ⟨p, hp, pid, -⟩ := minds.processes n _ (List.getElem?_eq_getElem bound)
    obtain rfl : p = q' := Option.some.inj (hp.symm.trans hn)
    rw [pid]
    exact h.fresh _ (List.getElem_mem bound)
  counted := by rw [(minds.life held).attempts]; exact h.counted
  tame := h.tame

/-- A script that serves an attempt is one of those that were given, or obedient. -/
theorem World.scriptOf_tame {scripts : List Script} (tame : ∀ x ∈ scripts, x.Tame) (attempt : Nat) :
    (World.scriptOf scripts attempt).Tame := by
  have obedient : Script.obedient.Tame := ⟨rfl, fun e => by cases e⟩
  unfold World.scriptOf
  split
  · next x found => exact tame x (List.mem_of_getElem? found)
  · rcases last : scripts.getLast? with _ | x
    · exact obedient
    · exact tame x (List.mem_of_getLast? last)

/-- An attempt is noted. -/
theorem wp_attemptSpawn {β : Type} {command : List String} {cwd : Datum} {g : Nat × Script → Act β}
    {Q : Except Fault β → Ghost → World → Prop} (poised : Poised σ t γ s)
    (held : γ.holder .lifecycle = some t)
    (next : ∀ attempt script s', Poised σ t γ s' → Stays t (γ, s) (γ, s') →
      Attempt σ attempt script s'.overview →
      (discipline σ).wp t (g (attempt, script)) Q γ s') :
    (discipline σ).wp t (Transport.attemptSpawn command cwd >>= g) Q γ s := by
  have mail : (s.record (.spawned command cwd)).mail = s.mail := by
    rw [World.mail_record]; exact List.append_nil _
  have view : ({ s.record (.spawned command cwd) with attempts := s.attempts + 1 } : World).overview =
      { s.overview with attempts := s.attempts + 1 } := by
    show ({ (s.record (.spawned command cwd)).overview with attempts := s.attempts + 1 } : Overview) = _
    simp only [World.overview, mail]
    rfl
  have aside : Aside (γ, s) (γ, { s.record (.spawned command cwd) with attempts := s.attempts + 1 }) :=
    ⟨rfl, rfl, rfl, fun p => by cases p <;> rfl, rfl, rfl, rfl, rfl⟩
  have keeps := aside.keeps (Nat.le_refl _) (Nat.le_refl _)
    (fun n past => by rw [view]; exact ⟨past, fun e => e, fun _ e => e⟩)
    fun x hx => by rw [view]; exact hx
  have spares : (discipline σ).Spares t (γ, s) _ := aside.spares held keeps fun _ _ _ => by
    rw [view]; exact ⟨⟨fun _ e _ => .inl e, fun e => e, .inl rfl⟩, rfl⟩
  have later (n : Nat) (h : n < World.pidOf s.attempts) : n < World.pidOf (s.attempts + 1) :=
    Nat.lt_succ_of_lt h
  have inv : Inv σ (some t) γ { s.record (.spawned command cwd) with attempts := s.attempts + 1 } := by
    refine aside.inv poised.inv poised.inv.tickets.pending ?_ ?_ ?_ ?_
    · rw [view]
      exact { poised.inv.life with
        attempted := fun p hp => later _ (poised.inv.life.attempted p hp)
        atRest := fun free => by rw [held] at free; cases free }
    · rw [aside.voice rfl, view]
      exact ⟨poised.inv.order.written, poised.inv.order.planned⟩
    · rw [view]; exact { poised.inv.mirror with }
    · rw [view]; exact poised.inv.closed
  refine wp_yield γ spares (next _ _ _ ⟨inv, poised.ease⟩
    ⟨⟨keeps, fun _ => .rfl, ?_, ?_, fun _ e => by dsimp only; rw [view]; exact e⟩, ?_, ?_,
    fun i _ silent => (congrFun (aside.voice rfl) i).trans silent⟩ ?_)
  all_goals dsimp only
  all_goals rw [view]
  refine ⟨fun q hq => Nat.ne_of_lt (poised.inv.life.attempted q hq), Nat.lt_succ_self _, fun tame => ?_⟩
  have scripts : s.scripts = σ.scripts := poised.inv.life.scripts
  rw [scripts]
  exact World.scriptOf_tame tame _

/-! ## A new process -/

/-- A process that was just started is added. -/
def World.withNewborn (p : Server) (s : World) : World := { s with servers := s.servers ++ [p] }

theorem World.overview_withNewborn (p : Server) :
    (s.withNewborn p).overview = { s.overview with processes := s.overview.processes ++ [p.shown] } := by
  simp only [overview, withNewborn, List.map_append, List.map_cons, List.map_nil]
  rfl

theorem World.lock_withNewborn (p : Server) (q : Place) : q.lock (s.withNewborn p) = q.lock s := by
  cases q <;> rfl

/-- What nobody has written to was told nothing. -/
theorem toldIn_nil {mail : List (Nat × Option Members)} {pid : Nat} (h : ∀ x ∈ mail, x.1 ≠ pid) :
    toldIn mail pid = [] := by
  refine List.filterMap_eq_nil_iff.mpr fun x hx => ?_
  rw [if_neg (h x hx)]

/-- A process is added that has a number of its own. -/
structure Overview.Joins (v : Overview) (p : Process) : Prop where
  fresh : ∀ q ∈ v.processes, q.pid ≠ p.pid
  posted : ∀ x ∈ v.mail, ∃ q ∈ v.processes, q.pid = x.1
  owned : ∀ n k, v.serverOf? n = some k → k < v.processes.length

namespace Overview.Joins

variable {v : Overview} {p : Process} (h : v.Joins p)

def view (v : Overview) (p : Process) : Overview := { v with processes := v.processes ++ [p] }

theorem mem {q : Process} (hq : q ∈ (view v p).processes) : q ∈ v.processes ∨ q = p := by
  rcases List.mem_append.mp hq with hq | hq
  · exact .inl hq
  · exact .inr (List.mem_singleton.mp hq)

include h

theorem unposted : ∀ x ∈ v.mail, x.1 ≠ p.pid := by
  intro x hx e
  obtain ⟨q, hq, pid⟩ := h.posted x hx
  exact h.fresh q hq (pid.trans e)

theorem told : toldIn v.mail p.pid = [] := toldIn_nil h.unposted

/-- What transports hold was there before. -/
theorem old {n k : Nat} {q : Process} (hk : v.serverOf? n = some k)
    (hq : (view v p).processes[k]? = some q) : v.processes[k]? = some q := by
  rcases getElem?_push_cases hq with hq | ⟨rfl, -⟩
  · exact hq
  · exact absurd (h.owned n _ hk) (Nat.lt_irrefl _)

theorem life (life : Life σ γ v) (held : γ.holder .lifecycle = some t) (free : γ.newborn = none)
    (counted : p.pid < World.pidOf v.attempts) (tame : σ.Tame → p.script.Tame)
    (deaf : p.listening = true → p.alive = true) :
    Life σ { γ with newborn := some v.processes.length } (view v p) :=
  { life with
    pids := fun n n' q q' hq hq' same => by
      rcases getElem?_push_cases hq with old | ⟨rfl, rfl⟩
      · rcases getElem?_push_cases hq' with old' | ⟨rfl, rfl⟩
        · exact life.pids n n' q q' old old' same
        · exact absurd same (h.fresh q (List.mem_of_getElem? old))
      · rcases getElem?_push_cases hq' with old' | ⟨rfl, rfl⟩
        · exact absurd same.symm (h.fresh q' (List.mem_of_getElem? old'))
        · rfl
    attempted := fun q hq => by
      rcases mem hq with hq | rfl
      · exact life.attempted q hq
      · exact counted
    posted := fun x hx => by
      obtain ⟨q, hq, pid⟩ := life.posted x hx
      exact ⟨q, List.mem_append_left _ hq, pid⟩
    tame := fun obedient q hq => by
      rcases mem hq with hq | rfl
      · exact life.tame obedient q hq
      · exact tame obedient
    owned := fun n k e => by
      have := life.owned n k e
      simp only [view, List.length_append, List.length_singleton]
      omega
    deaf := fun q hq => by
      rcases mem hq with hq | rfl
      · exact life.deaf q hq
      · exact deaf
    newest := fun obedient resolvable n q hq alive => by
      rcases getElem?_push_cases hq with hq | ⟨rfl, -⟩
      · refine .inr ((life.newest obedient resolvable n q hq alive).resolve_left fun e => ?_)
        rw [free] at e
        cases e
      · exact .inl rfl
    atRest := fun none => by
      have none : γ.holder .lifecycle = Option.none := none
      rw [held] at none
      cases none }

theorem order {queue : Nat → List Said} (order : Order queue v) : Order queue (view v p) where
  written q hq := by
    rcases mem hq with hq | rfl
    · exact order.written q hq
    · exact ⟨.silent, by simp [saidIn, view, h.told]⟩
  planned n k q hn hq := order.planned n k q hn (h.old hn hq)

theorem mirror {hands : Hands} (mirror : Mirror hands v) : Mirror hands (view v p) :=
  { mirror with
    followed := fun q hq => by
      rcases mem hq with hq | rfl
      · exact mirror.followed q hq
      · simp [notesIn, view, h.told]
    mirrored := fun n k q hn hk hq => mirror.mirrored n k q hn hk (h.old hk hq)
    early := fun n k q state apart hk hq => mirror.early n k q state apart hk (h.old hk hq)
    refused := fun q hq harmed => by
      rcases mem hq with hq | rfl
      · exact mirror.refused q hq harmed
      · exact absurd rfl (h.unposted _ harmed) }

theorem closed {hands : Hands} (closed : Sealed hands v) : Sealed hands (view v p) :=
  fun n k q apart hn hq => closed n k q apart hn (h.old hn hq)

end Overview.Joins

theorem errorWaiter?_withNewborn {p : Server} (free : p.errors.waiter = none) (n : Nat) :
    (s.withNewborn p).errorWaiter? n = s.errorWaiter? n := by
  simp only [World.errorWaiter?]
  rcases Nat.lt_trichotomy n s.servers.length with lt | rfl | gt
  · simp [World.withNewborn, List.getElem?_append_left lt]
  · simp [World.withNewborn, free]
  · have gone : s.servers[n]? = none := List.getElem?_eq_none (by omega)
    have gone' : (s.withNewborn p).servers[n]? = none :=
      List.getElem?_eq_none (by simp only [World.withNewborn, List.length_append,
        List.length_singleton]; omega)
    rw [gone, gone']

section Born

variable {attempt : Nat} {script : Script} (poised : Poised σ t γ s)
  (held : γ.holder .lifecycle = some t) (h : Attempt σ attempt script s.overview)
include poised held h

/-- The process is added, and is nobody's yet. -/
theorem inv_born : Inv σ (some t) { γ with newborn := some s.servers.length }
    (s.withNewborn (Server.fresh (World.pidOf attempt) script)) := by
  obtain ⟨p, e⟩ : ∃ p, Server.fresh (World.pidOf attempt) script = p := ⟨_, rfl⟩
  have inv := poised.inv
  have joins : s.overview.Joins p.shown := by
    refine ⟨?_, inv.life.posted, inv.life.owned⟩
    rw [← e]; exact h.fresh
  have streams (c : Channel) : (c.get p).waiter = none := by rw [← e]; cases c <;> rfl
  have view : (s.withNewborn p).overview = Overview.Joins.view s.overview p.shown :=
    World.overview_withNewborn p
  have cases' {n : Nat} {q : Server} (hq : (s.withNewborn p).servers[n]? = some q) :
      s.servers[n]? = some q ∨ (n = s.servers.length ∧ q = p) := getElem?_push_cases hq
  rw [e]
  refine
    { tickets := { inv.tickets with
        fits := fun k r hr => (inv.tickets.fits k r hr).mono (fun _ e => e) (fun _ e => e) ?_ ?_ fun _ _ _ _ e => e
        streams := fun n q c k d hq hw => ?_
        exits := fun n q k hq hk => ?_ }
      tasks := { inv.tasks with
        undrained := fun n none => by
          rw [errorWaiter?_withNewborn (streams .errors)]; exact inv.tasks.undrained n none
        awaited := fun n k d hw => by
          rw [errorWaiter?_withNewborn (streams .errors)] at hw; exact inv.tasks.awaited n k d hw
        served := fun u n hu => by
          have := inv.tasks.served u n hu
          simp only [World.withNewborn, List.length_append, List.length_singleton]
          omega }
      locks := fun q => ?_
      holders := ⟨inv.holders.known, inv.holders.lifecycle, inv.holders.documents⟩
      life := ?_, order := ?_, mirror := ?_, closed := ?_ }
  · rintro n ⟨q, hq, dead⟩
    refine ⟨q, ?_, dead⟩
    rw [view]
    exact (List.getElem?_append_left (List.getElem?_eq_some_iff.mp hq).1).trans hq
  · rintro n ⟨q, hq, long⟩
    exact ⟨q, (List.getElem?_append_left (List.getElem?_eq_some_iff.mp hq).1).trans hq, long⟩
  · rcases cases' hq with hq | ⟨-, rfl⟩
    · exact inv.tickets.streams n q c k d hq hw
    · rw [streams] at hw; cases hw
  · rcases cases' hq with hq | ⟨-, rfl⟩
    · exact inv.tickets.exits n q k hq hk
    · rw [← e] at hk; cases hk
  · have lock := World.lock_withNewborn (s := s) p q
    have old := inv.locks q
    exact ⟨by rw [lock]; exact old.nodup, by rw [lock]; exact old.waiters, by rw [lock]; exact old.held,
      by rw [lock]; exact old.granted⟩
  · rw [view]
    have length : s.servers.length = s.overview.processes.length := by simp [World.overview]
    rw [length]
    refine joins.life inv.life held poised.ease.newborn ?_ ?_ ?_
    all_goals rw [← e]
    · exact h.counted
    · exact h.tame
    · exact fun _ => rfl
  · have voice : (s.withNewborn p).voice { γ with newborn := some s.servers.length } = s.voice γ := by
      funext n
      simp only [World.voice, World.queued, World.lock_withNewborn]
    rw [voice, view]; exact joins.order inv.order
  · rw [view]; exact { joins.mirror inv.mirror with }
  · rw [view]; exact joins.closed inv.closed

omit held h in
theorem keeps_born (p : Server) :
    Keeps (γ, s) ({ γ with newborn := some s.servers.length }, s.withNewborn p) where
  roles _ _ := rfl
  loop := .refl _
  doomed _ e := e
  ended _ e := e
  processes n q hq := by
    refine ⟨q, ?_, rfl, rfl, fun e => e, fun e => e⟩
    dsimp only
    rw [World.overview_withNewborn]
    exact (List.getElem?_append_left (List.getElem?_eq_some_iff.mp hq).1).trans hq
  transports := Nat.le_refl _
  sessions := Nat.le_refl _
  past n past := by
    dsimp only
    rw [World.overview_withNewborn]
    refine ⟨past, ?_, fun _ e => e⟩
    rintro ⟨k, q, hk, hq, listens⟩
    refine ⟨k, q, hk, ?_, listens⟩
    have bound := poised.inv.life.owned n k hk
    exact (List.getElem?_append_left bound).symm.trans hq
  overlong n := fun ⟨q, hq, long⟩ =>
    ⟨q, (List.getElem?_append_left (List.getElem?_eq_some_iff.mp hq).1).trans hq, long⟩
  mail x hx := by
    dsimp only
    rw [World.overview_withNewborn]; exact hx

omit h in
theorem spares_born {p : Server} (free : p.errors.waiter = none) :
    (discipline σ).Spares t (γ, s) ({ γ with newborn := some s.servers.length }, s.withNewborn p) := by
  intro u hu
  have other (e : γ.holder .lifecycle = some u) : False := by
    rw [held] at e
    exact hu (Option.some.inj e).symm
  refine
    { toKeeps := keeps_born poised p
      holder := fun _ => .rfl
      life := fun e => (other e).elim
      documents := fun _ => ?_
      planned := fun e => (other e).elim
      unheard := fun e => (other e).elim
      untold := fun _ => rfl
      queue := fun q k m _ => by rw [World.lock_withNewborn]
      requests := fun _ _ e => e
      kept := fun _ _ _ _ => rfl
      phase := rfl
      errors := fun n _ => ?_ }
  · dsimp only
    rw [World.overview_withNewborn]
    exact ⟨fun _ e _ => .inl e, fun e => e, .inl rfl⟩
  · simp only [errorWaiter?_withNewborn free]
    exact ⟨fun e => e, fun _ _ e => .inl e, fun d ⟨q, hq, meets⟩ =>
      ⟨q, (List.getElem?_append_left (List.getElem?_eq_some_iff.mp hq).1).trans hq, meets⟩⟩

end Born

/-! ## What a process does at its start -/

namespace Server

theorem tasks_rouse (l : Loop) (x : Stream) : (rouse l x).1.tasks = l.tasks := by
  unfold rouse
  split
  · split
    · exact Loop.tasks_settle ..
    · rfl
  · rfl

theorem tasks_announceExit (x : Living) : (announceExit x).1.tasks = x.1.tasks := by
  obtain ⟨l, p⟩ := x
  show (p.exitWaiters.foldl (fun l t => l.settle t (.ok .null)) l).tasks = l.tasks
  induction p.exitWaiters generalizing l with
  | nil => rfl
  | cons k rest ih => rw [List.foldl_cons, ih, Loop.tasks_settle]

/-- What a process does starts no task. -/
theorem tasks_act (trigger : Trigger) (a : Action) (x : Living) :
    (act trigger a x).1.tasks = x.1.tasks := by
  obtain ⟨l, p⟩ := x
  cases a with
  | exit code =>
    simp only [act, exit, tasks_announceExit, closeErrors, closeOutput, tasks_rouse]
  | _ => first | rfl | exact tasks_rouse ..

theorem tasks_perform (id : Nat) (trigger : Trigger) (actions : List Action) (x : Living) :
    (perform id trigger actions x).1.tasks = x.1.tasks := by
  induction actions generalizing x with
  | nil => rfl
  | cons a rest ih =>
    obtain ⟨l, p⟩ := x
    have goesOn (h : perform id trigger (a :: rest) (l, p) =
        if p.isAlive then perform id trigger rest (act trigger a (l, p)) else (l, p)) :
        (perform id trigger (a :: rest) (l, p)).1.tasks = l.tasks := by
      rw [h]
      split
      · rw [ih, tasks_act]
      · rfl
    cases a with
    | delay time =>
      simp only [perform]
      split <;> rfl
    | _ => exact goesOn rfl

end Server

/-- A process was started that nobody holds yet. -/
structure Born (σ : Setting) (t j : Nat) (a b : Ghost × World) : Prop where
  inv : Inv σ (some t) b.1 b.2
  tongue : b.1.tongue = fun _ => []
  parting : b.1.parting = none
  newborn : b.1.newborn = some j
  stays : Stays t a b
  homeless : ∀ n, b.2.overview.serverOf? n ≠ some j
  undrained : ∀ u, b.2.loop.kind? u ≠ some (.drain j)
  unposted : ∃ p, b.2.overview.processes[j]? = some p ∧ ∀ x ∈ b.2.overview.mail, x.1 ≠ p.pid

/-- A process is created and does at once what it does at its start. -/
theorem wp_createServer {attempt : Nat} {script : Script} (poised : Poised σ t γ s)
    (held : γ.holder .lifecycle = some t) (h : Attempt σ attempt script s.overview) :
    (discipline σ).wp t (Transport.createServer attempt script)
      (fun r γ' s' => ∃ j, r = .ok j ∧ Born σ t j (γ, s) (γ', s')) γ s := by
  obtain ⟨p, e⟩ : ∃ p, Server.fresh (World.pidOf attempt) script = p := ⟨_, rfl⟩
  have inv := inv_born poised held h
  rw [e] at inv
  have errors : p.errors.waiter = none := by rw [← e]; rfl
  have found : (s.withNewborn p).servers[s.servers.length]? = some p := by
    simp [World.withNewborn]
  have quiet := quiet_withServer (j := s.servers.length) inv
    (quiet_perform s.servers.length Server.noTrigger script.onStart)
  obtain ⟨done, same⟩ : ∃ done, Server.perform s.servers.length Server.noTrigger script.onStart
      ((s.withNewborn p).loop, p) = done := ⟨_, rfl⟩
  have tasks : done.1.tasks = s.loop.tasks := by rw [← same]; exact Server.tasks_perform ..
  have live := World.withServer_live (Server.perform s.servers.length Server.noTrigger script.onStart)
    found
  rw [same] at live
  rw [live] at quiet
  have view : ((s.withNewborn p).live s.servers.length done).overview =
      { s.overview with processes :=
        (s.overview.processes ++ [p.shown]).set s.servers.length done.2.shown } := by
    obtain ⟨l, q⟩ := done
    rw [World.overview_live, World.overview_withNewborn]
  refine wp_yieldEnds { γ with newborn := some s.servers.length } ?_ ?_
  all_goals dsimp only
  all_goals rw [e]
  all_goals rw [show ({ s with servers := s.servers ++ [p] } : World) = s.withNewborn p from rfl, live]
  · exact fun u hu => (spares_born poised held errors u hu).trans (quiet.rely u)
  have view' : ((s.withNewborn p).live s.servers.length done).overview.holds = s.overview.holds := by
    rw [view]
  refine ⟨s.servers.length, rfl,
    { inv := quiet.inv
      tongue := poised.ease.tongue
      parting := poised.ease.parting
      newborn := rfl
      stays := ⟨⟨(keeps_born poised p).trans (quiet.rely t).toKeeps, fun _ => .rfl, ?_, ?_,
        fun _ e => by dsimp only; rw [view]; exact e⟩, ?_, view', fun i _ silent => ?_⟩
      homeless := fun n same => ?_
      undrained := fun u kind => ?_
      unposted := ?_ }⟩
  · dsimp only
    rw [view]
  · dsimp only
    rw [view']
  · dsimp only
    rw [view]
  · rw [← silent]
    simp only [World.voice, World.queued, World.lock_live, World.lock_withNewborn]
  · dsimp only at same
    simp only [Overview.serverOf?, view'] at same
    have bound := poised.inv.life.owned n _ same
    simp [World.overview] at bound
  · have old : s.loop.kind? u = some (.drain s.servers.length) := by
      have kind : done.1.kind? u = some (.drain s.servers.length) := kind
      simpa only [Loop.kind?, tasks] using kind
    exact absurd (poised.inv.tasks.served u _ (.inl old)) (Nat.lt_irrefl _)
  · have place : (s.withNewborn p).overview.processes[s.servers.length]? = some p.shown := by
      simp [World.overview, found]
    obtain ⟨q, hq, pid, -⟩ := (quiet.rely t).processes _ _ place
    refine ⟨q, hq, fun x hx same => ?_⟩
    have hx : x ∈ s.overview.mail := by
      dsimp only at hx
      rw [view] at hx
      exact hx
    obtain ⟨q', hq', pid'⟩ := poised.inv.life.posted x hx
    refine h.fresh q' hq' ?_
    rw [pid', same, pid, ← e]
    rfl

/-- Starting a process: there is one then, or the attempt has failed. -/
theorem wp_spawn (x : Transport) (command : String) (poised : Poised σ t γ s)
    (held : γ.holder .lifecycle = some t) (fore : Foreground t s) :
    (discipline σ).wp t (Transport.spawn x command)
      (fun r γ' s' => (∃ j, r = .ok j ∧ Born σ t j (γ, s) (γ', s')) ∨
        ((∃ f, r = .error (.transport (.spawn f))) ∧ Poised σ t γ' s' ∧ Stays t (γ, s) (γ', s')))
      γ s := by
  refine wp_attemptSpawn poised held fun attempt script s₁ poised₁ stays₁ h₁ => ?_
  refine Wp.seq (wp_sleep poised₁ (fore.grow stays₁.loop) _) ?_ (by rintro _ _ _ ⟨e, -⟩; cases e)
  rintro _ γ₂ s₂ ⟨-, poised₂, rely⟩
  have stays₂ := rely.toMute.stays held
  have stays := stays₁.trans stays₂
  have h₂ := h₁.minds rely.toMinds held
  have failed {f : SpawnFault} : (∃ f', (.error (.transport (.spawn f)) : Except Fault Nat) =
      .error (.transport (.spawn f'))) ∧ Poised σ t γ₂ s₂ ∧ Stays t (γ, s) (γ₂, s₂) :=
    ⟨⟨f, rfl⟩, poised₂, stays⟩
  split
  · refine Wp.mono (wp_createServer poised₂ ((stays.holder _).mp held) h₂) fun r γ₃ s₃ ⟨j, e, born⟩ => ?_
    exact .inl ⟨j, e, { born with stays := stays.trans born.stays }⟩
  · exact .inr failed
  · exact .inr failed
  · exact .inr failed

/-! ## Taking hold of a process -/

/-- A transport is about to take hold of a process that was just started. -/
structure Arrives (t i j : Nat) (γ : Ghost) (s : World) : Prop where
  mine : γ.holder .lifecycle = some t
  newborn : γ.newborn = some j
  last : i + 1 = s.overview.holds.length
  state : s.overview.state? i = some .initializing
  apart : s.overview.session ≠ some i
  vacant : s.overview.serverOf? i = none
  homeless : ∀ n, s.overview.serverOf? n ≠ some j
  unheard : s.voice γ i = []
  unposted : ∃ p, s.overview.processes[j]? = some p ∧ ∀ x ∈ s.overview.mail, x.1 ≠ p.pid

namespace Arrives

/-- The overview when the transport holds the process. -/
def view (v : Overview) (i j : Nat) : Overview :=
  { v with holds := v.holds.modify i fun x => { x with server := some j } }

theorem serverOf?_view {v : Overview} (bound : i < v.holds.length) (n : Nat) :
    (view v i j).serverOf? n = if n = i then some j else v.serverOf? n := by
  simp only [Overview.serverOf?, view, List.getElem?_modify]
  by_cases e : n = i
  · subst e
    simp [List.getElem?_eq_getElem bound]
  · rw [if_neg e]
    rcases v.holds[n]? with _ | x
    · rfl
    · simp [Ne.symm e]

variable (h : Arrives t i j γ s)
include h

theorem bound : i < s.overview.holds.length := by rw [← h.last]; exact Nat.lt_succ_self i

/-- What transports hold then. -/
theorem cases {n k : Nat} (e : (view s.overview i j).serverOf? n = some k) :
    (n = i ∧ k = j) ∨ (n ≠ i ∧ s.overview.serverOf? n = some k) := by
  rw [serverOf?_view h.bound] at e
  split at e
  · next same => exact .inl ⟨same, (Option.some.inj e).symm⟩
  · next ne => exact .inr ⟨ne, e⟩

theorem life (life : Life σ γ s.overview) : Life σ { γ with newborn := none } (view s.overview i j) :=
  { life with
    paired := by simpa [view] using life.paired
    commands := commands_modify (fun _ _ => rfl) life.commands
    owned := fun n k e => by
      rcases h.cases e with ⟨-, rfl⟩ | ⟨-, e⟩
      · obtain ⟨p, hp, -⟩ := h.unposted
        exact (List.getElem?_eq_some_iff.mp hp).1
      · exact life.owned n k e
    owner := fun n n' k e e' => by
      rcases h.cases e with ⟨rfl, rfl⟩ | ⟨-, old⟩
      · rcases h.cases e' with ⟨rfl, -⟩ | ⟨-, old'⟩
        · rfl
        · exact absurd old' (h.homeless n')
      · rcases h.cases e' with ⟨-, rfl⟩ | ⟨-, old'⟩
        · exact absurd old (h.homeless n)
        · exact life.owner n n' k old old'
    drains := fun n x d hx hd => by
      simp only [view, List.getElem?_modify] at hx
      rcases found : s.overview.holds[n]? with _ | x₀
      · simp [found] at hx
      · by_cases e : i = n
        · subst e
          have same : { x₀ with server := some j } = x := by simpa [found] using hx
          subst same
          obtain ⟨-, k, server, -⟩ := life.drains i x₀ d found hd
          have vacant := h.vacant
          simp only [Overview.serverOf?, found, Option.bind_some, server] at vacant
          cases vacant
        · have same : x₀ = x := by simpa [found, e] using hx
          subst same
          exact life.drains n x₀ d found hd
    unstarted := fun n state => by
      have unstarted : s.overview.state? n = some .notStarted := state
      have ne : n ≠ i := by
        rintro rfl
        rw [h.state] at unstarted
        cases unstarted
      rw [serverOf?_view h.bound, if_neg ne]
      exact life.unstarted n unstarted
    newest := fun tame resolvable k p hp alive => by
      refine .inr ⟨i, by simpa [view] using h.last, ?_⟩
      rw [serverOf?_view h.bound, if_pos rfl]
      rcases life.newest tame resolvable k p hp alive with e | ⟨n, last, server⟩
      · rw [h.newborn] at e
        exact e
      · have same : n = i := by have := h.last; omega
        rw [same, h.vacant] at server
        cases server
    atRest := fun free => by
      have free : γ.holder .lifecycle = none := free
      rw [h.mine] at free
      cases free }

/-- Nothing was said to the process, and nothing is planned to be. -/
theorem planned {p : Process} (hp : s.overview.processes[j]? = some p) :
    plannedAt (s.voice γ) (view s.overview i j) i p = some .silent := by
  obtain ⟨q, hq, unposted⟩ := h.unposted
  obtain rfl : q = p := Option.some.inj (hq.symm.trans hp)
  have none : saidIn (view s.overview i j).mail q.pid = [] := by
    simp [saidIn, toldIn_nil (show ∀ x ∈ (view s.overview i j).mail, x.1 ≠ q.pid from unposted)]
  rw [plannedAt, none, h.unheard]
  rfl

theorem order (order : Order (s.voice γ) s.overview) : Order (s.voice γ) (view s.overview i j) where
  written := order.written
  planned n k p hn hp listens := by
    rcases h.cases hn with ⟨rfl, rfl⟩ | ⟨-, hn⟩
    · exact ⟨.silent, .initializing, h.planned hp, h.state, .inl rfl⟩
    · exact order.planned n k p hn hp listens

theorem mirror {hands : Hands} (mirror : Mirror hands s.overview) :
    Mirror hands (view s.overview i j) :=
  { mirror with
    mirrored := fun n k p hn hk hp => by
      rcases h.cases hk with ⟨rfl, -⟩ | ⟨-, hk⟩
      · exact absurd hn h.apart
      · exact mirror.mirrored n k p hn hk hp
    early := fun n k p state apart hk hp => by
      rcases h.cases hk with ⟨rfl, rfl⟩ | ⟨-, hk⟩
      · obtain ⟨q, hq, unposted⟩ := h.unposted
        obtain rfl : q = p := Option.some.inj (hq.symm.trans hp)
        simp [notesIn, toldIn_nil (show ∀ x ∈ (view s.overview n k).mail, x.1 ≠ q.pid from unposted)]
      · exact mirror.early n k p state apart hk hp }

theorem closed (closed : Sealed γ.toHands s.overview) :
    Sealed { γ with newborn := none }.toHands (view s.overview i j) := by
  intro n k p apart hn hp listens ended
  rcases h.cases hn with ⟨rfl, rfl⟩ | ⟨-, hn⟩
  · obtain ⟨q, hq, unposted⟩ := h.unposted
    obtain rfl : q = p := Option.some.inj (hq.symm.trans hp)
    have none : saidIn (view s.overview n k).mail q.pid = [] := by
      simp [saidIn, toldIn_nil (show ∀ x ∈ (view s.overview n k).mail, x.1 ≠ q.pid from unposted)]
    rw [none] at ended
    cases ended
  · exact closed n k p apart hn hp listens ended

/-- The transport takes hold of the process. -/
theorem settled (inv : Inv σ (some t) γ s) :
    Inv σ (some t) { γ with newborn := none } (s.setTransport i fun x => { x with server := some j }) ∧
    Keeps (γ, s) ({ γ with newborn := none }, s.setTransport i fun x => { x with server := some j }) ∧
    (discipline σ).Spares t (γ, s)
      ({ γ with newborn := none }, s.setTransport i fun x => { x with server := some j }) := by
  have locks (p : Place) : p.lock (s.setTransport i fun x => { x with server := some j }) = p.lock s :=
    (aside_setTransport (γ := γ) (f := fun x => { x with server := some j }) fun _ => rfl).locks p
  have aside : Aside (γ, s)
      ({ γ with newborn := none }, s.setTransport i fun x => { x with server := some j }) :=
    ⟨rfl, rfl, rfl, locks, rfl, rfl, rfl, rfl⟩
  have shows : (s.setTransport i fun x => { x with server := some j }).overview =
      view s.overview i j := World.overview_setTransport fun _ => rfl
  have keeps := aside.keeps (by simp [World.setTransport]) (Nat.le_refl _) (fun n past => ?_)
    fun x e => by rw [shows]; exact e
  · refine ⟨aside.inv inv inv.tickets.pending ?_ ?_ ?_ ?_, keeps, aside.spares h.mine keeps fun _ _ _ => ?_⟩
    · rw [shows]; exact h.life inv.life
    · rw [aside.voice rfl, shows]; exact h.order inv.order
    · rw [shows]; exact { h.mirror inv.mirror with }
    · rw [shows]; exact h.closed inv.closed
    · rw [shows]; exact ⟨⟨fun _ e _ => .inl e, fun e => e, .inl rfl⟩, rfl⟩
  · have ne : n ≠ i := by
      rintro rfl
      obtain ⟨st, state, past⟩ := past
      dsimp only at state
      rw [h.state] at state
      obtain rfl := Option.some.inj state
      rcases past with e | e | e <;> cases e
    have same : (view s.overview i j).serverOf? n = s.overview.serverOf? n := by
      rw [serverOf?_view h.bound, if_neg ne]
    rw [shows]
    refine ⟨past, ?_, fun k e => by rw [same] at e; exact e⟩
    rintro ⟨k, p, hk, hp, listens⟩
    exact ⟨k, p, by rw [same] at hk; exact hk, hp, listens⟩

end Arrives

/-! ## The task that serves a process -/

/-- A transport keeps the task that empties the error output of its process. -/
structure Serves (t i j d : Nat) (γ : Ghost) (s : World) : Prop where
  mine : γ.holder .lifecycle = some t
  server : s.overview.serverOf? i = some j
  role : ∃ u, γ.role d = .ending u (.drain j) none

namespace Serves

variable {d : Nat}

/-- The overview when the transport keeps the task. -/
def view (v : Overview) (i d : Nat) : Overview :=
  { v with holds := v.holds.modify i fun x => { x with drain := some d } }

theorem serverOf?_view (v : Overview) (n : Nat) : (view v i d).serverOf? n = v.serverOf? n := by
  simp only [Overview.serverOf?, view, List.getElem?_modify]
  rcases v.holds[n]? with _ | x
  · rfl
  · by_cases e : i = n <;> simp [e]

variable (h : Serves t i j d γ s)
include h

theorem life (life : Life σ γ s.overview) : Life σ γ (view s.overview i d) :=
  { life with
    paired := by simpa [view] using life.paired
    commands := commands_modify (fun _ _ => rfl) life.commands
    owned := fun n k e => life.owned n k (by rwa [serverOf?_view] at e)
    owner := fun n n' k e e' => life.owner n n' k (by rwa [serverOf?_view] at e)
      (by rwa [serverOf?_view] at e')
    drains := fun n x d' hx hd => by
      simp only [view, List.getElem?_modify] at hx
      rcases found : s.overview.holds[n]? with _ | x₀
      · simp [found] at hx
      · by_cases e : i = n
        · subst e
          have same : { x₀ with drain := some d } = x := by simpa [found] using hx
          subst same
          cases hd
          obtain ⟨u, role⟩ := h.role
          have server := h.server
          simp only [Overview.serverOf?, found, Option.bind_some] at server
          exact ⟨u, j, server, role⟩
        · have same : x₀ = x := by simpa [found, e] using hx
          subst same
          exact life.drains n x₀ d' found hd
    unstarted := fun n state => by rw [serverOf?_view]; exact life.unstarted n state
    newest := fun tame resolvable k p hp alive =>
      (life.newest tame resolvable k p hp alive).imp_right fun ⟨n, last, server⟩ =>
        ⟨n, by simpa [view] using last, by rw [serverOf?_view]; exact server⟩
    atRest := fun free => by rw [h.mine] at free; cases free }

/-- The transport keeps the task from now on. -/
theorem kept (poised : Poised σ t γ s) :
    Poised σ t γ (s.setTransport i fun x => { x with drain := some d }) ∧
    Manages t (γ, s) (γ, s.setTransport i fun x => { x with drain := some d }) ∧
    (discipline σ).Spares t (γ, s) (γ, s.setTransport i fun x => { x with drain := some d }) ∧
    (s.setTransport i fun x => { x with drain := some d }).overview = view s.overview i d ∧
    (s.setTransport i fun x => { x with drain := some d }).voice γ = s.voice γ := by
  have aside : Aside (γ, s) (γ, s.setTransport i fun x => { x with drain := some d }) :=
    aside_setTransport fun _ => rfl
  have shows : (s.setTransport i fun x => { x with drain := some d }).overview =
      view s.overview i d := World.overview_setTransport fun _ => rfl
  have inv := poised.inv
  have listens {n : Nat} (e : (view s.overview i d).Listening n) : s.overview.Listening n := by
    obtain ⟨k, p, hk, hp, listens⟩ := e
    exact ⟨k, p, by rwa [serverOf?_view] at hk, hp, listens⟩
  have keeps : Keeps (γ, s) (γ, s.setTransport i fun x => { x with drain := some d }) := by
    refine aside.keeps (by simp [World.setTransport]) (Nat.le_refl _) (fun n past => ?_) fun x e => e
    rw [shows]
    exact ⟨past, listens, fun k e => by rwa [serverOf?_view] at e⟩
  refine ⟨⟨aside.inv inv inv.tickets.pending ?_ ?_ ?_ ?_, poised.ease⟩, ⟨keeps, fun _ => .rfl, rfl, ?_, ?_⟩,
    aside.spares h.mine keeps fun _ _ _ => ?_, shows, aside.voice rfl⟩
  · rw [shows]; exact h.life inv.life
  · rw [aside.voice rfl, shows]
    exact ⟨inv.order.written, fun n k p hn hp =>
      inv.order.planned n k p (by rwa [serverOf?_view] at hn) hp⟩
  · rw [shows]
    exact { inv.mirror with
      mirrored := fun n k p hn hk hp =>
        inv.mirror.mirrored n k p hn (by rwa [serverOf?_view] at hk) hp
      early := fun n k p state apart hk hp =>
        inv.mirror.early n k p state apart (by rwa [serverOf?_view] at hk) hp }
  · rw [shows]
    exact fun n k p apart hn hp => inv.closed n k p apart (by rwa [serverOf?_view] at hn) hp
  · dsimp only
    rw [shows]; simp [view]
  · rw [shows]; exact fun _ e => e
  · rw [shows]; exact ⟨⟨fun _ e _ => .inl e, fun e => e, .inl rfl⟩, rfl⟩

end Serves

/-! ## Connecting -/

/-- The fault of a command that is no text. -/
def commandFault (command : Datum) : Fault :=
  .plain .wrongType ("sequence item 0: expected str instance, " ++ command.kind ++ " found")

/-- A transport holds a process that nobody has told anything. -/
structure Connected (σ : Setting) (t i : Nat) (a b : Ghost × World) : Prop where
  poised : Poised σ t b.1 b.2
  manages : Manages t a b
  seats : b.2.overview.seats = a.2.overview.seats
  server : ∃ j, b.2.overview.serverOf? i = some j
  silent : ∀ (j : Nat) (p : Process), b.2.overview.serverOf? i = some j →
    b.2.overview.processes[j]? = some p → p.listening = true →
    plannedAt (b.2.voice b.1) b.2.overview i p = some .silent

/-- Why there is no process. -/
def Unspawned (σ : Setting) (f : Fault) : Prop :=
  (∃ f', f = .transport (.spawn f')) ∨
  (f = commandFault σ.config.server.command ∧ ∀ c, σ.config.server.command ≠ .str c)

/-- A transport that is about to be connected. -/
structure MayConnect (t i : Nat) (γ : Ghost) (s : World) : Prop where
  mine : γ.holder .lifecycle = some t
  last : i + 1 = s.overview.holds.length
  state : s.overview.state? i = some .initializing
  apart : s.overview.session ≠ some i
  vacant : s.overview.serverOf? i = none
  unheard : s.voice γ i = []

/-- The transport that is connected finds what was there. -/
theorem MayConnect.arrives {a b : Ghost × World} (h : MayConnect t i a.1 a.2)
    (born : Born σ t j a b) : Arrives t i j b.1 b.2 where
  mine := (born.stays.holder _).mp h.mine
  newborn := born.newborn
  last := by rw [born.stays.grips]; exact h.last
  state := by simpa only [Overview.state?, born.stays.seats] using h.state
  apart := by rw [born.stays.session]; exact h.apart
  vacant := (born.stays.serverOf? i).trans h.vacant
  homeless := born.homeless
  unheard := born.stays.unheard i h.vacant h.unheard
  unposted := born.unposted

/-- Starting a task. -/
theorem wp_start {β : Type} {κ : TaskKind} {g : Nat → Act β} {Q : Except Fault β → Ghost → World → Prop}
    (inv : Inv σ (some t) γ s) (keeper : Option Nat) (proper : κ.Supervised)
    (drains : ∀ j, κ = .drain j → ∀ u, s.loop.kind? u ≠ some (.drain j))
    (serves : ∀ j, κ = .drain j ∨ κ = .exitWatch j → j < s.servers.length)
    (next : Quiet σ (some t) (γ, s) (γ.assign s.loop.tickets.length
        (.ending s.loop.tasks.length κ keeper), { s with loop := (s.loop.start κ).2 }) →
      (discipline σ).wp t (g s.loop.tickets.length) Q (γ.assign s.loop.tickets.length
        (.ending s.loop.tasks.length κ keeper)) { s with loop := (s.loop.start κ).2 }) :
    (discipline σ).wp t (Act.start κ >>= g) Q γ s := by
  have started := quiet_start inv keeper proper drains serves
  have ticket : ((s.loop.start κ).2.ending? (s.loop.start κ).1).getD 0 = s.loop.tickets.length := by
    rw [show (s.loop.start κ).1 = s.loop.tasks.length from rfl, Loop.ending?_start]
    rfl
  refine wp_ask _ started.spares ?_
  show (discipline σ).wp t (g (((s.loop.start κ).2.ending? (s.loop.start κ).1).getD 0)) Q _ _
  rw [ticket]
  exact next started

theorem Born.ease {a b : Ghost × World} (h : Born σ t j a b) :
    ({ b.1 with newborn := none } : Ghost).AtEase := ⟨h.tongue, rfl, h.parting⟩

/-- A transport that holds a process starts the task that serves it. -/
theorem wp_serve (poised : Poised σ t γ s) (mine : γ.holder .lifecycle = some t)
    (server : s.overview.serverOf? i = some j) (undrained : ∀ u, s.loop.kind? u ≠ some (.drain j)) :
    (discipline σ).wp t (do
        let drain ← Act.start (.drain j)
        Program.update fun s => s.setTransport i fun x => { x with drain := some drain })
      (fun r γ' s' => r = .ok () ∧ Poised σ t γ' s' ∧ Manages t (γ, s) (γ', s') ∧
        s'.overview.seats = s.overview.seats ∧ s'.overview.serverOf? i = some j ∧
        ∀ p, s'.overview.processes[j]? = some p → p.listening = true →
          s.overview.processes[j]? = some p ∧
          plannedAt (s'.voice γ') s'.overview i p = plannedAt (s.voice γ) s.overview i p) γ s := by
  have bound : j < s.servers.length := by
    simpa [World.overview] using poised.inv.life.owned i j server
  refine wp_start poised.inv none trivial (fun k e u => ?_) (fun k e => ?_) fun started => ?_
  · cases e
    exact undrained u
  · rcases e with e | e <;> cases e
    exact bound
  have serves : Serves t i j s.loop.tickets.length
      (γ.assign s.loop.tickets.length (.ending s.loop.tasks.length (.drain j) none))
      { s with loop := (s.loop.start (.drain j)).2 } :=
    ⟨mine, server, _, Ghost.assign_role_self ..⟩
  obtain ⟨poised', manages, spares, shows, voice⟩ := serves.kept (started.poised poised.ease)
  refine wp_update _ spares ⟨rfl, poised', ?_, ?_, ?_, fun p hp listens => ?_⟩
  · exact ((started.rely t).toMinds.manages mine).trans manages
  · rw [shows]; rfl
  · rw [shows, Serves.serverOf?_view]; exact server
  · rw [shows] at hp
    rw [voice]
    exact ⟨hp, (started.rely t).planned mine i j p p server hp hp listens⟩

/-- Connecting: the transport holds a process, or there is none. -/
theorem wp_connect (poised : Poised σ t γ s) (fore : Foreground t s) (may : MayConnect t i γ s) :
    (discipline σ).wp t (Transport.connect i)
      (fun r γ' s' => (r = .ok () ∧ Connected σ t i (γ, s) (γ', s')) ∨
        ∃ f, r = .error f ∧ Unspawned σ f ∧ Poised σ t γ' s' ∧ Stays t (γ, s) (γ', s')) γ s := by
  have bound : i < s.transports.length := by
    have last := may.last
    simp only [World.overview, List.length_map] at last
    omega
  have found : s.transports[i]? = some s.transports[i] := List.getElem?_eq_getElem bound
  generalize s.transports[i] = x at found
  have vacant : x.server = none := by
    have vacant := may.vacant
    rw [World.overview_serverOf?] at vacant
    simpa only [World.serverOf?, found, Option.bind_some] using vacant
  have command : x.command = σ.config.server.command :=
    poised.inv.life.commands x.hold (List.mem_map_of_mem (List.mem_of_getElem? found))
  refine wp_getTransport found ?_
  simp only [vacant, Option.isSome_none, Bool.false_eq_true, if_false]
  refine Wp.seq (P := fun r γ' s' => γ' = γ ∧ s' = s ∧ ∀ f, r = .error f → Unspawned σ f) ?_ ?_ ?_
  · unfold Transport.commandText
    split
    · exact ⟨rfl, rfl, fun _ e => by cases e⟩
    · next other =>
      refine ⟨rfl, rfl, fun f e => .inr ⟨?_, fun c e' => other c (command.trans e')⟩⟩
      cases e
      rw [command]
      rfl
  · rintro text γ₁ s₁ ⟨rfl, rfl, -⟩
    refine Wp.seq (wp_spawn x text poised may.mine fore) ?_ ?_
    · rintro j γ₁ s₁ (⟨_, e, born⟩ | ⟨⟨_, e⟩, -⟩)
      · cases e
        have arrives := may.arrives born
        obtain ⟨inv₂, keeps₂, spares₂⟩ := arrives.settled born.inv
        have shows : (s₁.setTransport i fun x => { x with server := some j }).overview =
            Arrives.view s₁.overview i j := World.overview_setTransport fun _ => rfl
        have server : (s₁.setTransport i fun x => { x with server := some j }).overview.serverOf? i =
            some j := by
          rw [shows, Arrives.serverOf?_view arrives.bound, if_pos rfl]
        refine wp_change _ spares₂ (Wp.mono (wp_serve ⟨inv₂, born.ease⟩ arrives.mine server
          born.undrained) ?_)
        rintro r γ₃ s₃ ⟨rfl, poised₃, manages₃, seats, server₃, planned⟩
        refine .inl ⟨rfl, poised₃, ?_, ?_, ⟨j, server₃⟩, fun k p hk hp listens => ?_⟩
        · refine (born.stays.toManages.trans ⟨keeps₂, fun _ => .rfl, rfl, ?_, ?_⟩).trans manages₃
          · simp [World.overview, World.setTransport]
          · rw [shows]; exact fun _ e => e
        · rw [seats, shows]; exact born.stays.seats
        · obtain rfl : j = k := Option.some.inj (server₃.symm.trans hk)
          obtain ⟨hp₂, same⟩ := planned p hp listens
          have voice : (s₁.setTransport i fun x => { x with server := some j }).voice
              { γ₁ with newborn := none } = s₁.voice γ₁ :=
            (aside_setTransport (γ := γ₁) (f := fun x => { x with server := some j })
              fun _ => rfl).voice rfl
          rw [shows] at hp₂ same
          rw [voice] at same
          exact same.trans (arrives.planned hp₂)
      · cases e
    · rintro f γ₁ s₁ (⟨_, e, -⟩ | ⟨⟨f', e⟩, poised₁, stays⟩)
      · cases e
      · cases e
        exact .inr ⟨_, rfl, .inl ⟨f', rfl⟩, poised₁, stays⟩
  · rintro f γ₁ s₁ ⟨rfl, rfl, failed⟩
    exact .inr ⟨f, rfl, failed f rfl, poised, (Mute.refl t _).stays may.mine⟩

end LspHost

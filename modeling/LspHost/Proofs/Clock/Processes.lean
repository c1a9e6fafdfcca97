import LspHost.Proofs.Clock.Clearing

/-!
# Processes in time

To release a process takes as long as it is given to exit by itself and a second for each of the two signals
(`wp_disconnect`); to release one that has exited takes no time. To kill a process takes three seconds at most
(`wp_kill`).
-/

namespace LspHost

/-- The ledger with another transport. -/
def Ledger.setTransport (L : Ledger) (i : Nat) (f : Transport → Transport) : Ledger :=
  { L with transports := L.transports.modify i f }

theorem World.ledger_setTransport (i : Nat) (f : Transport → Transport) (s : World) :
    (s.setTransport i f).ledger = s.ledger.setTransport i f := rfl

namespace Ledger

variable {L : Ledger} {i j : Nat} {f : Transport → Transport} {U : Transport}

/-- A transport of a ledger with another transport is an old one, or the other one. -/
theorem getElem?_setTransport (found : (L.setTransport i f).transports[j]? = some U) :
    (j ≠ i ∧ L.transports[j]? = some U) ∨ ∃ T, j = i ∧ L.transports[i]? = some T ∧ U = f T := by
  simp only [setTransport, List.getElem?_modify] at found
  obtain ⟨T, at_, rfl⟩ := Option.map_eq_some_iff.mp found
  by_cases e : i = j
  · subst e
    exact .inr ⟨T, rfl, at_, by simp⟩
  · exact .inl ⟨Ne.symm e, by simpa [e] using at_⟩

theorem lock_setTransport (writing : ∀ T, (f T).writing = T.writing) (p : Place) :
    (L.setTransport i f).lock p = L.lock p := by
  cases p with
  | lifecycle => rfl
  | documents => rfl
  | writing j =>
    simp only [lock, setTransport, List.getElem?_modify]
    rcases L.transports[j]? with _ | T
    · rfl
    · by_cases e : i = j <;> simp [e, writing]

end Ledger

/-- A process gets a signal; tells whether it was there. -/
def World.signal (server : Nat) (sig : Signal) (s : World) : Bool × World :=
  match s.servers[server]? with
  | some p =>
    let (found, loop, p) := Server.signal sig (s.loop, p)
    (found, { s.record (.signalled p.pid sig) with loop := loop, servers := s.servers.set server p })
  | none => (false, s)

theorem World.lasts_setTransport (i : Nat) (f : Transport → Transport) (s : World) : s.Lasts (s.setTransport i f) :=
  ⟨by simp [setTransport], fun _ _ e => e, rfl⟩

namespace Clock

open Discipline

variable {t u i j k : Nat} {o : Option Nat} {κ : TaskKind} {γ γ' : Roster} {s s' : World} {L : Ledger} {l : Loop} {d : Duty}
  {f : Transport → Transport} {a b c : Roster × World} {n m : ℕ∞} {time : Seconds} {α β : Type}

/-! ## A transport changes -/

/-- What there is to see to when a transport changes. -/
theorem Inv.setTransport (h : Inv o γ s) (writing : ∀ T, (f T).writing = T.writing)
    (drains : ∀ T e, s.transports[i]? = some T → (f T).drain = some e →
      ∃ u j, s.loop.ending? u = some e ∧ s.loop.kind? u = some (.drain j))
    (bare : ∀ T, s.transports[i]? = some T → ¬ γ.used i → (f T).server = none)
    (servers : ∀ T j, s.transports[i]? = some T → (f T).server = some j →
      ∃ pid, s.pidAt? j = some pid ∧ γ.home pid = some i) :
    Inv o γ (s.setTransport i f) where
  tickets := h.tickets.same rfl rfl
  tasks :=
    { h.tasks with
      drains := fun j U e found drain => by
        rw [World.ledger_setTransport] at found
        rcases Ledger.getElem?_setTransport found with ⟨-, old⟩ | ⟨T, rfl, old, rfl⟩
        · exact h.tasks.drains j U e old drain
        · exact drains T e old drain }
  locked p := (h.locked p).of_lock (by rw [World.ledger_setTransport, Ledger.lock_setTransport writing])
  queuers := h.queuers
  asked := { h.asked with }
  tables :=
    { h.tables with
      paired := by
        refine ⟨?_, h.tables.paired.2⟩
        rw [World.ledger_setTransport, Ledger.setTransport, List.length_modify]
        exact h.tables.paired.1
      bare := fun j U found unused => by
        rw [World.ledger_setTransport] at found
        rcases Ledger.getElem?_setTransport found with ⟨-, old⟩ | ⟨T, rfl, old, rfl⟩
        · exact h.tables.bare j U old unused
        · exact bare T old unused }
  servers j U k found held := by
    rw [World.ledger_setTransport] at found
    rcases Ledger.getElem?_setTransport found with ⟨-, old⟩ | ⟨T, rfl, old, rfl⟩
    · exact h.servers j U k old held
    · exact servers T k old held
  homes := h.homes
  idle := h.idle
  getters := h.getters
  plain := h.plain

/-- A transport loses what it holds, or gets somebody to empty its error output. -/
theorem Fit.setTransport (h : Fit t κ γ s) (writing : ∀ T, (f T).writing = T.writing)
    (drains : ∀ T e, s.transports[i]? = some T → (f T).drain = some e →
      ∃ u j, s.loop.ending? u = some e ∧ s.loop.kind? u = some (.drain j))
    (server : ∀ T, (f T).server = none ∨ (f T).server = T.server) : Step t κ (World.setTransport i f) γ s γ := by
  have inv : Inv (some t) γ (s.setTransport i f) := by
    refine h.inv.setTransport writing drains (fun T found unused => ?_) fun T j found held => ?_
    · exact (server T).elim id fun same => same.trans (h.inv.tables.bare i T found unused)
    · rcases server T with none | same
      · cases none.symm.trans held
      · exact h.inv.servers i T j found (same ▸ held)
  refine (acts_silent (.refl t γ) rfl (World.lasts_setTransport i f s) (fun j _ e => ?_) (bill_same rfl rfl)).step
    ⟨inv, h.kind, h.alarm, h.limit⟩ rfl rfl fun _ _ e => e
  simp only [World.isConnected, World.serverOf?, World.isAlive, World.setTransport, List.getElem?_modify] at e ⊢
  rcases found : s.transports[j]? with _ | T
  · simp [found] at e
  · by_cases same : i = j
    · rcases server T with none | keeps
      · simp [found, same, none] at e
      · simpa [found, same, keeps] using e
    · simpa [found, same] using e

/-! ## How much time is left -/

theorem Within.left (h : Within t κ n a b) (room : (a.2.loop.now : ℕ∞) + (n + m) ≤ (a.1.duty t).limit) :
    (b.2.loop.now : ℕ∞) + m ≤ (b.1.duty t).limit := by
  rw [h.stays.duty]
  refine le_trans ?_ room
  rw [← add_assoc]
  gcongr
  exact h.time

theorem Still.left (h : Still t κ a b) (room : (a.2.loop.now : ℕ∞) + n ≤ (a.1.duty t).limit) :
    (b.2.loop.now : ℕ∞) + n ≤ (b.1.duty t).limit := by
  rw [h.stays.duty, h.now]
  exact room

theorem Within.mono (h : Within t κ n a b) (more : n ≤ m) : Within t κ m a b :=
  ⟨h.fit, h.stays, le_trans h.time (by gcongr)⟩

/-! ## To make a process exit -/

/-- A task looks up the process of a transport. -/
theorem wp_server? {g : Option Nat → Act β} {Q : Except Fault β → Roster → World → Prop}
    (next : discipline.wp t (g (s.serverOf? i)) Q γ s) : discipline.wp t (Transport.server? i >>= g) Q γ s :=
  Wp.look next

/-- A task looks up a transport, or fails at once. -/
theorem wp_getTransport {g : Transport → Act β} {Q : Except Fault β → Roster → World → Prop}
    (next : ∀ T, s.transports[i]? = some T → discipline.wp t (g T) Q γ s)
    (missing : s.transports[i]? = none → Q (.error (Transport.missing "transport")) γ s) :
    discipline.wp t (Transport.get i >>= g) Q γ s := by
  refine Wp.bind (Wp.look ?_)
  split
  · next T found => exact next T found
  · next none => exact missing none

theorem wp_closeInput (h : Fit t κ γ s) :
    discipline.wp t (Transport.closeInput i) (fun r γ' s' => r = .ok () ∧ Still t κ (γ, s) (γ', s')) γ s := by
  refine wp_server? ?_
  split
  · exact ⟨rfl, .refl h⟩
  · next j _ =>
    have step := h.passive (f := fun s => s.withServer j (Server.closeInput j)) (.withServer j (Living.stirs_closeInput j) s)
    exact Wp.update _ step.acts ⟨rfl, step.still⟩

/-- A task waits for the process of a transport to exit. -/
theorem wp_wait (h : Fit t κ γ s) (foreground : ¬ κ.IsBackground) (free : (γ.duty t).Free)
    (room : (s.loop.now : ℕ∞) + time.limit ≤ (γ.duty t).limit) :
    discipline.wp t (Transport.wait i time) (fun _ γ' s' => Within t κ time.limit (γ, s) (γ', s')) γ s := by
  refine wp_server? ?_
  split
  · exact (Still.refl h).within
  · next j _ =>
    refine Wp.attempt_seq (wp_waitExit (j := j) h foreground free room) fun r γ' s' within => ?_
    split <;> exact within

theorem passive_signal (j : Nat) (sig : Signal) (s : World) : Passive s (s.signal j sig).2 := by
  rcases found : s.servers[j]? with _ | p
  · simp only [World.signal, found]
    exact .refl s
  · have same : (s.signal j sig).2 =
        (s.record (.signalled (Server.signal sig (s.loop, p)).2.2.pid sig)).withServer j fun x => (Server.signal sig x).2 := by
      simp only [World.signal, World.withServer, World.record, found]
    rw [same]
    exact (passive_record rfl rfl s).trans (.withServer j (Living.stirs_signal sig) _)

/-- A task sends a signal to the process of a transport. -/
theorem wp_signal (h : Fit t κ γ s) (sig : Signal) :
    discipline.wp t (Transport.signal i sig) (fun _ γ' s' => Still t κ (γ, s) (γ', s')) γ s := by
  refine Wp.seq (wp_heldServer sig.name γ s) ?_ ?_
  · rintro j γ' s' ⟨rfl, rfl, -⟩
    have step := h.passive (f := fun s => (s.signal j sig).2) (passive_signal j sig _)
    exact ⟨_, step.acts, step.still⟩
  · rintro f γ' s' ⟨rfl, rfl, -⟩
    exact .refl h

theorem limit_signalGrace : Transport.signalGrace.limit = second := by
  have length : Transport.signalGrace.nanos? = some 1000000000 := by decide +kernel
  simp only [Seconds.limit, length, second]
  rfl

/-- One thing after another, each in its time. -/
theorem wp_within_seq {p : Act α} {g : α → Act β} (first : discipline.wp t p (fun _ γ' s' => Within t κ n a (γ', s')) γ s)
    (next : ∀ x γ' s', Within t κ n a (γ', s') →
      discipline.wp t (g x) (fun _ γ'' s'' => Within t κ m (γ', s') (γ'', s'')) γ' s') :
    discipline.wp t (p >>= g) (fun _ γ' s' => Within t κ (n + m) a (γ', s')) γ s :=
  Wp.seq first (fun x γ' s' w => Wp.mono (next x γ' s' w) fun _ _ _ w' => w.trans w') fun _ _ _ w => w.mono le_self_add

/-- One thing after another that takes no time. -/
theorem wp_still_seq {p : Act α} {g : α → Act β} (first : discipline.wp t p (fun _ γ' s' => Still t κ a (γ', s')) γ s)
    (next : ∀ x γ' s', Still t κ a (γ', s') →
      discipline.wp t (g x) (fun _ γ'' s'' => Within t κ n (γ', s') (γ'', s'')) γ' s') :
    discipline.wp t (p >>= g) (fun _ γ' s' => Within t κ n a (γ', s')) γ s :=
  Wp.seq first (fun x γ' s' w => Wp.mono (next x γ' s' w) fun _ _ _ w' => w.trans_within w') fun _ _ _ w => w.within

theorem Stays.free (h : Stays t a b) (free : (a.1.duty t).Free) : (b.1.duty t).Free := by
  rw [h.duty]
  exact free

/-- The signals that a process gets which does not exit by itself. -/
def force (id : Nat) : Act Bool := do
  if ← Transport.signal id .terminate then
    if !(← Transport.wait id Transport.signalGrace) then
      if ← Transport.signal id .kill then
        let _ ← Transport.wait id Transport.signalGrace
  pure false

theorem wp_force (h : Fit t κ γ s) (foreground : ¬ κ.IsBackground) (free : (γ.duty t).Free)
    (room : (s.loop.now : ℕ∞) + (second + second) ≤ (γ.duty t).limit) :
    discipline.wp t (force i) (fun _ γ' s' => Within t κ (second + second) (γ, s) (γ', s')) γ s := by
  refine wp_still_seq (wp_signal h .terminate) fun obeys γ₁ s₁ still => ?_
  have room₁ := still.left room
  split
  · refine wp_within_seq (n := second) (m := second) ?_ fun exited γ₂ s₂ waited => ?_
    · refine Wp.mono (wp_wait still.fit foreground (still.stays.free free) ?_) fun _ _ _ w => ?_
      · rw [limit_signalGrace]
        exact le_trans (by gcongr; exact le_self_add) room₁
      · rwa [limit_signalGrace] at w
    · have room₂ := waited.left room₁
      split
      · refine wp_still_seq (wp_signal waited.fit .kill) fun killed γ₃ s₃ still' => ?_
        split
        · refine Wp.seq (P := fun _ γ' s' => Within t κ second (γ₃, s₃) (γ', s')) ?_ (fun _ _ _ w => w) fun _ _ _ w => w
          refine Wp.mono (wp_wait still'.fit foreground (still'.stays.free (waited.stays.free (still.stays.free free))) ?_)
            fun _ _ _ w => ?_
          · rw [limit_signalGrace]
            exact still'.left room₂
          · rwa [limit_signalGrace] at w
        · exact (Still.refl still'.fit).within
      · exact (Still.refl waited.fit).within
  · exact (Still.refl still.fit).within

/-- A task makes a process exit, by force if it must. -/
theorem wp_dismiss (h : Fit t κ γ s) (foreground : ¬ κ.IsBackground) (free : (γ.duty t).Free)
    (room : (s.loop.now : ℕ∞) + (time.limit + (second + second)) ≤ (γ.duty t).limit) :
    discipline.wp t (Transport.dismiss i time false)
      (fun _ γ' s' => Within t κ (time.limit + (second + second)) (γ, s) (γ', s')) γ s := by
  refine wp_still_seq (Wp.mono (wp_closeInput h) fun _ _ _ w => w.2) fun _ γ₁ s₁ closed => ?_
  have room₁ := closed.left room
  rw [if_neg Bool.false_ne_true]
  refine wp_within_seq (wp_wait closed.fit foreground (closed.stays.free free) (le_trans (by gcongr; exact le_self_add) room₁))
    fun exited γ₂ s₂ waited => ?_
  split
  · exact (Still.refl waited.fit).within
  · refine wp_still_seq (a := (γ₂, s₂)) (Wp.mono (wp_heldServer "pid" γ₂ s₂) ?_) fun _ γ₃ s₃ still => ?_
    · rintro r γ' s' ⟨rfl, rfl, -⟩
      exact .refl waited.fit
    · exact wp_force still.fit foreground (still.stays.free (waited.stays.free (closed.stays.free free)))
        (still.left (waited.left room₁))

/-- A process that has exited is dismissed at once. -/
theorem wp_dismiss_dead (h : Fit t κ γ s) :
    discipline.wp t (Transport.dismiss i time true) (fun _ γ' s' => Still t κ (γ, s) (γ', s')) γ s := by
  refine Wp.seq (wp_closeInput h) ?_ ?_
  · rintro _ γ₁ s₁ ⟨-, closed⟩
    exact closed
  · rintro f γ₁ s₁ ⟨⟨⟩, -⟩

/-- A task lets go of a process, and stops the task that empties its error output. -/
theorem wp_abandon (h : Fit t κ γ s) (foreground : ¬ κ.IsBackground) (free : (γ.duty t).Free) :
    discipline.wp t (Transport.abandon i) (fun _ γ' s' => Still t κ (γ, s) (γ', s')) γ s := by
  have rest {γ₁ : Roster} {s₁ : World} (still : Still t κ (γ, s) (γ₁, s₁)) :
      discipline.wp t (Program.update (World.setTransport i fun t => { t with drain := none }) >>= fun _ =>
        Transport.heldServer i "returncode" >>= fun _ =>
          Program.update (World.setTransport i fun t => { t with server := none }))
        (fun _ γ' s' => Still t κ (γ, s) (γ', s')) γ₁ s₁ := by
    have idle := still.fit.setTransport (i := i) (f := fun T => { T with drain := none }) (fun _ => rfl)
      (fun _ _ _ e => by cases e) fun _ => .inr rfl
    refine Wp.change _ idle.acts (Wp.seq (wp_heldServer "returncode" _ _) ?_ ?_)
    · rintro j γ₂ s₂ ⟨rfl, rfl, -⟩
      have bare := idle.still.fit.setTransport (i := i) (f := fun T => { T with server := none }) (fun _ => rfl)
        (fun T e found drain => idle.still.fit.inv.tasks.drains i T e found drain) fun _ => .inl rfl
      exact Wp.update _ bare.acts ((still.trans idle.still).trans bare.still)
    · rintro f γ₂ s₂ ⟨rfl, rfl, -⟩
      exact still.trans idle.still
  refine wp_getTransport (fun T found => ?_) fun _ => .refl h
  · split
    · next e drain =>
      obtain ⟨u, j, ending, kind⟩ := h.inv.tasks.drains i T e found drain
      refine Wp.seq (wp_stopTask h foreground free ⟨ending, _, kind, trivial⟩) ?_ ?_
      · intro _ γ₁ s₁ still
        exact rest still
      · intro f γ₁ s₁ still
        exact still
    · exact rest (.refl h)

/-- A task releases a process. -/
theorem wp_disconnect (h : Fit t κ γ s) (foreground : ¬ κ.IsBackground) (free : (γ.duty t).Free)
    (room : (s.loop.now : ℕ∞) + (time.limit + (second + second)) ≤ (γ.duty t).limit) :
    discipline.wp t (Transport.disconnect i time)
      (fun _ γ' s' => Within t κ (time.limit + (second + second)) (γ, s) (γ', s')) γ s := by
  refine wp_server? ?_
  split
  · exact (Still.refl h).within
  · next j _ =>
    refine Wp.look (Wp.ensure (P := fun _ γ' s' => Within t κ (time.limit + (second + second)) (γ, s) (γ', s')) ?_
      fun r γ₁ s₁ within => Wp.mono (wp_abandon within.fit foreground (within.stays.free free)) ?_)
    · rcases s.isAlive j with _ | _
      · exact Wp.mono (wp_dismiss_dead h) fun _ _ _ still => still.within
      · exact wp_dismiss h foreground free room
    · intro r' γ₂ s₂ still
      rcases r' with f | _ <;> exact within.still still

/-- A task releases a process that has exited, or none. -/
theorem wp_disconnect_dead (h : Fit t κ γ s) (foreground : ¬ κ.IsBackground) (free : (γ.duty t).Free)
    (dead : s.isConnected i = false) :
    discipline.wp t (Transport.disconnect i time) (fun _ γ' s' => Still t κ (γ, s) (γ', s')) γ s := by
  refine wp_server? ?_
  split
  · exact .refl h
  · next j held =>
    have exited : s.isAlive j = false := by simpa only [World.isConnected, held] using dead
    refine Wp.look (Wp.ensure (P := fun _ γ' s' => Still t κ (γ, s) (γ', s')) ?_
      fun r γ₁ s₁ still => Wp.mono (wp_abandon still.fit foreground (still.stays.free free)) ?_)
    · rw [exited]
      exact wp_dismiss_dead h
    · intro r' γ₂ s₂ more
      rcases r' with f | _ <;> exact still.trans more

/-- A task kills a process and releases it. -/
theorem wp_kill (h : Fit t κ γ s) (foreground : ¬ κ.IsBackground) (free : (γ.duty t).Free)
    (room : (s.loop.now : ℕ∞) + (second + (second + second)) ≤ (γ.duty t).limit) :
    discipline.wp t (Transport.kill i) (fun _ γ' s' => Within t κ (second + (second + second)) (γ, s) (γ', s')) γ s := by
  have release {γ₁ : Roster} {s₁ : World} (still : Still t κ (γ, s) (γ₁, s₁)) :
      discipline.wp t (do let _ ← Transport.disconnect i Transport.signalGrace)
        (fun _ γ' s' => Within t κ (second + (second + second)) (γ, s) (γ', s')) γ₁ s₁ := by
    refine Wp.seq (P := fun _ γ' s' => Within t κ (second + (second + second)) (γ, s) (γ', s')) ?_ (fun _ _ _ w => w)
      fun _ _ _ w => w
    refine Wp.mono (wp_disconnect still.fit foreground (still.stays.free free) ?_) fun _ _ _ w => ?_
    · rw [limit_signalGrace]
      exact still.left room
    · rw [limit_signalGrace] at w
      exact still.trans_within w
  refine wp_server? ?_
  split
  · exact (Still.refl h).within
  · next j _ =>
    refine Wp.look ?_
    split
    · exact Wp.seq (wp_signal h .kill) (fun _ _ _ still => release still) fun _ _ _ still => still.within
    · exact release (.refl h)

end Clock

end LspHost

import LspHost.Proofs.Holding
import LspHost.Proofs.Wording

/-!
# Writing to a process

A task that holds the writing lock of a transport writes the message that it came with (`inv_sent`). The
message moves from the tongue of the task to the journal, so what is planned stays as it is; if it tells
of a change of documents, that change is told from now on.

`wp_send`: whoever may send a message leaves everything in order, and a failure is a fault of the
connection that is recorded.
-/

namespace LspHost

open Discipline

variable {σ : Setting} {t i : Nat} {m : Members} {γ γ' : Ghost} {s s' : World}

/-! ## What is written -/

theorem Talk.plan?_done {x : Said} {st : Talk} (h : Talk.done.plan? x = some st) : st = .done := by
  cases x <;> cases h
  rfl

theorem Talk.planned?_done {xs : List Said} {st : Talk} (h : Talk.planned? xs .done = some st) :
    st = .done := by
  induction xs with
  | nil => exact (Option.some.inj h).symm
  | cons x rest ih =>
    rw [Talk.planned?_cons] at h
    obtain ⟨mid, step, more⟩ := Option.bind_eq_some_iff.mp h
    obtain rfl := Talk.plan?_done step
    exact ih more

theorem saidIn_sent (mail : List (Nat × Option Members)) (pid other : Nat) (m : Members) :
    saidIn (mail ++ [(other, some m.logged)]) pid =
      saidIn mail pid ++ if other = pid then Said.ofMembers m else [] := by
  rw [saidIn_append]
  congr 1
  split
  · next e =>
    subst e
    rcases said : Said.of? m with _ | x <;> simp [saidIn, Said.ofMembers, said]
  · next e => simp [saidIn, toldIn_other _ e]

theorem notesIn_sent (mail : List (Nat × Option Members)) (pid other : Nat) (m : Members) :
    notesIn (mail ++ [(other, some m.logged)]) pid =
      notesIn mail pid ++ if other = pid then (Note.of? m).toList else [] := by
  rw [notesIn_append]
  congr 1
  split
  · next e =>
    subst e
    rcases note : Note.of? m with _ | n <;> simp [notesIn, note]
  · next e => simp [notesIn, toldIn_other _ e]

/-- What is still to be told after a message. -/
def Note.left (m : Members) (untold : List Note) : List Note :=
  match Note.of? m with
  | some _ => untold.tail
  | none => untold

/-- The ghost when a message was written, or was refused. -/
def Ghost.told (γ : Ghost) (m : Members) : Ghost :=
  { γ with tongue := fun _ => [], untold := Note.left m γ.untold }

/-- The one who holds a writing lock is about to write a message to a process that listens. -/
structure Writes (t i j : Nat) (p : Server) (m : Members) (γ : Ghost) (s : World) : Prop where
  server : s.overview.serverOf? i = some j
  found : s.servers[j]? = some p
  listens : p.isListening = true
  tongue : γ.tongue = fun n => if Place.writing i = .writing n then Said.ofMembers m else []
  parting : γ.parting = none
  mine : γ.holder (.writing i) = some t
  exits : Said.of? m = some .exit → γ.holder .lifecycle = some t
  before : Talk.after? (saidIn s.overview.mail p.pid) .silent ≠ some .done
  tells : ∀ n, Note.of? m = some n →
    γ.holder .documents = some t ∧ (∃ rest, γ.untold = n :: rest) ∧ s.overview.session = some i

namespace Writes

variable {j : Nat} {p : Server} (w : Writes t i j p m γ s) (inv : Inv σ (some t) γ s)

include w in
theorem place : s.overview.processes[j]? = some p.shown := by simp [World.overview, w.found]

/-- Only the process that is written to has its number. -/
theorem same (w : Writes t i j p m γ s) (inv : Inv σ (some t) γ s) {q : Process}
    (hq : q ∈ s.overview.processes) (pid : p.pid = q.pid) : q = p.shown := by
  obtain ⟨n, hn⟩ := List.mem_iff_getElem?.mp hq
  obtain rfl := inv.life.pids n j q p.shown hn w.place pid.symm
  exact Option.some.inj (hn.symm.trans w.place)

/-- What other transports hold has another number. -/
theorem other (w : Writes t i j p m γ s) (inv : Inv σ (some t) γ s) {n k : Nat} {q : Process}
    (hn : s.overview.serverOf? n = some k) (hq : s.overview.processes[k]? = some q) (ne : n ≠ i) :
    p.pid ≠ q.pid := by
  intro pid
  obtain rfl := inv.life.pids k j q p.shown hq w.place pid.symm
  exact ne (inv.life.owner n i k hn w.server)

/-- What the transport itself holds is the process that is written to. -/
theorem own (w : Writes t i j p m γ s) {k : Nat} {q : Process}
    (hi : s.overview.serverOf? i = some k) (hq : s.overview.processes[k]? = some q) : q = p.shown := by
  obtain rfl : j = k := Option.some.inj (w.server.symm.trans hi)
  exact Option.some.inj (hq.symm.trans w.place)

/-- The overview when the message is written. -/
def view (p : Server) (m : Members) (s : World) : Overview :=
  { s.overview with mail := s.overview.mail ++ [(p.pid, some m.logged)] }

theorem overview_sent (p : Server) (m : Members) (s : World) :
    (s.record (.sent p.pid m.logged)).overview = view p m s := by
  have mail : (s.record (.sent p.pid m.logged)).mail = s.mail ++ [(p.pid, some m.logged)] :=
    World.mail_record ..
  simp only [view, World.overview, mail]
  rfl

include w inv in
/-- What is planned stays as it is. -/
theorem planned {n k : Nat} {q : Process} (hn : s.overview.serverOf? n = some k)
    (hq : s.overview.processes[k]? = some q) :
    plannedAt ((s.record (.sent p.pid m.logged)).voice (γ.told m)) (view p m s) n q =
      plannedAt (s.voice γ) s.overview n q := by
  have queue : (s.record (.sent p.pid m.logged)).queued (γ.told m).role = s.queued γ.role := rfl
  simp only [plannedAt, World.voice, queue, view, saidIn_sent, w.tongue]
  by_cases e : n = i
  · subst e
    rw [if_pos (show p.pid = q.pid by rw [w.own hn hq]; rfl)]
    simp [Ghost.told]
  · have ne : Place.writing i ≠ .writing n := fun h => e (Place.writing.inj h).symm
    rw [if_neg (w.other inv hn hq e)]
    simp [Ghost.told, Ne.symm e]

include w inv in
/-- The message fits what was written before. -/
theorem fits : ∃ st, Talk.after? (saidIn s.overview.mail p.pid ++ Said.ofMembers m) .silent = some st := by
  obtain ⟨st, written⟩ := inv.order.written p.shown (List.mem_of_getElem? w.place)
  have written : Talk.after? (saidIn s.overview.mail p.pid) .silent = some st := written
  obtain ⟨st', state, planned, -⟩ := inv.order.planned i j p.shown w.server w.place w.listens
  have live : st ≠ .done := by
    rintro rfl
    exact w.before written
  rcases said : Said.of? m with _ | x
  · exact ⟨st, by simpa [Said.ofMembers, said] using written⟩
  · have voice : s.voice γ i = x :: s.queued γ.role i := by
      simp [World.voice, w.tongue, Said.ofMembers, said]
    have pid : p.shown.pid = p.pid := rfl
    rw [plannedAt, voice, pid, Talk.planned?_append, Talk.planned?_of_after? written] at planned
    rw [Option.bind_some, Talk.planned?_cons] at planned
    obtain ⟨st₁, step, -⟩ := Option.bind_eq_some_iff.mp planned
    refine ⟨st₁, ?_⟩
    rw [Talk.after?_append, written]
    simpa [Said.ofMembers, said] using Talk.next?_of_plan? step live

include w inv in
theorem order : Order ((s.record (.sent p.pid m.logged)).voice (γ.told m)) (view p m s) where
  written q hq := by
    simp only [view, saidIn_sent]
    split
    · next pid =>
      rw [← pid]; exact w.fits inv
    · simpa using inv.order.written q hq
  planned n k q hn hq listens := by
    rw [w.planned inv hn hq]; exact inv.order.planned n k q hn hq listens

include w inv in
theorem mirror : Mirror (γ.told m).toHands (view p m s) := by
  have old := inv.mirror
  have mem : p.shown ∈ s.overview.processes := List.mem_of_getElem? w.place
  have harmed (pid : Nat) (h : (pid, none) ∈ (view p m s).mail) : (pid, none) ∈ s.overview.mail := by
    rcases List.mem_append.mp h with h | h
    · exact h
    · simp at h
  -- A message that tells of documents is the next one of those that are to be told.
  have told (n : Note) (note : Note.of? m = some n) :
      ∃ rest, γ.untold = n :: rest ∧
        Note.replay (notesIn s.overview.mail p.pid ++ n :: rest) = some s.overview.documents := by
    obtain ⟨-, ⟨rest, untold⟩, session⟩ := w.tells n note
    refine ⟨rest, untold, ?_⟩
    rw [← untold]
    refine old.mirrored i j p.shown session w.server w.place fun h => ?_
    have deaf := old.refused p.shown mem h
    have listens : p.shown.listening = true := w.listens
    rw [deaf] at listens
    cases listens
  refine
    { distinct := old.distinct, legible := old.legible
      followed := fun q hq => ?_
      mirrored := fun n k q hn hk hq unharmed => ?_
      done := fun free => ?_
      early := fun n k q state apart hk hq => ?_
      refused := fun q hq h => old.refused q hq (harmed _ h) }
  · simp only [view, notesIn_sent]
    split
    · next pid =>
      rw [← pid]
      rcases note : Note.of? m with _ | n
      · simpa using (show (Note.replay (notesIn s.overview.mail p.pid)).isSome from
          old.followed p.shown mem)
      · obtain ⟨rest, -, replay⟩ := told n note
        rw [List.append_cons] at replay
        exact Note.isSome_replay_of_append replay
    · simpa using old.followed q hq
  · have same := old.mirrored n k q hn hk hq fun h => unharmed (List.mem_append_left _ h)
    simp only [view, notesIn_sent, Ghost.told, Note.left]
    rcases note : Note.of? m with _ | x
    · simpa using same
    · obtain ⟨rest, untold, replay⟩ := told x note
      obtain rfl : i = n := Option.some.inj ((w.tells x note).2.2.symm.trans hn)
      obtain rfl := w.own hk hq
      rw [if_pos (show p.pid = p.shown.pid from rfl)]
      show Note.replay (notesIn s.overview.mail p.pid ++ [x] ++ γ.untold.tail) = _
      simpa [untold] using replay
  · simp only [Ghost.told, Note.left]
    have free : γ.holder .documents = none := free
    split
    · next n note =>
      have := (w.tells n note).1
      rw [free] at this
      cases this
    · exact old.done free
  · have same := old.early n k q state apart hk hq
    simp only [view, notesIn_sent]
    rcases note : Note.of? m with _ | x
    · simpa using same
    · have session := (w.tells x note).2.2
      have ne : n ≠ i := by
        rintro rfl
        exact apart session
      rw [if_neg (w.other inv hk hq ne)]
      simpa using same

include w inv in
theorem closed : Sealed (γ.told m).toHands (view p m s) := by
  intro n k q apart hn hq listens ended
  by_cases e : n = i
  · subst e
    obtain rfl := w.own hn hq
    have ended : Talk.after? (saidIn s.overview.mail p.pid ++ Said.ofMembers m) .silent =
        some .done := by
      simpa only [view, saidIn_sent, show p.shown.pid = p.pid from rfl, if_true] using ended
    refine ⟨t, w.mine, w.exits ?_⟩
    rw [Talk.after?_append] at ended
    obtain ⟨st, written, step⟩ := Option.bind_eq_some_iff.mp ended
    rcases said : Said.of? m with _ | x
    · simp only [Said.ofMembers, said, Option.toList_none, Talk.after?_nil] at step
      cases step
      exact absurd written w.before
    · simp only [Said.ofMembers, said, Option.toList_some, Talk.after?_singleton] at step
      cases st <;> cases x <;> cases step
      rfl
  · refine inv.closed n k q (by rw [w.parting]; exact fun h => by cases h) hn hq listens ?_
    simpa only [view, saidIn_sent, if_neg (w.other inv hn hq e), List.append_nil] using ended

theorem aside (p : Server) (m : Members) (γ : Ghost) (s : World) :
    Aside (γ, s) (γ.told m, s.record (.sent p.pid m.logged)) :=
  ⟨rfl, rfl, rfl, fun p => by cases p <;> rfl, rfl, rfl, rfl, rfl⟩

include w inv in
theorem life : Life σ (γ.told m) (view p m s) :=
  { inv.life with
    posted := fun x hx => by
      rcases List.mem_append.mp hx with hx | hx
      · exact inv.life.posted x hx
      · obtain rfl := List.mem_singleton.mp hx
        exact ⟨p.shown, List.mem_of_getElem? w.place, rfl⟩
    atRest := fun free => ⟨(inv.life.atRest free).idle, (inv.life.atRest free).busy⟩ }

include w inv in
/-- The message is written. -/
theorem inv_sent : Inv σ (some t) (γ.told m) (s.record (.sent p.pid m.logged)) := by
  refine (aside p m γ s).inv inv inv.tickets.pending ?_ ?_ ?_ ?_
  all_goals rw [overview_sent]
  · exact w.life inv
  · exact w.order inv
  · exact w.mirror inv
  · exact w.closed inv

theorem keeps (p : Server) (m : Members) (γ : Ghost) (s : World) :
    Keeps (γ, s) (γ.told m, s.record (.sent p.pid m.logged)) := by
  refine (aside p m γ s).keeps (Nat.le_refl _) (Nat.le_refl _) (fun n past => ?_) fun x hx => ?_
  · rw [overview_sent]; exact ⟨past, fun e => e, fun _ e => e⟩
  · rw [overview_sent]; exact List.mem_append_left _ hx

theorem minds (p : Server) (m : Members) (γ : Ghost) (s : World) (u : Nat) :
    Minds u (γ, s) (γ.told m, s.record (.sent p.pid m.logged)) where
  toKeeps := keeps p m γ s
  holder _ := .rfl
  life _ := by rw [overview_sent]; exact ⟨rfl, rfl, rfl, rfl, rfl⟩
  documents _ := by rw [overview_sent]; exact ⟨fun _ e _ => .inl e, fun e => e, .inl rfl⟩

include w inv in
/-- Nobody else minds. -/
theorem spares : (discipline σ).Spares t (γ, s) (γ.told m, s.record (.sent p.pid m.logged)) := by
  intro u hu
  have quiet (held : γ.holder .documents = some u) : Note.of? m = none := by
    rcases note : Note.of? m with _ | n
    · rfl
    · have mine := (w.tells n note).1
      rw [held] at mine
      exact absurd (Option.some.inj mine) hu
  have minds := minds p m γ s u
  refine (aside p m γ s).rely minds.toKeeps minds.life minds.documents
    (fun _ n k q hn hq _ => ?_) (fun _ n _ silent => ?_) fun held => ?_
  · rw [overview_sent]; exact w.planned inv hn hq
  · exact (List.append_eq_nil_iff.mp silent).2
  · simp only [Ghost.told, Note.left, quiet held]

end Writes

/-! ## What is lost -/

/-- A write to the process that a transport holds has failed, if it holds one. -/
def Overview.Harmed (v : Overview) (i : Nat) : Prop :=
  ∀ (j : Nat) (p : Process), v.serverOf? i = some j → v.processes[j]? = some p → (p.pid, none) ∈ v.mail

/-- It has failed once a refusal is noted. -/
theorem harmed_refusal {j : Nat} (only : ∀ k, s.overview.serverOf? i = some k → k = j) :
    (s.recordRefusal j).overview.Harmed i := by
  unfold World.recordRefusal
  split
  · next p found =>
    intro k q hk hq
    obtain rfl := only k hk
    have same : p.shown = q := by
      have hq : s.overview.processes[k]? = some q := hq
      simpa only [World.overview, List.getElem?_map, found, Option.map_some,
        Option.some.injEq] using hq
    show (q.pid, none) ∈ (s.record (.refused p.pid)).mail
    rw [World.mail_record, ← same]
    exact List.mem_append_right _ List.mem_cons_self
  · next none =>
    intro k q hk hq
    obtain rfl := only k hk
    simp [World.overview, none] at hq

/-- A message that no process takes is forgotten. -/
theorem inv_lost (inv : Inv σ (some t) γ s) (harmed : s.overview.Harmed i)
    (tongue : γ.tongue = fun n => if Place.writing i = .writing n then Said.ofMembers m else [])
    (tells : ∀ n, Note.of? m = some n → γ.holder .documents = some t ∧
      (s.overview.session = some i ∨ s.overview.session = none)) :
    Inv σ (some t) (γ.told m) s ∧ (discipline σ).Spares t (γ, s) (γ.told m, s) ∧
      ∀ {n k : Nat} {q : Process}, s.overview.serverOf? n = some k →
        s.overview.processes[k]? = some q → q.listening = true →
        plannedAt (s.voice (γ.told m)) s.overview n q = plannedAt (s.voice γ) s.overview n q := by
  have aside : Aside (γ, s) (γ.told m, s) := ⟨rfl, rfl, rfl, fun _ => rfl, rfl, rfl, rfl, rfl⟩
  have deaf {k : Nat} {q : Process} (hi : s.overview.serverOf? i = some k)
      (hq : s.overview.processes[k]? = some q) : q.listening = false :=
    inv.mirror.refused q (List.mem_of_getElem? hq) (harmed k q hi hq)
  have planned {n k : Nat} {q : Process} (hn : s.overview.serverOf? n = some k)
      (hq : s.overview.processes[k]? = some q) (listens : q.listening = true) :
      plannedAt (s.voice (γ.told m)) s.overview n q = plannedAt (s.voice γ) s.overview n q := by
    have ne : i ≠ n := by
      rintro rfl
      rw [deaf hn hq] at listens
      cases listens
    refine plannedAt_congr ?_ q
    have quiet : γ.tongue n = [] := by rw [tongue]; simp [ne]
    simp only [World.voice, quiet]
    rfl
  refine ⟨?_, ?_, planned⟩
  · refine aside.inv inv inv.tickets.pending { inv.life with } ?_ ?_ inv.closed
    · exact ⟨inv.order.written, fun n k q hn hq listens => by
        rw [planned hn hq listens]; exact inv.order.planned n k q hn hq listens⟩
    · refine { inv.mirror with mirrored := fun n k q hn hk hq unharmed => ?_, done := fun free => ?_ }
      · have same := inv.mirror.mirrored n k q hn hk hq unharmed
        simp only [Ghost.told, Note.left]
        split
        · next x note =>
          rcases (tells x note).2 with session | session
          · obtain rfl : i = n := Option.some.inj (session.symm.trans hn)
            exact absurd (harmed k q hk hq) unharmed
          · rw [session] at hn
            cases hn
        · exact same
      · have free : γ.holder .documents = none := free
        simp only [Ghost.told, Note.left]
        split
        · next x note =>
          have := (tells x note).1
          rw [free] at this
          cases this
        · exact inv.mirror.done free
  · intro u hu
    have keeps : Keeps (γ, s) (γ.told m, s) :=
      aside.keeps (Nat.le_refl _) (Nat.le_refl _) (fun _ e => ⟨e, fun e => e, fun _ e => e⟩)
        fun _ e => e
    refine aside.rely keeps (fun _ => .refl _) (fun _ => .refl _)
      (fun _ n k q hn hq listens => planned hn hq listens)
      (fun _ n _ silent => (List.append_eq_nil_iff.mp silent).2) fun held => ?_
    simp only [Ghost.told, Note.left]
    split
    · next x note =>
      have mine := (tells x note).1
      rw [held] at mine
      exact absurd (Option.some.inj mine) hu
    · rfl

/-! ## Sending -/

/-- A task may send a message: it fits what is planned, and if it tells of a change of documents then it
is the turn of that change. -/
structure MaySend (t i : Nat) (m : Members) (γ : Ghost) (s : World) : Prop where
  speaks : Speaks t γ s i m
  idle : γ.holder (.writing i) ≠ some t
  leads : γ.holder .lifecycle = some t → Said.of? m ≠ none
  exits : Said.of? m = some .exit → γ.holder .lifecycle = some t
  tells : ∀ n, Note.of? m = some n → γ.holder .documents = some t ∧
    (∃ rest, γ.untold = n :: rest) ∧ s.overview.session = some i ∧ s.overview.Past i

/-- A task has written its message, or it was refused, and still holds the lock. -/
structure Told (σ : Setting) (t i : Nat) (m : Members) (a b : Ghost × World) : Prop where
  poised : Poised σ t b.1 b.2
  mine : b.1.holder (.writing i) = some t
  keeps : Keeps a b
  others : ∀ q, q ≠ .writing i → (a.1.holder q = some t ↔ b.1.holder q = some t)
  life : a.1.holder .lifecycle = some t → LifeKept a.2.overview b.2.overview
  documents : a.1.holder .documents = some t → DocumentsKept a.2.overview b.2.overview
  advances : a.1.holder .lifecycle = some t → Advances (.writing i) (Said.ofMembers m) a b
  untold : a.1.holder .documents = some t → b.1.untold = Note.left m a.1.untold
  requests : Unrevoked t a b

/-- A message was sent, or could not be. -/
structure Sends (σ : Setting) (t i : Nat) (m : Members) (a b : Ghost × World) : Prop
    extends Minds t a b where
  inv : Inv σ (some t) b.1 b.2
  tongue : b.1.tongue = fun _ => []
  newborn : b.1.newborn = none
  parting : b.1.parting = none ∨ Said.of? m = some .exit ∧ b.1.parting = some i
  advances : a.1.holder .lifecycle = some t → Advances (.writing i) (Said.ofMembers m) a b
  untold : a.1.holder .documents = some t →
    b.1.untold = Note.left m a.1.untold ∨ b.2.overview.Harmed i
  requests : Unrevoked t a b

/-- How sending ends: well, or with a cancellation that was meant for the task, or with a fault of the
connection. Who holds the lifecycle lock does not miss the process. -/
def SendEnds (t i : Nat) (m : Members) (a b : Ghost × World) : Except Fault Unit → Prop
  | .ok _ =>
    b.1.doomed t = false ∧ (a.1.holder .documents = some t → b.1.untold = Note.left m a.1.untold)
  | .error f =>
    (f = .cancelled ∧ b.1.doomed t = true) ∨
    (b.1.doomed t = false ∧
      (a.2.overview.Past i ∨ a.1.holder .lifecycle = some t → b.2.overview.Harmed i) ∧
      (f.isTransport = true ∨
        (f = Transport.missing "stdin" ∧ a.1.holder .lifecycle ≠ some t)))

/-- Where conversations stand after two changes, the second of which says nothing. -/
theorem Advances.quiet {p : Place} {xs : List Said} {a b c : Ghost × World} (h : Advances p xs a b)
    (keeps : Keeps a b) (life : LifeKept a.2.overview b.2.overview) (keeps' : Keeps b c)
    (same : ∀ (n k : Nat) (q q' : Process), b.2.overview.serverOf? n = some k →
      b.2.overview.processes[k]? = some q → c.2.overview.processes[k]? = some q' →
      q'.listening = true →
      plannedAt (c.2.voice c.1) c.2.overview n q' = plannedAt (b.2.voice b.1) b.2.overview n q) :
    Advances p xs a c := by
  intro n k q q'' hn hq hq'' listens
  obtain ⟨q', hq', -⟩ := keeps.processes k q hq
  obtain ⟨q₂, hq₂, -, -, -, listens'⟩ := keeps'.processes k q' hq'
  obtain rfl : q₂ = q'' := Option.some.inj (hq₂.symm.trans hq'')
  have hn' : b.2.overview.serverOf? n = some k := by
    simpa only [Overview.serverOf?, life.holds] using hn
  rw [same n k q' q₂ hn' hq' hq'' listens, h n k q q' hn hq hq' (listens' listens)]

theorem Told.of_enters {a b c : Ghost × World} (e : Enters σ (.writing i) t m a b) (minds : Minds t b c)
    (poised : Poised σ t c.1 c.2)
    (planned : b.1.holder .lifecycle = some t → ∀ (n k : Nat) (q q' : Process),
      b.2.overview.serverOf? n = some k → b.2.overview.processes[k]? = some q →
      c.2.overview.processes[k]? = some q' → q'.listening = true →
      plannedAt (c.2.voice c.1) c.2.overview n q' = plannedAt (b.2.voice b.1) b.2.overview n q)
    (untold : b.1.holder .documents = some t → c.1.untold = Note.left m b.1.untold)
    (requests : Unrevoked t b c) : Told σ t i m a c where
  poised := poised
  mine := (minds.holder _).mp e.mine
  keeps := e.keeps.trans minds.toKeeps
  others q ne := (e.others q ne).trans (minds.holder q)
  life held := (e.life held).trans (minds.life ((e.others .lifecycle Place.lifecycle_ne_writing).mp held))
  documents held :=
    (e.documents held).trans e.keeps (minds.documents ((e.others .documents Place.documents_ne_writing).mp held))
      minds.toKeeps
  advances held := (e.advances held).quiet e.keeps (e.life held) minds.toKeeps
    (planned ((e.others .lifecycle Place.lifecycle_ne_writing).mp held))
  untold held := by rw [untold ((e.others .documents Place.documents_ne_writing).mp held), e.untold held]
  requests := e.requests.trans e.keeps requests

theorem Told.rely {a b c : Ghost × World} (h : Told σ t i m a b) (rely : Rely t b c)
    (poised : Poised σ t c.1 c.2) : Told σ t i m a c where
  poised := poised
  mine := (rely.holder _).mp h.mine
  keeps := h.keeps.trans rely.toKeeps
  others q ne := (h.others q ne).trans (rely.holder q)
  life held := (h.life held).trans (rely.life ((h.others .lifecycle Place.lifecycle_ne_writing).mp held))
  documents held :=
    (h.documents held).trans h.keeps (rely.documents ((h.others .documents Place.documents_ne_writing).mp held))
      rely.toKeeps
  advances held := (h.advances held).mute h.keeps (h.life held) rely.toMute
    ((h.others .lifecycle Place.lifecycle_ne_writing).mp held)
  untold held := by rw [rely.untold ((h.others .documents Place.documents_ne_writing).mp held), h.untold held]
  requests := h.requests.trans h.keeps rely.requests

/-- Whoever has come to the lock tells of documents of the session that was held, or that is given up. -/
theorem Enters.tells {a b : Ghost × World} (e : Enters σ (.writing i) t m a b)
    (may : MaySend t i m a.1 a.2) {n : Note} (note : Note.of? m = some n) :
    b.1.holder .documents = some t ∧ (∃ rest, b.1.untold = n :: rest) ∧
      (b.2.overview.session = some i ∨
        (b.2.overview.session = none ∧ ¬ b.2.overview.Listening i)) := by
  obtain ⟨held, ⟨rest, untold⟩, session, past⟩ := may.tells n note
  exact ⟨(e.others .documents Place.documents_ne_writing).mp held, ⟨rest, by rw [e.untold held, untold]⟩,
    (e.documents held).session i session past⟩

/-- A message that was refused. -/
theorem Told.of_lost {a : Ghost × World} (e : Enters σ (.writing i) t m a (γ, s))
    (may : MaySend t i m a.1 a.2) {s' : World} (quiet : Quiet σ (some t) (γ, s) (γ, s'))
    (same : s'.overview.session = s.overview.session) (harmed : s'.overview.Harmed i) :
    Told σ t i m a (γ.told m, s') ∧ (discipline σ).Spares t (γ, s) (γ.told m, s') := by
  have lost := inv_lost quiet.inv harmed e.tongue fun n note => by
    obtain ⟨held, -, session⟩ := e.tells may note
    rw [same]
    exact ⟨held, session.imp_right And.left⟩
  refine ⟨.of_enters e ?_ ⟨lost.1, rfl, e.newborn, e.parting⟩
    (fun held n k q q' hn hq hq' listens => ?_) (fun _ => rfl) (quiet.rely t).requests,
    fun u hu => (quiet.rely u).trans (lost.2.1 u hu)⟩
  · exact (quiet.rely t).toMinds.trans { Minds.refl t (γ, s') with }
  · have hn' : s'.overview.serverOf? n = some k := by
      simpa only [Overview.serverOf?, ((quiet.rely t).life held).holds] using hn
    exact (lost.2.2 hn' hq' listens).trans ((quiet.rely t).planned held n k q q' hn hq hq' listens)

/-- The world when a message has reached a process. -/
theorem wp_write {a : Ghost × World} {j : Nat} (e : Enters σ (.writing i) t m a (γ, s))
    (may : MaySend t i m a.1 a.2) (server : s.overview.serverOf? i = some j) :
    (discipline σ).wp t (Transport.write j m)
      (fun r γ' s' => r = .ok () ∧ γ'.doomed t = false ∧ Told σ t i m a (γ', s')) γ s := by
  have bound : j < s.servers.length := by
    simpa [World.overview] using e.inv.life.owned i j server
  have found : s.servers[j]? = some s.servers[j] := List.getElem?_eq_getElem bound
  have place : s.overview.processes[j]? = some s.servers[j].shown := by simp [World.overview, found]
  generalize s.servers[j] = p at found place
  rcases listens : p.isListening with _ | _
  · have refusal : Quiet σ (some t) (γ, s) (γ, s.recordRefusal j) :=
      quiet_refusal e.inv fun q hq => by
        obtain rfl := Option.some.inj (found.symm.trans hq)
        exact listens
    have same : (s.recordRefusal j).overview.session = s.overview.session := by
      unfold World.recordRefusal; split <;> rfl
    have harmed : (s.recordRefusal j).overview.Harmed i :=
      harmed_refusal fun k hk => Option.some.inj (hk.symm.trans server)
    obtain ⟨told, spares⟩ := Told.of_lost e may refusal same harmed
    refine wp_updateTo (γ.told m) ?_ spares ⟨rfl, e.live, told⟩
    simp [found, listens]
  · have writes : Writes t i j p m γ s :=
      { server, found, listens, tongue := e.tongue, parting := e.parting, mine := e.mine
        exits := fun exit => (e.others .lifecycle Place.lifecycle_ne_writing).mp (may.exits exit)
        before := e.before i j p.shown rfl server place listens
        tells := fun n note => by
          obtain ⟨held, untold, session | ⟨-, deaf⟩⟩ := e.tells may note
          · exact ⟨held, untold, session⟩
          · exact absurd ⟨j, p.shown, server, place, listens⟩ deaf }
    have found' : (s.record (.sent p.pid m.logged)).servers[j]? = some p := found
    have received := quiet_withServer (j := j) (writes.inv_sent e.inv) (quiet_receive j m)
    have told : Told σ t i m a
        (γ.told m, (s.record (.sent p.pid m.logged)).withServer j (Server.receive j m)) := by
      refine .of_enters e ((Writes.minds p m γ s t).trans (received.rely t).toMinds)
        ⟨received.inv, rfl, e.newborn, e.parting⟩ (fun held n k q q' hn hq hq' listens' => ?_)
        (fun _ => rfl) fun k role cancelled => ?_
      · have hq₁ : (s.record (.sent p.pid m.logged)).overview.processes[k]? = some q := hq
        rw [(received.rely t).planned held n k q q' hn hq₁ hq' listens', Writes.overview_sent]
        exact writes.planned e.inv hn hq
      · exact (received.rely t).requests k role cancelled
    refine wp_updateTo (γ.told m) ?_
      (fun u hu => Rely.trans (writes.spares e.inv u hu) (received.rely u)) ⟨rfl, e.live, told⟩
    simp only [found, listens, if_true]
    rfl

/-- Whether a transport holds a process, where there should be no doubt. -/
theorem wp_heldServer {use : String} {Q : Except Fault Nat → Ghost → World → Prop}
    (held : ∀ j, s.overview.serverOf? i = some j → Q (.ok j) γ s)
    (gone : s.overview.serverOf? i = none → Q (.error (Transport.missing use)) γ s) :
    (discipline σ).wp t (Transport.heldServer i use) Q γ s := by
  refine Wp.look ?_
  rw [World.overview_serverOf?] at gone
  simp only [World.overview_serverOf?] at held
  rcases e : s.serverOf? i with _ | j
  · exact gone e
  · exact held j e

/-- A transport whose session has been through its handshake, or that is in the care of the task, gets
no other process. -/
theorem held_before {a b : Ghost × World} (keeps : Keeps a b)
    (life : a.1.holder .lifecycle = some t → LifeKept a.2.overview b.2.overview)
    (known : a.2.overview.Past i ∨ a.1.holder .lifecycle = some t) {k : Nat}
    (hk : b.2.overview.serverOf? i = some k) : a.2.overview.serverOf? i = some k := by
  rcases known with past | held
  · exact (keeps.past i past).2.2 k hk
  · simpa only [Overview.serverOf?, (life held).holds] using hk

/-- After a message was written or refused it may still turn out that the process does not listen. -/
theorem wp_deliver {a : Ghost × World} (e : Enters σ (.writing i) t m a (γ, s))
    (may : MaySend t i m a.1 a.2) (connected : a.2.overview.serverOf? i ≠ none) :
    (discipline σ).wp t (Transport.deliver i m)
      (fun r γ' s' => ∃ γ₁, Told σ t i m a (γ₁, s') ∧
        (discipline σ).Spares t (γ', s') (γ₁, s') ∧ SendEnds t i m a (γ₁, s') r) γ s := by
  refine Wp.bind (wp_heldServer (fun j server => ?_) fun gone => ?_)
  · refine Wp.seq (wp_write e may server) ?_ ?_
    · rintro _ γ₁ s₁ ⟨-, live, told⟩
      refine Wp.seq (wp_rest told.poised live (Q := fun r γ₂ s₂ => Told σ t i m a (γ₂, s₂) ∧
        ((γ₂.doomed t = true ∧ r = .error .cancelled) ∨ (γ₂.doomed t = false ∧ r = .ok ())))
        fun r γ₂ s₂ poised rely end' => ⟨told.rely rely poised, end'⟩) ?_ ?_
      · rintro _ γ₂ s₂ ⟨told₂, ⟨-, failed⟩ | ⟨live₂, -⟩⟩
        · cases failed
        refine Wp.look ?_
        rcases broken : (s₂.servers[j]?).bind Server.inputBroken with _ | reason
        · exact ⟨γ₂, told₂, fun u _ => .refl u _, live₂, told₂.untold⟩
        · obtain ⟨p, found, broken⟩ := Option.bind_eq_some_iff.mp broken
          have deaf : p.isListening = false := by simp [Server.isListening, broken]
          have refusal : Quiet σ (some t) (γ₂, s₂) (γ₂, s₂.recordRefusal j) :=
            quiet_refusal told₂.poised.inv fun q hq => by
              obtain rfl := Option.some.inj (found.symm.trans hq)
              exact deaf
          refine wp_change γ₂ refusal.spares ⟨γ₂, told₂.rely (refusal.rely t)
            (refusal.poised told₂.poised.ease), fun u _ => .refl u _,
            .inr ⟨live₂, fun known => ?_, .inl rfl⟩⟩
          -- The transport holds the same process as before, or none.
          refine harmed_refusal fun k hk => Option.some.inj ?_
          exact (held_before told₂.keeps told₂.life known hk).symm.trans
            (held_before e.keeps e.life known server)
      · rintro f γ₂ s₂ ⟨told₂, ⟨doomed, failed⟩ | ⟨-, failed⟩⟩
        · exact ⟨γ₂, told₂, fun u _ => .refl u _, .inl ⟨Except.error.inj failed, doomed⟩⟩
        · cases failed
    · rintro f γ₁ s₁ ⟨failed, -⟩
      cases failed
  · obtain ⟨told, spares⟩ := Told.of_lost e may (.refl e.inv) rfl fun k q hk _ => by
      rw [gone] at hk; cases hk
    refine ⟨γ.told m, told, spares, .inr ⟨e.live, fun _ k q hk _ => ?_, .inr ⟨rfl, fun held => ?_⟩⟩⟩
    · rw [gone] at hk; cases hk
    · have holds := (e.life held).holds
      exact connected (by simpa only [Overview.serverOf?, holds] using gone)

/-- The ghost when a writing lock is given back; after the exit the input is to be closed next. -/
def Ghost.part (γ : Ghost) (i : Nat) (m : Members) : Ghost :=
  { γ.handOver (.writing i) none with
    parting := if Said.of? m = some .exit then some i else none }

theorem Ghost.part_holder (γ : Ghost) (i : Nat) (m : Members) (q : Place) (h : q ≠ .writing i) :
    (γ.part i m).holder q = γ.holder q := Ghost.handOver_ne γ none h

/-- When a message was the last one, nobody but a lifecycle operation can have written it. -/
theorem Told.closed {a : Ghost × World} (h : Told σ t i m a (γ, s)) (may : MaySend t i m a.1 a.2) :
    Sealed (γ.part i m).toHands s.overview := by
  intro n k q apart hn hq listens ended
  obtain ⟨u, writes, operates⟩ := h.poised.inv.closed n k q
    (by rw [h.poised.ease.parting]; exact fun e => by cases e) hn hq listens ended
  by_cases e : n = i
  · subst e
    obtain rfl := Option.some.inj (writes.symm.trans h.mine)
    have held := (h.others .lifecycle Place.lifecycle_ne_writing).mpr operates
    have kept := h.life held
    have hn₀ : a.2.overview.serverOf? n = some k := by
      simpa only [Overview.serverOf?, kept.holds] using hn
    have bound : k < a.2.overview.processes.length := by
      rw [← kept.processes]; exact (List.getElem?_eq_some_iff.mp hq).1
    have hq₀ : a.2.overview.processes[k]? = some a.2.overview.processes[k] :=
      List.getElem?_eq_getElem bound
    generalize a.2.overview.processes[k] = q₀ at hq₀
    obtain ⟨q', hq', -, -, -, listens₀⟩ := h.keeps.processes k q₀ hq₀
    obtain rfl : q' = q := Option.some.inj (hq'.symm.trans hq)
    obtain ⟨x, said⟩ := Option.ne_none_iff_exists'.mp (may.leads held)
    obtain ⟨st, st', state, planned, step, -, -, last, -⟩ :=
      may.speaks x said k q₀ hn₀ hq₀ (listens₀ listens)
    have now := h.advances held n k q₀ q' hn₀ hq₀ hq listens
    rw [planned] at now
    have now : plannedAt (s.voice γ) s.overview n q' = some st' := by
      simpa [Said.ofMembers, said, step] using now
    rw [plannedAt, Talk.planned?_append, Talk.planned?_of_after? ended] at now
    obtain rfl := Talk.planned?_done now
    obtain rfl := last rfl held
    exact absurd (by simp [Ghost.part, said]) apart
  · have ne : Place.writing n ≠ .writing i := fun h => e (Place.writing.inj h)
    exact ⟨u, (γ.part_holder i m _ ne).trans writes,
      (γ.part_holder i m .lifecycle Place.lifecycle_ne_writing).trans operates⟩

/-- Giving back the writing lock. -/
theorem Told.wp_release {a : Ghost × World} {γ₁ : Ghost} (h : Told σ t i m a (γ₁, s))
    (may : MaySend t i m a.1 a.2) (there : i < a.2.transports.length)
    (spares : (discipline σ).Spares t (γ, s) (γ₁, s)) :
    (discipline σ).wp t (Act.release (Transport.writePlace i))
      (fun r γ' s' => r = .ok () ∧ Sends σ t i m a (γ', s') ∧ γ'.doomed = γ₁.doomed ∧
        γ'.untold = γ₁.untold ∧ s'.overview = s.overview) γ s := by
  have there : (Place.writing i).Exists s := Nat.lt_of_lt_of_le there h.keeps.transports
  have relock : Relock (.writing i) { (Place.writing i).lock s with held := false } γ₁
      (γ₁.part i m) s := ⟨there, rfl, rfl, rfl, fun _ e => Ghost.handOver_ne γ₁ _ e⟩
  have voice := voice_put relock rfl rfl
  have inv : Inv σ (some t) (γ₁.part i m)
      ((Place.writing i).put { (Place.writing i).lock s with held := false } s) := by
    refine inv_release h.poised.inv there h.mine rfl rfl rfl rfl ?_ ?_ ?_ (h.closed may)
    · have life := h.poised.inv.life.handOver (p := .writing i) (u := none)
        fun e => absurd e.symm Place.lifecycle_ne_writing
      exact { life with }
    · rw [voice]; exact h.poised.inv.order
    · exact { h.poised.inv.mirror with
        done := fun free => h.poised.inv.mirror.done
          ((γ₁.part_holder i m .documents Place.documents_ne_writing).symm.trans free) }
  have freed : (discipline σ).Spares t (γ₁, s) (γ₁.part i m,
      (Place.writing i).put { (Place.writing i).lock s with held := false } s) :=
    spares_release there h.mine rfl rfl rfl rfl
      (fun n _ q _ _ _ => plannedAt_congr (congrFun voice n) q)
      (fun n silent => (congrFun voice n).trans silent) (.inr rfl)
  refine LspHost.wp_release (p := .writing i) (γ₁.part i m) there
    (fun u hu => (spares u hu).trans (freed u hu)) inv fun s' quiet view => ⟨rfl, ?_, rfl, rfl, view⟩
  have minds : Minds t a (γ₁.part i m, s') :=
    { toKeeps := (h.keeps.trans relock.keeps).trans (quiet.rely t).toKeeps
      holder := fun q => by
        by_cases e : q = .writing i
        · subst e
          have freed : (γ₁.part i m).holder (.writing i) = none := Ghost.handOver_self ..
          dsimp only
          rw [freed]
          exact ⟨fun mine => absurd mine may.idle, fun e => by cases e⟩
        · rw [h.others q e]
          dsimp only
          rw [γ₁.part_holder i m q e]
      life := fun held => by dsimp only; rw [view]; exact h.life held
      documents := fun held => by dsimp only; rw [view]; exact h.documents held }
  exact
    { toMinds := minds
      inv := quiet.inv
      tongue := h.poised.ease.tongue
      newborn := h.poised.ease.newborn
      parting := by
        show (if Said.of? m = some .exit then some i else none) = none ∨ Said.of? m = some .exit ∧ _
        split
        · next exit => exact .inr ⟨exit, if_pos exit⟩
        · exact .inl rfl
      advances := fun held => (h.advances held).quiet h.keeps (h.life held)
        (relock.keeps.trans (quiet.rely t).toKeeps) fun n k q q' hn hq hq' listens => by
          have held₁ : (γ₁.part i m).holder .lifecycle = some t :=
            (γ₁.part_holder i m .lifecycle Place.lifecycle_ne_writing).trans ((h.others .lifecycle Place.lifecycle_ne_writing).mp held)
          have kept := (quiet.rely t).planned held₁ n k q q' (by rw [Place.overview_put]; exact hn)
            (by rw [Place.overview_put]; exact hq) hq' listens
          rw [kept, Place.overview_put]
          exact plannedAt_congr (congrFun voice n) q
      untold := fun held => .inl (h.untold held)
      requests := h.requests.trans h.keeps fun k role cancelled => by
        simpa only [Place.loop_put] using (quiet.rely t).requests k role cancelled }

/-- A task that was cancelled holds neither the lifecycle lock nor that of the documents. -/
theorem Poised.holds_nothing (h : Poised σ t γ s) (doomed : γ.doomed t = true) :
    γ.holder .lifecycle ≠ some t ∧ γ.holder .documents ≠ some t := by
  obtain ⟨κ, kind, back⟩ := h.inv.tasks.background t doomed
  constructor
  · intro held
    obtain ⟨o, kind'⟩ := h.inv.holders.lifecycle t held
    rw [kind] at kind'
    cases kind'
    exact back
  · intro held
    obtain ⟨c, kind', -⟩ := h.inv.holders.documents t held
    rw [kind] at kind'
    cases kind'
    exact back

/-- Who finds no connection notes that the message was refused. -/
theorem sends_nothing (poised : Poised σ t γ s) (deaf : ¬ s.overview.Listening i) {s' : World}
    (quiet : Quiet σ (some t) (γ, s) (γ, s')) (harmed : s'.overview.Harmed i) :
    Sends σ t i m (γ, s) (γ, s') where
  toMinds := (quiet.rely t).toMinds
  inv := quiet.inv
  tongue := poised.ease.tongue
  newborn := poised.ease.newborn
  parting := .inl poised.ease.parting
  advances held n k q q' hn hq hq' listens := by
    obtain ⟨q₂, hq₂, -, -, -, listens'⟩ := (quiet.rely t).processes k q hq
    obtain rfl : q₂ = q' := Option.some.inj (hq₂.symm.trans hq')
    have ne : i ≠ n := by
      rintro rfl
      exact deaf ⟨k, q, hn, hq, listens' listens⟩
    rw [(quiet.rely t).planned held n k q q₂ hn hq hq' listens, if_neg (by simpa using ne)]
    cases plannedAt (s.voice γ) s.overview n q <;> rfl
  untold _ := .inr harmed
  requests := (quiet.rely t).requests

/-- Sending a message. -/
theorem wp_send {κ : TaskKind} (poised : Poised σ t γ s) (live : γ.doomed t = false)
    (kind : s.loop.kind? t = some κ) (unheard : κ.IsBackground → Said.of? m = none)
    (may : MaySend t i m γ s) :
    (discipline σ).wp t (Transport.send i m)
      (fun r γ' s' => Sends σ t i m (γ, s) (γ', s') ∧ SendEnds t i m (γ, s) (γ', s') r) γ s := by
  refine Wp.look ?_
  split
  · next connected =>
    obtain ⟨j, server⟩ : ∃ j, s.serverOf? i = some j := by
      unfold World.isConnected at connected
      split at connected
      · next j server => exact ⟨j, server⟩
      · cases connected
    have there : i < s.transports.length := by
      obtain ⟨x, hx, -⟩ := Option.bind_eq_some_iff.mp server
      exact (List.getElem?_eq_some_iff.mp hx).1
    have isHeld : s.overview.serverOf? i ≠ none := by
      rw [World.overview_serverOf?, server]; exact fun e => by cases e
    refine Wp.seq (wp_acquire (p := .writing i) poised live there kind trivial
      (fun n e => by cases e; exact may.speaks) (fun n e => by cases e; exact isHeld) unheard) ?_ ?_
    · rintro _ γ₁ s₁ (⟨-, enters⟩ | ⟨failed, -⟩)
      · refine Wp.ensure (wp_deliver enters may isHeld) ?_
        rintro r γ₂ s₂ ⟨γ₃, told, spares, ends⟩
        refine Wp.mono (told.wp_release may there spares) ?_
        rintro _ γ₄ s₄ ⟨rfl, sends, doomed, untold, view⟩
        refine ⟨sends, ?_⟩
        cases r with
        | ok _ =>
          refine ⟨?_, fun held => ?_⟩
          · dsimp only; rw [doomed]; exact ends.1
          · dsimp only; rw [untold]; exact ends.2 held
        | error f => simpa only [SendEnds, doomed, view] using ends
      · cases failed
    · rintro f γ₁ s₁ (⟨failed, -⟩ | ⟨failed, doomed, poised₁, minds, requests⟩)
      · cases failed
      · obtain rfl := Except.error.inj failed
        obtain ⟨noLifecycle, noDocuments⟩ := poised₁.holds_nothing doomed
        exact ⟨{ toMinds := minds, inv := poised₁.inv, tongue := poised₁.ease.tongue
                 newborn := poised₁.ease.newborn, parting := .inl poised₁.ease.parting
                 advances := fun held => absurd ((minds.holder _).mp held) noLifecycle
                 untold := fun held => absurd ((minds.holder _).mp held) noDocuments
                 requests }, .inl ⟨rfl, doomed⟩⟩
  · next unconnected =>
    have deaf (j : Nat) (server : s.serverOf? i = some j) (p : Server) (found : s.servers[j]? = some p) :
        p.isListening = false := by
      simp only [World.isConnected, server, World.isAlive, found, Bool.not_eq_true] at unconnected
      simp [Server.isListening, unconnected]
    have silent : ¬ s.overview.Listening i := by
      rintro ⟨j, q, server, hq, listens⟩
      rw [World.overview_serverOf?] at server
      obtain ⟨p, found, rfl⟩ : ∃ p, s.servers[j]? = some p ∧ p.shown = q := by
        simpa [World.overview] using hq
      have listens : p.isListening = true := listens
      rw [deaf j server p found] at listens
      cases listens
    have isTransport : (Fault.closed .notConnected).isTransport = true := rfl
    rcases server : s.serverOf? i with _ | j
    · have quiet : Quiet σ (some t) (γ, s) (γ, s) := .refl poised.inv
      have harmed : s.overview.Harmed i := by
        intro k q hk _
        rw [World.overview_serverOf?, server] at hk
        cases hk
      refine Wp.bind (wp_updateTo γ (by simp only [server]) quiet.spares ?_)
      exact ⟨sends_nothing poised silent quiet harmed, .inr ⟨live, fun _ => harmed, .inl isTransport⟩⟩
    · have quiet : Quiet σ (some t) (γ, s) (γ, s.recordRefusal j) :=
        quiet_refusal poised.inv (deaf j server)
      have harmed : (s.recordRefusal j).overview.Harmed i :=
        harmed_refusal fun k hk => by
          rw [World.overview_serverOf?, server] at hk
          exact (Option.some.inj hk).symm
      refine Wp.bind (wp_updateTo γ (by simp only [server]) quiet.spares ?_)
      exact ⟨sends_nothing poised silent quiet harmed, .inr ⟨live, fun _ => harmed, .inl isTransport⟩⟩

end LspHost

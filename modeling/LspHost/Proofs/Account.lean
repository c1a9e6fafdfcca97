import LspHost.Client
import LspHost.Proofs.Backstage
import LspHost.Proofs.Task.Only
import LspHost.Proofs.Task.Wp

/-!
# Accounts of a run

An account keeps, beside the world, a ghost value that only deeds of tasks change: the event loop and the
servers by themselves keep what it is about (`World.Backstage`). Each task relies on some of
it, holds to some of it whenever it stops, and is verified turn by turn (`Account.Lawful.turn`).

Then one job keeps the account (`Account.Sound.step?`), and so does what a host may do
(`Account.Sound.hosts`). The ghost values before and after a job are connected by the deeds of
the job (`Account.Path`), and whoever is replied to in it has just ended its turn.
-/

namespace LspHost

open Discipline

/-- A program that ends with a value ends with one that it may return. -/
theorem Wp.returns {Γ α : Type} {D : Discipline Γ} {t : Nat} {γ : Γ} {s : World} {p : Act α} {P : α → Prop}
    {Q : Except Fault α → Γ → World → Prop} (all : p.Returns P) (h : D.wp t p Q γ s) :
    D.wp t p (fun r γ' s' => Q r γ' s' ∧ ∀ a, r = .ok a → P a) γ s := by
  induction p generalizing γ s with
  | done a => exact ⟨h, fun _ e => by cases e; exact all⟩
  | fail f => exact ⟨h, fun _ e => by cases e⟩
  | look k ih => exact ih s (all s) h
  | change f k ih =>
    obtain ⟨γ', acts, rest⟩ := h
    exact ⟨γ', acts, ih all rest⟩
  | wait ticket k ih =>
    simp only [wp] at h ⊢
    split at h
    · exact ih _ (all _) h
    · exact ⟨h.1, fun γ' s' r rely resumes => ih r (all r) (h.2 γ' s' r rely resumes)⟩
  | pause k ih =>
    exact ⟨h.1, fun γ' s' r rely resumes => ih r (all r) (h.2 γ' s' r rely resumes)⟩

/-- A task is picked to go on: no ticket is different, and no task but for what was to interrupt it. -/
structure Loop.Picks (l l' : Loop) : Prop where
  tickets : l'.tickets = l.tickets
  kinds : ∀ u, l'.kind? u = l.kind? u
  calm : ∀ u, l'.isInterrupted u = true → l.isInterrupted u = true

theorem Loop.picks_of_eq {l l' : Loop} (tickets : l'.tickets = l.tickets) (tasks : l'.tasks = l.tasks) :
    l.Picks l' :=
  ⟨tickets, fun _ => by rw [kind?, tasks]; rfl, fun _ e => by simpa only [isInterrupted, tasks] using e⟩

theorem Loop.picks_setRunning (l : Loop) (u : Nat) : l.Picks (l.setRunning u) := by
  refine ⟨rfl, fun v => ?_, fun v e => ?_⟩
  · by_cases h : u = v
    · subst h
      simp only [kind?, setRunning, List.getElem?_modify_eq, Option.map_eq_map, Option.map_map]
      rfl
    · simp only [kind?, setRunning, List.getElem?_modify_ne _ _ h]
  · by_cases h : u = v
    · subst h
      simp only [isInterrupted, setRunning, List.getElem?_modify_eq, Option.map_eq_map, Option.map_map] at e
      cases found : l.tasks[u]? <;> simp [found] at e
    · simpa only [isInterrupted, setRunning, List.getElem?_modify_ne _ _ h] using e

/-- A task gets a ticket. -/
theorem Wp.issue {Γ β : Type} {D : Discipline Γ} {t : Nat} {γ : Γ} {s : World} {g : Nat → Act β}
    {Q : Except Fault β → Γ → World → Prop} (γ' : Γ)
    (acts : D.Acts t (fun s => { s with loop := s.loop.issue.2 }) (γ, s) γ')
    (next : D.wp t (g s.loop.tickets.length) Q γ' { s with loop := s.loop.issue.2 }) :
    D.wp t (Act.issue >>= g) Q γ s := Wp.yield γ' acts next

/-- What an account is about. -/
structure Account (Γ : Type) where
  /-- What holds whenever nobody is in the middle of a segment. -/
  Holds : Γ → World → Prop
  /-- What a task counts on while the others run. -/
  Rely : Nat → Γ × World → Γ × World → Prop
  /-- What a task may change, and what becomes of the ghost value by that. -/
  Acts : Nat → (World → World) → Γ × World → Γ → Prop
  /-- What else is known of the world when a task goes on. -/
  Known : World → Prop
  /-- What a task of a kind may be woken with. -/
  Woken : TaskKind → Except Fault Json → Prop := fun _ _ => True
  /-- The tasks that there are. -/
  Serves : TaskKind → Prop
  /-- What holds while a task waits, for a ticket or only for the others. -/
  Waits : Nat → Option Nat → Γ → World → Prop
  /-- A task is between two turns. -/
  Begins : Nat → Γ → World → Prop
  /-- A task has just ended. -/
  Ends : Nat → TaskKind → Except Fault Reply → Γ → World → Prop
  /-- A task has ended. -/
  Told : Nat → TaskKind → Except Fault Reply → Γ → World → Prop

namespace Account

variable {Γ : Type} (A : Account Γ)

/-- How tasks treat each other. -/
def discipline : Discipline Γ where
  Rely := A.Rely
  Acts := A.Acts
  Stops t on γ s := A.Holds γ s ∧ A.Waits t on γ s
  Resumes t on r γ s :=
    A.Holds γ s ∧ A.Known s ∧ (∀ κ, s.loop.kind? t = some κ → A.Woken κ r) ∧
      ((r = .error .cancelled ∧ ∃ s₀, A.Holds γ s₀ ∧ A.Known s₀ ∧
          s₀.loop.Grows s.loop ∧ s₀.loop.isInterrupted t = true) ∨
        (∀ k, on = some k → s.loop.outcome? k = some r) ∧ (on = none → r = .ok .null))

/-- How a turn ends. -/
def TurnEnds (t : Nat) (κ : TaskKind) (r : Except Fault Turn) (γ : Γ) (s : World) : Prop :=
  A.Holds γ s ∧
    match r with
    | .ok (.onward κ') => κ' = κ ∧ A.Begins t γ s
    | .ok (.finished x) => A.Ends t κ (.ok x) γ s
    | .error f => A.Ends t κ (.error f) γ s

/-- What is to be proved of an account. -/
structure Lawful : Prop where
  refl : ∀ t a, A.Rely t a a
  trans : ∀ t a b c, A.Rely t a b → A.Rely t b c → A.Rely t a c
  acts : ∀ t f a γ', A.Acts t f a γ' → ∀ u, u ≠ t → A.Rely u a (γ', f a.2)
  grows : ∀ t a b, A.Rely t a b → a.2.loop.Grows b.2.loop
  begins : ∀ t a b, A.Begins t a.1 a.2 → A.Rely t a b → A.Begins t b.1 b.2
  told : ∀ t κ r a b, A.Told t κ r a.1 a.2 → A.Rely t a b → A.Told t κ r b.1 b.2
  ends : ∀ t κ r γ s, A.Ends t κ r γ s → A.Told t κ r γ s
  backstage : ∀ γ a b, A.Holds γ a → a.Backstage A.Serves b → A.Holds γ b ∧ ∀ t, A.Rely t (γ, a) (γ, b)
  waits : ∀ t on a b, A.Waits t on a.1 a.2 → A.Rely t a b → A.Waits t on b.1 b.2
  stops : ∀ t k γ s s', A.Holds γ s → A.Waits t (some k) γ s →
    s' = { s with loop := (s.loop.watch k (.task t)).setWaiting t (some k) } →
      A.Holds γ s' ∧ ∀ u, A.Rely u (γ, s) (γ, s')
  known : ∀ (s : World) (l : Loop), A.Known s → s.loop.Picks l → A.Known { s with loop := l }
  interrupted : ∀ t κ γ s, A.Holds γ s → s.loop.kind? t = some κ → s.loop.isInterrupted t = true →
    A.Begins t γ s → A.Ends t κ (.error .cancelled) γ s
  turn : ∀ t κ γ s, A.Serves κ → s.loop.kind? t = some κ → A.Holds γ s → A.Known s →
    A.Begins t γ s → A.discipline.wp t (Client.turn κ) (A.TurnEnds t κ) γ s

/-- A program, of which every change keeps something that is true again whenever the task goes on. -/
theorem wp_only {A : Account Γ} {t : Nat} {α : Type} {P : (World → World) → Prop} {I : Γ → World → Prop}
    (keeps : ∀ f γ s, P f → I γ s → ∃ γ', A.Acts t f (γ, s) γ' ∧ I γ' (f s))
    (holds : ∀ γ s, I γ s → A.Holds γ s ∧ ∀ on, A.Waits t on γ s)
    (again : ∀ γ s γ' s', I γ s → A.Rely t (γ, s) (γ', s') → A.Holds γ' s' → A.Known s' → I γ' s')
    {p : Act α} (only : p.Only P) {γ : Γ} {s : World} (h : I γ s) :
    A.discipline.wp t p (fun _ => I) γ s := by
  induction p generalizing γ s with
  | done => exact h
  | fail => exact h
  | look k ih => exact ih s (only s) h
  | change f k ih =>
    obtain ⟨γ', acts, kept⟩ := keeps f γ s only.1 h
    exact ⟨γ', acts, ih only.2 kept⟩
  | wait ticket k ih =>
    simp only [wp]
    split
    · exact ih _ (only _) h
    · exact ⟨⟨(holds γ s h).1, (holds γ s h).2 _⟩, fun γ' s' r rely resumes =>
        ih r (only r) (again _ _ _ _ h rely resumes.1 resumes.2.1)⟩
  | pause k ih =>
    exact ⟨⟨(holds γ s h).1, (holds γ s h).2 _⟩, fun γ' s' r rely resumes =>
      ih r (only r) (again _ _ _ _ h rely resumes.1 resumes.2.1)⟩

/-- How deeds lead from one ghost and world to another. -/
inductive Path : List Deed → Γ × World → Γ × World → Prop
  | still {γ : Γ} {a b : World} (stage : a.Passes b) : Path [] (γ, a) (γ, b)
  | later {γ : Γ} {a b : World} {c : Γ × World} {ds : List Deed} (stage : a.Passes b)
    (path : Path ds (γ, b) c) : Path ds (γ, a) c
  | deed {t : Nat} {f : World → World} {γ γ' : Γ} {s : World} {c : Γ × World} {ds : List Deed}
    (acts : A.Acts t f (γ, s) γ') (path : Path ds (γ', f s) c) : Path (⟨t, f, s⟩ :: ds) (γ, s) c

/-- Where a task stands. -/
structure Stands (γ : Γ) (m : Machine) (u : Nat) : Prop where
  stopped : ∀ x ∈ m.suspended, x.task = u → A.Waits u x.on γ m.world ∧ ∃ κ, m.world.loop.kind? u = some κ ∧
    A.discipline.Ready u x.on (fun r => A.discipline.wp u (x.next r) (A.TurnEnds u κ)) γ m.world
  between : m.isSuspended u = false → m.hasEnded u = false → A.Begins u γ m.world
  ended : ∀ r, m.reply? u = some r → ∃ κ, m.world.loop.kind? u = some κ ∧ A.Told u κ r γ m.world

/-- The account of a machine between two jobs. -/
structure Sound (γ : Γ) (m : Machine) : Prop where
  holds : A.Holds γ m.world
  stands : ∀ u, A.Stands γ m u
  unreplied : ∀ x ∈ m.suspended, m.reply? x.task = none

/-- Who is replied to has just ended its turn. -/
def Replies (m m' : Machine) (γ : Γ) : Prop :=
  ∀ u r, m.reply? u = none → m'.reply? u = some r →
    ∃ κ s, m'.world.loop.kind? u = some κ ∧ A.Ends u κ r γ s ∧
      s.Passes m'.world ∧ m'.world.servers = s.servers

/-- A job keeps the account. -/
def Follows (ds : List Deed) (m m' : Machine) (γ : Γ) : Prop :=
  ∃ γ', A.Sound γ' m' ∧ A.Path ds (γ, m.world) (γ', m'.world) ∧ A.Replies m m' γ'

variable {A} {γ γ' : Γ} {m m' : Machine} {t u : Nat} {κ : TaskKind}

namespace Path

variable {ds : List Deed} {a b : Γ × World} {c : World}

/-- The event loop and the servers go on after the last deed. -/
theorem behind (h : A.Path ds a b) (stage : b.2.Passes c) : A.Path ds a (b.1, c) := by
  induction h with
  | still first => exact .still (first.trans stage)
  | later first _ ih => exact .later first (ih stage)
  | deed acts _ ih => exact .deed acts (ih stage)

/-- What every deed adds to a list in a ghost, the deeds of a job add one after the other. -/
theorem collects {β : Type} (read : Γ → List β) (part : Deed → List β)
    (adds : ∀ t f a γ', A.Acts t f a γ' → read γ' = read a.1 ++ part ⟨t, f, a.2⟩) (h : A.Path ds a b) :
    read b.1 = read a.1 ++ ds.flatMap part := by
  induction h with
  | still => exact (List.append_nil _).symm
  | later _ _ ih => exact ih
  | deed acts _ ih => rw [ih, adds _ _ _ _ acts, List.append_assoc]; rfl

end Path

/-- Others may do what a task counts on. -/
theorem Stands.moved (lawful : A.Lawful) (h : A.Stands γ m u) (rely : A.Rely u (γ, m.world) (γ', m'.world))
    (waiting : ∀ x : Suspended, x.task = u → (x ∈ m'.suspended ↔ x ∈ m.suspended))
    (reply : m'.reply? u = m.reply? u) : A.Stands γ' m' u := by
  have grows := lawful.grows _ _ _ rely
  refine ⟨fun x hx mine => ?_, fun awake going => ?_, fun r e => ?_⟩
  · obtain ⟨waits, κ, kind, ready⟩ := h.stopped x ((waiting x mine).mp hx) mine
    exact ⟨lawful.waits _ _ (γ, m.world) (γ', m'.world) waits rely, κ, grows.kinds u κ kind, fun γ'' s'' r more resumes =>
      ready γ'' s'' r (lawful.trans _ _ _ _ rely more) resumes⟩
  · refine lawful.begins _ (γ, m.world) (γ', m'.world) (h.between ?_ ?_) rely
    · simp only [Machine.isSuspended, List.any_eq_false, decide_eq_true_eq] at awake ⊢
      exact fun x hx mine => awake x ((waiting x mine).mpr hx) mine
    · simpa only [Machine.hasEnded, reply] using going
  · obtain ⟨κ, kind, told⟩ := h.ended r (reply.symm.trans e)
    exact ⟨κ, grows.kinds u κ kind, lawful.told _ _ _ (γ, m.world) (γ', m'.world) told rely⟩

namespace Sound

/-- Others may do what all tasks count on. -/
theorem moved (lawful : A.Lawful) (h : A.Sound γ m) {s : World}
    (kept : A.Holds γ s ∧ ∀ u, A.Rely u (γ, m.world) (γ, s)) : A.Sound γ { m with world := s } :=
  ⟨kept.1, fun u => (h.stands u).moved lawful (kept.2 u) (fun _ _ => .rfl) rfl, h.unreplied⟩

/-- Nobody minds what happens backstage. -/
theorem backstage (lawful : A.Lawful) (h : A.Sound γ m) {s : World} (stage : m.world.Backstage A.Serves s) :
    A.Sound γ { m with world := s } := h.moved lawful (lawful.backstage γ _ _ h.holds stage)

/-- Nothing is done. -/
theorem follows (lawful : A.Lawful) (h : A.Sound γ m) {s : World} (stage : m.world.Backstage A.Serves s) :
    A.Follows [] m { m with world := s } γ := by
  refine ⟨γ, h.backstage lawful stage, .still stage.toPasses, fun u r none some => ?_⟩
  cases none.symm.trans some

end Sound

/-! ## A turn -/

/-- A task is in the middle of a segment. -/
structure Midturn (A : Account Γ) (t : Nat) (γ : Γ) (m : Machine) : Prop where
  holds : A.Holds γ m.world
  awake : m.isSuspended t = false
  going : m.reply? t = none
  others : ∀ u, u ≠ t → A.Stands γ m u
  unreplied : ∀ x ∈ m.suspended, m.reply? x.task = none

namespace Midturn

theorem not_mem (h : A.Midturn t γ m) {x : Suspended} (hx : x ∈ m.suspended) : x.task ≠ t := by
  have awake := h.awake
  simp only [Machine.isSuspended, List.any_eq_false, decide_eq_true_eq] at awake
  exact awake x hx

/-- The task stops. -/
theorem stops (h : A.Midturn t γ m) {on : Option Nat} {next : Except Fault Json → Act Turn}
    (kind : m.world.loop.kind? t = some κ) (waits : A.Waits t on γ m.world)
    (ready : A.discipline.Ready t on (fun r => A.discipline.wp t (next r) (A.TurnEnds t κ)) γ m.world) :
    A.Sound γ { m with suspended := ⟨t, on, next⟩ :: m.suspended } := by
  refine ⟨h.holds, fun u => ?_, fun x hx => ?_⟩
  rotate_left
  · rcases List.mem_cons.mp hx with rfl | hx
    · exact h.going
    · exact h.unreplied x hx
  by_cases e : u = t
  · subst e
    refine ⟨fun x hx mine => ?_, fun awake => ?_, fun r told => ?_⟩
    · rcases List.mem_cons.mp hx with rfl | hx
      · exact ⟨waits, κ, kind, ready⟩
      · exact absurd mine (h.not_mem hx)
    · simp [Machine.isSuspended] at awake
    · cases h.going.symm.trans told
  · obtain ⟨stopped, between, ended⟩ := h.others u e
    refine ⟨fun x hx mine => ?_, fun awake going => between ?_ going, ended⟩
    · rcases List.mem_cons.mp hx with rfl | hx
      · exact absurd mine.symm e
      · exact stopped x hx mine
    · simpa [Machine.isSuspended, Ne.symm e] using awake

/-- The task ends. -/
theorem ends (lawful : A.Lawful) (h : A.Midturn t γ m) (kind : m.world.loop.kind? t = some κ)
    {r : Except Fault Reply} (ends : A.Ends t κ r γ m.world) :
    A.Sound γ (m.endTask t r) ∧ m.world.Passes (m.endTask t r).world ∧
      A.Replies m (m.endTask t r) γ := by
  have stage : m.world.Backstage A.Serves (m.endTask t r).world := by
    obtain ⟨T, found, -⟩ := Option.map_eq_some_iff.mp kind
    have ending : m.world.loop.ending? t = some T.ending := by simp only [Loop.ending?, found, Option.map_some]
    simp only [Machine.endTask, ending, Option.getD_some]
    exact .onLoop (.settle_ending ending)
  obtain ⟨holds, rely⟩ := lawful.backstage γ _ _ h.holds stage
  have reply (u : Nat) : (m.endTask t r).reply? u = if u = t then some r else m.reply? u := by
    show List.lookup u ((t, r) :: m.replies) = _
    rw [List.lookup_cons]
    by_cases e : u = t
    · subst e; simp
    · rw [beq_false_of_ne e, if_neg e]; rfl
  have kind' := stage.loop.kinds t κ kind
  refine ⟨⟨holds, fun u => ?_, fun x hx => ?_⟩, stage.toPasses, fun u r' none some => ?_⟩
  rotate_left
  · rw [reply, if_neg (h.not_mem hx)]
    exact h.unreplied x hx
  rotate_left
  · by_cases e : u = t
    · subst e
      refine ⟨fun x hx mine => absurd mine (h.not_mem hx), fun _ going => ?_, fun r' told => ?_⟩
      · simp [Machine.hasEnded, reply] at going
      · obtain rfl : r = r' := by simpa [reply] using told
        exact ⟨κ, kind', lawful.told _ _ _ (γ, m.world) (γ, _) (lawful.ends _ _ _ _ _ ends) (rely u)⟩
    · exact (h.others u e).moved lawful (rely u) (fun _ _ => .rfl) (by rw [reply, if_neg e])
  · by_cases e : u = t
    · subst e
      obtain rfl : r = r' := by simpa [reply] using some
      exact ⟨κ, m.world, kind', ends, stage.toPasses, rfl⟩
    · rw [reply, if_neg e] at some
      cases none.symm.trans some

/-- A turn runs until it stops or ends. -/
theorem advances (lawful : A.Lawful) (h : A.Midturn t γ m) {p : Act Turn}
    (kind : m.world.loop.kind? t = some κ) (run : A.discipline.wp t p (A.TurnEnds t κ) γ m.world) :
    A.Follows (p.deeds t m.world) m (m.advance t p) γ := by
  obtain ⟨γ₁, ⟨path, spares⟩, stop⟩ :=
    Wp.advance (K := fun ds a b => A.Path ds a b ∧ ∀ u, u ≠ t → A.Rely u a b)
      (fun a => ⟨.still (.refl _), fun u _ => lawful.refl u a⟩)
      (fun f a γ' ds b acts more =>
        ⟨.deed acts more.1, fun u ne => lawful.trans _ _ _ _ (lawful.acts _ _ _ _ acts u ne) (more.2 u ne)⟩) run
  simp only [Machine.advance]
  generalize p.advance (fun s t => s.loop.outcome? t) m.world = reached at path spares stop
  obtain ⟨s, stop'⟩ := reached
  have kind' : s.loop.kind? t = some κ :=
    (lawful.grows _ _ _ (spares (t + 1) (Nat.succ_ne_self t))).kinds t κ kind
  have mid (holds : A.Holds γ₁ s) : A.Midturn t γ₁ { m with world := s } :=
    ⟨holds, h.awake, h.going, fun u ne => (h.others u ne).moved lawful (spares u ne) (fun _ _ => .rfl) rfl,
      h.unreplied⟩
  have ended (holds : A.Holds γ₁ s) {r : Except Fault Reply} (ends : A.Ends t κ r γ₁ s) :
      A.Follows (p.deeds t m.world) m (Machine.endTask t r { m with world := s }) γ := by
    obtain ⟨sound, stage, replies⟩ := (mid holds).ends lawful kind' ends
    exact ⟨γ₁, sound, path.behind stage, replies⟩
  -- Nobody is replied to in a segment that stops, or that another turn follows.
  have silent {m' : Machine} (same : m'.replies = m.replies) : A.Replies m m' γ₁ := by
    intro u r none some
    simp only [Machine.reply?, same] at some
    cases none.symm.trans some
  cases stop' with
  | done turn =>
    obtain ⟨holds, post⟩ : A.TurnEnds t κ (.ok turn) γ₁ s := stop
    cases turn with
    | onward κ' =>
      obtain ⟨rfl, begins⟩ := post
      have sound : A.Sound γ₁ { m with world := s } := by
        refine ⟨holds, fun u => ?_, h.unreplied⟩
        by_cases e : u = t
        · subst e
          refine ⟨fun x hx mine => absurd mine (h.not_mem hx), fun _ _ => begins, fun r told => ?_⟩
          cases h.going.symm.trans told
        · exact (mid holds).others u e
      have stage : s.Backstage A.Serves { s with loop := (s.loop.setKind t κ').sooner (.begin t) } := by
        rw [Loop.setKind_same kind']
        exact .onLoop .sooner
      exact ⟨γ₁, sound.backstage lawful stage, path.behind stage.toPasses, silent rfl⟩
    | finished r => exact ended holds post
  | failed f =>
    obtain ⟨holds, post⟩ : A.TurnEnds t κ (.error f) γ₁ s := stop
    exact ended holds post
  | waiting k next =>
    obtain ⟨⟨holds, waits⟩, ready⟩ := stop
    have stage : s.Passes { s with loop := (s.loop.watch k (.task t)).setWaiting t (some k) } :=
      .onLoop ((Loop.grows_watch ..).trans (Loop.grows_setWaiting ..))
    exact ⟨γ₁, ((mid holds).stops kind' waits ready).moved lawful (lawful.stops t k γ₁ s _ holds waits rfl),
      path.behind stage, silent rfl⟩
  | pausing next =>
    obtain ⟨⟨holds, waits⟩, ready⟩ := stop
    have stage : s.Backstage A.Serves { s with loop := s.loop.soon (.resume t) } :=
      .onLoop (.soon fun _ _ e => by cases e)
    exact ⟨γ₁, ((mid holds).stops kind' waits ready).backstage lawful stage, path.behind stage.toPasses, silent rfl⟩

end Midturn

/-! ## Jobs -/

/-- What is known of a machine between two jobs apart from the account. -/
structure Regular (A : Account Γ) (m : Machine) : Prop where
  known : A.Known m.world
  serves : ∀ u κ, m.world.loop.kind? u = some κ → A.Serves κ
  woken : ∀ x ∈ m.suspended, ∀ κ r, m.world.loop.kind? x.task = some κ →
    (∀ k, x.on = some k → m.world.loop.outcome? k = some r) → (x.on = none → r = .ok .null) →
      A.Woken κ (if m.isInterrupted x.task then .error .cancelled else r)

/-- The next job was taken. -/
theorem Regular.taken (lawful : A.Lawful) (h : A.Regular m) {l : Loop}
    (tickets : l.tickets = m.world.loop.tickets) (tasks : l.tasks = m.world.loop.tasks) :
    A.Regular (m.onLoop fun _ => l) where
  known := lawful.known _ l h.known (Loop.picks_of_eq tickets tasks)
  serves u κ kind := h.serves u κ (by simpa only [Machine.onLoop, Loop.kind?, tasks] using kind)
  woken x hx κ r kind settled rested := by
    rw [Machine.isInterrupted, show (m.onLoop fun _ => l).world.loop.tasks = m.world.loop.tasks from tasks]
    refine h.woken x hx κ r (by simpa only [Machine.onLoop, Loop.kind?, tasks] using kind) (fun k on => ?_) rested
    simpa only [Machine.onLoop, Loop.outcome?, tickets] using settled k on

theorem Follows.later {ds : List Deed} {m₁ : Machine} (h : A.Follows ds m₁ m' γ)
    (stage : m.world.Passes m₁.world) (replies : m₁.replies = m.replies) : A.Follows ds m m' γ := by
  obtain ⟨γ', sound, path, told⟩ := h
  refine ⟨γ', sound, .later stage path, fun u r none some => told u r ?_ some⟩
  simpa only [Machine.reply?, replies] using none

namespace Sound

/-- A task that was stopped goes on to its next stop or its end. -/
theorem goOn (lawful : A.Lawful) (h : A.Sound γ m) (regular : A.Regular m) {on : Option Nat}
    {r : Except Fault Json} (settled : ∀ k, on = some k → m.world.loop.outcome? k = some r)
    (rested : on = none → r = .ok .null) :
    A.Follows (match m.rest? t on r with | some (p, m₁) => p.deeds t m₁.world | none => []) m
      (m.goOn t on r) γ := by
  simp only [Machine.goOn, Machine.rest?]
  rcases found : m.suspended.find? (fun x => x.task = t ∧ x.on = on) with _ | x
  · simp only [found]
    exact h.follows lawful (.refl m.world)
  · have waits := List.mem_of_find?_eq_some found
    obtain ⟨rfl, rfl⟩ : x.task = t ∧ x.on = on := by simpa using List.find?_some found
    obtain ⟨-, κ, kind, ready⟩ := (h.stands x.task).stopped x waits rfl
    have stage : m.world.Backstage A.Serves { m.world with loop := m.world.loop.setRunning x.task } :=
      .onLoop .setRunning
    obtain ⟨holds, rely⟩ := lawful.backstage γ _ _ h.holds stage
    have mid : A.Midturn x.task γ
        ({ m with suspended := m.suspended.filter fun y => y.task ≠ x.task }.onLoop
          (Loop.setRunning · x.task)) := by
      refine ⟨holds, by simp [Machine.onLoop, Machine.isSuspended], h.unreplied x waits, fun u ne => ?_,
        fun y hy => h.unreplied y (List.mem_filter.mp hy).1⟩
      refine (h.stands u).moved lawful (rely u) (fun y mine => ?_) rfl
      simp only [Machine.onLoop, List.mem_filter, decide_eq_true_eq, and_iff_left_iff_imp]
      rintro - e
      exact ne (mine.symm.trans e)
    simp only [found, Option.map_some]
    refine (mid.advances lawful (stage.loop.kinds _ κ kind) (ready _ _ _ (rely _) ?_)).later stage.toPasses rfl
    have picks := Loop.picks_setRunning m.world.loop x.task
    refine ⟨holds, lawful.known _ _ regular.known picks, fun κ' kind' => ?_, ?_⟩
    · exact regular.woken x waits κ' r ((picks.kinds x.task).symm.trans kind') settled rested
    split
    · next interrupted => exact .inl ⟨rfl, m.world, h.holds, regular.known, stage.loop, m.isInterrupted_eq _ ▸ interrupted⟩
    · exact .inr ⟨settled, rested⟩

/-- A task takes its turn, or ends if it is interrupted before. -/
theorem beginTask (lawful : A.Lawful) (h : A.Sound γ m) (regular : A.Regular m) :
    A.Follows (m.deedsIn Client.turn (.begin t)) m (m.beginTask Client.turn t) γ := by
  simp only [Machine.beginTask, Machine.deedsIn]
  rcases found : m.world.loop.tasks[t]? with _ | T
  · exact h.follows lawful (.refl m.world)
  · have kind : m.world.loop.kind? t = some T.kind := by simp only [Loop.kind?, found, Option.map_some]
    rcases busy : m.isSuspended t || m.hasEnded t with _ | _
    · obtain ⟨awake, going⟩ := Bool.or_eq_false_iff.mp busy
      simp only [Bool.false_or, Bool.false_eq_true, if_false]
      have begins := (h.stands t).between awake going
      have mid : A.Midturn t γ m :=
        ⟨h.holds, awake, by simpa [Machine.hasEnded] using going, fun u _ => h.stands u, h.unreplied⟩
      rcases marked : T.interrupted with _ | _
      · exact mid.advances lawful kind (lawful.turn t _ γ _ (regular.serves t _ kind) kind h.holds
          regular.known begins)
      · obtain ⟨sound, stage, replies⟩ := mid.ends lawful kind (lawful.interrupted t _ γ _ h.holds kind
          (by simp only [Loop.isInterrupted, found, Option.map_some, Option.getD_some, marked]) begins)
        exact ⟨γ, sound, .still stage, replies⟩
    · simp only [Bool.true_or, if_true]
      exact h.follows lawful (.refl m.world)

/-- One job, unless it only settles a ticket. -/
theorem perform (lawful : A.Lawful) (h : A.Sound γ m) (regular : A.Regular m) {job : Job}
    (other : ∀ k v, job ≠ .settle k v) :
    A.Follows (m.deedsIn Client.turn job) m (m.perform Client.turn job) γ := by
  cases job with
  | begin t => exact h.beginTask lawful regular
  | resume t => exact h.goOn lawful regular (fun _ e => by cases e) fun _ => rfl
  | wake t k =>
    simp only [Machine.perform, Machine.deedsIn]
    rcases outcome : m.world.loop.outcome? k with _ | r
    · exact h.follows lawful (.refl m.world)
    · exact h.goOn lawful regular (fun _ e => Option.some.inj e ▸ outcome) fun e => by cases e
  | settle k v => exact absurd rfl (other k v)
  | perform j trigger actions =>
    exact h.follows lawful (.withServer j (Living.orderly_perform j trigger actions) m.world)

/-- One step keeps the account. -/
theorem step? (lawful : A.Lawful) (h : A.Sound γ m) (regular : A.Regular m)
    (step : m.step? Client.turn = some m') : A.Follows (m.deeds Client.turn) m m' γ := by
  simp only [Machine.step?, Machine.deeds] at step ⊢
  rcases next : m.world.loop.next? with _ | ⟨_ | job, l⟩
  · simp only [next] at step
    cases step
  · simp only [next] at step ⊢
    cases step
    exact h.follows lawful (.onLoop (.next? next))
  · simp only [next] at step ⊢
    cases step
    obtain ⟨tickets, tasks, -⟩ := Loop.next?_cases next
    have stage : m.world.Backstage A.Serves { m.world with loop := l } := .onLoop (.next? next)
    have taken {job : Job} (other : ∀ k v, job ≠ .settle k v) :=
      ((h.backstage lawful stage).perform lawful (regular.taken lawful tickets tasks) other).later stage.toPasses rfl
    cases job with
    | settle k v => exact h.follows lawful (.onLoop (.next?_settle next))
    | begin | resume | wake | perform => exact taken fun _ _ e => by cases e

/-- What a host may do keeps the account. -/
theorem hosts (lawful : A.Lawful) (h : A.Sound γ m) (hosts : m.Hosts (fun c => A.Serves (.call c)) m') :
    A.Sound γ m' ∧ m.world.Backstage A.Serves m'.world ∧ m'.replies = m.replies := by
  have stage {l : Loop} (orderly : m.world.loop.Orderly A.Serves l) :
      A.Sound γ { m with world := { m.world with loop := l } } ∧
        m.world.Backstage A.Serves { m.world with loop := l } ∧ m.replies = m.replies :=
    ⟨h.backstage lawful (.onLoop orderly), .onLoop orderly, rfl⟩
  cases hosts with
  | call c proper => exact stage (.start proper)
  | after ticket => exact stage (.after ticket)
  | timer nanos => exact stage (.timer nanos)
  | idle time => exact stage (.idle (Nat.le_max_left ..))

end Sound

end Account

end LspHost

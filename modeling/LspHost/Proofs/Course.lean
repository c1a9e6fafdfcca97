import LspHost.Proofs.Account
import LspHost.Proofs.Aloof
import LspHost.Proofs.Execution

/-!
# Lifecycle operations one after the other

An account of all lifecycle operations of a run (`Course`): which one is under way, since when, and what
news it has told; and which ones were carried out before, each with what it found, what it left behind,
its result and its news. Whoever holds the lock of lifecycle operations is under way, and nobody else
changes the session that is held, makes sessions or tells news (`Course.Rely`). So what an operation
leaves behind is what the next one finds (`Course.Linked`), and all news is that of one operation after
the other (`Course.Holds`).
-/

namespace LspHost

open Discipline Program

/-! ## The operations of a run -/

/-- A lifecycle operation that is under way: since it took the lock, and with its news so far. -/
structure Underway where
  task : Nat
  operation : Operation
  found : World
  news : List News

/-- The lifecycle operations of a run: the one that is under way, those before it, and who waits with
which ticket. -/
structure Course where
  underway : Option Underway
  log : List Execution
  place : Nat → Option Nat

/-- More news. -/
def Underway.tell (w : Underway) (more : List News) : Underway := { w with news := w.news ++ more }

theorem Underway.tell_tell (w : Underway) (first second : List News) :
    (w.tell first).tell second = w.tell (first ++ second) := by
  simp only [tell, List.append_assoc]

theorem Underway.tell_nil (w : Underway) : w.tell [] = w := by
  simp only [tell, List.append_nil]

namespace Course

/-- Before any operation. -/
def blank : Course := ⟨none, [], fun _ => none⟩

/-- What the operation under way found, or else what there is now. -/
def threshold (c : Course) (s : World) : World := (c.underway.map Underway.found).getD s

/-- The news of all operations. -/
def news (c : Course) : List News :=
  c.log.flatMap Execution.news ++ (c.underway.map Underway.news).getD []

/-- A task carries out an operation. -/
def Operates (s : World) (t : Nat) (o : Operation) : Prop :=
  s.loop.kind? t = some (.call (.supervisor (.operate o)))

/-- What holds of the operations of a run. -/
structure Holds (c : Course) (s : World) : Prop where
  held : s.supervisor.lifecycleLock.held = c.underway.isSome
  news : s.news = c.news
  session : ∀ i, s.supervisor.session = some i → i < s.sessions.length
  reused : s.supervisor.reused = none
  waiting : ∀ k u, c.place k = some u → k < s.loop.tickets.length
  linked : Linked (none, 0) c.log (c.threshold s).standing
  once : (c.log.map Execution.task).Nodup
  under : ∀ w, c.underway = some w →
    w.task ∉ c.log.map Execution.task ∧ Operates s w.task w.operation ∧ w.found.Settled
  logged : ∀ e ∈ c.log, Operates s e.task e.operation
  told : ∀ e ∈ c.log, ∀ x, e.result = .ok x → e.operation.Tells e.found x e.left e.news
  settled : ∀ e ∈ c.log, e.found.Settled

/-- What a task counts on while it waits: nobody else does anything in its name, nor at all while it is
under way, and it keeps its place in the queue. -/
structure Rely (t : Nat) (a b : Course × World) : Prop where
  loop : a.2.loop.Grows b.2.loop
  log : ∀ e ∈ a.1.log, e ∈ b.1.log
  mine : ∀ e ∈ b.1.log, e.task = t → e ∈ a.1.log
  acting : ∀ w, a.1.underway = some w → w.task = t →
    b.1.underway = some w ∧ b.1.log = a.1.log ∧ a.2.Abides b.2
  idle : ∀ w, b.1.underway = some w → w.task = t → a.1.underway = some w
  place : ∀ k, a.1.place k = some t → b.1.place k = some t ∧
    (k ∈ b.2.supervisor.lifecycleLock.waiters ↔ k ∈ a.2.supervisor.lifecycleLock.waiters)

/-- An operation comes under way when its task takes the lock, and is carried out when it gives it back. -/
structure Traces (t : Nat) (a : Course × World) (b : Course × World) : Prop where
  underway : ∀ w', b.1.underway = some w' →
    (∃ w, a.1.underway = some w ∧ w.task = w'.task ∧ w.found = w'.found) ∨
    (w'.task = t ∧ w'.found = b.2 ∧ a.2.supervisor.lifecycleLock.held = false ∧
      b.2.supervisor.lifecycleLock.held = true)
  log : ∀ e ∈ b.1.log, e ∈ a.1.log ∨ ∃ w, a.1.underway = some w ∧ w.task = e.task ∧ w.found = e.found
  stays : ∀ w, a.1.underway = some w →
    (∃ w', b.1.underway = some w' ∧ w'.task = w.task ∧ w'.found = w.found) ∨
    ∃ e ∈ b.1.log, e.task = w.task ∧ e.found = w.found
  keeps : ∀ e ∈ a.1.log, e ∈ b.1.log
  enters : a.2.supervisor.lifecycleLock.held = false → b.2.supervisor.lifecycleLock.held = true →
    ∃ w, b.1.underway = some w ∧ w.task = t ∧ w.found = b.2

/-- The lock is free for whoever is woken to take it, and while it is free, whatever is held is running. -/
structure Known (s : World) : Prop where
  granted : ∀ k ∈ s.supervisor.lifecycleLock.waiters, ∀ v, s.loop.outcome? k = some (.ok v) →
    s.supervisor.lifecycleLock.held = false
  settled : s.supervisor.lifecycleLock.held = false → s.Settled

/-- A task has nothing to do with any operation. -/
structure Apart (t : Nat) (c : Course) : Prop where
  underway : ∀ w, c.underway = some w → w.task ≠ t
  log : ∀ e ∈ c.log, e.task ≠ t

/-- An operation was replied to, and is under way no more. -/
def Over (t : Nat) (c : Course) : Prop := ∀ w, c.underway = some w → w.task ≠ t

/-- A task has carried out no operation. -/
def Outside (t : Nat) (c : Course) : Prop := ∀ e ∈ c.log, e.task ≠ t

/-- How a lifecycle operation is replied to: it was refused, or carried out. -/
def Settles (t : Nat) (o : Operation) (r : Except Fault Reply) (c : Course) (P : Execution → Prop) : Prop :=
  ∀ x, r = .ok x → ∃ y, x = .lifecycle y ∧
    ((y.outcome = .rejected ∧ o ≠ .shutdown ∧ Apart t c) ∨
      ∃ e ∈ c.log, e.task = t ∧ e.operation = o ∧ e.result = .ok y ∧ P e)

end Course

/-- The account of the lifecycle operations of a run. -/
def course : Account Course where
  Holds := Course.Holds
  Rely := Course.Rely
  Acts t f a c' := (∀ u, u ≠ t → Course.Rely u a (c', f a.2)) ∧ Course.Traces t a (c', f a.2)
  Known := Course.Known
  Serves := TaskKind.Supervised
  Waits t _ c _ := c.Outside t
  Begins t c _ := c.Apart t
  Ends t κ r c s := ∀ o, κ = .call (.supervisor (.operate o)) → c.Over t ∧ Course.Settles t o r c fun e =>
    e.left.Alike s ∧ c.underway = none
  Told t κ r c _ := ∀ o, κ = .call (.supervisor (.operate o)) → c.Over t ∧ Course.Settles t o r c fun _ => True

namespace Course

variable {t u : Nat} {c c' : Course} {s s' : World}

/-! ## What does not concern operations -/

theorem Rely.refl (t : Nat) (a : Course × World) : Rely t a a where
  loop := .refl _
  log _ h := h
  mine _ h _ := h
  acting _ h _ := ⟨h, rfl, .refl _⟩
  idle _ h _ := h
  place _ h := ⟨h, .rfl⟩

theorem Rely.trans {a b d : Course × World} (h : Rely t a b) (h' : Rely t b d) : Rely t a d where
  loop := h.loop.trans h'.loop
  log e he := h'.log e (h.log e he)
  mine e he mine := h.mine e (h'.mine e he mine) mine
  acting w hw mine := by
    obtain ⟨under, log, abides⟩ := h.acting w hw mine
    obtain ⟨under', log', abides'⟩ := h'.acting w under mine
    exact ⟨under', log'.trans log, abides.trans abides'⟩
  idle w hw mine := h.idle w (h'.idle w hw mine) mine
  place k hk := by
    obtain ⟨mine, stays⟩ := h.place k hk
    obtain ⟨mine', stays'⟩ := h'.place k mine
    exact ⟨mine', stays'.trans stays⟩

theorem Traces.refl (same : c'.underway = c.underway) (log : c'.log = c.log)
    (held : s'.supervisor.lifecycleLock.held = s.supervisor.lifecycleLock.held) :
    Traces t (c, s) (c', s') where
  underway w' h := .inl ⟨w', same ▸ h, rfl, rfl⟩
  log _ h := .inl (log ▸ h)
  stays w h := .inl ⟨w, same.trans h, rfl, rfl⟩
  keeps _ h := log ▸ h
  enters free taken := by cases (held.symm.trans taken).symm.trans free

theorem Apart.rely {a b : Course × World} (h : a.1.Apart t) (rely : Rely t a b) : b.1.Apart t where
  underway w hw mine := h.underway w (rely.idle w hw mine) mine
  log e he mine := h.log e (rely.mine e he mine) mine

theorem Settles.mono {o : Operation} {r : Except Fault Reply} {P Q : Execution → Prop}
    (h : Settles t o r c P) (imp : ∀ e, P e → Q e) : Settles t o r c Q := by
  intro x e
  obtain ⟨y, rfl, refused | ⟨e, he, mine, operation, result, post⟩⟩ := h x e
  · exact ⟨y, rfl, .inl refused⟩
  · exact ⟨y, rfl, .inr ⟨e, he, mine, operation, result, imp e post⟩⟩

theorem threshold_standing (standing : s'.standing = s.standing) :
    (c.threshold s').standing = (c.threshold s).standing := by
  unfold threshold
  cases c.underway with
  | none => exact standing
  | some w => rfl

/-- What is not about operations keeps everything. -/
theorem Holds.apart (h : c.Holds s) (apart : s.Apart s') : c.Holds s' where
  held := by rw [apart.lock]; exact h.held
  news := apart.news.trans h.news
  session i e := by rw [apart.sessions]; exact h.session i (apart.session ▸ e)
  reused := apart.reused.trans h.reused
  waiting k u hk := Nat.lt_of_lt_of_le (h.waiting k u hk) apart.loop.issued
  linked := by rw [threshold_standing apart.toAbides.standing]; exact h.linked
  once := h.once
  under w hw := ⟨(h.under w hw).1, apart.loop.kinds _ _ (h.under w hw).2.1, (h.under w hw).2.2⟩
  logged e he := apart.loop.kinds _ _ (h.logged e he)
  told := h.told
  settled := h.settled

theorem rely_apart (apart : s.Apart s') (u : Nat) : Rely u (c, s) (c, s') where
  loop := apart.loop
  log _ h := h
  mine _ h _ := h
  acting _ h _ := ⟨h, rfl, apart.toAbides⟩
  idle _ h _ := h
  place _ h := ⟨h, by rw [apart.lock]⟩

theorem apart_passes (stage : s.Passes s') : s.Apart s' := by
  have same := stage.rest
  exact ⟨⟨by rw [same], by rw [same], by rw [same], by rw [same]; rfl⟩, by rw [same], stage.loop⟩

theorem Outside.rely {a b : Course × World} (h : a.1.Outside t) (rely : Rely t a b) : b.1.Outside t :=
  fun e he mine => h e (rely.mine e he mine) mine

/-- A program that is not about operations, of a task that has carried out none. -/
theorem wp_aloof {α : Type} {p : Act α} (only : Only Aloof p) (h : c.Holds s) (outside : c.Outside t) :
    course.discipline.wp t p (fun _ c' s' => c'.Holds s' ∧ Rely t (c, s) (c', s')) c s := by
  refine Wp.mono (Account.wp_only (A := course)
    (I := fun c' s' => (c'.Holds s' ∧ Rely t (c, s) (c', s')) ∧ c'.Outside t)
    (fun b c' s' aloof h => ?_) (fun c' s' h => ⟨h.1.1, fun _ => h.2⟩)
    (fun c' s' c'' s'' h rely holds _ => ⟨⟨holds, h.1.2.trans rely⟩, h.2.rely rely⟩) only
    ⟨⟨h, .refl t _⟩, outside⟩) fun _ _ _ post => post.1
  exact ⟨c', ⟨fun u _ => rely_apart (aloof s') u, .refl rfl rfl (by rw [(aloof s').lock])⟩,
    ⟨h.1.1.apart (aloof s'), h.1.2.trans (rely_apart (aloof s') t)⟩, h.2⟩

end Course

end LspHost

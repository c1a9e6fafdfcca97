import LspHost.Proofs.Reporting

/-!
# What the host has reported is recorded

The account of reports is kept (`recording_lawful`). A task that does not report leaves the documents alone, also under
their lock, unless it is a shutdown that is over (`Register.wp_operate`). One that reports takes its place in the line,
is recorded when it is first, edits the documents as it says, and tells the session (`Register.wp_run`).

Results:
1. `Setting.Runs.recorded`: calls are recorded once, in the order in which they came, and replied to by what was
   recorded before. A call fails only if the process goes away before its turn to write comes.
2. `Setting.Runs.documents_independent`: two runs with the same changes have the same documents, and reply to the same
   calls alike, whatever lifecycle operations and servers do.
-/

namespace LspHost

open Act Discipline Program

namespace Register

variable {α : Type} {t u : Nat} {ρ ρ' : Register} {s s' : World} {κ : TaskKind} {c : SupervisorCall}
  {r : Except Fault Reply}

/-! ### The lock, for a task that does not report -/

/-- A change of the lock of the documents. -/
def turnDesk (f : Lock → Lock) (s : World) : World :=
  s.setSupervisor fun v => { v with documentLock := f v.documentLock }

/-- A change of the lock after which the same reports wait. -/
structure Steady (ρ : Register) (s : World) (f : Lock → Lock) : Prop where
  waiting : (f s.desk).waiters.filterMap ρ.place = s.desk.waiters.filterMap ρ.place
  issued : ∀ k ∈ (f s.desk).waiters, k < s.loop.tickets.length
  kept : ∀ k ∈ s.desk.waiters, ρ.place k ≠ none → k ∈ (f s.desk).waiters

section Silent

variable {a : Register × World} {k : Nat} {f : Lock → Lock}

theorem Steady.of_held (h : ρ.Holds s) (held : Bool) : Steady ρ s fun l => { l with held := held } :=
  ⟨rfl, h.issued, fun _ queued _ => queued⟩

/-- A ticket of nobody who reports is put behind the others. -/
theorem Steady.of_append (h : ρ.Holds s) (issued : k < s.loop.tickets.length) (nobody : ρ.place k = none) :
    Steady ρ s fun l => { l with waiters := l.waiters ++ [k] } where
  waiting := by simp [nobody]
  issued j hj := by
    rcases List.mem_append.mp hj with hj | hj
    · exact h.issued j hj
    · exact List.mem_singleton.mp hj ▸ issued
  kept _ queued _ := List.mem_append_left _ queued

/-- Such a ticket is taken out of the line. -/
theorem Steady.of_erase (h : ρ.Holds s) (nobody : ρ.place k = none) :
    Steady ρ s fun l => { l with waiters := l.waiters.erase k } where
  waiting := by
    show (s.desk.waiters.erase k).filterMap ρ.place = _
    induction s.desk.waiters with
    | nil => rfl
    | cons j rest ih =>
      by_cases e : j = k
      · subst e
        rw [List.erase_cons_head, List.filterMap_cons, nobody]
      · rw [List.erase_cons_tail (by simpa using e), List.filterMap_cons, List.filterMap_cons, ih]
  issued j hj := h.issued j (List.mem_of_mem_erase hj)
  kept j queued somebody := (List.mem_erase_of_ne fun e => somebody (by rw [e]; exact nobody)).mpr queued

theorem Steady.holds (steady : Steady ρ s f) (h : ρ.Holds s) : ρ.Holds (turnDesk f s) where
  line := h.line.trans (congrArg _ steady.waiting.symm)
  nodup := h.nodup
  issued := steady.issued
  fresh := h.fresh
  known := h.known
  documents := h.documents

theorem Steady.rely (steady : Steady ρ s f) : Rely t (ρ, s) (ρ, turnDesk f s) where
  loop := .refl _
  scope := rfl
  entries := ⟨[], (List.append_nil _).symm⟩
  came _ h := h
  mine h := h
  place _ _ := rfl
  waits k _ queued mine := steady.kept k queued fun nobody => by cases mine.symm.trans nobody

variable (kind : a.2.loop.kind? t = some κ) (silent : ∀ c, κ = .call (.supervisor c) → c.reports = false)
include kind silent

/-- A task that does not report changes the lock, and the same reports wait. -/
theorem wp_setDesk (h : Since t a ρ s) (steady : Steady ρ s f) :
    recording.discipline.wp t (Act.setLock Supervisor.documentPlace f)
      (fun _ ρ' s' => Since t a ρ' s' ∧ ρ' = ρ ∧ s' = turnDesk f s) ρ s := by
  have quiet (c : SupervisorCall) (asked : s.asked? t = some c) : c.reports = false := by
    unfold World.asked? at asked
    rw [h.rely.loop.kinds t κ kind] at asked
    split at asked
    · next same => exact silent c (by rw [Option.some.inj same, Option.some.inj asked])
    · cases asked
  refine Wp.update ρ (acts_of (.refl _) rfl ?_ ?_ (fun _ _ => rfl) fun k queued u _ mine =>
      steady.kept k queued fun nobody => by cases mine.symm.trans nobody)
    ⟨⟨steady.holds h.holds, h.rely.trans steady.rely⟩, rfl, rfl⟩
  · rw [entry?_of_kept rfl fun c asked reports => by cases (quiet c asked).symm.trans reports]
    exact (List.append_nil _).symm
  · refine (if_neg fun comes => ?_).symm
    obtain ⟨c, asked, reports⟩ := (Option.any_eq_true _ _).mp comes.1
    cases (quiet c asked).symm.trans reports

/-- It takes the lock of the documents, or waits in line for it. -/
theorem wp_acquire_silent (h : Since t a ρ s) :
    recording.discipline.wp t (Act.acquire Supervisor.documentPlace) (fun _ => Since t a) ρ s := by
  have takes {ρ : Register} {s : World} (h : Since t a ρ s) :
      recording.discipline.wp t (Act.setLock Supervisor.documentPlace fun l => { l with held := true })
        (fun _ => Since t a) ρ s :=
    Wp.mono (wp_setDesk kind silent h (.of_held h.holds true)) fun _ _ _ h => h.1
  refine Wp.look ?_
  split
  · exact takes h
  -- Its ticket is nobody's who reports, and stays so.
  let k := s.loop.tickets.length
  have issued : s.Unedited { s with loop := s.loop.issue.2 } := .of_eq (Loop.grows_issue _) rfl
  have later : k < s.loop.issue.2.tickets.length := by simp [k, Loop.issue]
  have nobody : ρ.place k = none := h.holds.fresh k (Nat.le_refl _)
  have h₁ := h.unedited issued
  refine Wp.issue ρ (acts_unedited issued)
    (Wp.seq (wp_setDesk kind silent h₁ (.of_append h₁.holds later nobody)) ?_ fun _ _ _ h => h.1)
  rintro _ _ s₂ ⟨h₂, rfl, same⟩
  have later₂ : k < s₂.loop.tickets.length := by rw [same]; exact later
  refine Wp.attempt_seq (P := fun _ ρ' s' => Since t a ρ' s' ∧ ρ'.place k = none)
    (Wp.mono (wp_unedited (.await k) h₂.holds) fun _ ρ' s' post =>
      ⟨h₂.trans post, (post.rely.place k later₂).trans nobody⟩) ?_
  rintro r ρ₃ s₃ ⟨h₃, nobody₃⟩
  refine Wp.seq (wp_setDesk kind silent h₃ (.of_erase h₃.holds nobody₃)) ?_ fun _ _ _ h => h.1
  rintro _ ρ₄ s₄ ⟨h₄, -⟩
  cases r with
  | ok => exact takes h₄
  | error f =>
    refine Wp.look ?_
    split
    · exact Wp.seq (wp_wake h₄) (fun _ _ _ h => Wp.fail h) fun _ _ _ h => h
    · exact h₄

/-- What it does under the lock of the documents keeps what it knows of the record, if it does without the lock. -/
theorem wp_locked_silent {p : Act α} (keeps : recording.Keeps t (Since t a) p) (h : Since t a ρ s) :
    recording.discipline.wp t (Act.locked Supervisor.documentPlace p) (fun _ => Since t a) ρ s := by
  refine Wp.seq (wp_acquire_silent kind silent h) (fun _ ρ₁ s₁ h₁ => ?_) fun _ _ _ h => h
  refine Wp.ensure (keeps ρ₁ s₁ h₁) fun r ρ₂ s₂ h₂ => ?_
  refine Wp.seq (wp_setDesk kind silent h₂ (.of_held h₂.holds false)) ?_ fun _ _ _ h => h.1
  rintro _ ρ₃ s₃ ⟨h₃, -⟩
  exact Wp.mono (wp_wake h₃) fun r' _ _ h => by cases r' <;> exact h

/-- Whatever is done under the lock of lifecycle operations. -/
theorem lifecycle : LifecycleSweep fun _ p => recording.Keeps t (Since t a) p := by
  have K := (care t a).repertoire World.Unedited.permissive
  refine K.lifecycle (fun keeps _ _ h => wp_locked_silent kind silent keeps h) (K.yield (fun s l => ?_) fun s => ?_)
    (fun type session message _ => K.update fun s => .publish _ s)
    fun session => K.update fun s => ⟨rfl, rfl, rfl, .refl _⟩
  · simp only [show (s.withGate l).supervisor.reused = s.supervisor.reused from rfl]
    split <;> rfl
  · dsimp only
    split
    · exact .refl s
    · exact .of_eq (.refl _) rfl

omit kind silent in
theorem wp_serialized {o : Operation} {policy : BusyPolicy} {p : Act LifecycleResult}
    (keeps : recording.Keeps t (Since t a) p) (h : Since t a ρ s) :
    recording.discipline.wp t (Supervisor.serialized o policy p) (fun _ => Since t a) ρ s := by
  have K := (care t a).repertoire World.Unedited.permissive
  refine Wp.look ?_
  split
  · exact h
  · exact K.locked (fun _ _ same => by rw [same]) (fun _ s => ⟨rfl, rfl, rfl, .refl _⟩) keeps ρ s h

omit kind silent in
/-- A shutdown forgets all documents. -/
theorem acts_forget (shutdown : s.asked? t = some (.operate .shutdown)) (h : ρ.Holds s) :
    ∃ ρ', recording.Acts t (fun s => s.setSupervisor fun v => { v with documents := [] }) (ρ, s) ρ' ∧
      Since t (ρ, s) ρ' (s.setSupervisor fun v => { v with documents := [] }) := by
  let forget : World → World := fun s => s.setSupervisor fun v => { v with documents := [] }
  have entry : Deed.entry? ⟨t, forget, s⟩ = if [] = s.supervisor.documents then none else some ⟨t, .forgotten⟩ := by
    rw [Deed.entry?, shutdown, Option.bind_some]
    show (if [] = s.supervisor.documents then none else some Change.forgotten).map (Entry.mk t) = _
    split <;> rfl
  let ρ' : Register := { ρ with entries := ρ.entries ++ (Deed.entry? ⟨t, forget, s⟩).toList }
  refine ⟨ρ', acts_of (.refl _) rfl rfl (reports_of_desk (d := ⟨t, forget, s⟩) rfl).symm (fun _ _ => rfl)
    fun _ queued _ _ _ => queued, ⟨⟨?_, h.nodup, h.issued, h.fresh, fun u c he => h.known u c ?_⟩, ?_⟩,
    ⟨.refl _, rfl, ⟨_, rfl⟩, fun _ hu => hu, fun hu => hu, fun _ _ => rfl, fun _ _ queued _ => queued⟩⟩
  · have nobody : (Deed.entry? ⟨t, forget, s⟩).toList.filterMap Entry.reporter? = [] := by
      rw [entry]
      split <;> rfl
    show ρ.came = (ρ.entries ++ _).filterMap Entry.reporter? ++ _
    rw [List.filterMap_append, nobody, List.append_nil]
    exact h.line
  · refine (List.mem_append.mp he).resolve_right fun forgot => ?_
    rw [entry] at forgot
    split at forgot <;> simp at forgot
  · show [] = documentsAfter ((ρ.entries ++ (Deed.entry? ⟨t, forget, s⟩).toList).map Entry.change)
    rw [List.map_append, documentsAfter_append, ← h.documents, entry]
    split
    · next none => exact none
    · rfl

end Silent

/-- A lifecycle operation. -/
theorem wp_operate {o : Operation} (kind : s.loop.kind? t = some (.call (.supervisor (.operate o)))) (h : ρ.Holds s) :
    recording.discipline.wp t (Supervisor.operate o) (fun _ => Since t (ρ, s)) ρ s := by
  have silent (c : SupervisorCall) (same : TaskKind.call (.supervisor (.operate o)) = .call (.supervisor c)) :
      c.reports = false := by
    cases same
    rfl
  have L := lifecycle (t := t) (a := (ρ, s)) kind silent
  have start : Since t (ρ, s) ρ s := .start h
  refine Wp.look ?_
  cases o with
  | start => exact wp_serialized L.doStart start
  | stop => exact wp_serialized L.doStop start
  | restart => exact wp_serialized L.doRestart start
  | shutdown =>
    refine Wp.seq (wp_serialized L.doStop start) (fun x ρ₁ s₁ h₁ => ?_) fun _ _ _ h₁ => h₁
    obtain ⟨ρ₂, acts, forgot⟩ := acts_forget (asked_of_kind (h₁.rely.loop.kinds t _ kind)) h₁.holds
    exact Wp.change ρ₂ acts (h₁.trans forgot)

/-! ### Reports -/

/-- A report has just taken the lock of the documents: it is the last that was recorded, and the documents are still
those from before. -/
structure Entered (t : Nat) (c : SupervisorCall) (a : Register × World) (ρ : Register) (s : World) : Prop extends
    Lined ρ s where
  kind : s.loop.kind? t = some (.call (.supervisor c))
  scope : s.supervisor.scope = a.2.supervisor.scope
  last : ∃ before, ρ.entries = before ++ [⟨t, .reported c⟩] ∧
    s.supervisor.documents = documentsAfter (before.map Entry.change)

section Reports

variable {k : Nat} (kind : s.loop.kind? t = some (.call (.supervisor c))) (reports : c.reports = true)
include kind reports

/-- A task that reports comes to the lock by its first change of it. -/
theorem reports_of_new {f : World → World} {came : List Nat} (other : (f s).desk ≠ s.desk) (new : t ∉ came) :
    Deed.reports came ⟨t, f, s⟩ = came ++ [t] :=
  if_pos ⟨(Option.any_eq_true _ _).mpr ⟨c, asked_of_kind kind, reports⟩, other, new⟩

omit kind reports in
theorem reports_of_mem {f : World → World} {came : List Nat} (old : t ∈ came) : Deed.reports came ⟨t, f, s⟩ = came :=
  if_neg fun h => h.2.2 old

/-- The lock is free, nobody waits in front of the task, and it takes the lock. -/
theorem acts_take (free : s.desk.held = false)
    (came : ρ'.came = Deed.reports ρ.came ⟨t, turnDesk fun l => { l with held := true }, s⟩)
    (entries : ρ'.entries = ρ.entries ++ [⟨t, .reported c⟩]) (place : ρ'.place = ρ.place) :
    recording.Acts t (turnDesk fun l => { l with held := true }) (ρ, s) ρ' := by
  refine acts_of (.refl _) rfl (entries.trans (congrArg _ ?_)) came (fun _ _ => by rw [place])
    fun _ queued _ _ _ => queued
  rw [entry?_of_reports kind reports, if_pos]
  · rfl
  · show (!s.desk.held && true) = true
    rw [free]
    rfl

/-- The lock is not taken. -/
theorem acts_line {f : Lock → Lock} (held : (f s.desk).held = true → s.desk.held = true)
    (came : ρ'.came = Deed.reports ρ.came ⟨t, turnDesk f, s⟩) (entries : ρ'.entries = ρ.entries)
    (place : ρ'.place = ρ.place)
    (waits : ∀ k ∈ s.desk.waiters, ∀ u, u ≠ t → ρ.place k = some u → k ∈ (f s.desk).waiters) :
    recording.Acts t (turnDesk f) (ρ, s) ρ' := by
  refine acts_of (.refl _) rfl (entries.trans ?_) came (fun _ _ => by rw [place]) waits
  rw [entry?_of_reports kind reports, if_neg]
  · exact (List.append_nil _).symm
  · show ¬ (!s.desk.held && (f s.desk).held) = true
    rw [Bool.and_eq_true, Bool.not_eq_true']
    rintro ⟨free, taken⟩
    cases free.symm.trans (held taken)

/-- What is recorded has been reported, also with one more report. -/
theorem known_append (h : ρ.Holds s) (u : Nat) (c' : SupervisorCall)
    (he : ⟨u, .reported c'⟩ ∈ ρ.entries ++ [(⟨t, .reported c⟩ : Entry)]) :
    s.loop.kind? u = some (.call (.supervisor c')) ∧ c'.reports = true := by
  rcases List.mem_append.mp he with he | he
  · exact h.known u c' he
  · cases List.mem_singleton.mp he
    exact ⟨kind, reports⟩

/-- A report takes the lock of the documents, or waits in line for it. -/
theorem wp_acquire_report (h : ρ.Holds s) (new : t ∉ ρ.came) :
    recording.discipline.wp t (Act.acquire Supervisor.documentPlace)
      (fun r ρ' s' => r = .ok () ∧ Entered t c (ρ, s) ρ' s') ρ s := by
  refine Wp.look ?_
  split
  · next isOpen =>
    obtain ⟨free, nobody⟩ := Bool.and_eq_true_iff.mp (show s.desk.isOpen = true from isOpen)
    have free : s.desk.held = false := by simpa using free
    have nobody : s.desk.waiters = [] := by simpa using nobody
    have line := h.line
    rw [nobody, List.filterMap_nil, List.append_nil] at line
    let ρ' : Register := { ρ with came := ρ.came ++ [t], entries := ρ.entries ++ [⟨t, .reported c⟩] }
    refine Wp.update ρ' (acts_take kind reports free (reports_of_new kind reports ?_ new).symm rfl rfl)
      ⟨rfl, ⟨?_, ?_, h.issued, h.fresh, known_append (s := s) kind reports h⟩, kind, rfl, _, rfl, h.documents⟩
    · exact fun same => by cases (free.symm.trans (congrArg Lock.held same).symm)
    · show ρ.came ++ [t] = (ρ.entries ++ [_]).filterMap Entry.reporter? ++ s.desk.waiters.filterMap ρ.place
      rw [nobody, List.filterMap_append, ← line]
      exact (List.append_nil _).symm
    · exact List.nodup_append.mpr ⟨h.nodup, by simp, fun a ha b hb e => new (by
        rw [← List.mem_singleton.mp hb, ← e]; exact ha)⟩
  -- The task comes, and its ticket has a place behind all others.
  let k := s.loop.tickets.length
  let s₁ : World := { s with loop := s.loop.issue.2 }
  have grows : s.loop.Grows s₁.loop := Loop.grows_issue _
  have later : k < s₁.loop.tickets.length := by simp [k, s₁, Loop.issue]
  let ρ₁ : Register := { ρ with place := fun j => if j = k then some t else ρ.place j }
  have old (j : Nat) (hj : j < k) : ρ₁.place j = ρ.place j := if_neg (Nat.ne_of_lt hj)
  refine Wp.issue ρ₁ (acts_of grows rfl ?_ (reports_of_desk (d := ⟨t, _, s⟩) rfl).symm old
    fun _ queued _ _ _ => queued) ?_
  · rw [entry?_of_kept rfl fun _ _ _ held => held]
    exact (List.append_nil _).symm
  let queue (l : Lock) : Lock := { l with waiters := l.waiters ++ [k] }
  let ρ₂ : Register := { ρ₁ with came := ρ.came ++ [t] }
  have kind₁ : s₁.loop.kind? t = some (.call (.supervisor c)) := grows.kinds t _ kind
  have holds₂ : ρ₂.Holds (turnDesk queue s₁) := by
    refine ⟨⟨?_, ?_, fun j hj => ?_, fun j hj => ?_,
      fun u c he => ⟨grows.kinds u _ (h.known u c he).1, (h.known u c he).2⟩⟩, h.documents⟩
    · show ρ.came ++ [t] = ρ.entries.filterMap Entry.reporter? ++ (s.desk.waiters ++ [k]).filterMap ρ₁.place
      have mine : ρ₁.place k = some t := if_pos rfl
      rw [List.filterMap_append, List.filterMap_congr fun j hj => old j (h.issued j hj), ← List.append_assoc, ← h.line]
      simp [mine]
    · exact List.nodup_append.mpr ⟨h.nodup, by simp, fun a ha b hb e => new (by
        rw [← List.mem_singleton.mp hb, ← e]; exact ha)⟩
    · rcases List.mem_append.mp hj with hj | hj
      · exact Nat.lt_trans (h.issued j hj) later
      · exact List.mem_singleton.mp hj ▸ later
    · exact (if_neg (Nat.ne_of_gt (Nat.lt_of_lt_of_le later hj))).trans (h.fresh j (Nat.le_trans grows.issued hj))
  refine Wp.change ρ₂ (acts_line kind₁ reports (f := queue) (fun held => held)
    (reports_of_new kind₁ reports ?_ new).symm rfl rfl fun j queued _ _ _ => List.mem_append_left _ queued) ?_
  · intro same
    have same : s.desk.waiters ++ [k] = s.desk.waiters := congrArg Lock.waiters same
    simp at same
  -- It waits until it is woken, and then it is the first one.
  refine Wp.attempt_seq (P := fun r ρ₃ s₃ => (∃ v, r = .ok v) ∧ Since t (ρ₂, turnDesk queue s₁) ρ₃ s₃ ∧
      s₃.desk.held = false ∧ ∃ others, s₃.desk.waiters = k :: others)
    (Wp.await (fun r settled => ?_) (fun _ => ⟨holds₂, trivial⟩) fun _ ρ₃ s₃ r rely resumes => ?_) ?_
  · have bound := Loop.outcome?_lt (show s.loop.outcome? k = some r by
      rw [← Loop.outcome?_issue]; exact settled)
    exact absurd bound (Nat.lt_irrefl _)
  · have waits : k ∈ s₃.desk.waiters :=
      rely.waits k later (List.mem_append_right _ (List.mem_singleton_self k)) (if_pos rfl)
    obtain ⟨woken, free, first⟩ := World.InLine.woken (A := recording) (fun _ known => known)
      (rely.loop.kinds t _ kind₁) (fun back => back.elim) waits resumes
    exact ⟨woken, ⟨resumes.1, rely⟩, free, first⟩
  · rintro r ρ₃ s₃ ⟨⟨v, rfl⟩, since, free, others, waiting⟩
    have mine : ρ₃.place k = some t := (since.rely.place k later).trans (if_pos rfl)
    have kind₃ := since.rely.loop.kinds t _ kind₁
    have line := since.holds.line
    rw [waiting, List.filterMap_cons, mine] at line
    have old : t ∈ ρ₃.came := by rw [line]; simp
    have left : s₃.desk.waiters.erase k = others := by rw [waiting, List.erase_cons_head]
    let leave (l : Lock) : Lock := { l with waiters := l.waiters.erase k }
    refine Wp.change ρ₃ (acts_line kind₃ reports (f := leave) (fun held => held) (reports_of_mem old).symm rfl rfl
      fun j queued u ne other => (List.mem_erase_of_ne ?_).mpr queued) ?_
    · rintro rfl
      exact ne (Option.some.inj (other.symm.trans mine))
    let ρ₅ : Register := { ρ₃ with entries := ρ₃.entries ++ [⟨t, .reported c⟩] }
    refine Wp.update ρ₅ (acts_take (s := turnDesk leave s₃) kind₃ reports free (reports_of_mem old).symm rfl rfl)
      ⟨rfl, ⟨?_, since.holds.nodup, fun j hj => since.holds.issued j (List.mem_of_mem_erase hj), since.holds.fresh,
        known_append (s := s₃) kind₃ reports since.holds⟩, kind₃, since.rely.scope, _, rfl, since.holds.documents⟩
    show ρ₃.came = (ρ₃.entries ++ [_]).filterMap Entry.reporter? ++ (s₃.desk.waiters.erase k).filterMap ρ₃.place
    rw [left, List.filterMap_append, line, List.append_assoc]
    rfl

omit kind reports

/-- A report was recorded, with what was recorded before it, and the documents were edited. -/
structure Filed (t : Nat) (c : SupervisorCall) (a : Register × World) (r : Except Fault Bool) (ρ : Register)
    (s : World) : Prop where
  holds : ρ.Holds s
  kind : s.loop.kind? t = some (.call (.supervisor c))
  scope : s.supervisor.scope = a.2.supervisor.scope
  place : ∃ before after, ρ.entries = before ++ ⟨t, .reported c⟩ :: after ∧
    ∀ b, r = .ok b → b = c.served (documentsAfter (before.map Entry.change))

/-- Others go on after a report was recorded. -/
theorem Filed.since {a : Register × World} {r r' : Except Fault Bool} (h : Filed t c a r ρ s)
    (h' : Since t (ρ, s) ρ' s') (same : ∀ b, r' = .ok b → r = .ok b) : Filed t c a r' ρ' s' where
  holds := h'.holds
  kind := h'.rely.loop.kinds t _ h.kind
  scope := h'.rely.scope.trans h.scope
  place := by
    obtain ⟨before, after, entries, told⟩ := h.place
    obtain ⟨more, grown⟩ := h'.rely.entries
    exact ⟨before, after ++ more, by rw [grown, entries, List.append_assoc, List.cons_append],
      fun b e => told b (same b e)⟩

namespace Entered

variable {a : Register × World}

/-- The documents as the record has them after the report. -/
theorem filed (h : Entered t c a ρ s) {ds : List TrackedDocument} {b : Bool}
    (edited : ds = c.edited s.supervisor.documents) (served : b = c.served s.supervisor.documents) :
    Filed t c a (.ok b) ρ (s.withDocuments ds) := by
  obtain ⟨before, entries, documents⟩ := h.last
  refine ⟨⟨⟨h.line, h.nodup, h.issued, h.fresh, h.known⟩, ?_⟩, h.kind, h.scope, before, [], entries, fun _ e => ?_⟩
  · rw [entries, List.map_append, documentsAfter_append, ← documents]
    exact edited
  · cases e
    rw [← documents]
    exact served

/-- No two documents have one uri. -/
theorem distinct (h : Entered t c a ρ s) : (s.supervisor.documents.map TrackedDocument.uri).Nodup := by
  obtain ⟨before, -, documents⟩ := h.last
  rw [documents]
  exact distinct_documentsAfter _

/-- A report that changes nothing. -/
theorem idle (h : Entered t c a ρ s) (same : c.edited s.supervisor.documents = s.supervisor.documents) {b : Bool}
    (served : b = c.served s.supervisor.documents) : Filed t c a (.ok b) ρ s := by
  have filed := h.filed same.symm served
  exact filed

/-- Documents are edited as reported, and the session is told. -/
theorem wp_tells (h : Entered t c a ρ s) (reports : c.reports = true) {f : List TrackedDocument → List TrackedDocument}
    (tell : Nat → Act Unit) (tells : ∀ i, Across World.Unedited (tell i))
    (edited : f s.supervisor.documents = c.edited s.supervisor.documents)
    (served : true = c.served s.supervisor.documents) :
    recording.discipline.wp t (do
        Supervisor.modify fun v => { v with documents := f v.documents }
        Supervisor.forward tell
        pure true)
      (Filed t c a) ρ s := by
  have filed := h.filed edited served
  refine Wp.change ρ (acts_of (.refl _) rfl ?_ (reports_of_desk (d := ⟨t, _, s⟩) rfl).symm (fun _ _ => rfl)
    fun _ queued _ _ _ => queued) ?_
  · rw [entry?_of_reports h.kind reports, if_neg]
    · exact (List.append_nil _).symm
    · show ¬ (!s.desk.held && s.desk.held) = true
      simp
  · refine Wp.seq (wp_unedited (World.Unedited.permissive.repertoire.connects.forward tells) filed.holds)
      (fun _ ρ' s' since => filed.since since fun _ e => e) fun _ _ _ since => filed.since since fun _ e => by cases e

end Entered

variable {a : Register × World}

/-- Whoever made a report has come for it. -/
theorem Filed.came {r : Except Fault Bool} (h : Filed t c a r ρ s) : t ∈ ρ.came := by
  obtain ⟨before, after, entries, -⟩ := h.place
  rw [h.holds.line, entries]
  exact List.mem_append_left _ (List.mem_filterMap.mpr ⟨_, List.mem_append_right _ List.mem_cons_self, rfl⟩)

/-- Such a report is replied to by what was recorded before it. -/
theorem Filed.answered {r : Except Fault Bool} (h : Filed t c a r ρ s)
    (inside : c.belongs a.2.supervisor.scope = .ok true) : ρ.Replied t c (r.map .truth) s.supervisor.scope := by
  obtain ⟨before, after, entries, told⟩ := h.place
  refine .recorded (h.scope ▸ inside) before after entries fun x e => ?_
  cases r with
  | error => cases e
  | ok b =>
    cases e
    rw [told b rfl]

/-- A report under the lock of the documents. -/
theorem wp_report {body : Act Bool} (kind : s.loop.kind? t = some (.call (.supervisor c))) (reports : c.reports = true)
    (h : ρ.Holds s) (new : t ∉ ρ.came)
    (run : ∀ ρ' s', Entered t c (ρ, s) ρ' s' → recording.discipline.wp t body (Filed t c (ρ, s)) ρ' s') :
    recording.discipline.wp t (Act.locked Supervisor.documentPlace body) (Filed t c (ρ, s)) ρ s := by
  refine Wp.seq (wp_acquire_report kind reports h new) (fun _ ρ₁ s₁ entered => ?_) fun _ _ _ h => by cases h.1
  refine Wp.ensure (run ρ₁ s₁ entered.2) fun r ρ₂ s₂ filed => ?_
  -- The lock is given back, and who waits is woken.
  let free (l : Lock) : Lock := { l with held := false }
  have steady : Steady ρ₂ s₂ free := .of_held filed.holds false
  have freed : Since t (ρ₂, s₂) ρ₂ (turnDesk free s₂) := ⟨steady.holds filed.holds, steady.rely⟩
  refine Wp.change ρ₂ (acts_line (f := free) filed.kind reports (fun held => by cases held)
    (reports_of_mem filed.came).symm rfl rfl fun _ queued _ _ _ => queued)
    (Wp.mono (wp_wake freed) fun r' ρ₃ s₃ since => ?_)
  cases r' with
  | ok => exact filed.since since fun _ e => e
  | error => exact filed.since since fun _ e => by cases e

/-- A call that reports. -/
theorem wp_run (kind : s.loop.kind? t = some (.call (.supervisor c))) (reports : c.reports = true) (h : ρ.Holds s)
    (new : t ∉ ρ.came) : recording.discipline.wp t (Supervisor.run c)
      (fun r ρ' s' => ρ'.Holds s' ∧ ρ'.Replied t c r s'.supervisor.scope) ρ s := by
  have S := World.Unedited.permissive.repertoire.connects
  have filed (inside : c.belongs s.supervisor.scope = .ok true) {p : Act Bool}
      (run : recording.discipline.wp t p (Filed t c (ρ, s)) ρ s) :
      recording.discipline.wp t (do pure (.truth (← p)))
        (fun r ρ' s' => ρ'.Holds s' ∧ ρ'.Replied t c r s'.supervisor.scope) ρ s :=
    Wp.seq run (fun _ _ _ h => ⟨h.holds, h.answered inside⟩) fun _ _ _ h => ⟨h.holds, h.answered inside⟩
  cases c with
  | openDocument uri languageId text =>
    have outside {r : Except Fault Bool} (decided : s.supervisor.handles uri languageId = r) (other : r ≠ .ok true) :
        ρ.Replied t (.openDocument uri languageId text) (r.map .truth) s.supervisor.scope :=
      .refused (fun e => other (decided.symm.trans e)) new (congrArg (Except.map Reply.truth) decided.symm)
    refine Wp.bind (Wp.bind (Wp.look (Wp.ofExcept ?_)))
    rcases decided : s.supervisor.handles uri languageId with f | _ | _
    · exact ⟨h, outside decided fun e => by cases e⟩
    · exact ⟨h, outside decided fun e => by cases e⟩
    · refine Wp.mono (wp_report kind reports h new fun ρ₁ s₁ entered => Wp.look ?_) fun r _ _ h => ?_
      · rw [Supervisor.isSome_document?]
        split
        · next there => exact Wp.done (entered.idle (if_pos there) rfl)
        · next other =>
          exact entered.wp_tells reports (f := fun ds => ds ++ [⟨uri, languageId, 1, text⟩])
            (fun i => Supervisor.tellOpen i ⟨uri, languageId, 1, text⟩) (fun i => S.didOpen ..) (if_neg other).symm rfl
      · have inside : (SupervisorCall.openDocument uri languageId text).belongs s.supervisor.scope = .ok true := decided
        cases r <;> exact ⟨h.holds, h.answered inside⟩
  | changeDocument uri text =>
    refine filed rfl (wp_report kind reports h new fun ρ₁ s₁ entered => Wp.look ?_)
    have there := s₁.supervisor.isSome_document? uri
    split
    · next none =>
      rw [none] at there
      exact Wp.done (entered.idle (SupervisorCall.edited_of_not_served reports there.symm) there)
    · next d found =>
      rw [found] at there
      exact entered.wp_tells reports (f := Supervisor.replace (Supervisor.TrackedDocument.edit d text))
        (fun i => Session.didChange i (.str uri) (.int (Supervisor.TrackedDocument.edit d text).version) text)
        (fun i => S.notify _ (by decide)) (replace_eq_map entered.distinct found text) there
  | closeDocument uri =>
    refine filed rfl (wp_report kind reports h new fun ρ₁ s₁ entered => Wp.look ?_)
    have there := s₁.supervisor.isSome_document? uri
    split
    · next none =>
      rw [none] at there
      exact Wp.done (entered.idle (SupervisorCall.edited_of_not_served reports there.symm) there)
    · next d found =>
      rw [found] at there
      exact entered.wp_tells reports (f := fun ds => ds.filter fun d => d.uri ≠ uri)
        (fun i => Session.didClose i (.str uri)) (fun i => S.didClose (.update fun _ => .of_eq (.refl _) rfl)) rfl there
  | operate | hover | tokens | request => cases reports

end Reports

/-- What others do after a report was replied to does not matter. -/
theorem Replied.rely {a b : Register × World} {scope : DocumentScope} (h : a.1.Replied t c r scope)
    (rely : Rely t a b) : b.1.Replied t c r scope := by
  cases h with
  | cancelled same => exact .cancelled same
  | refused outside new told => exact .refused outside (fun came => new (rely.mine came)) told
  | recorded inside before after entries told =>
    obtain ⟨more, grown⟩ := rely.entries
    exact .recorded inside before (after ++ more) (by rw [grown, entries, List.append_assoc, List.cons_append]) told

end Register

/-- The account of reports is kept. -/
theorem recording_lawful : recording.Lawful where
  refl := Register.Rely.refl
  trans _ _ _ _ := Register.Rely.trans
  acts _ _ _ _ acts := acts.spares
  grows _ _ _ rely := rely.loop
  begins _ _ _ new rely came := new (rely.mine came)
  told t κ r a b told rely c same reports := by
    rw [rely.scope]
    exact (told c same reports).rely rely
  ends _ _ _ _ _ ends := ends
  waits _ _ _ _ _ _ := trivial
  backstage ρ a b holds stage := by
    have unedited : a.Unedited b := .of_eq stage.loop (by rw [stage.rest])
    exact ⟨holds.unedited unedited, Register.rely_unedited unedited⟩
  stops t k ρ s s' holds _ stop := by
    subst stop
    have unedited : s.Unedited { s with loop := (s.loop.watch k (.task t)).setWaiting t (some k) } :=
      .of_eq ((Loop.grows_watch ..).trans (Loop.grows_setWaiting ..)) rfl
    exact ⟨holds.unedited unedited, Register.rely_unedited unedited⟩
  known _ _ known picks := known.picks rfl picks
  interrupted _ _ _ _ _ _ _ _ _ _ _ := .cancelled rfl
  turn t κ ρ s supervised kind holds _ new := by
    by_cases reports : ∃ c, κ = .call (.supervisor c) ∧ c.reports = true
    · obtain ⟨c, rfl, reports⟩ := reports
      have run : recording.discipline.wp t (Client.runCall (.supervisor c))
          (fun r ρ' s' => ρ'.Holds s' ∧ ρ'.Replied t c r s'.supervisor.scope) ρ s :=
        Register.wp_run kind reports holds new
      have ends {r : Except Fault Reply} {ρ' : Register} {s' : World} (h : ρ'.Replied t c r s'.supervisor.scope) :
          recording.Ends t (.call (.supervisor c)) r ρ' s' := by
        intro c' same _
        cases same
        exact h
      exact Wp.seq run (fun _ _ _ h => ⟨h.1, ends h.2⟩) fun _ _ _ h => ⟨h.1, ends h.2⟩
    · have quiet (c : SupervisorCall) (same : κ = .call (.supervisor c)) : c.reports = false :=
        Bool.eq_false_iff.mpr fun speaks => reports ⟨c, same, speaks⟩
      have run : recording.discipline.wp t (Client.turn κ) (fun _ => Register.Since t (ρ, s)) ρ s := by
        by_cases operates : ∃ o, κ = .call (.supervisor (.operate o))
        · obtain ⟨o, rfl⟩ := operates
          have operate : recording.discipline.wp t (Supervisor.run (.operate o)) (fun _ => Register.Since t (ρ, s))
              ρ s := Wp.seq (Register.wp_operate kind holds) (fun _ _ _ h => h) fun _ _ _ h => h
          exact Wp.seq operate (fun _ _ _ h => h) fun _ _ _ h => h
        · exact Register.wp_unedited (World.Unedited.turn supervised quiet fun o same => operates ⟨o, same⟩) holds
      refine Wp.mono (Wp.returns (Course.returns_turn supervised.sessional) run) ?_
      rintro r ρ' s' ⟨since, returns⟩
      refine ⟨since.holds, ?_⟩
      have none {r : Except Fault Reply} : recording.Ends t κ r ρ' s' := fun c same speaks => by
        cases (quiet c same).symm.trans speaks
      cases r with
      | error f => exact none
      | ok turn =>
        cases turn with
        | onward κ' => exact ⟨returns _ rfl κ' rfl, fun came => new (since.rely.mine came)⟩
        | finished x => exact none

variable {σ σ' : Setting} {m m' : Machine} {ds ds' : List Deed} {u : Nat} {c : SupervisorCall}

theorem Sound.orderlyDesk {γ : Ghost} (h : Sound σ γ m) : recording.Regular m where
  known := h.inLine .documents fun _ suits back => by
    obtain ⟨c, rfl, -⟩ := suits
    exact back.elim
  serves := h.inv.tasks.supervised
  woken _ _ _ _ _ _ _ := trivial

/-- All deeds of a job, one after the other. -/
theorem recording_path {a b : Register × World} (path : recording.Path ds a b) :
    b.1.entries = a.1.entries ++ entries ds ∧ b.1.came = ds.foldl Deed.reports a.1.came := by
  induction path with
  | still => exact ⟨(List.append_nil _).symm, rfl⟩
  | later _ _ ih => exact ih
  | @deed t f γ γ' s c ds acts _ ih =>
    refine ⟨?_, by rw [ih.2, acts.came, List.foldl_cons]⟩
    rw [ih.1, acts.entries, List.append_assoc]
    congr 1
    simp only [entries, List.filterMap_cons]
    cases Deed.entry? ⟨t, f, s⟩ <;> rfl

/-- The account of the reports of a run. -/
theorem Setting.Runs.register (run : σ.Runs ds m) :
    ∃ ρ, recording.Sound ρ m ∧ ρ.entries = entries ds ∧ ρ.came = reporters ds := by
  have blank (w : World) (documents : w.supervisor.documents = []) (desk : w.desk = .free) :
      Register.blank.Holds w := by
    refine ⟨⟨?_, List.nodup_nil, fun k hk => ?_, fun _ _ => rfl, fun _ _ he => by cases he⟩, documents⟩
    · rw [desk]
      rfl
    · rw [desk] at hk
      cases hk
  refine run.account (T := fun ds ρ => ρ.entries = entries ds ∧ ρ.came = reporters ds) Register.blank recording_lawful
    (fun _ _ sound => sound.orderlyDesk) (fun _ _ _ _ _ _ _ _ _ => blank _ rfl rfl) (fun _ _ h => by cases h) ⟨rfl, rfl⟩
    (fun path traced => ?_) rfl
  obtain ⟨grown, came⟩ := recording_path path
  refine ⟨by rw [grown, traced.1, entries, entries, entries, List.filterMap_append], ?_⟩
  rw [came, traced.2, reporters, reporters, List.foldl_append]

/-! ## Results -/

/-- The fault of a write whose turn comes when the process was given up. -/
def Fault.lost : Fault := Transport.missing "stdin"

/-- How a report is replied to in a run. -/
inductive Recording (ds : List Deed) (u : Nat) (c : SupervisorCall) (scope : DocumentScope) (r : Except Fault Reply) :
    Prop
  /-- It is out of scope, or the scope cannot decide, and nothing is recorded. -/
  | refused (outside : c.belongs scope ≠ .ok true) (absent : u ∉ reporters ds) (told : r = (c.belongs scope).map .truth)
  /-- It is recorded, and replied to by what was recorded before, unless the process goes away under it. -/
  | recorded (inside : c.belongs scope = .ok true) (n : Nat) (place : (entries ds)[n]? = some ⟨u, .reported c⟩)
    (told : r = .ok (.truth (c.served (documentsAfter ((changes ds).take n)))) ∨ r = .error .lost)

/-- What a supervisor has of the documents is what was recorded. -/
structure Recorded (ds : List Deed) (m : Machine) : Prop where
  documents : m.world.supervisor.documents = documentsAfter (changes ds)
  /-- Calls are recorded once, in the order in which they came, and others wait. -/
  line : ∃ waiting, reporters ds = (entries ds).filterMap Entry.reporter? ++ waiting
  once : (reporters ds).Nodup
  reported : ∀ u c, ⟨u, .reported c⟩ ∈ entries ds →
    m.world.loop.kind? u = some (.call (.supervisor c)) ∧ c.reports = true
  replies : ∀ u c r, m.world.loop.kind? u = some (.call (.supervisor c)) → c.reports = true → m.reply? u = some r →
    Recording ds u c m.world.supervisor.scope r

/-- A report that is in scope fails only if the process goes away under it. -/
theorem SupervisorCall.lost_of_mayFail {scope : DocumentScope} {f : Fault} (fails : c.MayFail f)
    (reports : c.reports = true) (inside : c.belongs scope = .ok true) : f = .lost := by
  cases c with
  | openDocument uri languageId text =>
    refine fails.resolve_right ?_
    rintro ⟨other, undecided⟩
    have inside : DocumentScope.contains scope uri languageId = .ok true := inside
    obtain ⟨unread, -⟩ := DocumentScope.malformed_of_contains undecided
    cases scope with
    | nil => cases inside
    | cons g scope =>
      cases (DocumentScope.contains_of_malformed unread (List.cons_ne_nil g scope) languageId).symm.trans inside
  | changeDocument | closeDocument => exact fails
  | operate | hover | tokens | request => cases reports

/-- Nobody cancels a report. -/
theorem SupervisorCall.not_mayFail_cancelled (reports : c.reports = true) : ¬ c.MayFail .cancelled := by
  intro fails
  cases c with
  | openDocument uri languageId text =>
    obtain lost | ⟨scope, undecided⟩ := fails
    · cases lost
    · cases (DocumentScope.malformed_of_contains undecided).2
  | changeDocument | closeDocument => cases fails
  | operate | hover | tokens | request => cases reports

/-- In every run, what the host has reported of its documents is recorded. -/
theorem Setting.Runs.recorded (run : σ.Runs ds m) : Recorded ds m := by
  obtain ⟨ρ, account, grown, came⟩ := run.register
  obtain ⟨γ, sound⟩ := run.reaches.sound
  have line := account.holds.line
  rw [came, grown] at line
  refine ⟨?_, ⟨_, line⟩, came ▸ account.holds.nodup, fun u c he => account.holds.known u c (grown ▸ he), ?_⟩
  · rw [changes, ← grown]
    exact account.holds.documents
  intro u c r kind reports told
  obtain ⟨κ, kind', replied⟩ := (account.stands u).ended r told
  obtain rfl := Option.some.inj (kind'.symm.trans kind)
  have fails (f : Fault) (e : r = .error f) : c.MayFail f := by
    obtain ⟨-, κ, kind', ends⟩ := (sound.stands u).ended r told
    exact (ends c (Option.some.inj (kind'.symm.trans kind))).fails f e
  cases replied c rfl reports with
  | cancelled same => exact absurd (fails _ same) (SupervisorCall.not_mayFail_cancelled reports)
  | refused outside new told => exact .refused outside (came ▸ new) told
  | recorded inside before after place told =>
    rw [grown] at place
    refine .recorded inside before.length (by simp [place]) ?_
    have first : (changes ds).take before.length = before.map Entry.change := by simp [changes, place]
    cases r with
    | ok x => exact .inl (first ▸ congrArg Except.ok (told x rfl))
    | error f => exact .inr (congrArg Except.error (SupervisorCall.lost_of_mayFail (fails f rfl) reports inside))

/-- A report is recorded in one place only. -/
theorem Recorded.unique (h : Recorded ds m) {u n n' : Nat} {c c' : SupervisorCall}
    (place : (entries ds)[n]? = some ⟨u, .reported c⟩) (place' : (entries ds)[n']? = some ⟨u, .reported c'⟩) :
    n = n' := by
  obtain ⟨waiting, line⟩ := h.line
  have once : ((entries ds).filterMap Entry.reporter?).Nodup := (List.nodup_append.mp (line ▸ h.once)).1
  have apart := List.pairwise_iff_getElem.mp (List.pairwise_filterMap.mp once)
  obtain ⟨bound, same⟩ := List.getElem?_eq_some_iff.mp place
  obtain ⟨bound', same'⟩ := List.getElem?_eq_some_iff.mp place'
  have never {i j : Nat} {c c' : SupervisorCall} (hi : i < (entries ds).length) (hj : j < (entries ds).length)
      (lt : i < j) (same : (entries ds)[i] = ⟨u, .reported c⟩) (same' : (entries ds)[j] = ⟨u, .reported c'⟩) : False :=
    apart i j hi hj lt u (by rw [same]; rfl) u (by rw [same']; rfl) rfl
  rcases Nat.lt_trichotomy n n' with lt | e | gt
  · exact (never bound bound' lt same same').elim
  · exact e
  · exact (never bound' bound gt same' same).elim

/-- A report that was recorded is replied to by what was recorded before. -/
theorem Recorded.told (h : Recorded ds m) {u n : Nat} {c : SupervisorCall} {r : Except Fault Reply}
    (place : (entries ds)[n]? = some ⟨u, .reported c⟩) (told : m.reply? u = some r) :
    r = .ok (.truth (c.served (documentsAfter ((changes ds).take n)))) ∨ r = .error .lost := by
  obtain ⟨kind, reports⟩ := h.reported u c (List.mem_of_getElem? place)
  cases h.replies u c r kind reports told with
  | refused outside absent =>
    obtain ⟨waiting, line⟩ := h.line
    refine absurd ?_ absent
    rw [line]
    exact List.mem_append_left _ (List.mem_filterMap.mpr ⟨_, List.mem_of_getElem? place, rfl⟩)
  | recorded inside n' place' told =>
    obtain rfl := h.unique place place'
    exact told

/-- A report out of scope is replied to by the scope. -/
theorem Recorded.refusal (h : Recorded ds m) {u : Nat} {c : SupervisorCall} {r : Except Fault Reply}
    (outside : c.belongs m.world.supervisor.scope ≠ .ok true)
    (kind : m.world.loop.kind? u = some (.call (.supervisor c))) (reports : c.reports = true)
    (told : m.reply? u = some r) : r = (c.belongs m.world.supervisor.scope).map .truth := by
  cases h.replies u c r kind reports told with
  | refused _ _ told => exact told
  | recorded inside => exact absurd inside outside

/-- What two runs have in common that report the same. -/
structure Agree (ds : List Deed) (m : Machine) (ds' : List Deed) (m' : Machine) : Prop where
  documents : m'.world.supervisor.documents = m.world.supervisor.documents
  /-- Reports at the same place are replied to alike, unless the process goes away under one of them. -/
  recorded : ∀ (n u u' : Nat) (c : SupervisorCall) (r r' : Except Fault Reply),
    (entries ds)[n]? = some ⟨u, .reported c⟩ → (entries ds')[n]? = some ⟨u', .reported c⟩ →
      m.reply? u = some r → m'.reply? u' = some r' → r' = r ∨ r = .error .lost ∨ r' = .error .lost
  /-- So are reports out of scope. -/
  refused : ∀ u u' c r r', m.world.loop.kind? u = some (.call (.supervisor c)) →
    m'.world.loop.kind? u' = some (.call (.supervisor c)) → c.reports = true →
    c.belongs m.world.supervisor.scope ≠ .ok true → m.reply? u = some r → m'.reply? u' = some r' → r' = r

theorem Setting.Runs.runUntil (run : σ.Runs ds m) (ticket deadline fuel : Nat) :
    σ.Runs (ds ++ m.deedsUntil ticket deadline fuel) (m.runUntil Client.turn ticket deadline fuel) :=
  Machine.along_runUntil (fun _ _ _ run step => run.step step) run ticket deadline fuel

/-- A text for the document of the sample. -/
def SupervisorCall.sampleText : SupervisorCall := .changeDocument "file:///a.toml" (.str "y")

/-- A client that is asked for something and then told of a document and of a change of it. -/
def Machine.reporting (first : Machine) : Machine :=
  (((first.start (.call (.supervisor .sample))).2.start (.call (.supervisor .sampleText))).2)

theorem Setting.Runs.reporting (run : σ.Runs ds m) : σ.Runs ds m.reporting :=
  (run.host (.call (.supervisor .sample) ⟨"x", rfl⟩)).host (.call (.supervisor .sampleText) ⟨"y", rfl⟩)

end LspHost

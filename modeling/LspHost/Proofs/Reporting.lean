import LspHost.Proofs.Protocol.Scope
import LspHost.Proofs.Queueing
import LspHost.Proofs.Readers

/-!
# What the host reports of its documents

A call by which the host opens, changes or closes a document comes to the lock of the documents, unless the document
is out of scope, and is recorded when it takes the lock (`Deed.entry?`). A shutdown that is over forgets all documents.
`entries` are the reports that were recorded in a run and the shutdowns that forgot them, in this order, and `changes`
what they say, whoever said it. `documentsAfter` is what changes make of no documents, and `reporters` are the calls in
the order in which they came.

The account of them (`recording`) goes with a register of what was recorded, of who has come and of whose ticket is in
line for the lock. Whatever leaves the documents and their lock alone (`World.Unedited`) keeps it: all that sessions and
their processes do.
-/

namespace LspHost

open Act Discipline Program

/-! ## Reports -/

/-- Calls by which the host reports of a document. -/
def SupervisorCall.reports : SupervisorCall → Bool
  | .openDocument .. | .changeDocument .. | .closeDocument _ => true
  | _ => false

/-- Whether a report is in scope. Only a document that is opened need be. -/
def SupervisorCall.belongs (scope : DocumentScope) : SupervisorCall → Except Fault Bool
  | .openDocument uri languageId _ => scope.contains uri languageId
  | _ => .ok true

/-- The documents after a report. -/
def SupervisorCall.edited (ds : List TrackedDocument) : SupervisorCall → List TrackedDocument
  | .openDocument uri languageId text => if ds.any fun d => d.uri = uri then ds else ds ++ [⟨uri, languageId, 1, text⟩]
  | .changeDocument uri text =>
    ds.map fun d => if d.uri = uri then { d with version := d.version + 1, text := text } else d
  | .closeDocument uri => ds.filter fun d => d.uri ≠ uri
  | _ => ds

/-- What the host is told of a report. -/
def SupervisorCall.served (ds : List TrackedDocument) : SupervisorCall → Bool
  | .openDocument .. => true
  | .changeDocument uri _ | .closeDocument uri => ds.any fun d => d.uri = uri
  | _ => false

/-- What becomes of the documents of a supervisor. -/
inductive Change where
  | reported (c : SupervisorCall)
  | forgotten
  deriving DecidableEq

/-- The documents after a change. -/
def Change.apply (ds : List TrackedDocument) : Change → List TrackedDocument
  | .reported c => c.edited ds
  | .forgotten => []

/-- The documents after some changes, of none at first. -/
def documentsAfter (cs : List Change) : List TrackedDocument := cs.foldl Change.apply []

/-- A change, and the task that made it. -/
structure Entry where
  task : Nat
  change : Change
  deriving DecidableEq

/-- Who made a report. -/
def Entry.reporter? (e : Entry) : Option Nat :=
  match e.change with
  | .reported _ => some e.task
  | .forgotten => none

/-- The lock of the documents. -/
def World.desk (s : World) : Lock := s.supervisor.documentLock

/-- What a task asks of the supervisor. -/
def World.asked? (s : World) (t : Nat) : Option SupervisorCall :=
  match s.loop.kind? t with
  | some (.call (.supervisor c)) => some c
  | _ => none

/-- What a call changes by a deed: it reports when it takes the lock of the documents, and a shutdown forgets them. -/
def SupervisorCall.change? (before after : World) : SupervisorCall → Option Change
  | .operate .shutdown => if after.supervisor.documents = before.supervisor.documents then none else some .forgotten
  | c => if c.reports && !before.desk.held && after.desk.held then some (.reported c) else none

/-- What is recorded in a deed. -/
def Deed.entry? (d : Deed) : Option Entry :=
  (d.before.asked? d.task).bind fun c => (c.change? d.before d.after).map (Entry.mk d.task)

/-- What is recorded in a run, and by whom. -/
def entries (ds : List Deed) : List Entry := ds.filterMap Deed.entry?

/-- What becomes of the documents in a run. -/
def changes (ds : List Deed) : List Change := (entries ds).map Entry.change

/-- Who has come to report after a deed: a call that changes the lock for the first time comes last. -/
def Deed.reports (came : List Nat) (d : Deed) : List Nat :=
  if (d.before.asked? d.task).any (·.reports) ∧ d.after.desk ≠ d.before.desk ∧ d.task ∉ came then came ++ [d.task]
  else came

/-- The calls that have come to report, in the order in which they came. -/
def reporters (ds : List Deed) : List Nat := ds.foldl Deed.reports []

section Documents

variable {ds : List TrackedDocument} {c : SupervisorCall} {uri : String}

theorem documentsAfter_append (cs cs' : List Change) :
    documentsAfter (cs ++ cs') = cs'.foldl Change.apply (documentsAfter cs) := List.foldl_append

/-- No two documents have one uri after a report. -/
theorem SupervisorCall.distinct_edited (distinct : (ds.map TrackedDocument.uri).Nodup) (c : SupervisorCall) :
    ((c.edited ds).map TrackedDocument.uri).Nodup := by
  cases c with
  | openDocument uri languageId text =>
    simp only [edited]
    split
    · exact distinct
    · next new =>
      rw [List.map_append, List.nodup_append]
      refine ⟨distinct, by simp, fun u hu v hv e => new ?_⟩
      obtain ⟨d, hd, rfl⟩ := List.mem_map.mp hu
      obtain rfl : v = uri := by simpa using hv
      exact List.any_eq_true.mpr ⟨d, hd, by simpa using e⟩
  | changeDocument uri text =>
    simp only [edited, List.map_map]
    rw [List.map_congr_left (g := TrackedDocument.uri) fun d _ => ?_]
    · exact distinct
    · dsimp only [Function.comp]
      split <;> rfl
  | closeDocument uri => exact distinct.sublist (List.filter_sublist.map _)
  | operate | hover | tokens | request => exact distinct

/-- No two documents have one uri. -/
theorem distinct_documentsAfter (cs : List Change) : ((documentsAfter cs).map TrackedDocument.uri).Nodup := by
  induction cs using List.reverseRecOn with
  | nil => exact List.nodup_nil
  | append_singleton cs change ih =>
    rw [documentsAfter_append, List.foldl_cons, List.foldl_nil]
    cases change with
    | reported c => exact c.distinct_edited ih
    | forgotten => exact List.nodup_nil

theorem Supervisor.isSome_document? (v : Supervisor) (uri : String) :
    (v.document? uri).isSome = v.documents.any fun d => d.uri = uri := List.isSome_find?

/-- A document that is put in the place of the one with its uri. -/
theorem replace_eq_map {d : TrackedDocument} (distinct : (ds.map TrackedDocument.uri).Nodup)
    (found : ds.find? (fun d => d.uri = uri) = some d) (text : Json) :
    Supervisor.replace (Supervisor.TrackedDocument.edit d text) ds =
      (SupervisorCall.changeDocument uri text).edited ds := by
  have here : d.uri = uri := by simpa using List.find?_some found
  refine List.map_congr_left fun e he => ?_
  by_cases same : e.uri = uri
  · -- The uri tells which document it is.
    obtain rfl : e = d := List.inj_on_of_nodup_map distinct he (List.mem_of_find?_eq_some found) (same.trans here.symm)
    rw [if_pos same]
    exact if_pos rfl
  · rw [if_neg same]
    exact if_neg fun e => same (e.trans here)

/-- A document that is not open is neither changed nor closed. -/
theorem SupervisorCall.edited_of_not_served (reports : c.reports = true) (h : c.served ds = false) :
    c.edited ds = ds := by
  cases c with
  | openDocument => cases h
  | changeDocument uri text =>
    have other : ∀ d ∈ ds, d.uri ≠ uri := by simpa [served] using h
    refine (List.map_congr_left fun d hd => ?_).trans (List.map_id ds)
    rw [if_neg (other d hd), id]
  | closeDocument uri =>
    have other : ∀ d ∈ ds, d.uri ≠ uri := by simpa [served] using h
    exact List.filter_eq_self.mpr fun d hd => by simpa using other d hd
  | operate | hover | tokens | request => cases reports

end Documents

/-! ## The account of reports -/

/-- What was recorded, who has come to report, and who reports with a ticket. -/
structure Register where
  entries : List Entry
  came : List Nat
  place : Nat → Option Nat

/-- Nothing that is recorded of the documents is different. -/
structure World.Unedited (a b : World) : Prop where
  documents : b.supervisor.documents = a.supervisor.documents
  desk : b.desk = a.desk
  scope : b.supervisor.scope = a.supervisor.scope
  loop : a.loop.Grows b.loop

namespace World.Unedited

variable {a b c : World}

theorem refl (a : World) : a.Unedited a := ⟨rfl, rfl, rfl, .refl _⟩

theorem trans (h : a.Unedited b) (h' : b.Unedited c) : a.Unedited c :=
  ⟨h'.documents.trans h.documents, h'.desk.trans h.desk, h'.scope.trans h.scope, h.loop.trans h'.loop⟩

theorem of_eq (loop : a.loop.Grows b.loop) (supervisor : b.supervisor = a.supervisor) : a.Unedited b :=
  ⟨by rw [supervisor], congrArg Supervisor.documentLock supervisor, by rw [supervisor], loop⟩

theorem publish (e : Event) (s : World) : s.Unedited (s.publish e) := by
  obtain ⟨l, waiting, grows, step⟩ := World.publish_eq e s
  rw [step]
  exact of_eq grows rfl

/-- Nothing that a session does, or its process, is about the documents. -/
theorem permissive : Permissive World.Unedited where
  refl := .refl
  trans := .trans
  onLoop grows := of_eq grows rfl
  setServer _ _ _ := of_eq (.refl _) rfl
  acts _ orderly := of_eq orderly.grows rfl
  born _ _ _ := of_eq (.refl _) rfl
  attempts _ _ := of_eq (.refl _) rfl
  setTransport _ _ _ := of_eq (.refl _) rfl
  setSession _ _ _ _ _ _ := of_eq (.refl _) rfl
  record _ _ _ := of_eq (.refl _) rfl

theorem telling : World.Telling World.Unedited where
  refl := refl
  trans := trans
  record _ _ := of_eq (.refl _) rfl
  publish := publish
  keep _ _ _ := of_eq (.refl _) rfl

/-- Calls that report and lifecycle operations apart, no task edits documents. -/
theorem turn {κ : TaskKind} (supervised : κ.Supervised) (silent : ∀ c, κ = .call (.supervisor c) → c.reports = false)
    (other : ∀ o, κ ≠ .call (.supervisor (.operate o))) : Across World.Unedited (Client.turn κ) := by
  have K := permissive.repertoire
  have S := K.connects
  cases κ with
  | reader i =>
    exact K.readerTurn (fun _ _ _ => of_eq (.refl _) rfl) (fun _ _ => of_eq (.refl _) rfl)
      (fun _ => telling.handleDiagnostics) fun _ _ => telling.tellLog
  | drain => exact K.drainTurn
  | exitWatch => exact K.exitWatchTurn
  | trace | showEvents | terminal => exact supervised.elim
  | call c =>
    refine K.bind ?_ fun _ => K.done _
    cases c with
    | supervisor c =>
      cases c with
      | operate o => exact absurd rfl (other o)
      | openDocument | changeDocument | closeDocument => cases silent _ rfl
      | hover => exact K.bind (S.askHover _ _ _) fun _ => K.done _
      | tokens => exact K.bind (S.askTokens _ _) fun _ => K.done _
      | request => exact supervised.elim
    | sleep => exact K.bind K.sleep fun _ => K.done _
    | act => exact K.bind (K.update (K.withServer _ (Living.orderly_perform _ _ _))) fun _ => K.done _
    | transport | session | host => exact supervised.elim

end World.Unedited

namespace Register

/-- Nothing was recorded, and nobody has come. -/
def blank : Register := ⟨[], [], fun _ => none⟩

/-- Who has come has been recorded or waits. -/
structure Lined (ρ : Register) (s : World) : Prop where
  line : ρ.came = ρ.entries.filterMap Entry.reporter? ++ s.desk.waiters.filterMap ρ.place
  nodup : ρ.came.Nodup
  issued : ∀ k ∈ s.desk.waiters, k < s.loop.tickets.length
  fresh : ∀ k, s.loop.tickets.length ≤ k → ρ.place k = none
  known : ∀ u c, ⟨u, .reported c⟩ ∈ ρ.entries → s.loop.kind? u = some (.call (.supervisor c)) ∧ c.reports = true

/-- The documents are those of the record. -/
structure Holds (ρ : Register) (s : World) : Prop extends Lined ρ s where
  documents : s.supervisor.documents = documentsAfter (ρ.entries.map Entry.change)

/-- What a task counts on while it waits: what was recorded stays so, and nobody comes in its name or takes its
place. -/
structure Rely (t : Nat) (a b : Register × World) : Prop where
  loop : a.2.loop.Grows b.2.loop
  scope : b.2.supervisor.scope = a.2.supervisor.scope
  entries : ∃ more, b.1.entries = a.1.entries ++ more
  came : ∀ u ∈ a.1.came, u ∈ b.1.came
  mine : t ∈ b.1.came → t ∈ a.1.came
  place : ∀ k < a.2.loop.tickets.length, b.1.place k = a.1.place k
  waits : ∀ k < a.2.loop.tickets.length, k ∈ a.2.desk.waiters → a.1.place k = some t → k ∈ b.2.desk.waiters

/-- What a deed makes of the account. -/
structure Acts (t : Nat) (f : World → World) (a : Register × World) (ρ : Register) : Prop where
  spares : ∀ u, u ≠ t → Rely u a (ρ, f a.2)
  entries : ρ.entries = a.1.entries ++ (Deed.entry? ⟨t, f, a.2⟩).toList
  came : ρ.came = Deed.reports a.1.came ⟨t, f, a.2⟩

/-- How a report is replied to, and where it was recorded. -/
inductive Replied (t : Nat) (c : SupervisorCall) (r : Except Fault Reply) (ρ : Register) (scope : DocumentScope) : Prop
  | cancelled (same : r = .error .cancelled)
  | refused (outside : c.belongs scope ≠ .ok true) (new : t ∉ ρ.came) (told : r = (c.belongs scope).map .truth)
  | recorded (inside : c.belongs scope = .ok true) (before after : List Entry)
    (entries : ρ.entries = before ++ ⟨t, .reported c⟩ :: after)
    (told : ∀ x, r = .ok x → x = .truth (c.served (documentsAfter (before.map Entry.change))))

end Register

/-- The account of what the host reports of its documents. -/
def recording : Account Register where
  Holds := Register.Holds
  Rely := Register.Rely
  Acts := Register.Acts
  Known := World.InLine Supervisor.documentPlace
  Serves := TaskKind.Supervised
  Waits _ _ _ _ := True
  Begins t ρ _ := t ∉ ρ.came
  Ends t κ r ρ s := ∀ c, κ = .call (.supervisor c) → c.reports = true → ρ.Replied t c r s.supervisor.scope
  Told t κ r ρ s := ∀ c, κ = .call (.supervisor c) → c.reports = true → ρ.Replied t c r s.supervisor.scope

namespace Register

variable {α : Type} {t u : Nat} {ρ ρ' : Register} {s s' : World} {c : SupervisorCall}

theorem Rely.refl (t : Nat) (a : Register × World) : Rely t a a :=
  ⟨.refl _, rfl, ⟨[], (List.append_nil _).symm⟩, fun _ h => h, fun h => h, fun _ _ => rfl, fun _ _ hk _ => hk⟩

theorem Rely.trans {a b c : Register × World} (h : Rely t a b) (h' : Rely t b c) : Rely t a c where
  loop := h.loop.trans h'.loop
  scope := h'.scope.trans h.scope
  entries := by
    obtain ⟨more, same⟩ := h.entries
    obtain ⟨more', same'⟩ := h'.entries
    exact ⟨more ++ more', by rw [same', same, List.append_assoc]⟩
  came u hu := h'.came u (h.came u hu)
  mine hu := h.mine (h'.mine hu)
  place k hk := (h'.place k (Nat.lt_of_lt_of_le hk h.loop.issued)).trans (h.place k hk)
  waits k hk queued mine := h'.waits k (Nat.lt_of_lt_of_le hk h.loop.issued) (h.waits k hk queued mine)
    ((h.place k hk).trans mine)

/-! ### What is recorded in a deed -/

section Deeds

variable {f : World → World} {came : List Nat}

theorem asked_of_kind (kind : s.loop.kind? t = some (.call (.supervisor c))) : s.asked? t = some c := by
  unfold World.asked?
  rw [kind]

/-- A report is recorded when it takes the lock. -/
theorem entry?_of_reports (kind : s.loop.kind? t = some (.call (.supervisor c))) (reports : c.reports = true) :
    Deed.entry? ⟨t, f, s⟩ = if !s.desk.held && (f s).desk.held then some ⟨t, .reported c⟩ else none := by
  have change : c.change? s (f s) = if !s.desk.held && (f s).desk.held then some (.reported c) else none := by
    cases c with
    | openDocument | changeDocument | closeDocument => rfl
    | operate | hover | tokens | request => cases reports
  rw [Deed.entry?, asked_of_kind kind, Option.bind_some]
  show (c.change? s (f s)).map (Entry.mk t) = _
  rw [change]
  split <;> rfl

/-- Who neither edits documents nor takes their lock records nothing. -/
theorem entry?_of_kept (documents : (f s).supervisor.documents = s.supervisor.documents)
    (kept : ∀ c, s.asked? t = some c → c.reports = true → (f s).desk.held = true → s.desk.held = true) :
    Deed.entry? ⟨t, f, s⟩ = none := by
  rcases asked : s.asked? t with _ | c
  · rw [Deed.entry?, asked, Option.bind_none]
  · have change : c.change? s (f s) = none := by
      unfold SupervisorCall.change?
      split
      · rw [if_pos documents]
      · refine if_neg fun h => ?_
        simp only [Bool.and_eq_true, Bool.not_eq_true'] at h
        rw [kept _ asked h.1.1 h.2] at h
        cases h.1.2
    rw [Deed.entry?, asked, Option.bind_some]
    exact congrArg (Option.map _) change

theorem mem_reports {d : Deed} (h : u ∈ came) : u ∈ d.reports came := by
  unfold Deed.reports
  split
  · exact List.mem_append_left _ h
  · exact h

theorem of_mem_reports {d : Deed} (other : u ≠ d.task) (h : u ∈ d.reports came) : u ∈ came := by
  unfold Deed.reports at h
  split at h
  · exact (List.mem_append.mp h).resolve_right fun mine => other (List.mem_singleton.mp mine)
  · exact h

/-- Nobody comes by a deed that leaves the lock alone. -/
theorem reports_of_desk {d : Deed} (desk : d.after.desk = d.before.desk) : d.reports came = came :=
  if_neg fun h => h.2.1 desk

/-- A deed, by what it makes of the record and of the lock. -/
theorem acts_of (loop : s.loop.Grows (f s).loop) (scope : (f s).supervisor.scope = s.supervisor.scope)
    (entries : ρ'.entries = ρ.entries ++ (Deed.entry? ⟨t, f, s⟩).toList)
    (came : ρ'.came = Deed.reports ρ.came ⟨t, f, s⟩)
    (place : ∀ k < s.loop.tickets.length, ρ'.place k = ρ.place k)
    (waits : ∀ k ∈ s.desk.waiters, ∀ u, u ≠ t → ρ.place k = some u → k ∈ (f s).desk.waiters) :
    recording.Acts t f (ρ, s) ρ' where
  spares u ne :=
    { loop, scope, place
      entries := ⟨_, entries⟩
      came := fun v hv => by
        show v ∈ ρ'.came
        rw [came]
        exact mem_reports hv
      mine := fun hu => of_mem_reports (d := ⟨t, f, s⟩) ne (came ▸ hu)
      waits := fun k _ queued mine => waits k queued u ne mine }
  entries := entries
  came := came

end Deeds

/-! ### What leaves the documents alone -/

theorem Holds.unedited (h : ρ.Holds s) (unedited : s.Unedited s') : ρ.Holds s' where
  line := by rw [unedited.desk]; exact h.line
  nodup := h.nodup
  issued k hk := Nat.lt_of_lt_of_le (h.issued k (unedited.desk ▸ hk)) unedited.loop.issued
  fresh k hk := h.fresh k (Nat.le_trans unedited.loop.issued hk)
  known u c he := ⟨unedited.loop.kinds u _ (h.known u c he).1, (h.known u c he).2⟩
  documents := unedited.documents.trans h.documents

theorem rely_unedited (unedited : s.Unedited s') (u : Nat) : Rely u (ρ, s) (ρ, s') where
  loop := unedited.loop
  scope := unedited.scope
  entries := ⟨[], (List.append_nil _).symm⟩
  came _ h := h
  mine h := h
  place _ _ := rfl
  waits k _ queued _ := by rw [unedited.desk]; exact queued

theorem acts_unedited {f : World → World} (unedited : s.Unedited (f s)) : recording.Acts t f (ρ, s) ρ where
  spares u _ := rely_unedited unedited u
  entries := by
    rw [entry?_of_kept unedited.documents fun _ _ _ held => by rwa [unedited.desk] at held]
    exact (List.append_nil _).symm
  came := (reports_of_desk (d := ⟨t, f, s⟩) unedited.desk).symm

/-- What a task knows of the record since some time before. -/
structure Since (t : Nat) (a : Register × World) (ρ : Register) (s : World) : Prop where
  holds : ρ.Holds s
  rely : Rely t a (ρ, s)

namespace Since

variable {a : Register × World}

theorem start (h : ρ.Holds s) : Since t (ρ, s) ρ s := ⟨h, .refl t _⟩

theorem trans (h : Since t a ρ s) (h' : Since t (ρ, s) ρ' s') : Since t a ρ' s' := ⟨h'.holds, h.rely.trans h'.rely⟩

theorem unedited (h : Since t a ρ s) (unedited : s.Unedited s') : Since t a ρ s' :=
  ⟨h.holds.unedited unedited, h.rely.trans (rely_unedited unedited t)⟩

end Since

theorem care (t : Nat) (a : Register × World) : recording.Care World.Unedited t (Since t a) where
  step _ ρ _ unedited h := ⟨ρ, acts_unedited unedited, h.unedited unedited⟩
  waits _ _ h := ⟨h.holds, fun _ => trivial⟩
  again _ _ _ _ h rely holds _ := ⟨holds, h.rely.trans rely⟩

/-- A program that leaves the documents alone. -/
theorem wp_unedited {p : Act α} (only : Across World.Unedited p) (h : ρ.Holds s) :
    recording.discipline.wp t p (fun _ => Since t (ρ, s)) ρ s :=
  (care t (ρ, s)).wp only (.start h)

/-- Who waits for the lock of the documents is woken. -/
theorem wp_wake {a : Register × World} (h : Since t a ρ s) :
    recording.discipline.wp t (Act.wakeFirst Supervisor.documentPlace) (fun _ => Since t a) ρ s :=
  (care t a).wp (World.Unedited.permissive.repertoire.wakeFirst fun _ _ same => by rw [same]) h

end Register

end LspHost

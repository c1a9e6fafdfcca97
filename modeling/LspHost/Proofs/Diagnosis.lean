import LspHost.Proofs.Chronicle

/-!
# Diagnostics are reported

A session whose server publishes diagnostics keeps them, and tells the supervisor, which reports those of
the session that it holds: by an event and to its listener. `Deed.diagnoses` are the valid diagnostics that
were processed in a deed. An account of all of them (`diagnoses`) is kept in every run. Only readers add to it,
and they report in the same segment; all other changes leave it alone (`World.Unmoved`).

Result: `Setting.Runs.diagnostics_reported`. What is reported is exactly what was processed while its session
was held, in this order, and never anything of a session that another one has replaced.
-/

namespace LspHost

open Act Discipline Program

/-! ## Diagnostics that are processed and reported -/

/-- Diagnostics that a session was told of, and whether the supervisor held it then. -/
structure Diagnosis where
  session : Nat
  uri : String
  count : Nat
  held : Bool
  deriving DecidableEq

namespace Diagnosis

/-- The event that reports them. -/
def event (d : Diagnosis) : Event :=
  ⟨.diagnostics, .midnight, some (Session.nameOf d.session), .diagnostics d.uri d.count⟩

/-- What a listener hears of them. -/
def told (d : Diagnosis) : String × Nat := (d.uri, d.count)

end Diagnosis

namespace Record

/-- The diagnostics in a message to a session, if they are valid, when the supervisor holds some session. -/
def diagnosis? (held : Option Nat) : Record → Option Diagnosis
  | .heard i (.notification n) =>
    if n.method = "textDocument/publishDiagnostics" then
      (PublishedDiagnostics.ofMembers (Session.membersOf n.params)).toOption.map fun p =>
        ⟨i, p.uri, p.diagnostics.length, held = some i⟩
    else none
  | _ => none

/-- An event that reports diagnostics. -/
def report? : Record → Option Event
  | .published e => if e.type = .diagnostics then some e else none
  | _ => none

/-- What a listener hears. -/
def listened? : Record → Option (String × Nat)
  | .listened uri count => some (uri, count)
  | _ => none

/-- A record that is not about diagnostics. -/
structure Unrelated (r : Record) : Prop where
  diagnosis : ∀ held, r.diagnosis? held = none
  report : r.report? = none
  listened : r.listened? = none

end Record

/-- The events that report diagnostics, the first one in front. -/
def World.reports (s : World) : List Event := (s.journal.filterMap Record.report?).reverse

/-- What the listener has heard, the first in front. -/
def World.listened (s : World) : List (String × Nat) := (s.journal.filterMap Record.listened?).reverse

/-- What a deed adds to the journal, the first record in front. -/
def Deed.records (d : Deed) : List Record :=
  (d.after.journal.take (d.after.journal.length - d.before.journal.length)).reverse

/-- The valid diagnostics that are processed in a deed. -/
def Deed.diagnoses (d : Deed) : List Diagnosis :=
  d.records.filterMap (Record.diagnosis? d.before.supervisor.session)

theorem Deed.records_eq {d : Deed} (rs : List Record) (h : d.after.journal = rs ++ d.before.journal) :
    d.records = rs.reverse := by
  have length : d.after.journal.length - d.before.journal.length = rs.length := by
    rw [h, List.length_append, Nat.add_sub_cancel]
  rw [records, length, h, List.take_left]

/-- What has come of the diagnostics that were processed, in this order. -/
structure Reported (all : List Diagnosis) (s : World) : Prop where
  /-- Those of sessions that were held are reported once, in order. -/
  events : s.reports = (all.filter Diagnosis.held).map Diagnosis.event
  /-- A listener hears the same. -/
  listener : s.listened =
    if s.supervisor.hasListener then (all.filter Diagnosis.held).map Diagnosis.told else []
  /-- Nothing is reported of a session after something of a later one. -/
  forward : (all.filter Diagnosis.held).Pairwise fun d e => d.session ≤ e.session
  /-- What a session shows it was told. -/
  shown : ∀ (i : Nat) (x : Session), s.sessions[i]? = some x → ∀ e ∈ x.diagnostics,
    ∃ d ∈ all, d.session = i ∧ d.uri = e.1 ∧ d.count = e.2.length

/-! ## What is not about diagnostics -/

/-- Nothing is told of diagnostics. Unless a lifecycle operation is at work, the same session is held and none is
new. -/
structure World.Unmoved (strict : Prop) (a b : World) : Prop where
  loop : a.loop.Grows b.loop
  listener : b.supervisor.hasListener = a.supervisor.hasListener
  journal : ∃ rs, b.journal = rs ++ a.journal ∧ ∀ r ∈ rs, r.Unrelated
  length : a.sessions.length ≤ b.sessions.length
  sessions : ∀ (i : Nat) (x : Session), b.sessions[i]? = some x →
    (x.options.audience = .supervisor ∧ x.diagnostics = []) ∨
    ∃ y, a.sessions[i]? = some y ∧ x.options = y.options ∧ ∀ d ∈ x.diagnostics, d ∈ y.diagnostics
  same : strict → b.supervisor.session = a.supervisor.session ∧ b.sessions.length = a.sessions.length

namespace World.Unmoved

variable {strict : Prop} {a b c : World}

/-- Nothing is different but the event loop and what is not about sessions. -/
theorem of_eq (loop : a.loop.Grows b.loop) (listener : b.supervisor.hasListener = a.supervisor.hasListener)
    (journal : b.journal = a.journal) (sessions : b.sessions = a.sessions)
    (same : strict → b.supervisor.session = a.supervisor.session) : a.Unmoved strict b where
  loop := loop
  listener := listener
  journal := ⟨[], journal, fun _ h => by cases h⟩
  length := Nat.le_of_eq (congrArg List.length sessions).symm
  sessions i x found := .inr ⟨x, sessions ▸ found, rfl, fun _ hd => hd⟩
  same s := ⟨same s, congrArg List.length sessions⟩

theorem refl (a : World) : a.Unmoved strict a := of_eq (.refl _) rfl rfl rfl fun _ => rfl

theorem trans (h : a.Unmoved strict b) (h' : b.Unmoved strict c) : a.Unmoved strict c where
  loop := h.loop.trans h'.loop
  listener := h'.listener.trans h.listener
  journal := by
    obtain ⟨rs, step, quiet⟩ := h.journal
    obtain ⟨rs', step', quiet'⟩ := h'.journal
    refine ⟨rs' ++ rs, by rw [step', step, List.append_assoc], fun r hr => ?_⟩
    exact (List.mem_append.mp hr).elim (quiet' r) (quiet r)
  length := Nat.le_trans h.length h'.length
  sessions i x found := by
    rcases h'.sessions i x found with fresh | ⟨y, found', options, kept⟩
    · exact .inl fresh
    · rcases h.sessions i y found' with ⟨audience, none⟩ | ⟨z, found'', options', kept'⟩
      · refine .inl ⟨by rw [options]; exact audience, List.eq_nil_iff_forall_not_mem.mpr fun d hd => ?_⟩
        have := kept d hd
        rw [none] at this
        cases this
      · exact .inr ⟨z, found'', options.trans options', fun d hd => kept' d (kept d hd)⟩
  same s := ⟨(h'.same s).1.trans (h.same s).1, (h'.same s).2.trans (h.same s).2⟩

/-- A record that is not about diagnostics. -/
theorem record (s : World) {r : Record} (unrelated : r.Unrelated) : s.Unmoved strict (s.record r) where
  loop := .refl _
  listener := rfl
  journal := ⟨[r], rfl, fun _ h => List.mem_singleton.mp h ▸ unrelated⟩
  length := Nat.le_refl _
  sessions _ x found := .inr ⟨x, found, rfl, fun _ hd => hd⟩
  same _ := ⟨rfl, rfl⟩

/-- An event is published that does not report diagnostics. -/
theorem publish {e : Event} (other : e.type ≠ .diagnostics) (s : World) : s.Unmoved strict (s.publish e) := by
  obtain ⟨l, waiting, grows, step⟩ := World.publish_eq e s
  have recorded : s.Unmoved strict (s.record (.published e)) :=
    record s ⟨fun _ => rfl, by simp [Record.report?, other], rfl⟩
  rw [step]
  exact recorded.trans (of_eq grows rfl rfl rfl fun _ => rfl)

/-- What a session does with what it was told is to forget some of it. -/
theorem setSession (s : World) (id : Nat) {f : Session → Session} (options : ∀ x, (f x).options = x.options)
    (diagnostics : ∀ x, ∀ d ∈ (f x).diagnostics, d ∈ x.diagnostics) : s.Unmoved strict (s.setSession id f) where
  loop := .refl _
  listener := rfl
  journal := ⟨[], rfl, fun _ h => by cases h⟩
  length := by simp [World.setSession]
  sessions i x found := by
    simp only [World.setSession, List.getElem?_modify] at found
    obtain ⟨y, found', rfl⟩ := Option.map_eq_some_iff.mp found
    refine .inr ⟨y, found', ?_, fun d hd => ?_⟩
    · split <;> simp [options]
    · split at hd
      · exact diagnostics y d hd
      · exact hd
  same _ := ⟨rfl, by simp [World.setSession]⟩

/-- Nothing that a session does, or its process, is about diagnostics, but that it reads. -/
theorem permissive : Permissive (World.Unmoved strict) where
  refl := .refl
  trans := .trans
  onLoop grows := of_eq grows rfl rfl rfl fun _ => rfl
  setServer _ _ _ := of_eq (.refl _) rfl rfl rfl fun _ => rfl
  acts _ orderly := of_eq orderly.grows rfl rfl rfl fun _ => rfl
  born _ _ _ := of_eq (.refl _) rfl rfl rfl fun _ => rfl
  attempts _ _ := of_eq (.refl _) rfl rfl rfl fun _ => rfl
  setTransport _ _ _ := of_eq (.refl _) rfl rfl rfl fun _ => rfl
  setSession s id _ options _ same := setSession s id options fun x _ hd => same x ▸ hd
  record s r wire := record s (by cases r <;> first | exact ⟨fun _ => rfl, rfl, rfl⟩ | exact wire.elim)

theorem edits : Sweep.Edits fun _ p => Across (World.Unmoved strict) p :=
  permissive.edits (fun _ _ => of_eq (.refl _) rfl rfl rfl fun _ => rfl) fun _ _ => of_eq (.refl _) rfl rfl rfl fun _ => rfl

theorem forget {id : Nat} {uri : Json} : Across (World.Unmoved strict) (Session.modify id (Session.forgetDocument uri)) :=
  .update fun s => setSession s id (fun _ => rfl) fun _ _ hd => (List.mem_filter.mp hd).1

/-- A session is made that tells its supervisor of diagnostics. -/
theorem createSession (server : ServerConfig) {options : SessionOptions} (audience : options.audience = .supervisor)
    (s : World) : s.Unmoved False (Supervisor.createSession server options s).2 where
  loop := .refl _
  listener := rfl
  journal := ⟨[], rfl, fun _ h => by cases h⟩
  length := by simp [Supervisor.createSession]
  sessions i x found := by
    simp only [Supervisor.createSession, List.getElem?_append, List.getElem?_singleton] at found
    split at found
    · exact .inr ⟨x, found, rfl, fun _ hd => hd⟩
    · split at found
      · cases found
        exact .inl ⟨audience, rfl⟩
      · cases found
  same := False.elim

/-- Lifecycle operations make sessions and hold them, and say nothing of diagnostics. -/
theorem operate (o : Operation) : Across (World.Unmoved False) (Supervisor.operate o) := by
  refine permissive.operate edits (fun s => createSession _ rfl s) (fun s type session message lifecycle => ?_)
    (fun _ _ => of_eq (.refl _) rfl rfl rfl False.elim) (fun _ _ => of_eq (.refl _) rfl rfl rfl False.elim) o
  refine publish (fun e => ?_) s
  rw [show type = .diagnostics from e] at lifecycle
  exact absurd lifecycle (by decide)

end World.Unmoved

/-! ## The account of diagnostics -/

/-- The session that is held is the newest one. -/
def World.Newest (s : World) : Prop := ∀ i, s.supervisor.session = some i → i + 1 = s.sessions.length

theorem World.Newest.unmoved {s s' : World} (h : s.Newest) (unmoved : s.Unmoved True s') : s'.Newest := by
  obtain ⟨session, length⟩ := unmoved.same trivial
  intro i held
  rw [length]
  exact h i (session ▸ held)

/-- What holds of the diagnostics of a run. -/
structure Diagnosis.Holds (all : List Diagnosis) (s : World) : Prop extends Reported all s where
  audience : ∀ x ∈ s.sessions, x.options.audience = .supervisor
  made : ∀ d ∈ all, d.held = true → d.session < s.sessions.length

/-- The account of the diagnostics of a run. -/
def diagnoses : Account (List Diagnosis) where
  Holds := Diagnosis.Holds
  Rely _ a b := a.2.loop.Grows b.2.loop
  Acts t f a all := all = a.1 ++ Deed.diagnoses ⟨t, f, a.2⟩ ∧ a.2.loop.Grows (f a.2).loop
  Known := World.Newest
  Serves := TaskKind.Supervised
  Waits _ _ _ _ := True
  Begins _ _ _ := True
  Ends _ _ _ _ _ := True
  Told _ _ _ _ _ := True

namespace Diagnosis

variable {strict : Prop} {α : Type} {t i : Nat} {all : List Diagnosis} {s s' : World}

theorem reports_append {rs : List Record} (h : s'.journal = rs ++ s.journal) :
    s'.reports = s.reports ++ (rs.filterMap Record.report?).reverse := by
  simp only [World.reports, h, List.filterMap_append, List.reverse_append]

theorem listened_append {rs : List Record} (h : s'.journal = rs ++ s.journal) :
    s'.listened = s.listened ++ (rs.filterMap Record.listened?).reverse := by
  simp only [World.listened, h, List.filterMap_append, List.reverse_append]

/-- What is not about diagnostics keeps everything. -/
theorem Holds.unmoved (h : Holds all s) (unmoved : s.Unmoved strict s') : Holds all s' := by
  obtain ⟨rs, journal, unrelated⟩ := unmoved.journal
  have reports : rs.filterMap Record.report? = [] :=
    List.filterMap_eq_nil_iff.mpr fun r hr => (unrelated r hr).report
  have listened : rs.filterMap Record.listened? = [] :=
    List.filterMap_eq_nil_iff.mpr fun r hr => (unrelated r hr).listened
  exact
    { events := by rw [reports_append journal, reports, List.reverse_nil, List.append_nil, h.events]
      listener := by
        rw [listened_append journal, listened, List.reverse_nil, List.append_nil, h.listener, unmoved.listener]
      forward := h.forward
      shown := fun i x found e he => by
        rcases unmoved.sessions i x found with ⟨-, none⟩ | ⟨y, found', -, kept⟩
        · rw [none] at he
          cases he
        · exact h.shown i y found' e (kept e he)
      audience := fun x hx => by
        obtain ⟨i, found⟩ := List.getElem?_of_mem hx
        rcases unmoved.sessions i x found with ⟨audience, -⟩ | ⟨y, found', options, -⟩
        · exact audience
        · rw [options]
          exact h.audience y (List.mem_of_getElem? found')
      made := fun d hd held => Nat.lt_of_lt_of_le (h.made d hd held) unmoved.length }

/-- Nothing is processed by a change that tells of no message. -/
theorem acts_silent {f : World → World} (grows : s.loop.Grows (f s).loop)
    (journal : ∃ rs, (f s).journal = rs ++ s.journal ∧ ∀ r ∈ rs, ∀ held, r.diagnosis? held = none) :
    diagnoses.Acts t f (all, s) all := by
  obtain ⟨rs, step, silent⟩ := journal
  have nothing : Deed.diagnoses ⟨t, f, s⟩ = [] := by
    rw [Deed.diagnoses, Deed.records_eq (d := ⟨t, f, s⟩) _ step]
    exact List.filterMap_eq_nil_iff.mpr fun r hr => silent r (List.mem_reverse.mp hr) _
  exact ⟨by rw [nothing, List.append_nil], grows⟩

/-- Nothing is processed by a change that is not about diagnostics. -/
theorem acts_unmoved {f : World → World} (unmoved : s.Unmoved strict (f s)) :
    diagnoses.Acts t f (all, s) all := by
  obtain ⟨rs, journal, unrelated⟩ := unmoved.journal
  exact acts_silent unmoved.loop ⟨rs, journal, fun r hr => (unrelated r hr).diagnosis⟩

/-- A program that is not about diagnostics. -/
theorem wp_unmoved {p : Act α} (only : Across (World.Unmoved strict) p) (h : Holds all s) :
    diagnoses.discipline.wp t p (fun _ => Holds) all s :=
  Account.wp_only (fun _ all s across h => ⟨all, acts_unmoved (across s), h.unmoved (across s)⟩)
    (fun _ _ h => ⟨h, fun _ => trivial⟩) (fun _ _ _ _ _ _ holds _ => holds) only h

/-- A program of a task that is no lifecycle operation and is not about diagnostics. -/
theorem wp_aloof {p : Act α} (only : Across (World.Unmoved True) p) (h : Holds all s) (newest : s.Newest) :
    diagnoses.discipline.wp t p (fun _ all' s' => Holds all' s' ∧ s'.Newest) all s :=
  Account.wp_only (I := fun all s => Holds all s ∧ s.Newest)
    (fun _ all s across h =>
      ⟨all, acts_unmoved (across s), h.1.unmoved (across s), World.Newest.unmoved h.2 (across s)⟩)
    (fun _ _ h => ⟨h.1, fun _ => trivial⟩) (fun _ _ _ _ _ _ holds known => ⟨holds, known⟩) only ⟨h, newest⟩

/-! ## Reading -/

/-- What the supervisor does with diagnostics that it hears of. -/
structure Heard (d : Diagnosis) (s s' : World) : Prop where
  loop : s.loop.Grows s'.loop
  listener : s'.supervisor.hasListener = s.supervisor.hasListener
  sessions : s'.sessions = s.sessions
  reports : s'.reports = s.reports ++ if d.held then [d.event] else []
  listened : s'.listened = s.listened ++ if d.held && s.supervisor.hasListener then [d.told] else []
  journal : ∃ rs, s'.journal = rs ++ s.journal ∧ ∀ r ∈ rs, ∀ held, r.diagnosis? held = none

/-- Those of a session that is not held are not heard. -/
theorem Heard.idle {d : Diagnosis} (s : World) (other : d.held = false) : Heard d s s where
  loop := .refl _
  listener := rfl
  sessions := rfl
  reports := by simp [other]
  listened := by simp [other]
  journal := ⟨[], rfl, fun _ h => by cases h⟩

theorem heard (d : Diagnosis) (s : World) (held : d.held = decide (s.supervisor.session = some d.session)) :
    Heard d s (Supervisor.hearDiagnostics d.session d.uri d.count s) := by
  unfold Supervisor.hearDiagnostics
  split
  · next mine =>
    have held : d.held = true := by simpa [mine] using held
    obtain ⟨l, waiting, grows, step⟩ := World.publish_eq d.event s
    have published : (s.publish d.event).journal = [.published d.event] ++ s.journal := by rw [step]; rfl
    have silent : ∀ r ∈ [Record.published d.event], ∀ held, r.diagnosis? held = none :=
      fun r hr _ => List.mem_singleton.mp hr ▸ rfl
    show Heard d s (if (s.publish d.event).supervisor.hasListener then
      (s.publish d.event).record (.listened d.uri d.count) else s.publish d.event)
    have listener : (s.publish d.event).supervisor.hasListener = s.supervisor.hasListener := by rw [step]; rfl
    rw [listener]
    split
    · next listens =>
      have noted : ((s.publish d.event).record (.listened d.uri d.count)).journal =
          [.listened d.uri d.count, .published d.event] ++ s.journal := by
        rw [List.cons_append, ← published]; rfl
      exact
        { loop := by rw [step]; exact grows
          listener := listener
          sessions := by rw [step]; rfl
          reports := by rw [reports_append noted, held]; rfl
          listened := by rw [listened_append noted, held, listens]; rfl
          journal := ⟨_, noted, by simp [Record.diagnosis?]⟩ }
    · next deaf =>
      exact
        { loop := by rw [step]; exact grows
          listener := listener
          sessions := by rw [step]; rfl
          reports := by rw [reports_append published, held]; rfl
          listened := by rw [listened_append published, held]; simp [deaf, Record.listened?]
          journal := ⟨_, published, silent⟩ }
  · next other => exact .idle s (by simpa [other] using held)

/-- What a session keeps after it was told of diagnostics. -/
theorem mem_putDiagnostics {uri : String} {ds : List Diagnostic} {old : List (String × List Diagnostic)}
    {e : String × List Diagnostic} (h : e ∈ Session.putDiagnostics uri ds old) : e = (uri, ds) ∨ e ∈ old := by
  induction old with
  | nil => exact .inl (List.mem_singleton.mp h)
  | cons f rest ih =>
    unfold Session.putDiagnostics at h
    split at h
    · next same => exact same ▸ (List.mem_cons.mp h).imp_right (List.mem_cons_of_mem _)
    · rcases List.mem_cons.mp h with rfl | h
      · exact .inr List.mem_cons_self
      · exact (ih h).imp_right (List.mem_cons_of_mem _)

/-- Diagnostics were processed: the session keeps them, and the supervisor has heard of them. -/
theorem Holds.processed {n : Notification} {d : Diagnosis} {ds : List Diagnostic} {kept : World}
    (h : Holds all s) (newest : s.Newest) (held : d.held = decide (s.supervisor.session = some d.session))
    (count : d.count = ds.length)
    (step : kept = (s.record (.heard d.session (.notification n))).setSession d.session fun x =>
      { x with diagnostics := Session.putDiagnostics d.uri ds x.diagnostics })
    (heard : Heard d kept s') : Holds (all ++ [d]) s' := by
  have length : s'.sessions.length = s.sessions.length := by
    rw [heard.sessions, step]
    simp [World.setSession, World.record]
  have last (mine : d.held = true) : d.session + 1 = s.sessions.length := by
    rw [held, decide_eq_true_eq] at mine
    exact newest d.session mine
  have found {i : Nat} {x : Session} (there : s'.sessions[i]? = some x) : ∃ y, s.sessions[i]? = some y ∧
      x.options = y.options ∧
      ∀ e ∈ x.diagnostics, e ∈ y.diagnostics ∨ (d.session = i ∧ e = (d.uri, ds)) := by
    rw [heard.sessions, step] at there
    simp only [World.setSession, List.getElem?_modify] at there
    obtain ⟨y, there', rfl⟩ := Option.map_eq_some_iff.mp there
    refine ⟨y, there', ?_, fun e he => ?_⟩
    · split <;> rfl
    · split at he
      · next same => exact (mem_putDiagnostics he).symm.imp_right fun e => ⟨same, e⟩
      · exact .inl he
  have told : (all ++ [d]).filter Diagnosis.held = all.filter Diagnosis.held ++ if d.held then [d] else [] := by
    rw [List.filter_append, List.filter_singleton]
    cases d.held <;> rfl
  refine
    { events := ?_
      listener := ?_
      forward := ?_
      shown := fun i x there e he => ?_
      audience := fun x hx => ?_
      made := fun e he mine => ?_ }
  · rw [told, heard.reports, show kept.reports = s.reports by rw [step]; rfl, h.events, List.map_append]
    cases d.held <;> rfl
  · rw [told, heard.listened, heard.listener, show kept.listened = s.listened by rw [step]; rfl,
      show kept.supervisor = s.supervisor by rw [step]; rfl, h.listener, List.map_append]
    cases d.held <;> cases s.supervisor.hasListener <;> rfl
  · rw [told]
    refine List.pairwise_append.mpr ⟨h.forward, by split <;> simp, fun e he f hf => ?_⟩
    split at hf
    · next mine =>
      obtain rfl := List.mem_singleton.mp hf
      obtain ⟨he, held⟩ := List.mem_filter.mp he
      have made := h.made e he held
      have last := last mine
      omega
    · cases hf
  · obtain ⟨y, there', -, kept⟩ := found there
    rcases kept e he with old | ⟨mine, rfl⟩
    · obtain ⟨d', hd, rest⟩ := h.shown i y there' e old
      exact ⟨d', List.mem_append_left _ hd, rest⟩
    · exact ⟨d, List.mem_append_right _ List.mem_cons_self, mine, rfl, count⟩
  · obtain ⟨i, there⟩ := List.getElem?_of_mem hx
    obtain ⟨y, there', options, -⟩ := found there
    rw [options]
    exact h.audience y (List.mem_of_getElem? there')
  · rw [length]
    rcases List.mem_append.mp he with he | he
    · exact h.made e he mine
    · obtain rfl := List.mem_singleton.mp he
      have last := last mine
      omega

/-- Diagnostics are told to the audience of the session, if it is there. -/
theorem tellDiagnostics_eq (i : Nat) (p : PublishedDiagnostics) : ∃ f : World → World,
    Session.tellDiagnostics i p = .update f ∧ (∀ s, Session.audience? s i = none → f s = s) ∧
    ∀ s, Session.audience? s i = some .supervisor →
      f s = Supervisor.hearDiagnostics i p.uri p.diagnostics.length s :=
  ⟨_, rfl, fun s e => by simp only [e], fun s e => by simp only [e]⟩

/-- Valid diagnostics are processed. -/
theorem wp_processed {n : Notification} {p : PublishedDiagnostics} (h : Holds all s) (newest : s.Newest)
    (method : n.method = "textDocument/publishDiagnostics")
    (valid : PublishedDiagnostics.ofMembers (Session.membersOf n.params) = .ok p) :
    diagnoses.discipline.wp t (do
        .update (World.record (.heard i (.notification n)))
        Session.handle i (.notification n))
      (fun _ => Holds) all s := by
  let d : Diagnosis := ⟨i, p.uri, p.diagnostics.length, s.supervisor.session = some i⟩
  have processed : Deed.diagnoses ⟨t, World.record (.heard i (.notification n)), s⟩ = [d] := by
    rw [Deed.diagnoses, Deed.records_eq (d := ⟨t, _, s⟩) [.heard i (.notification n)] rfl]
    simp [Record.diagnosis?, method, valid, d, Except.toOption]
  refine Wp.change (all ++ [d]) ⟨by rw [processed], .refl _⟩ ?_
  have handled : Session.handle i (.notification n) = (do
      Session.modify i fun x =>
        { x with diagnostics := Session.putDiagnostics p.uri p.diagnostics x.diagnostics }
      Session.tellDiagnostics i p) := by
    simp only [Session.handle, Session.handleNotification, method, Session.handleDiagnostics, valid]
  rw [handled]
  refine Wp.change (all ++ [d]) (acts_silent (.refl _) ⟨[], rfl, fun _ h => by cases h⟩) ?_
  -- The supervisor hears of them, or there is no such session.
  let kept := (s.record (.heard i (.notification n))).setSession i fun x =>
    { x with diagnostics := Session.putDiagnostics p.uri p.diagnostics x.diagnostics }
  obtain ⟨f, tells, idle, hears⟩ := tellDiagnostics_eq i p
  have heard : Heard d kept (f kept) := by
    rcases there : s.sessions[i]? with _ | x
    · have nobody : Session.audience? kept i = none := by
        simp [Session.audience?, kept, World.setSession, World.record, there]
      rw [idle kept nobody]
      refine .idle kept (decide_eq_false fun held => ?_)
      have last := newest i held
      have missing := List.getElem?_eq_none_iff.mp there
      omega
    · have supervisor : Session.audience? kept i = some .supervisor := by
        simp [Session.audience?, kept, World.setSession, World.record, there,
          h.audience x (List.mem_of_getElem? there)]
      rw [hears kept supervisor]
      exact heard d kept rfl
  show diagnoses.discipline.wp t (Session.tellDiagnostics i p) _ _ _
  rw [tells]
  exact ⟨all ++ [d], acts_silent heard.loop heard.journal, h.processed newest rfl rfl rfl heard⟩

/-- A message was received, and is handled. -/
theorem wp_handled {m : Message} (h : Holds all s) (newest : s.Newest) :
    diagnoses.discipline.wp t (do
        .update (World.record (.heard i m))
        Session.handle i m)
      (fun _ => Holds) all s := by
  have other (unrelated : ∀ held, (Record.heard i m).diagnosis? held = none)
      (only : Across (World.Unmoved True) (Session.handle i m)) :
      diagnoses.discipline.wp t (do
          .update (World.record (.heard i m))
          Session.handle i m)
        (fun _ => Holds) all s :=
    wp_unmoved (.bind (.update fun s => .record s ⟨unrelated, rfl, rfl⟩) fun _ => only) h
  cases m with
  | response r =>
    exact other (fun _ => rfl) World.Unmoved.permissive.repertoire.handleResponse
  | request r =>
    exact other (fun _ => rfl) World.Unmoved.permissive.repertoire.handleRequest
  | notification n =>
    by_cases method : n.method = "textDocument/publishDiagnostics"
    · rcases valid : PublishedDiagnostics.ofMembers (Session.membersOf n.params) with f | p
      · refine other (fun _ => by simp [Record.diagnosis?, method, valid, Except.toOption]) ?_
        simp only [Session.handle, Session.handleNotification, method, Session.handleDiagnostics, valid]
        exact .done ()
      · exact wp_processed h newest method valid
    · refine other (fun _ => by simp [Record.diagnosis?, method]) ?_
      have log (params : Members) : Across (World.Unmoved True) (Session.handleLog i params) := by
        refine .bind (.ofExcept _) fun _ => .update fun s => ?_
        split
        · exact .record s ⟨fun _ => rfl, rfl, rfl⟩
        · exact .publish (by simp) s
        · exact .refl s
      show Across (World.Unmoved True) (Session.handleNotification i n)
      unfold Session.handleNotification
      split
      · next same => exact absurd same method
      · exact log _
      · exact log _
      · exact .done ()

/-- A turn of a reader. -/
theorem wp_reader (h : Holds all s) (newest : s.Newest) :
    diagnoses.discipline.wp t (Session.readerTurn i) (fun _ => Holds) all s := by
  have received : Across (World.Unmoved True) (do
      let x ← Session.get i
      Transport.receive x.transport : Act Message) :=
    .bind World.Unmoved.permissive.repertoire.connects.session fun x => World.Unmoved.permissive.repertoire.receive fun _ _ _ =>
      .of_eq (.refl _) rfl rfl rfl fun _ => rfl
  have next : diagnoses.discipline.wp t (Session.handleNext i) (fun _ => Holds) all s := by
    rw [show Session.handleNext i = (do
        let m ← (do
          let x ← Session.get i
          Transport.receive x.transport : Act Message)
        .update (World.record (.heard i m))
        Session.handle i m) from (bind_assoc ..).symm]
    exact Wp.seq (wp_aloof received h newest) (fun _ _ _ post => wp_handled post.1 post.2)
      fun _ _ _ post => post.1
  refine Wp.attempt_seq next fun r all' s' h' => ?_
  split
  · exact h'
  · split
    · exact h'
    · refine Wp.seq (wp_unmoved (@World.Unmoved.permissive True).repertoire.failPending h') (fun _ _ _ h => ?_) fun _ _ _ h => h
      split <;> exact h

end Diagnosis

/-- The account of diagnostics is kept. -/
theorem diagnoses_lawful : diagnoses.Lawful where
  refl _ _ := .refl _
  trans _ _ _ _ h h' := h.trans h'
  acts _ _ _ _ acts _ _ := acts.2
  grows _ _ _ rely := rely
  begins _ _ _ _ _ := trivial
  told _ _ _ _ _ _ _ := trivial
  ends _ _ _ _ _ _ := trivial
  waits _ _ _ _ _ _ := trivial
  backstage all a b holds stage := by
    have same := stage.rest
    exact ⟨holds.unmoved (World.Unmoved.of_eq stage.loop (by rw [same]) (by rw [same]) (by rw [same])
      fun _ : True => by rw [same]), fun _ => stage.loop⟩
  stops t k all s s' holds _ stop := by
    subst stop
    have grows : s.loop.Grows ((s.loop.watch k (.task t)).setWaiting t (some k)) :=
      (Loop.grows_watch ..).trans (Loop.grows_setWaiting ..)
    exact ⟨holds.unmoved (World.Unmoved.of_eq grows rfl rfl rfl fun _ : True => rfl), fun _ => grows⟩
  known _ _ known _ := known
  interrupted _ _ _ _ _ _ _ _ := trivial
  turn t κ all s supervised _ holds newest _ := by
    have run : diagnoses.discipline.wp t (Client.turn κ) (fun _ => Diagnosis.Holds) all s := by
      by_cases reads : ∃ i, κ = .reader i
      · obtain ⟨i, rfl⟩ := reads
        exact Diagnosis.wp_reader holds newest
      · exact Diagnosis.wp_unmoved (World.Unmoved.permissive.repertoire.turn supervised.sessional World.Unmoved.edits
          (fun i e => absurd ⟨i, e⟩ reads) (fun o _ => World.Unmoved.operate o)
          (fun _ _ => World.Unmoved.permissive.repertoire.connects.closeDocument World.Unmoved.edits fun _ => World.Unmoved.forget)
          fun _ _ _ => World.Unmoved.permissive.repertoire.connects.didClose World.Unmoved.forget) holds
    refine Wp.mono (Wp.returns (Course.returns_turn supervised.sessional) run) ?_
    rintro r all' s' ⟨holds', returns⟩
    refine ⟨holds', ?_⟩
    cases r with
    | error f => trivial
    | ok turn =>
      cases turn with
      | onward κ' => exact ⟨returns _ rfl κ' rfl, trivial⟩
      | finished x => trivial

variable {σ : Setting} {m : Machine} {ds : List Deed}

/-- What is known of a machine apart from the account of its diagnostics. -/
theorem Sound.newest {γ : Ghost} (h : Sound σ γ m) : diagnoses.Regular m where
  known i held := by
    have last := (h.inv.life.held i held).1
    simpa only [World.overview, List.length_map] using last
  serves := h.inv.tasks.supervised
  woken _ _ _ _ _ _ _ := trivial

/-- In every run exactly those diagnostics are reported, once and in the order in which they were processed,
whose session was held when they were processed. -/
theorem Setting.Runs.diagnostics_reported (run : σ.Runs ds m) :
    Reported (ds.flatMap Deed.diagnoses) m.world := by
  obtain ⟨_, sound, rfl⟩ := run.account (T := fun ds all => all = ds.flatMap Deed.diagnoses) [] diagnoses_lawful
    (fun _ _ sound => sound.newest) (fun _ _ _ _ _ _ hasListener _ _ =>
      { events := rfl
        listener := by cases hasListener <;> rfl
        forward := .nil
        shown := fun _ _ found => by cases found
        audience := fun _ h => by cases h
        made := fun _ h => by cases h }) (fun _ _ => trivial) rfl
    (fun path traced => by simpa [traced] using path.collects id Deed.diagnoses fun _ _ _ _ => And.left) rfl
  exact sound.holds.toReported

/-- A notification that nothing is wrong with a document. -/
def Json.clean (uri : String) : Json :=
  .obj [("method", .str "textDocument/publishDiagnostics"),
    ("params", .obj [("uri", .str uri), ("diagnostics", .arr [])])]

/-- A server that publishes diagnostics right behind its answer to the handshake, and again for every document. -/
def Script.watchful : Script :=
  { Script.obedient with
    on := ("initialize", [.respond [("result", .obj [("capabilities", .obj [])])], .send (.clean "file:///b.toml")]) ::
      ("textDocument/didOpen", [.send (.clean "file:///a.toml")]) :: Script.obedient.on }

/-- A client whose host listens, after a document was opened and a watchful server was started. -/
def Machine.listening : Machine :=
  ((Machine.ofWorld (.fresh [] ⟨"/", []⟩ [.watchful] (.fresh .sample .standard none true) (.fresh .standard 80)
    (.empty 0))).asks .sample 1).asks (.operate .start) 1

theorem Setting.reaches_listening : Setting.Reaches ⟨.sample, [.watchful], "/"⟩ Machine.listening :=
  ((Setting.Reaches.fresh [] ⟨"/", []⟩ rfl .standard none true _ _).asks (c := .sample) ⟨"x", rfl⟩ 1).asks
    (c := .operate .start) trivial 1

/-- The first diagnostics came before the session was held: they are kept but not reported, the second ones are
reported. -/
theorem diagnostics_reported_listening :
    Machine.listening.world.sessions.map (fun x => x.diagnostics.map Prod.fst) =
      [["file:///b.toml", "file:///a.toml"]] ∧
    Machine.listening.world.listened = [("file:///a.toml", 0)] ∧
    ∃ ds : List Deed, Reported (ds.flatMap Deed.diagnoses) Machine.listening.world := by
  refine ⟨by decide +kernel, by decide +kernel, ?_⟩
  obtain ⟨ds, run⟩ := Setting.reaches_listening.runs
  exact ⟨ds, Setting.Runs.diagnostics_reported run⟩

end LspHost

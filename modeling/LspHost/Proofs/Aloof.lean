import LspHost.Proofs.Changes

/-!
# What only lifecycle operations change

The session that a supervisor holds, the number of sessions, the lock of lifecycle operations and the
news of sessions' lives (`World.news`) are changed by lifecycle operations alone, and by them only in a
few places. A change is `Aloof` if it leaves all this as it is. So is every change that a session makes
(`Aloof.permissive`), and so are those of the tasks that serve it and of the calls that tell of documents
(`Aloof.turn`).
-/

namespace LspHost

open Act Program

/-! ## News -/

/-- An event of a session's life, without its time and what else it tells. -/
structure News where
  type : EventType
  session : Option String
  deriving DecidableEq, Repr

/-- The news in a record. -/
def Record.news? : Record → Option News
  | .published e => if e.type ∈ EventType.lifecycle then some ⟨e.type, e.sessionId⟩ else none
  | _ => none

/-- The events of sessions' lives that were published, the first one in front. -/
def World.news (s : World) : List News := (s.journal.filterMap Record.news?).reverse

theorem World.news_record (s : World) (r : Record) : (s.record r).news = s.news ++ r.news?.toList := by
  simp only [news, record, List.filterMap_cons]
  cases r.news? <;> simp

/-- Publishing an event notes it, fills queues and may wake who waits for events. -/
theorem World.publish_eq (e : Event) (s : World) :
    ∃ (l : Loop) (waiting : List (Nat × Nat)), s.loop.Grows l ∧
      s.publish e = { s.record (.published e) with
        broker := s.broker.publish e, loop := l, getters := waiting } := by
  have woken (queues : List Nat) (s : World) : ∃ (l : Loop) (waiting : List (Nat × Nat)),
      s.loop.Grows l ∧ queues.foldl (fun s queue => s.wakeGetter queue) s =
        { s with loop := l, getters := waiting } := by
    induction queues generalizing s with
    | nil => exact ⟨_, _, .refl _, rfl⟩
    | cons q rest ih =>
      simp only [List.foldl_cons, wakeGetter]
      split
      · next g _ =>
        obtain ⟨l, waiting, grows, step⟩ :=
          ih { s with loop := s.loop.settle g.2 (.ok .null), getters := s.getters.erase g }
        exact ⟨l, waiting, (Loop.grows_settle ..).trans grows, step⟩
      · exact ih s
  exact woken (s.broker.receivers e.type) { s.record (.published e) with broker := s.broker.publish e }

/-! ## Aloof changes -/

/-- The same session is held, there are as many sessions, and there is no news. -/
structure World.Abides (a b : World) : Prop where
  session : b.supervisor.session = a.supervisor.session
  reused : b.supervisor.reused = a.supervisor.reused
  sessions : b.sessions.length = a.sessions.length
  news : b.news = a.news

namespace World.Abides

variable {a b c : World}

theorem refl (a : World) : a.Abides a := ⟨rfl, rfl, rfl, rfl⟩

theorem trans (h : a.Abides b) (h' : b.Abides c) : a.Abides c :=
  ⟨h'.session.trans h.session, h'.reused.trans h.reused, h'.sessions.trans h.sessions,
    h'.news.trans h.news⟩

end World.Abides

/-- Nothing is different that only lifecycle operations change. -/
structure World.Apart (a b : World) : Prop extends World.Abides a b where
  lock : b.supervisor.lifecycleLock = a.supervisor.lifecycleLock
  loop : a.loop.Grows b.loop

namespace World.Apart

variable {a b c : World}

theorem refl (a : World) : a.Apart a := ⟨.refl a, rfl, .refl _⟩

theorem trans (h : a.Apart b) (h' : b.Apart c) : a.Apart c :=
  ⟨h.toAbides.trans h'.toAbides, h'.lock.trans h.lock, h.loop.trans h'.loop⟩

end World.Apart

/-- A change that leaves alone what only lifecycle operations change. -/
def Aloof (f : World → World) : Prop := ∀ s : World, s.Apart (f s)

namespace Aloof

/-! ### Changes -/

theorem setSession (id : Nat) (f : Session → Session) : Aloof (World.setSession id f) :=
  fun s => ⟨⟨rfl, rfl, by simp [World.setSession], rfl⟩, rfl, .refl _⟩

/-- A record that is no news. -/
theorem record {r : Record} (none : r.news? = none) : Aloof (World.record r) :=
  fun s => ⟨⟨rfl, rfl, rfl, by rw [World.news_record, none]; simp⟩, rfl, .refl _⟩

/-- An event is published that is no news. -/
theorem publish {e : Event} (other : e.type ∉ EventType.lifecycle) : Aloof (World.publish e) := by
  intro s
  obtain ⟨l, waiting, grows, step⟩ := World.publish_eq e s
  rw [step]
  have noted := record (r := .published e) (by simp [Record.news?, other]) s
  exact ⟨⟨rfl, rfl, rfl, noted.news⟩, rfl, grows⟩

/-- Nothing that a session does, or its process, is about lifecycle operations. -/
theorem permissive : Permissive World.Apart where
  refl := .refl
  trans := .trans
  onLoop grows := ⟨⟨rfl, rfl, rfl, rfl⟩, rfl, grows⟩
  setServer _ _ _ := ⟨⟨rfl, rfl, rfl, rfl⟩, rfl, .refl _⟩
  acts _ orderly := ⟨⟨rfl, rfl, rfl, rfl⟩, rfl, orderly.grows⟩
  born _ _ _ := ⟨⟨rfl, rfl, rfl, rfl⟩, rfl, .refl _⟩
  attempts _ _ := ⟨⟨rfl, rfl, rfl, rfl⟩, rfl, .refl _⟩
  setTransport _ _ _ := ⟨⟨rfl, rfl, rfl, rfl⟩, rfl, .refl _⟩
  setSession s id f _ _ _ := setSession id f s
  record s r wire := record (by cases r <;> first | rfl | exact wire.elim) s

theorem wakeFirst {place : LockPlace} : Only Aloof (Act.wakeFirst place) :=
  permissive.repertoire.wakeFirst fun _ _ same => by rw [same]

theorem acquireDocuments : Only Aloof (Act.acquire Supervisor.documentPlace) :=
  permissive.repertoire.acquire (fun _ _ same => by rw [same]) fun _ _ => ⟨⟨rfl, rfl, rfl, rfl⟩, rfl, .refl _⟩

theorem releaseDocuments : Only Aloof (Act.release Supervisor.documentPlace) :=
  permissive.repertoire.release (fun _ _ same => by rw [same]) fun _ _ => ⟨⟨rfl, rfl, rfl, rfl⟩, rfl, .refl _⟩

theorem modifySession (id : Nat) (f : Session → Session) : Only Aloof (Session.modify id f) :=
  .update (setSession id f)

theorem setDocuments (f : Supervisor → List TrackedDocument) :
    Aloof fun s => s.setSupervisor fun v => { v with documents := f v } :=
  fun _ => ⟨⟨rfl, rfl, rfl, rfl⟩, rfl, .refl _⟩

theorem edits : Sweep.Edits fun _ p => Only Aloof p :=
  permissive.edits (fun _ _ => ⟨⟨rfl, rfl, rfl, rfl⟩, rfl, .refl _⟩) fun _ _ => ⟨⟨rfl, rfl, rfl, rfl⟩, rfl, .refl _⟩

/-! ### Messages of a server -/

theorem tellDiagnostics {id : Nat} {p : PublishedDiagnostics} : Only Aloof (Session.tellDiagnostics id p) := by
  refine .update fun s => ?_
  split
  · exact record rfl s
  · unfold Supervisor.hearDiagnostics
    split
    · have told := publish (e := ⟨.diagnostics, .midnight, some (Session.nameOf id),
        .diagnostics p.uri p.diagnostics.length⟩) (by simp [EventType.lifecycle]) s
      dsimp only
      split
      · exact told.trans (record rfl _)
      · exact told
    · exact .refl s
  · exact .refl s

theorem tellLog {id : Nat} {level : Int} {text : String} : Only Aloof (Session.tellLog id level text) := by
  refine .update fun s => ?_
  split
  · exact record rfl s
  · exact publish (by simp [EventType.lifecycle]) s
  · exact .refl s

theorem handleDiagnostics {id : Nat} {params : Members} : Only Aloof (Session.handleDiagnostics id params) := by
  unfold Session.handleDiagnostics
  split
  · exact .done ()
  · exact .bind (modifySession id _) fun _ => tellDiagnostics

theorem readerTurn {id : Nat} : Only Aloof (Session.readerTurn id) :=
  permissive.repertoire.readerTurn (fun _ _ _ => ⟨⟨rfl, rfl, rfl, rfl⟩, rfl, .refl _⟩) (fun _ => record rfl)
    (fun _ => handleDiagnostics) fun _ _ => tellLog

/-! ### Turns -/

/-- A turn of a task that serves a session, or a call that is no lifecycle operation. -/
theorem turn {κ : TaskKind} (supervised : κ.Supervised) (other : ∀ o, κ ≠ .call (.supervisor (.operate o))) :
    Only Aloof (Client.turn κ) :=
  permissive.repertoire.turn supervised.sessional edits (fun _ _ => readerTurn) (fun o e => absurd e (other o))
    (fun _ _ => permissive.repertoire.connects.closeDocument edits fun _ => modifySession ..)
    fun _ _ _ => permissive.repertoire.connects.didClose (modifySession ..)

end Aloof

end LspHost

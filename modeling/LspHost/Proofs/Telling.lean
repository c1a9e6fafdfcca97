import LspHost.Proofs.Opening

/-!
# Telling of documents

Whoever holds the lock of the documents edits them and owes the session a note of what was edited
(`Owes`). When the lock is given back nothing is owed any more, or a write to the session has failed
(`Informs`, `wp_forward`). A session that is taken up is told of all documents (`wp_takeUp`).
-/

namespace LspHost

open Discipline

variable {σ : Setting} {t i : Nat} {c : SupervisorCall} {γ γ' : Ghost} {s s' : World}

/-! ## Notes that are owed -/

/-- Changes of documents are to be written next. -/
def Ghost.owe (γ : Ghost) (notes : List Note) : Ghost := { γ with untold := notes }

/-- A task in the foreground has to tell the session that is held of changes of documents. -/
structure Owes (σ : Setting) (t i : Nat) (notes : List Note) (γ : Ghost) (s : World) : Prop where
  poised : Poised σ t γ s
  mine : γ.holder .documents = some t
  untold : γ.untold = notes
  idle : γ.holder (.writing i) ≠ some t
  fore : Foreground t s
  session : s.overview.session = some i
  free : γ.holder .lifecycle ≠ some t ∨ s.overview.state? i = some .running

namespace Owes

variable {notes : List Note}

theorem past (h : Owes σ t i notes γ s) : s.overview.Past i := (h.poised.inv.life.held i h.session).2

theorem there (h : Owes σ t i notes γ s) : i < s.sessions.length := by
  have last := (h.poised.inv.life.held i h.session).1
  have seats : s.overview.seats.length = s.sessions.length := by simp [World.overview]
  rw [← seats, ← last]
  exact Nat.lt_succ_self i

/-- What is owed stays so while nothing changes that anybody sees. -/
theorem quiet (h : Owes σ t i notes γ s) (quiet : Quiet σ (some t) (γ, s) (γ, s'))
    (overview : s'.overview = s.overview) : Owes σ t i notes γ s' where
  poised := quiet.poised h.poised.ease
  mine := h.mine
  untold := h.untold
  idle := h.idle
  fore := h.fore.grow (quiet.rely t).loop
  session := by rw [overview]; exact h.session
  free := by rw [overview]; exact h.free

end Owes

/-- The session was told of a change, or a write to it has failed. -/
structure Informs (σ : Setting) (t i : Nat) (rest : List Note) (a b : Ghost × World)
    (r : Except Fault Unit) : Prop where
  poised : Poised σ t b.1 b.2
  minds : Minds t a b
  done : r = .ok () → b.1.untold = rest
  fails : ∀ f, r = .error f → SayEnds t a.1 f ∧ b.2.overview.Harmed i

/-- Telling the session of a change. -/
theorem wp_inform {method : String} {p : Option Members} {n : Note} {rest : List Note}
    (h : Owes σ t i (n :: rest) γ s) (said : Said.ofNotification method = .document)
    (note : Note.of? (Message.notification ⟨method, p.map .named⟩).wireMembers = some n) :
    (discipline σ).wp t (Session.notify i method (Params.json p))
      (fun r γ' s' => Informs σ t i rest (γ, s) (γ', s') r) γ s := by
  obtain ⟨κ, kind, fore⟩ := h.fore
  have may : MaySay t i .document γ s := .document h.poised.inv h.idle h.free h.past
  have speaks : Said.of? (Message.notification ⟨method, p.map .named⟩).wireMembers = some .document := by
    rw [Said.of?_notification, said]
  have send := may.send speaks fun x e => by
    obtain rfl := Option.some.inj (note.symm.trans e)
    exact ⟨h.mine, ⟨rest, h.untold⟩, h.session, h.past⟩
  refine Wp.mono (wp_notify h.poised kind fore h.there send) ?_
  rintro r γ' s' ⟨sends, ends⟩
  have sent : Says σ t i .document (γ, s) (γ', s') := .of_sends sends speaks
  have poised' := sent.poised fun e => by cases e
  have live := poised'.live ⟨κ, sent.loop.kinds t κ kind, fore⟩
  refine ⟨poised', sent.toMinds, fun e => ?_, fun f e => ⟨ends.say live (fun _ e => e) f e, ?_⟩⟩
  · subst e
    have left := ends.2 h.mine
    rw [Note.left, note, h.untold] at left
    exact left
  · subst e
    obtain ⟨-, doomed⟩ | ⟨-, harmed, -⟩ := ends
    · rw [live] at doomed; cases doomed
    · exact harmed (.inl h.past)

/-- When everything was told, or a write has failed, the lock of the documents may be given back. -/
theorem Informs.allTold {a b : Ghost × World} {r : Except Fault Unit} (h : Informs σ t i [] a b r)
    (mine : a.1.holder .documents = some t) (session : a.2.overview.session = some i)
    (past : a.2.overview.Past i) : AllTold b.1.untold b.2.overview := by
  intro n j p held server found unharmed
  rcases r with f | ⟨⟩
  · have kept := (h.minds.documents mine).session i session past
    obtain rfl : i = n := by
      rcases kept with e | ⟨e, -⟩
      · exact Option.some.inj (e.symm.trans held)
      · rw [held] at e; cases e
    exact absurd ((h.fails f rfl).2 j p server found) unharmed
  · exact h.done rfl

theorem wp_tellOpen {d : TrackedDocument} {rest : List Note} (h : Owes σ t i (.opened d :: rest) γ s)
    (legible : ∃ text, d.text = .str text) :
    (discipline σ).wp t (Supervisor.tellOpen i d)
      (fun r γ' s' => Informs σ t i rest (γ, s) (γ', s') r) γ s := by
  obtain ⟨text, legible⟩ := legible
  obtain ⟨uri, languageId, version, _⟩ := d
  subst legible
  exact wp_inform (p := some [("textDocument",
    .obj (TextDocumentItem.toMembers ⟨uri, languageId, version, text⟩))]) h rfl
    (Note.of?_opened uri languageId text version)

theorem wp_didChange {uri : String} {version : Nat} {text : Json} {rest : List Note}
    (h : Owes σ t i (.changed uri version text :: rest) γ s) :
    (discipline σ).wp t (Session.didChange i (.str uri) (.int version) text)
      (fun r γ' s' => Informs σ t i rest (γ, s) (γ', s') r) γ s :=
  wp_inform (p := some [("textDocument", .obj [("uri", .str uri), ("version", .int version)]),
    ("contentChanges", .arr [.obj [("text", text)]])]) h rfl (Note.of?_changed uri version text)

theorem wp_didClose {uri : String} {rest : List Note} (h : Owes σ t i (.closed uri :: rest) γ s) :
    (discipline σ).wp t (Session.didClose i (.str uri))
      (fun r γ' s' => Informs σ t i rest (γ, s) (γ', s') r) γ s := by
  have quiet := quiet_setSession h.poised.inv i
    (f := fun x => { x with diagnostics := x.diagnostics.filter fun d => Json.str d.1 ≠ .str uri })
    (fun _ => rfl) fun _ _ _ he => .inl he
  have owes := h.quiet quiet (World.overview_setSession_same s i (by exact fun _ => rfl))
  refine wp_change _ quiet.spares (Wp.mono (wp_inform (p := some [("textDocument",
    .obj [("uri", .str uri)])]) owes rfl (Note.of?_closed uri)) ?_)
  intro r γ' s' informs
  exact { informs with minds := (quiet.rely t).toMinds.trans informs.minds }

/-! ## Editing the documents -/

/-- A task in the foreground holds the lock of the documents and nothing else. -/
structure Edits (σ : Setting) (t : Nat) (γ : Ghost) (s : World) : Prop where
  poised : Poised σ t γ s
  mine : γ.holder .documents = some t
  alone : ∀ p, p ≠ .documents → γ.holder p ≠ some t
  untold : γ.untold = []
  fore : Foreground t s

/-- The lock of the documents may be given back, and no other lock was taken or given back. -/
structure Edited (σ : Setting) (t : Nat) (a b : Ghost × World) : Prop where
  poised : Poised σ t b.1 b.2
  holder : ∀ p, a.1.holder p = some t ↔ b.1.holder p = some t
  told : AllTold b.1.untold b.2.overview

def World.withDocuments (docs : List TrackedDocument) (s : World) : World :=
  s.setSupervisor fun v => { v with documents := docs }

section Editing

variable {n : Note} {docs : List TrackedDocument} (h : Edits σ t γ s)
  (edit : Note.edit? s.overview.documents n = some docs) (proper : n.Legible)
include h edit proper

theorem mirror_edit : Mirror (γ.owe [n]).toHands { s.overview with documents := docs } :=
  { h.poised.inv.mirror with
    distinct := Note.distinct_edit? edit h.poised.inv.mirror.distinct
    legible := Note.legible_edit? edit h.poised.inv.mirror.legible proper
    mirrored := fun i j p session server found unharmed => by
      have replay := h.poised.inv.mirror.mirrored i j p session server found unharmed
      rw [h.untold, List.append_nil] at replay
      show Note.replay (notesIn s.overview.mail p.pid ++ [n]) = some docs
      rw [Note.replay_append, replay]
      show [n].foldlM Note.edit? s.overview.documents = some docs
      simp [edit]
    done := fun free => by
      have mine : (γ.owe [n]).holder .documents = some t := h.mine
      rw [mine] at free
      cases free }

/-- Documents are edited, and the change is to be told. -/
theorem edited : Poised σ t (γ.owe [n]) (s.withDocuments docs) ∧
    (discipline σ).Spares t (γ, s) (γ.owe [n], s.withDocuments docs) := by
  have inv := h.poised.inv
  have aside : Aside (γ, s) (γ.owe [n], s.withDocuments docs) :=
    { loop := rfl, servers := rfl, getters := rfl, locks := fun p => by cases p <;> rfl
      role := rfl, doomed := rfl, phase := rfl, holder := rfl }
  have keeps : Keeps (γ, s) (γ.owe [n], s.withDocuments docs) :=
    aside.keeps (Nat.le_refl _) (Nat.le_refl _) (fun _ past => ⟨past, fun e => e, fun _ e => e⟩)
      fun _ e => e
  refine ⟨⟨aside.inv inv inv.tickets.pending ?_ ⟨inv.order.written, inv.order.planned⟩ (mirror_edit h edit proper) inv.closed,
    ⟨h.poised.ease.tongue, h.poised.ease.newborn, h.poised.ease.parting⟩⟩, fun u other => ?_⟩
  · exact { inv.life with atRest := fun free => ⟨(inv.life.atRest free).idle, (inv.life.atRest free).busy⟩ }
  · have notMine (held : γ.holder .documents = some u) : False := by
      rw [h.mine] at held
      exact other (Option.some.inj held).symm
    exact aside.rely keeps (fun _ => ⟨rfl, rfl, rfl, rfl, rfl⟩) (fun held => (notMine held).elim)
      (fun _ _ _ _ _ _ _ => rfl) (fun _ _ _ silent => silent) fun held => (notMine held).elim

end Editing

/-- What tells of documents fails at most because its turn to write comes when the process was given up. -/
def Unwritten {α : Type} (r : Except Fault α) : Prop := ∀ f, r = .error f → f = Transport.missing "stdin"

/-- Passing a change on to the session, if there is one. -/
theorem wp_forward {tell : Nat → Act Unit} (poised : Poised σ t γ s)
    (tells : ∀ i, s.overview.session = some i →
      (discipline σ).wp t (tell i) (fun r γ' s' => Edited σ t (γ, s) (γ', s') ∧ ∀ f, r = .error f → SayEnds t γ f) γ s) :
    (discipline σ).wp t (Supervisor.forward tell)
      (fun r γ' s' => Edited σ t (γ, s) (γ', s') ∧ Unwritten r) γ s := by
  refine Wp.look ?_
  split
  · next none =>
    exact Wp.done ⟨⟨poised, fun _ => .rfl, fun i _ _ session => by cases none.symm.trans session⟩, fun _ e => by cases e⟩
  · next i session =>
    refine Wp.attempt_seq (tells i session) ?_
    rintro (f | ⟨⟩) γ' s' ⟨edited, ends⟩
    · dsimp only
      split
      · exact Wp.done ⟨edited, fun _ e => by cases e⟩
      · next other =>
        -- A fault of the transport is one of the server.
        refine Wp.fail ⟨edited, fun f' e => ?_⟩
        obtain rfl := Except.error.inj e
        refine ((ends f rfl).resolve_left fun lost => other ?_).1
        simp only [Supervisor.isServerFault, lost, Bool.or_true]
    · exact Wp.done ⟨edited, fun _ e => by cases e⟩

/-- Editing the documents and passing the change on. -/
theorem wp_editAndTell {n : Note} {docs : List TrackedDocument} {tell : Nat → Act Unit} (h : Edits σ t γ s)
    (edit : Note.edit? s.overview.documents n = some docs) (proper : n.Legible)
    (tells : ∀ i γ' s', Owes σ t i [n] γ' s' →
      (discipline σ).wp t (tell i) (fun r γ'' s'' => Informs σ t i [] (γ', s') (γ'', s'') r) γ' s') :
    (discipline σ).wp t (do
        Supervisor.modify fun v => { v with documents := docs }
        Supervisor.forward tell
        pure true)
      (fun r γ' s' => Edited σ t (γ, s) (γ', s') ∧ Unwritten r) γ s := by
  obtain ⟨poised, spares⟩ := edited h edit proper
  refine wp_change (γ.owe [n]) spares ?_
  refine Wp.seq (wp_forward poised fun i session => ?_) (fun _ _ _ told => Wp.done ⟨?_, fun _ e => by cases e⟩)
    fun f _ _ told => ⟨?_, fun f' e => told.2 f' (congrArg _ (Except.error.inj e))⟩
  · have owes : Owes σ t i [n] (γ.owe [n]) (s.withDocuments docs) :=
      { poised, mine := h.mine, untold := rfl, idle := h.alone _ (fun e => by cases e), fore := h.fore
        session, free := .inl (h.alone _ fun e => by cases e) }
    refine Wp.mono (tells i _ _ owes) fun r γ' s' informs => ⟨?_, fun f e => (informs.fails f e).1⟩
    exact ⟨informs.poised, informs.minds.holder, informs.allTold owes.mine session owes.past⟩
  · exact ⟨told.1.poised, told.1.holder, told.1.told⟩
  · exact ⟨told.1.poised, told.1.holder, told.1.told⟩

/-! ## Calls -/

/-- A task that carries out a call to the supervisor and holds nothing. -/
structure AtCall (σ : Setting) (t : Nat) (c : SupervisorCall) (γ : Ghost) (s : World) : Prop where
  poised : Poised σ t γ s
  idle : Idle t γ
  kind : s.loop.kind? t = some (.call (.supervisor c))

/-- A task has done what it was asked for and holds nothing. -/
def Rests (σ : Setting) (t : Nat) (γ : Ghost) (s : World) : Prop := Poised σ t γ s ∧ Idle t γ

/-- How calls that report of documents may fail: as what tells of documents does, or because a scope cannot decide. -/
def SupervisorCall.MayFail : SupervisorCall → Fault → Prop
  | .openDocument uri languageId _, f =>
    f = Transport.missing "stdin" ∨ ∃ scope, DocumentScope.contains scope uri languageId = .error f
  | .changeDocument .., f | .closeDocument _, f => f = Transport.missing "stdin"
  | _, _ => True

/-- Under the lock of the documents. -/
theorem wp_withDocuments {α : Type} {body : Act α} (h : AtCall σ t c γ s) (tells : c.Tells)
    (run : ∀ γ' s', Edits σ t γ' s' →
      (discipline σ).wp t body (fun r γ'' s'' => Edited σ t (γ', s') (γ'', s'') ∧ Unwritten r) γ' s') :
    (discipline σ).wp t (Act.locked Supervisor.documentPlace body)
      (fun r γ' s' => Rests σ t γ' s' ∧ Unwritten r) γ s := by
  have plain (i : Nat) : Place.documents ≠ .writing i := fun e => by cases e
  refine wp_locked (p := .documents) (P := fun r γ' _ => (∀ p, p ≠ .documents → γ'.holder p ≠ some t) ∧ Unwritten r)
    plain h.poised h.kind (fun back => back) ⟨c, rfl, tells⟩ (fun γ₁ s₁ enters => ?_)
    fun r γ₂ s₂ γ₃ s₃ done leaves => ?_
  · have others (p : Place) (ne : p ≠ .documents) : γ₁.holder p ≠ some t := fun e =>
      h.idle p ((enters.others p ne).mpr e)
    refine Wp.mono (run γ₁ s₁
      { poised := enters.poised plain, mine := enters.mine, alone := others, untold := enters.told rfl
        fore := ⟨_, enters.keeps.loop.kinds t _ h.kind, fun back => back⟩ }) ?_
    rintro r γ₂ s₂ ⟨edited, unwritten⟩
    refine ⟨⟨edited.poised, (edited.holder _).mp enters.mine, fun e => (by cases e), fun e => (by cases e),
      fun _ => edited.told⟩, fun p ne e => others p ne ((edited.holder p).mpr e), unwritten⟩
  · obtain ⟨alone, unwritten⟩ := done
    refine ⟨⟨leaves.poised, fun p e => ?_⟩, unwritten⟩
    by_cases here : p = .documents
    · subst here
      rw [leaves.freed] at e
      cases e
    · rw [leaves.others p here] at e
      exact alone p here e

/-- The host opens a document. -/
theorem wp_openDocument (h : AtCall σ t c γ s) (tells : c.Tells) (uri languageId text : String) :
    (discipline σ).wp t (Supervisor.openDocument uri languageId (.str text))
      (fun r γ' s' => Rests σ t γ' s' ∧
        ∀ f, r = .error f → (SupervisorCall.openDocument uri languageId (.str text)).MayFail f) γ s := by
  refine Wp.bind (Wp.look (Wp.ofExcept ?_))
  rcases undecided : s.supervisor.handles uri languageId with f | belongs
  · exact ⟨⟨h.poised, h.idle⟩, fun f' e => .inr ⟨_, Except.error.inj e ▸ undecided⟩⟩
  · rw [Wp.after_ok]
    split
    · refine Wp.mono (wp_withDocuments h tells fun γ₁ s₁ edits => Wp.look ?_)
        fun _ _ _ told => ⟨told.1, fun f e => .inl (told.2 f e)⟩
      split
      · exact Wp.done ⟨⟨edits.poised, fun _ => .rfl, fun _ _ _ _ _ _ _ => edits.untold⟩, fun _ e => by cases e⟩
      · next isNew =>
        have fits : Note.edit? s₁.overview.documents (.opened ⟨uri, languageId, 1, .str text⟩) =
            some (s₁.supervisor.documents ++ [⟨uri, languageId, 1, .str text⟩]) := by
          simp only [Note.edit?]
          rw [if_neg]
          · rfl
          · simpa [Supervisor.document?, World.overview] using isNew
        exact wp_editAndTell edits fits ⟨text, rfl⟩ fun i γ₂ s₂ owes => wp_tellOpen owes ⟨text, rfl⟩
    · exact Wp.done ⟨⟨h.poised, h.idle⟩, fun _ e => by cases e⟩

/-- The host changes a document. -/
theorem wp_changeDocument (h : AtCall σ t c γ s) (tells : c.Tells) (uri text : String) :
    (discipline σ).wp t (Supervisor.changeDocument uri (.str text))
      (fun r γ' s' => Rests σ t γ' s' ∧ Unwritten r) γ s := by
  refine wp_withDocuments h tells fun γ₁ s₁ edits => Wp.look ?_
  split
  · exact Wp.done ⟨⟨edits.poised, fun _ => .rfl, fun _ _ _ _ _ _ _ => edits.untold⟩, fun _ e => by cases e⟩
  · next d found =>
    refine wp_editAndTell (n := .changed uri (d.version + 1) (.str text)) edits ?_ ⟨text, rfl⟩
      fun i γ₂ s₂ owes => wp_didChange owes
    have found : s₁.overview.documents.find? (fun d => d.uri = uri) = some d := found
    simp only [Note.edit?, found, if_true]
    rfl

/-- The host closes a document. -/
theorem wp_closeDocument (h : AtCall σ t c γ s) (tells : c.Tells) (uri : String) :
    (discipline σ).wp t (Supervisor.closeDocument uri)
      (fun r γ' s' => Rests σ t γ' s' ∧ Unwritten r) γ s := by
  refine wp_withDocuments h tells fun γ₁ s₁ edits => Wp.look ?_
  split
  · exact Wp.done ⟨⟨edits.poised, fun _ => .rfl, fun _ _ _ _ _ _ _ => edits.untold⟩, fun _ e => by cases e⟩
  · next d found =>
    refine wp_editAndTell (n := .closed uri) edits ?_ trivial fun i γ₂ s₂ owes => wp_didClose owes
    have found : s₁.overview.documents.find? (fun d => d.uri = uri) = some d := found
    have any : (s₁.overview.documents.any fun d => d.uri = uri) = true := by
      have := List.find?_some found
      exact List.any_eq_true.mpr ⟨d, List.mem_of_find?_eq_some found, this⟩
    simp only [Note.edit?, any, if_true]
    rfl

/-! ## Queries -/

/-- Asking the server anything, while the session is running. -/
theorem wp_request {method : String} {p : Option Members} (h : AtCall σ t c γ s)
    (there : i < s.sessions.length) (query : Said.ofRequest method = .query)
    (plain : method ∉ Said.documentMethods) :
    (discipline σ).wp t (Session.request i (.str method) (Params.json p))
      (fun _ γ' s' => Rests σ t γ' s') γ s := by
  obtain ⟨x, found⟩ := World.exists_session there
  refine wp_getSession found ?_
  split
  · next state =>
    have running : s.overview.state? i = some .running := by
      simp [Overview.state?, World.overview, found, Session.seat, state]
    have may : MaySay t i (.ofRequest method) γ s := by
      rw [query]
      exact .query h.poised.inv (h.idle _) running
    refine Wp.mono (wp_askServer h.poised h.kind (fun back => back) there may plain _) ?_
    rintro r γ' s' ⟨asks, -⟩
    exact ⟨asks.poised, h.idle.minds asks.toMinds⟩
  · exact Wp.fail ⟨h.poised, h.idle⟩

/-- Reading the answer to a request. -/
theorem wp_readAnswer {α β : Type} {ask : Act α} {read : α → Except Fault β}
    (asks : (discipline σ).wp t ask (fun _ γ' s' => Rests σ t γ' s') γ s) :
    (discipline σ).wp t (do
        let answer ← ask
        .ofExcept (read answer))
      (fun _ γ' s' => Rests σ t γ' s') γ s :=
  Wp.seq asks (fun _ _ _ rests => Wp.ofExcept rests) fun _ _ _ rests => rests

/-- The session that is held is there. -/
theorem AtCall.there (h : AtCall σ t c γ s) (session : s.supervisor.session = some i) :
    i < s.sessions.length := by
  have last := (h.poised.inv.life.held i session).1
  have seats : s.overview.seats.length = s.sessions.length := by simp [World.overview]
  omega

/-- A query goes to the session that is held, if it goes anywhere. -/
theorem wp_routed {α : Type} {uri : String} {ask : Nat → Act (Option α)} (h : AtCall σ t c γ s)
    (asks : ∀ i, i < s.sessions.length →
      (discipline σ).wp t (ask i) (fun _ γ' s' => Rests σ t γ' s') γ s) :
    (discipline σ).wp t (do
        match ← Supervisor.routable uri with
        | none => pure none
        | some session => Supervisor.query (ask session))
      (fun _ γ' s' => Rests σ t γ' s') γ s := by
  have rests : Rests σ t γ s := ⟨h.poised, h.idle⟩
  refine Wp.seq (P := fun r γ' s' => γ' = γ ∧ s' = s ∧
    ∀ i, r = .ok (some i) → s.supervisor.session = some i) (Wp.look ?_) ?_ ?_
  · split
    · exact Wp.done ⟨rfl, rfl, fun _ e => by cases e⟩
    · refine Wp.bind (Wp.look (Wp.ofExcept ?_))
      rcases s.supervisor.handles uri _ with f | belongs
      · exact ⟨rfl, rfl, fun _ e => by cases e⟩
      · rw [Wp.after_ok]
        split
        · split
          · exact Wp.done ⟨rfl, rfl, fun _ e => by cases e⟩
          · next i session =>
            refine Wp.look ?_
            split
            · exact Wp.done ⟨rfl, rfl, fun n e => by cases e; exact session⟩
            · exact Wp.done ⟨rfl, rfl, fun _ e => by cases e⟩
        · exact Wp.done ⟨rfl, rfl, fun _ e => by cases e⟩
  · rintro (_ | i) _ _ ⟨rfl, rfl, session⟩
    · exact Wp.done rests
    · refine Wp.attempt_seq (asks i (h.there (session i rfl))) fun r γ' s' rests' => ?_
      split
      · exact Wp.done rests'
      · exact Wp.done rests'
      · split
        · exact Wp.done rests'
        · exact Wp.fail rests'
  · rintro _ _ _ ⟨rfl, rfl, -⟩
    exact rests

/-- Asking about a place. -/
theorem wp_hover (h : AtCall σ t c γ s) (uri : String) (line character : Json) :
    (discipline σ).wp t (Supervisor.hover uri line character)
      (fun _ γ' s' => Rests σ t γ' s') γ s :=
  wp_routed h fun _ there => wp_readAnswer (wp_request (p := some [("textDocument",
    Session.documentRef (.str uri)), ("position", .obj [("line", line), ("character", character)])])
    h there rfl (by decide))

/-- Asking for tokens. -/
theorem wp_semanticTokens (h : AtCall σ t c γ s) (uri : String) (range : Option Range) :
    (discipline σ).wp t (Supervisor.semanticTokens uri range)
      (fun _ γ' s' => Rests σ t γ' s') γ s := by
  refine wp_routed h fun i there => ?_
  cases range with
  | none =>
    exact wp_readAnswer (wp_request (p := some [("textDocument", Session.documentRef (.str uri))])
      h there rfl (by decide))
  | some r =>
    exact wp_readAnswer (wp_request (p := some [("textDocument", Session.documentRef (.str uri)),
      ("range", r.toJson)]) h there rfl (by decide))

/-! ## Taking up a session -/

/-- A lifecycle operation that holds its lock and no other one. -/
structure Leads (σ : Setting) (t : Nat) (γ : Ghost) (s : World) : Prop where
  poised : Poised σ t γ s
  held : γ.holder .lifecycle = some t
  alone : ∀ p, p ≠ .lifecycle → γ.holder p ≠ some t
  kind : ∃ o, s.loop.kind? t = some (.call (.supervisor (.operate o)))

theorem Leads.fore (h : Leads σ t γ s) : Foreground t s := by
  obtain ⟨o, kind⟩ := h.kind
  exact ⟨_, kind, fun back => back⟩

/-- A running session. -/
structure Overview.Runs (v : Overview) (i : Nat) : Prop where
  state : v.state? i = some .running
  server : ∃ j, v.serverOf? i = some j

theorem Overview.Runs.kept {v v' : Overview} (h : v.Runs i) (kept : LifeKept v v') : v'.Runs i where
  state := by simpa only [Overview.state?, kept.seats] using h.state
  server := by simpa only [Overview.serverOf?, kept.holds] using h.server

/-- A lifecycle operation has opened a session, the newest one, and holds none yet. -/
structure TakesUp (σ : Setting) (t i : Nat) (γ : Ghost) (s : World) : Prop extends Leads σ t γ s where
  vacant : s.overview.session = none
  last : i + 1 = s.overview.seats.length
  runs : s.overview.Runs i

def World.withSession (i : Nat) (s : World) : World :=
  s.setSupervisor fun v => { v with session := some i }

/-- The same under the lock of the documents. -/
structure Takes (σ : Setting) (t i : Nat) (γ : Ghost) (s : World) : Prop where
  poised : Poised σ t γ s
  held : γ.holder .lifecycle = some t
  mine : γ.holder .documents = some t
  idle : γ.holder (.writing i) ≠ some t
  fore : Foreground t s
  vacant : s.overview.session = none
  last : i + 1 = s.overview.seats.length
  runs : s.overview.Runs i

namespace Takes

/-- A new session has been told of nothing yet. -/
theorem mirror (h : Takes σ t i γ s) : Mirror (γ.owe (s.overview.documents.map .opened)).toHands
    { s.overview with session := some i } := by
  have old := h.poised.inv.mirror
  have vacant (n : Nat) : s.overview.session ≠ some n := by
    rw [h.vacant]; exact fun e => by cases e
  exact { old with
    mirrored := fun n j p session server found _ => by
      obtain rfl : i = n := Option.some.inj session
      show Note.replay (notesIn s.overview.mail p.pid ++ s.overview.documents.map .opened) = _
      rw [old.early i j p (.inr h.runs.state) (vacant i) server found, List.nil_append]
      exact Note.replay_opened old.distinct
    done := fun free => by
      have mine : (γ.owe (s.overview.documents.map .opened)).holder .documents = some t := h.mine
      rw [mine] at free
      cases free
    early := fun n j p state _ server found => old.early n j p state (vacant n) server found }

/-- A session is taken up, and all documents are to be told. -/
theorem owes (h : Takes σ t i γ s) :
    Owes σ t i (s.overview.documents.map .opened) (γ.owe (s.overview.documents.map .opened))
      (s.withSession i) ∧
    (discipline σ).Spares t (γ, s) (γ.owe (s.overview.documents.map .opened), s.withSession i) := by
  have inv := h.poised.inv
  have aside : Aside (γ, s) (γ.owe (s.overview.documents.map .opened), s.withSession i) :=
    { loop := rfl, servers := rfl, getters := rfl, locks := fun p => by cases p <;> rfl
      role := rfl, doomed := rfl, phase := rfl, holder := rfl }
  have keeps : Keeps (γ, s) (γ.owe (s.overview.documents.map .opened), s.withSession i) :=
    aside.keeps (Nat.le_refl _) (Nat.le_refl _) (fun _ past => ⟨past, fun e => e, fun _ e => e⟩)
      fun _ e => e
  have life : Life σ (γ.owe (s.overview.documents.map .opened)) (s.withSession i).overview :=
    { inv.life with
      held := fun n session => by
        obtain rfl : i = n := Option.some.inj session
        exact ⟨h.last, _, h.runs.state, .inl rfl⟩
      atRest := fun free => by
        have held : (γ.owe (s.overview.documents.map .opened)).holder .lifecycle = some t := h.held
        rw [held] at free
        cases free }
  refine ⟨⟨⟨aside.inv inv inv.tickets.pending life ⟨inv.order.written, inv.order.planned⟩
    h.mirror inv.closed, ⟨h.poised.ease.tongue, h.poised.ease.newborn, h.poised.ease.parting⟩⟩,
    h.mine, rfl, h.idle, h.fore, rfl, .inr h.runs.state⟩, ?_⟩
  refine aside.spares h.held keeps fun u other held => ?_
  rw [show γ.holder .documents = some t from h.mine] at held
  exact absurd (Option.some.inj held).symm other

end Takes

/-- Telling a new session of the documents one after the other. -/
theorem wp_replay (docs : List TrackedDocument) (h : Owes σ t i (docs.map .opened) γ s)
    (held : γ.holder .lifecycle = some t) (running : s.overview.state? i = some .running)
    (legible : ∀ d ∈ docs, ∃ text, d.text = .str text) :
    (discipline σ).wp t (Supervisor.replay i docs)
      (fun r γ' s' => r = .ok () ∧ Poised σ t γ' s' ∧ Minds t (γ, s) (γ', s') ∧
        AllTold γ'.untold s'.overview) γ s := by
  induction docs generalizing γ s with
  | nil => exact Wp.done ⟨rfl, h.poised, .refl t _, fun _ _ _ _ _ _ _ => h.untold⟩
  | cons d rest ih =>
    refine Wp.attempt_seq (wp_tellOpen h (legible d List.mem_cons_self)) fun r γ₁ s₁ informs => ?_
    have kept := informs.minds.life held
    have held₁ := (informs.minds.holder _).mp held
    have mine₁ := (informs.minds.holder _).mp h.mine
    have session₁ : s₁.overview.session = some i := kept.session.trans h.session
    have running₁ : s₁.overview.state? i = some .running := (informs.minds.state? held i).trans running
    rcases r with f | ⟨⟩
    · obtain ⟨ends, harmed⟩ := informs.fails f rfl
      have transport : f.isTransport = true := ends.resolve_right fun e => e.2 held
      show (discipline σ).wp t (if Supervisor.isServerFault f = true then pure () else Act.fail f) _ γ₁ s₁
      rw [if_pos (by simp [Supervisor.isServerFault, transport])]
      refine Wp.done ⟨rfl, informs.poised, informs.minds, fun n j p session server found unharmed => ?_⟩
      obtain rfl := Option.some.inj (session₁.symm.trans session)
      exact absurd (harmed j p server found) unharmed
    · have owes : Owes σ t i (rest.map .opened) γ₁ s₁ :=
        { poised := informs.poised, mine := mine₁, untold := informs.done rfl
          idle := fun e => h.idle ((informs.minds.holder _).mpr e), fore := h.fore.grow informs.minds.loop
          session := session₁, free := .inr running₁ }
      refine Wp.mono (ih owes held₁ running₁ fun e he => legible e (List.mem_cons_of_mem _ he)) ?_
      rintro r γ₂ s₂ ⟨rfl, poised, minds, told⟩
      exact ⟨rfl, poised, informs.minds.trans minds, told⟩

/-- A lifecycle operation holds a session that is running. -/
structure Holds (σ : Setting) (t i : Nat) (γ : Ghost) (s : World) : Prop extends Leads σ t γ s where
  session : s.overview.session = some i
  runs : s.overview.Runs i

/-- Taking up a session that was opened. -/
theorem wp_takeUp (h : TakesUp σ t i γ s) :
    (discipline σ).wp t (Supervisor.takeUp i) (fun r γ' s' => r = .ok () ∧ Holds σ t i γ' s') γ s := by
  obtain ⟨o, kind⟩ := h.kind
  have plain (i : Nat) : Place.documents ≠ .writing i := fun e => by cases e
  refine wp_locked (p := .documents)
    (P := fun r γ' s' => r = .ok () ∧ γ'.holder .lifecycle = some t ∧
      (∀ p, p ≠ .lifecycle → p ≠ .documents → γ'.holder p ≠ some t) ∧
      s'.loop.kind? t = some (.call (.supervisor (.operate o))) ∧
      s'.overview.session = some i ∧ s'.overview.Runs i)
    plain h.poised kind (fun back => back) ⟨_, rfl, trivial⟩ (fun γ₁ s₁ enters => ?_)
    fun r γ₂ s₂ γ₃ s₃ done leaves => ?_
  · have kept := enters.life h.held
    have others (p : Place) (ne : p ≠ .lifecycle) (ne' : p ≠ .documents) : γ₁.holder p ≠ some t :=
      fun e => h.alone p ne ((enters.others p ne').mpr e)
    have held₁ := (enters.others .lifecycle fun e => by cases e).mp h.held
    have kind₁ := enters.keeps.loop.kinds t _ kind
    have runs₁ := h.runs.kept kept
    have takes : Takes σ t i γ₁ s₁ :=
      { poised := enters.poised plain, held := held₁, mine := enters.mine
        idle := others _ (fun e => by cases e) (fun e => by cases e), fore := ⟨_, kind₁, fun back => back⟩
        vacant := kept.session.trans h.vacant, last := by rw [kept.seats]; exact h.last, runs := runs₁ }
    obtain ⟨owes, spares⟩ := takes.owes
    refine wp_change _ spares (Wp.look ?_)
    refine Wp.mono (wp_replay _ owes held₁ runs₁.state takes.poised.inv.mirror.legible) ?_
    rintro r γ₂ s₂ ⟨rfl, poised, minds, told⟩
    have kept₂ := minds.life held₁
    refine ⟨⟨poised, (minds.holder _).mp enters.mine, fun e => (by cases e), fun e => (by cases e), fun _ => told⟩,
      rfl, (minds.holder _).mp held₁, fun p ne ne' e => others p ne ne' ((minds.holder p).mpr e),
      minds.loop.kinds t _ kind₁, kept₂.session, ?_⟩
    exact (show (s₁.withSession i).overview.Runs i from ⟨runs₁.state, runs₁.server⟩).kept kept₂
  · obtain ⟨rfl, held, others, kind, session, runs⟩ := done
    refine ⟨rfl, { poised := leaves.poised, held := ?_, alone := fun p ne => ?_, kind := ?_, session := ?_, runs := ?_ }⟩
    · exact (leaves.others .lifecycle fun e => by cases e).trans held
    · by_cases here : p = .documents
      · subst here
        exact fun e => by cases leaves.freed.symm.trans e
      · exact fun e => others p ne here ((leaves.others p here).symm.trans e)
    · exact ⟨o, leaves.keeps.loop.kinds t _ kind⟩
    · exact (congrArg Overview.session leaves.overview).trans session
    · have same : s₃.overview = s₂.overview := leaves.overview
      rw [same]; exact runs

end LspHost

import LspHost.Proofs.Clock.Correlation
import LspHost.Proofs.Diagnosis

/-!
# Diagnostics that a session shows

A session keeps the diagnostics that its server publishes, until the document is closed. `noticesOf` are the notices of
both kinds in a history, in the order in which they were processed: the valid diagnostics that a session was told of,
and the documents that it was asked to close, by the host or by a supervisor that held it then. What a session shows is what
they make of nothing (`Notice.kept`), and that is for each document what the last notice about it says
(`Notice.mem_kept`). An account of all deeds (`noticing`) is kept in every life: only readers and those who close a document
change what a session shows.

Results:
1. `Machine.Lives.diagnostics_shown`: a session shows for each document exactly the diagnostics that were published last, if
   the document was not closed since; the supervisor shows those of the session that it holds, and no others.
2. `Session.handle_invalid`: diagnostics that are not valid are passed over without a change.
-/

namespace LspHost

open Act Discipline Program

/-! ## Notices -/

/-- What becomes of the diagnostics of a document that a session keeps: they are published, or the document is closed. -/
inductive Notice where
  | published (session : Nat) (uri : String) (diagnostics : List Diagnostic)
  | closed (session : Nat) (uri : String)

namespace Notice

/-- A notice is about a document of a session. -/
def About (i : Nat) (uri : String) : Notice → Prop
  | published j u _ | closed j u => j = i ∧ u = uri

/-- What a session keeps after a notice. -/
def keep (i : Nat) (kept : List (String × List Diagnostic)) : Notice → List (String × List Diagnostic)
  | published j uri ds => if j = i then Session.putDiagnostics uri ds kept else kept
  | closed j uri => if j = i then kept.filter fun d => d.1 ≠ uri else kept

/-- What a session keeps after notices. -/
def kept (i : Nat) (ns : List Notice) : List (String × List Diagnostic) := ns.foldl (keep i) []

/-- The last notice about a document of a session published diagnostics. -/
def Latest (ns : List Notice) (i : Nat) (uri : String) (ds : List Diagnostic) : Prop :=
  ∃ before after, ns = before ++ published i uri ds :: after ∧ ∀ n ∈ after, ¬ n.About i uri

variable {i : Nat} {uri : String} {ds : List Diagnostic} {n : Notice} {ns : List Notice}
  {old : List (String × List Diagnostic)}

theorem keys_putDiagnostics (u : String) :
    u ∈ (Session.putDiagnostics uri ds old).map Prod.fst ↔ u = uri ∨ u ∈ old.map Prod.fst := by
  induction old with
  | nil => simp [Session.putDiagnostics]
  | cons e rest ih =>
    unfold Session.putDiagnostics
    split
    · next same => simp [← same]
    · simp only [List.map_cons, List.mem_cons, ih]
      exact or_left_comm

theorem nodup_putDiagnostics (nodup : (old.map Prod.fst).Nodup) :
    ((Session.putDiagnostics uri ds old).map Prod.fst).Nodup := by
  induction old with
  | nil => simp [Session.putDiagnostics]
  | cons e rest ih =>
    obtain ⟨new, nodup'⟩ := List.nodup_cons.mp nodup
    unfold Session.putDiagnostics
    split
    · exact nodup
    · next other =>
      refine List.nodup_cons.mpr ⟨fun mem => ?_, ih nodup'⟩
      exact ((keys_putDiagnostics _).mp mem).elim other new

theorem mem_putDiagnostics_iff (nodup : (old.map Prod.fst).Nodup) {e : String × List Diagnostic} :
    e ∈ Session.putDiagnostics uri ds old ↔ e = (uri, ds) ∨ e.1 ≠ uri ∧ e ∈ old := by
  induction old with
  | nil =>
    simp [Session.putDiagnostics]
  | cons f rest ih =>
    obtain ⟨new, nodup'⟩ := List.nodup_cons.mp nodup
    unfold Session.putDiagnostics
    split
    · next same =>
      have others (mem : e ∈ rest) : e.1 ≠ uri := fun e' =>
        new (List.mem_map.mpr ⟨e, mem, e'.trans same.symm⟩)
      rw [List.mem_cons, List.mem_cons, same]
      constructor
      · exact Or.imp_right fun mem => ⟨others mem, .inr mem⟩
      · rintro (rfl | ⟨ne, rfl | mem⟩)
        · exact .inl rfl
        · exact absurd same ne
        · exact .inr mem
    · next other =>
      rw [List.mem_cons, List.mem_cons, ih nodup']
      constructor
      · rintro (rfl | rfl | ⟨ne, mem⟩)
        · exact .inr ⟨other, .inl rfl⟩
        · exact .inl rfl
        · exact .inr ⟨ne, .inr mem⟩
      · rintro (rfl | ⟨ne, rfl | mem⟩)
        · exact .inr (.inl rfl)
        · exact .inl rfl
        · exact .inr (.inr ⟨ne, mem⟩)

theorem nodup_keep (nodup : (old.map Prod.fst).Nodup) : ((n.keep i old).map Prod.fst).Nodup := by
  cases n with
  | published j u ds' =>
    simp only [keep]
    split
    · exact nodup_putDiagnostics nodup
    · exact nodup
  | closed j u =>
    simp only [keep]
    split
    · exact nodup.sublist (List.Sublist.map _ List.filter_sublist)
    · exact nodup

theorem kept_concat : kept i (ns ++ [n]) = n.keep i (kept i ns) := List.foldl_concat ..

/-- No document has two entries. -/
theorem nodup_kept (i : Nat) (ns : List Notice) : ((kept i ns).map Prod.fst).Nodup := by
  induction ns using List.reverseRecOn with
  | nil => exact .nil
  | append_singleton ns n ih => rw [kept_concat]; exact nodup_keep ih

/-- A notice decides of the document that it is about. -/
theorem mem_keep (nodup : (old.map Prod.fst).Nodup) :
    (uri, ds) ∈ n.keep i old ↔ n = published i uri ds ∨ ¬ n.About i uri ∧ (uri, ds) ∈ old := by
  cases n with
  | published j u ds' =>
    simp only [keep, About, published.injEq]
    split
    · next mine =>
      subst mine
      rw [mem_putDiagnostics_iff nodup, Prod.mk.injEq]
      simp only [true_and, ne_eq, eq_comm]
    · next other => simp [other]
  | closed j u =>
    simp only [keep, About, reduceCtorEq, false_or]
    split
    · next mine =>
      subst mine
      rw [List.mem_filter, decide_eq_true_eq, and_comm]
      simp only [true_and, ne_eq, eq_comm]
    · next other => simp [other]

theorem latest_concat : Latest (ns ++ [n]) i uri ds ↔ n = published i uri ds ∨ ¬ n.About i uri ∧ Latest ns i uri ds := by
  constructor
  · rintro ⟨before, after, split, quiet⟩
    rcases List.eq_nil_or_concat after with rfl | ⟨after, n', rfl⟩
    · exact .inl (List.singleton_inj.mp (List.append_inj' split rfl).2)
    · rw [List.concat_eq_append, ← List.cons_append, ← List.append_assoc] at split
      obtain ⟨rfl, last⟩ := List.append_inj' split rfl
      obtain rfl := List.singleton_inj.mp last
      simp only [List.concat_eq_append, List.mem_append, List.mem_singleton] at quiet
      exact .inr ⟨quiet n (.inr rfl), before, after, rfl, fun n' hn => quiet n' (.inl hn)⟩
  · rintro (rfl | ⟨other, before, after, rfl, quiet⟩)
    · exact ⟨ns, [], rfl, fun _ h => by cases h⟩
    · refine ⟨before, after ++ [n], by simp, fun n' hn => ?_⟩
      rcases List.mem_append.mp hn with hn | hn
      · exact quiet n' hn
      · exact List.mem_singleton.mp hn ▸ other

/-- A session keeps what the last notice about a document published. -/
theorem mem_kept : (uri, ds) ∈ kept i ns ↔ Latest ns i uri ds := by
  induction ns using List.reverseRecOn with
  | nil =>
    refine ⟨fun h => (by cases h), fun ⟨before, after, split, _⟩ => ?_⟩
    cases before <;> cases split
  | append_singleton ns n ih => rw [kept_concat, mem_keep (nodup_kept i ns), ih, latest_concat]

end Notice

/-! ## Notices of a history -/

/-- The diagnostics in a message to a session, if they are valid. -/
def Record.notice? : Record → Option Notice
  | .heard i (.notification n) =>
    if n.method = "textDocument/publishDiagnostics" then
      (PublishedDiagnostics.ofMembers (Session.membersOf n.params)).toOption.map fun p => .published i p.uri p.diagnostics
    else none
  | _ => none

namespace Deed

/-- The document that a task closes by a deed, after other deeds. A task that closes a document of a session does so by its
first deed; one that closes a document of the client closes it on the session that is held, once it is one no longer. -/
def closing? (earlier : List Deed) (d : Deed) : Option Notice :=
  match d.before.loop.kind? d.task with
  | some (.call (.session i (.didClose (.str uri)))) =>
    if earlier.any fun e => e.task = d.task then none else some (.closed i uri)
  | some (.call (.supervisor (.closeDocument uri))) =>
    if (d.before.supervisor.document? uri).isSome ∧ d.after.supervisor.document? uri = none then
      d.before.supervisor.session.map fun i => .closed i uri
    else none
  | _ => none

/-- The notices in a deed, after other deeds. -/
def notices (earlier : List Deed) (d : Deed) : List Notice :=
  d.records.filterMap Record.notice? ++ (d.closing? earlier).toList

end Deed

/-- The notices in deeds, after other deeds. -/
def noticesAfter (earlier : List Deed) : List Deed → List Notice
  | [] => []
  | d :: ds => d.notices earlier ++ noticesAfter (earlier ++ [d]) ds

/-- The notices of a history. -/
def noticesOf (ds : List Deed) : List Notice := noticesAfter [] ds

theorem noticesAfter_append (earlier ds ds' : List Deed) :
    noticesAfter earlier (ds ++ ds') = noticesAfter earlier ds ++ noticesAfter (earlier ++ ds) ds' := by
  induction ds generalizing earlier with
  | nil => rw [List.append_nil]; rfl
  | cons d ds ih => rw [List.cons_append, noticesAfter, noticesAfter, ih, List.append_assoc, List.append_assoc]; rfl

theorem noticesOf_concat (ds : List Deed) (d : Deed) : noticesOf (ds ++ [d]) = noticesOf ds ++ d.notices ds := by
  rw [noticesOf, noticesAfter_append]
  simp only [List.nil_append, noticesAfter, List.append_nil]
  rfl

/-! ## What changes nothing that a session shows -/

/-- The diagnostics that a session shows. -/
def World.shown (s : World) (i : Nat) : List (String × List Diagnostic) := (s.sessions[i]?).elim [] Session.diagnostics

theorem World.shown_setSession (s : World) (id i : Nat) (f : Session → Session) :
    (s.setSession id f).shown i = if id = i then (s.sessions[i]?).elim [] fun x => (f x).diagnostics else s.shown i := by
  simp only [World.shown, World.setSession, List.getElem?_modify]
  split <;> cases s.sessions[i]? <;> rfl

/-- Nothing happens to diagnostics, and if it has to be so, nothing to the documents. -/
structure World.Calm (strict : Prop) (a b : World) : Prop where
  loop : a.loop.Grows b.loop
  length : a.sessions.length ≤ b.sessions.length
  shown : ∀ i, b.shown i = a.shown i
  journal : ∃ rs, b.journal = rs ++ a.journal ∧ ∀ r ∈ rs, r.notice? = none
  documents : strict → b.supervisor.documents = a.supervisor.documents

namespace World.Calm

variable {strict : Prop} {a b c : World}

/-- Nothing is different but the event loop and what is not about sessions. -/
theorem of_eq (loop : a.loop.Grows b.loop) (journal : b.journal = a.journal) (sessions : b.sessions = a.sessions)
    (documents : strict → b.supervisor.documents = a.supervisor.documents) : a.Calm strict b where
  loop := loop
  length := Nat.le_of_eq (congrArg List.length sessions).symm
  shown i := by rw [World.shown, sessions]; rfl
  journal := ⟨[], journal, fun _ h => by cases h⟩
  documents := documents

theorem refl (a : World) : a.Calm strict a := of_eq (.refl _) rfl rfl fun _ => rfl

theorem trans (h : a.Calm strict b) (h' : b.Calm strict c) : a.Calm strict c where
  loop := h.loop.trans h'.loop
  length := Nat.le_trans h.length h'.length
  shown i := (h'.shown i).trans (h.shown i)
  journal := by
    obtain ⟨rs, step, silent⟩ := h.journal
    obtain ⟨rs', step', silent'⟩ := h'.journal
    refine ⟨rs' ++ rs, by rw [step', step, List.append_assoc], fun r hr => ?_⟩
    exact (List.mem_append.mp hr).elim (silent' r) (silent r)
  documents s := (h'.documents s).trans (h.documents s)

/-- A record that is no notice. -/
theorem record (s : World) {r : Record} (none : r.notice? = none) : s.Calm strict (s.record r) where
  loop := .refl _
  length := Nat.le_refl _
  shown _ := rfl
  journal := ⟨[r], rfl, fun _ h => List.mem_singleton.mp h ▸ none⟩
  documents _ := rfl

/-- An event is published. -/
theorem publish (e : Event) (s : World) : s.Calm strict (s.publish e) := by
  obtain ⟨l, waiting, grows, step⟩ := World.publish_eq e s
  rw [step]
  exact (record s rfl).trans (of_eq grows rfl rfl fun _ => rfl)

/-- A change of a session that leaves alone what it shows. -/
theorem setSession (s : World) (id : Nat) {f : Session → Session} (diagnostics : ∀ x, (f x).diagnostics = x.diagnostics) :
    s.Calm strict (s.setSession id f) where
  loop := .refl _
  length := by simp [World.setSession]
  shown i := by
    rw [shown_setSession]
    simp only [diagnostics]
    exact ite_self _
  journal := ⟨[], rfl, fun _ h => by cases h⟩
  documents _ := rfl

/-- Nothing that a session does, or its process, is about diagnostics, but that it reads and forgets. -/
theorem permissive : Permissive (World.Calm strict) where
  refl := .refl
  trans := .trans
  onLoop grows := of_eq grows rfl rfl fun _ => rfl
  setServer _ _ _ := of_eq (.refl _) rfl rfl fun _ => rfl
  acts _ orderly := of_eq orderly.grows rfl rfl fun _ => rfl
  born _ _ _ := of_eq (.refl _) rfl rfl fun _ => rfl
  attempts _ _ := of_eq (.refl _) rfl rfl fun _ => rfl
  setTransport _ _ _ := of_eq (.refl _) rfl rfl fun _ => rfl
  setSession s id _ _ _ := setSession s id
  record s r wire := record s (by cases r <;> first | rfl | exact wire.elim)

theorem edits : Sweep.Edits fun _ p => Across (World.Calm False) p :=
  permissive.edits (fun _ _ => of_eq (.refl _) rfl rfl fun _ => rfl) fun _ _ => of_eq (.refl _) rfl rfl False.elim

/-- A new session shows nothing. -/
theorem createSession (server : ServerConfig) (options : SessionOptions) (s : World) :
    s.Calm False (Supervisor.createSession server options s).2 where
  loop := .refl _
  length := by simp [Supervisor.createSession]
  shown i := by
    simp only [World.shown, Supervisor.createSession, List.getElem?_append, List.getElem?_singleton]
    split
    · rfl
    · next past =>
      rw [List.getElem?_eq_none (Nat.le_of_not_lt past)]
      split <;> rfl
  journal := ⟨[], rfl, fun _ h => by cases h⟩
  documents := False.elim

/-- Lifecycle operations make sessions, and change nothing that one shows. -/
theorem operate (o : Operation) : Across (World.Calm False) (Supervisor.operate o) :=
  permissive.operate edits (fun s => createSession _ _ s) (fun s _ _ _ _ => publish _ s)
    (fun _ _ => of_eq (.refl _) rfl rfl False.elim) (fun _ _ => of_eq (.refl _) rfl rfl False.elim) o

/-- A session forgets what is no document. -/
theorem forget {id : Nat} {uri : Json} (none : ∀ str, uri ≠ .str str) :
    Across (World.Calm strict) (Session.modify id (Session.forgetDocument uri)) := by
  refine .update fun s => setSession s id fun x => List.filter_eq_self.mpr fun d _ => ?_
  exact decide_eq_true fun e => none d.1 e.symm

end World.Calm

/-! ## The account of what sessions show -/

/-- The account of what sessions show, with all deeds so far. -/
def noticing : Account (List Deed) where
  Holds γ s := ∀ i, s.shown i = Notice.kept i (noticesOf γ)
  Rely t a b := a.2.loop.Grows b.2.loop ∧ a.2.sessions.length ≤ b.2.sessions.length ∧
    ∀ d : Deed, d.task = t → (d ∈ b.1 ↔ d ∈ a.1)
  Acts t f a γ' := γ' = a.1 ++ [⟨t, f, a.2⟩] ∧ a.2.loop.Grows (f a.2).loop ∧ a.2.sessions.length ≤ (f a.2).sessions.length
  Known _ := True
  Serves := TaskKind.Sessional
  Waits _ _ _ _ := True
  Begins t γ s := (∃ κ, s.loop.kind? t = some κ ∧ ∀ c, κ ≠ .call c) ∨ ∀ d ∈ γ, d.task ≠ t
  Ends _ _ _ _ _ := True
  Told _ _ _ _ _ := True

namespace Noticing

variable {strict : Prop} {α : Type} {t i : Nat} {κ : TaskKind} {γ : List Deed} {s s' : World}

/-- A task that closes no document from now on. -/
structure Past (strict : Prop) (t : Nat) (κ : TaskKind) (γ : List Deed) (s : World) : Prop where
  kind : s.loop.kind? t = some κ
  closed : ∀ i uri, κ = .call (.session i (.didClose (.str uri))) → ∃ d ∈ γ, d.task = t
  strict : ∀ uri, κ = .call (.supervisor (.closeDocument uri)) → strict

/-- Such a task while all sessions show what they should. -/
structure Calm (strict : Prop) (t : Nat) (κ : TaskKind) (γ : List Deed) (s : World) : Prop
    extends Past strict t κ γ s where
  holds : noticing.Holds γ s

/-- The notices in a deed that records something. -/
theorem notices_eq {d : Deed} (rs : List Record) (journal : d.after.journal = rs ++ d.before.journal) :
    d.notices γ = rs.reverse.filterMap Record.notice? ++ (d.closing? γ).toList := by
  rw [Deed.notices, Deed.records_eq rs journal]

/-- No deed closes a document that leaves the documents alone. -/
theorem Past.closing? (h : Past strict t κ γ s) {f : World → World}
    (documents : strict → (f s).supervisor.documents = s.supervisor.documents) :
    (⟨t, f, s⟩ : Deed).closing? γ = none := by
  simp only [Deed.closing?, h.kind]
  split
  · next i uri e =>
    obtain ⟨d, hd, mine⟩ := h.closed i uri (Option.some.inj e)
    rw [if_pos (List.any_eq_true.mpr ⟨d, hd, decide_eq_true mine⟩)]
  · next uri e =>
    have same : (f s).supervisor.document? uri = s.supervisor.document? uri := by
      rw [Supervisor.document?, documents (h.strict uri (Option.some.inj e)), Supervisor.document?]
    refine if_neg ?_
    rintro ⟨here, gone⟩
    rw [show s.supervisor.document? uri = none from same.symm.trans gone] at here
    cases here
  · rfl

theorem Past.after (h : Past strict t κ γ s) {d : Deed} (grows : s.loop.Grows s'.loop) :
    Past strict t κ (γ ++ [d]) s' where
  kind := grows.kinds t κ h.kind
  closed i uri e := by
    obtain ⟨d, hd, mine⟩ := h.closed i uri e
    exact ⟨d, List.mem_append_left _ hd, mine⟩
  strict := h.strict

namespace Calm

/-- A change that is not about diagnostics is no notice. -/
theorem after (h : Calm strict t κ γ s) {f : World → World} (calm : s.Calm strict (f s)) :
    Calm strict t κ (γ ++ [⟨t, f, s⟩]) (f s) where
  toPast := h.toPast.after calm.loop
  holds i := by
    obtain ⟨rs, journal, silent⟩ := calm.journal
    have none : (⟨t, f, s⟩ : Deed).notices γ = [] := by
      rw [notices_eq rs (by exact journal), h.closing? calm.documents,
        List.filterMap_eq_nil_iff.mpr fun r hr => silent r (List.mem_reverse.mp hr)]
      rfl
    rw [calm.shown, noticesOf_concat, none, List.append_nil]
    exact h.holds i

theorem rely {γ' : List Deed} (h : Calm strict t κ γ s) (rely : noticing.Rely t (γ, s) (γ', s'))
    (holds : noticing.Holds γ' s') : Calm strict t κ γ' s' where
  kind := rely.1.kinds t κ h.kind
  closed i uri e := by
    obtain ⟨d, hd, mine⟩ := h.closed i uri e
    exact ⟨d, (rely.2.2 d mine).mpr hd, mine⟩
  strict := h.strict
  holds := holds

/-- A program that is not about diagnostics. -/
theorem wp {p : Act α} (h : Calm strict t κ γ s) (only : Across (World.Calm strict) p) :
    noticing.discipline.wp t p (fun _ => Calm strict t κ) γ s :=
  Account.wp_only (fun _ _ s across h => ⟨_, by exact ⟨rfl, (across s).loop, (across s).length⟩, h.after (across s)⟩)
    (fun _ _ h => ⟨h.holds, fun _ => trivial⟩) (fun _ _ _ _ h rely holds _ => h.rely rely holds) only h

end Calm

/-! ## Closing a document -/

theorem shown_forget (s : World) (i : Nat) (uri : String) (j : Nat) :
    (s.setSession i (Session.forgetDocument (.str uri))).shown j = Notice.keep j (s.shown j) (.closed i uri) := by
  rw [World.shown_setSession]
  simp only [Notice.keep, World.shown]
  split
  · cases s.sessions[j]? with
    | none => rfl
    | some x => simp only [Option.elim_some, Session.forgetDocument, ne_eq, Json.str.injEq]
  · rfl

/-- A session forgets the diagnostics of a document that is closed by that or was closed just before, and tells its
server. -/
theorem wp_didClose {uri : String} (kind : s.loop.kind? t = some κ)
    (told : ∀ j, Notice.keep j (s.shown j) (.closed i uri) =
      Notice.kept j (noticesOf (γ ++ [⟨t, World.setSession i (Session.forgetDocument (.str uri)), s⟩]))) :
    noticing.discipline.wp t (Session.didClose i (.str uri)) (fun _ => Calm True t κ) γ s := by
  have split : Session.didClose i (.str uri) = (do
      Session.modify i (Session.forgetDocument (.str uri))
      Session.notify i "textDocument/didClose" (.obj [("textDocument", Session.documentRef (.str uri))])) := rfl
  rw [split]
  refine Wp.change _ ⟨rfl, .refl _, by simp [World.setSession]⟩ ?_
  have calm : Calm True t κ (γ ++ [⟨t, World.setSession i (Session.forgetDocument (.str uri)), s⟩])
      (s.setSession i (Session.forgetDocument (.str uri))) :=
    { kind := kind
      closed := fun _ _ _ => ⟨_, List.mem_append_right _ List.mem_cons_self, rfl⟩
      strict := fun _ _ => trivial
      holds := fun j => (shown_forget s i uri j).trans (told j) }
  exact calm.wp (World.Calm.permissive.repertoire.connects.notify _ (by decide))

/-- A document is closed, and with it one of the session that is held. -/
theorem wp_closeDocument {uri : String} (mine : κ = .call (.supervisor (.closeDocument uri))) (h : Calm True t κ γ s) :
    noticing.discipline.wp t (Supervisor.closeDocument uri) (fun _ => Calm True t κ) γ s := by
  have K := (@World.Calm.permissive True).repertoire
  have acquire : Across (World.Calm True) (Act.acquire Supervisor.documentPlace) :=
    K.acquire (fun _ _ same => by rw [same]) fun _ _ => .of_eq (.refl _) rfl rfl fun _ => rfl
  have release : Across (World.Calm True) (Act.release Supervisor.documentPlace) :=
    K.release (fun _ _ same => by rw [same]) fun _ _ => .of_eq (.refl _) rfl rfl fun _ => rfl
  refine Wp.seq (h.wp acquire) (fun _ γ₁ s₁ h₁ => ?_) fun _ _ _ h => h
  refine Wp.ensure (P := fun _ => Calm True t κ) ?_ fun r γ' s' h' =>
    Wp.mono (h'.wp release) fun r _ _ h => by cases r <;> exact h
  refine Wp.look ?_
  rcases here : s₁.supervisor.document? uri with _ | d
  · exact h₁
  -- The document is one no longer, and its notice is there before the session forgets its diagnostics.
  let f : World → World := fun s => s.setSupervisor fun v => { v with documents := v.documents.filter fun d => d.uri ≠ uri }
  have gone : (f s₁).supervisor.document? uri = none :=
    List.find?_eq_none.mpr fun d hd => by simpa using (List.mem_filter.mp hd).2
  have closing : (⟨t, f, s₁⟩ : Deed).closing? γ₁ = s₁.supervisor.session.map fun i => .closed i uri := by
    simp only [Deed.closing?, h₁.kind, mine]
    exact if_pos ⟨by rw [here]; rfl, gone⟩
  have notices : noticesOf (γ₁ ++ [⟨t, f, s₁⟩]) =
      noticesOf γ₁ ++ (s₁.supervisor.session.map fun i => .closed i uri).toList := by
    rw [noticesOf_concat, notices_eq [] rfl, closing]
    rfl
  refine Wp.change (γ₁ ++ [⟨t, f, s₁⟩]) ⟨rfl, .refl _, Nat.le_refl _⟩ ?_
  refine Wp.seq (P := fun _ => Calm True t κ) ?_ (fun _ _ _ h => h) fun _ _ _ h => h
  refine Wp.look ?_
  split
  · next held =>
    refine ⟨h₁.toPast.after (.refl _), fun j => ?_⟩
    rw [notices, show s₁.supervisor.session = none from held]
    exact (h₁.holds j).trans (by rw [Option.map_none, Option.toList_none, List.append_nil])
  · next i held =>
    refine Wp.attempt_seq (wp_didClose h₁.kind fun j => ?_) fun r γ' s' h' => ?_
    · have past : Past True t κ (γ₁ ++ [⟨t, f, s₁⟩]) (f s₁) := h₁.toPast.after (.refl _)
      rw [noticesOf_concat, notices_eq [] rfl, past.closing? fun _ => rfl, notices,
        show s₁.supervisor.session = some i from held]
      exact (congrArg (Notice.keep j · (.closed i uri)) (h₁.holds j)).trans (by simp [Notice.kept])
    · split
      · exact h'
      · split <;> exact h'

/-! ## Reading -/

/-- Nothing is told of diagnostics that changes what a session shows. -/
theorem across_tell (i : Nat) (p : PublishedDiagnostics) : Across (World.Calm strict) (Session.tellDiagnostics i p) := by
  refine .update fun s => ?_
  split
  · exact .record s rfl
  · unfold Supervisor.hearDiagnostics
    split
    · dsimp only
      split
      · exact (World.Calm.publish _ s).trans (.record _ rfl)
      · exact .publish _ s
    · exact .refl s
  · exact .refl s

/-- Valid diagnostics are processed. -/
theorem wp_published {n : Notification} {p : PublishedDiagnostics} (h : Calm True t (.reader i) γ s)
    (there : i < s.sessions.length) (method : n.method = "textDocument/publishDiagnostics")
    (valid : PublishedDiagnostics.ofMembers (Session.membersOf n.params) = .ok p) :
    noticing.discipline.wp t (do
        .update (World.record (.heard i (.notification n)))
        Session.handle i (.notification n))
      (fun _ => Calm True t (.reader i)) γ s := by
  let f := World.record (.heard i (.notification n))
  let g := World.setSession i fun x => { x with diagnostics := Session.putDiagnostics p.uri p.diagnostics x.diagnostics }
  have past : Past True t (.reader i) (γ ++ [⟨t, f, s⟩]) (f s) := h.toPast.after (.refl _)
  have heard : (⟨t, f, s⟩ : Deed).notices γ = [.published i p.uri p.diagnostics] := by
    rw [notices_eq [.heard i (.notification n)] rfl, h.closing? fun _ => rfl]
    simp [Record.notice?, method, valid, Except.toOption]
  have silent : (⟨t, g, f s⟩ : Deed).notices (γ ++ [⟨t, f, s⟩]) = [] := by
    rw [notices_eq [] rfl, past.closing? fun _ => rfl]
    rfl
  have handled : Session.handle i (.notification n) = (do
      Session.modify i fun x =>
        { x with diagnostics := Session.putDiagnostics p.uri p.diagnostics x.diagnostics }
      Session.tellDiagnostics i p) := by
    simp only [Session.handle, Session.handleNotification, method, Session.handleDiagnostics, valid]
  refine Wp.change (γ ++ [⟨t, f, s⟩]) ⟨rfl, .refl _, Nat.le_refl _⟩ ?_
  rw [handled]
  refine Wp.change (γ ++ [⟨t, f, s⟩] ++ [⟨t, g, f s⟩]) ⟨rfl, .refl _, by simp [World.setSession]⟩ ?_
  refine Calm.wp (κ := .reader i) ⟨past.after (.refl _), fun j => ?_⟩ (across_tell i p)
  rw [noticesOf_concat, silent, List.append_nil, noticesOf_concat, heard, Notice.kept_concat, ← h.holds j]
  refine (World.shown_setSession ..).trans ?_
  simp only [Notice.keep]
  split
  · next mine =>
    subst mine
    rw [show s.shown i = (s.sessions[i]?).elim [] Session.diagnostics from rfl, List.getElem?_eq_getElem there]
    simp only [World.record, List.getElem?_eq_getElem there, Option.elim_some]
  · rfl

/-- A message was received, and is handled. -/
theorem wp_handled {m : Message} (h : Calm True t (.reader i) γ s) (there : i < s.sessions.length) :
    noticing.discipline.wp t (do
        .update (World.record (.heard i m))
        Session.handle i m)
      (fun _ => Calm True t (.reader i)) γ s := by
  have K := (@World.Calm.permissive True).repertoire
  have other (none : (Record.heard i m).notice? = none) (only : Across (World.Calm True) (Session.handle i m)) :
      noticing.discipline.wp t (do
          .update (World.record (.heard i m))
          Session.handle i m)
        (fun _ => Calm True t (.reader i)) γ s :=
    h.wp (.bind (.update fun s => .record s none) fun _ => only)
  cases m with
  | response r => exact other rfl K.handleResponse
  | request r => exact other rfl K.handleRequest
  | notification n =>
    by_cases method : n.method = "textDocument/publishDiagnostics"
    · rcases valid : PublishedDiagnostics.ofMembers (Session.membersOf n.params) with f | p
      · refine other (by simp [Record.notice?, method, valid, Except.toOption]) ?_
        simp only [Session.handle, Session.handleNotification, method, Session.handleDiagnostics, valid]
        exact .done ()
      · exact wp_published h there method valid
    · refine other (by simp [Record.notice?, method]) ?_
      have log (params : Members) : Across (World.Calm True) (Session.handleLog i params) := by
        refine .bind (.ofExcept _) fun _ => .update fun s => ?_
        split
        · exact .record s rfl
        · exact .publish _ s
        · exact .refl s
      show Across (World.Calm True) (Session.handleNotification i n)
      unfold Session.handleNotification
      split
      · next same => exact absurd same method
      · exact log _
      · exact log _
      · exact .done ()

/-- A turn of a reader. -/
theorem wp_reader (h : Calm True t (.reader i) γ s) :
    noticing.discipline.wp t (Session.readerTurn i) (fun _ => Calm True t (.reader i)) γ s := by
  have K := (@World.Calm.permissive True).repertoire
  have next : noticing.discipline.wp t (Session.handleNext i) (fun _ => Calm True t (.reader i)) γ s := by
    refine Wp.bind (Wp.look ?_)
    rcases found : s.sessions[i]? with _ | x
    · exact h
    -- The session is still there when a message has come.
    have received : noticing.discipline.wp t (Transport.receive x.transport)
        (fun _ γ' s' => Calm True t (.reader i) γ' s' ∧ s.sessions.length ≤ s'.sessions.length) γ s :=
      Wp.keeping (K := fun a b => a.2.sessions.length ≤ b.2.sessions.length) (fun _ => Nat.le_refl _)
        (fun _ _ _ => Nat.le_trans) (fun _ _ _ acts => And.right (And.right acts)) (fun _ _ rely => And.left (And.right rely))
        (h.wp (K.receive fun _ _ _ => .of_eq (.refl _) rfl rfl fun _ => rfl))
    exact Wp.seq received
      (fun _ _ _ post => wp_handled post.1 (Nat.lt_of_lt_of_le (List.getElem?_eq_some_iff.mp found).1 post.2))
      fun _ _ _ post => post.1
  refine Wp.attempt_seq next fun r γ' s' h' => ?_
  split
  · exact h'
  · split
    · exact h'
    · refine Wp.seq (h'.wp K.failPending) (fun _ _ _ h => ?_) fun _ _ _ h => h
      split <;> exact h

/-! ## Turns -/

/-- A turn of a task that is asked for something. -/
theorem wp_call {c : Call} (closes : (∃ i uri, c = .session i (.didClose (.str uri))) → ∀ d ∈ γ, d.task ≠ t)
    (sessional : (TaskKind.call c).Sessional) (kind : s.loop.kind? t = some (.call c)) (holds : noticing.Holds γ s) :
    noticing.discipline.wp t (Client.turn (.call c)) (fun _ γ' s' => noticing.Holds γ' s') γ s := by
  by_cases closing : ∃ uri, c = .supervisor (.closeDocument uri)
  · obtain ⟨uri, rfl⟩ := closing
    have calm : Calm True t (.call (.supervisor (.closeDocument uri))) γ s :=
      ⟨⟨kind, fun _ _ e => (by cases e), fun _ _ => trivial⟩, holds⟩
    exact Wp.seq (P := fun _ => noticing.Holds)
      (Wp.seq (wp_closeDocument rfl calm) (fun _ _ _ h => h.holds) fun _ _ _ h => h.holds)
      (fun _ _ _ h => h) fun _ _ _ h => h
  by_cases forgets : ∃ i uri, c = .session i (.didClose (.str uri))
  · have new := closes forgets
    obtain ⟨i, uri, rfl⟩ := forgets
    refine Wp.seq (P := fun _ => noticing.Holds)
      (Wp.seq (wp_didClose kind fun j => ?_) (fun _ _ _ h => h.holds) fun _ _ _ h => h.holds)
      (fun _ _ _ h => h) fun _ _ _ h => h
    have told : (⟨t, World.setSession i (Session.forgetDocument (.str uri)), s⟩ : Deed).closing? γ =
        some (.closed i uri) := by
      simp only [Deed.closing?, kind]
      exact if_neg fun some => by
        obtain ⟨d, hd, mine⟩ := List.any_eq_true.mp some
        exact new d hd (of_decide_eq_true mine)
    rw [noticesOf_concat, notices_eq [] rfl, told]
    exact (congrArg (Notice.keep j · (.closed i uri)) (holds j)).trans Notice.kept_concat.symm
  · have calm : Calm False t (.call c) γ s :=
      ⟨⟨kind, fun i uri e => absurd ⟨i, uri, TaskKind.call.inj e⟩ forgets,
        fun uri e => closing ⟨uri, TaskKind.call.inj e⟩⟩, holds⟩
    have K := (@World.Calm.permissive False).repertoire
    refine Wp.mono (calm.wp (K.turn sessional World.Calm.edits (fun _ e => by cases e) (fun o _ => World.Calm.operate o)
      (fun uri e => absurd ⟨uri, TaskKind.call.inj e⟩ closing) fun i uri e => ?_)) fun _ _ _ h => h.holds
    exact K.connects.didClose (World.Calm.forget fun str e' => forgets ⟨i, str, by rw [TaskKind.call.inj e, e']⟩)

/-- Every turn keeps what sessions show. -/
theorem wp_turn (sessional : κ.Sessional) (kind : s.loop.kind? t = some κ) (holds : noticing.Holds γ s)
    (begins : noticing.Begins t γ s) : noticing.discipline.wp t (Client.turn κ) (noticing.TurnEnds t κ) γ s := by
  have onward {strict : Prop} (plain : ∀ c, κ ≠ .call c)
      (run : noticing.discipline.wp t (Client.turn κ) (fun _ => Calm strict t κ) γ s) :
      noticing.discipline.wp t (Client.turn κ) (noticing.TurnEnds t κ) γ s := by
    refine Wp.mono (Wp.returns (Course.returns_turn sessional) run) ?_
    rintro (f | turn) γ' s' ⟨calm, returns⟩
    · exact ⟨calm.holds, trivial⟩
    · cases turn with
      | onward κ' => exact ⟨calm.holds, returns _ rfl κ' rfl, .inl ⟨κ, calm.kind, plain⟩⟩
      | finished r => exact ⟨calm.holds, trivial⟩
  have K := (@World.Calm.permissive True).repertoire
  have calm (plain : ∀ c, κ ≠ .call c) : Calm True t κ γ s :=
    ⟨⟨kind, fun i uri e => absurd e (plain _), fun _ _ => trivial⟩, holds⟩
  cases κ with
  | reader i => exact onward (fun _ e => by cases e) (wp_reader (calm fun _ e => by cases e))
  | drain => exact onward (fun _ e => by cases e) ((calm fun _ e => by cases e).wp K.drainTurn)
  | exitWatch => exact onward (fun _ e => by cases e) ((calm fun _ e => by cases e).wp K.exitWatchTurn)
  | trace | showEvents | terminal => exact sessional.elim
  | call c =>
    have new : ∀ d ∈ γ, d.task ≠ t := by
      refine begins.resolve_left ?_
      rintro ⟨κ, kind', plain⟩
      exact plain c (Option.some.inj (kind'.symm.trans kind))
    have finishes : (Client.turn (.call c)).Returns fun x => ∃ r, x = .finished r := .bind fun r => ⟨r, rfl⟩
    refine Wp.mono (Wp.returns finishes (wp_call (fun _ => new) sessional kind holds)) ?_
    rintro (f | turn) γ' s' ⟨holds', returns⟩
    · exact ⟨holds', trivial⟩
    · obtain ⟨r, rfl⟩ := returns _ rfl
      exact ⟨holds', trivial⟩

end Noticing

/-- The account of what sessions show is kept. -/
theorem noticing_lawful : noticing.Lawful where
  refl _ _ := ⟨.refl _, Nat.le_refl _, fun _ _ => .rfl⟩
  trans _ _ _ _ h h' := ⟨h.1.trans h'.1, Nat.le_trans h.2.1 h'.2.1, fun d mine => (h'.2.2 d mine).trans (h.2.2 d mine)⟩
  acts t f a γ' acts u other := by
    refine ⟨acts.2.1, acts.2.2, fun d mine => ?_⟩
    rw [acts.1, List.mem_append, List.mem_singleton]
    exact or_iff_left fun e => other (mine.symm.trans (congrArg Deed.task e))
  grows _ _ _ rely := rely.1
  begins t a b h rely := by
    rcases h with ⟨κ, kind, plain⟩ | new
    · exact .inl ⟨κ, rely.1.kinds t κ kind, plain⟩
    · exact .inr fun d hd mine => new d ((rely.2.2 d mine).mp hd) mine
  told _ _ _ _ _ _ _ := trivial
  ends _ _ _ _ _ _ := trivial
  waits _ _ _ _ _ _ := trivial
  backstage γ a b holds stage := by
    have same := stage.rest
    have sessions : b.sessions = a.sessions := by rw [same]
    refine ⟨fun i => ?_, fun _ => ⟨stage.loop, Nat.le_of_eq (congrArg List.length sessions).symm, fun _ _ => .rfl⟩⟩
    rw [World.shown, sessions]
    exact holds i
  stops t k γ s s' holds _ stop := by
    subst stop
    exact ⟨holds, fun _ => ⟨(Loop.grows_watch ..).trans (Loop.grows_setWaiting ..), Nat.le_refl _, fun _ _ => .rfl⟩⟩
  known _ _ known _ := known
  interrupted _ _ _ _ _ _ _ _ := trivial
  turn _ _ _ _ sessional kind holds _ begins := Noticing.wp_turn sessional kind holds begins

/-! ## What a client shows -/

/-- What a client shows after notices. -/
structure Shows (ns : List Notice) (s : World) : Prop where
  /-- A session has for a document what was published last, if the document was not closed since. -/
  session : ∀ (i : Nat) (x : Session), s.sessions[i]? = some x →
    ∀ uri ds, (uri, ds) ∈ x.diagnostics ↔ Notice.Latest ns i uri ds
  /-- No document has two entries. -/
  once : ∀ (i : Nat) (x : Session), s.sessions[i]? = some x → (x.diagnostics.map Prod.fst).Nodup
  /-- The supervisor has those of the session that it holds, for all documents or for one. -/
  held : ∀ i, s.supervisor.session = some i → ∀ uri e,
    e ∈ Supervisor.diagnosticsOf s uri ↔ Notice.Latest ns i e.1 e.2 ∧ ∀ u, uri = some u → e.1 = u
  /-- Without a session it has none. -/
  unheld : s.supervisor.session = none → ∀ uri, Supervisor.diagnosticsOf s uri = []

theorem Supervisor.mem_diagnosticsOf {s : World} {i : Nat} (held : s.supervisor.session = some i) (uri : Option String)
    (e : String × List Diagnostic) : e ∈ Supervisor.diagnosticsOf s uri ↔ e ∈ s.shown i ∧ ∀ u, uri = some u → e.1 = u := by
  simp only [diagnosticsOf, World.shown, held, Option.bind_some]
  cases s.sessions[i]? <;> cases uri <;> simp

/-- Diagnostics that are not valid are passed over: nothing is changed and nobody is told. -/
theorem Session.handle_invalid {n : Notification} (i : Nat) (method : n.method = "textDocument/publishDiagnostics")
    (invalid : ∀ p, PublishedDiagnostics.ofMembers (membersOf n.params) ≠ .ok p) :
    Session.handle i (.notification n) = pure () := by
  rcases read : PublishedDiagnostics.ofMembers (membersOf n.params) with f | p
  · simp only [handle, handleNotification, method, handleDiagnostics, read]
  · exact absurd read (invalid p)

/-- Every client shows what was published last and not closed since, each session what it was told itself; and diagnostics
that are not valid change nothing. -/
theorem Machine.Lives.diagnostics_shown {ds : List Deed} {m : Machine} (run : Machine.Lives ds m) :
    Shows (noticesOf ds) m.world ∧
      ∀ (i : Nat) (n : Notification), n.method = "textDocument/publishDiagnostics" →
        (∀ p, PublishedDiagnostics.ofMembers (Session.membersOf n.params) ≠ .ok p) →
        Session.handle i (.notification n) = pure () := by
  obtain ⟨γ, sound, traced⟩ := run.account (T := fun ds γ => γ = ds) [] noticing_lawful (fun _ _ _ _ => trivial)
    (fun _ _ _ => trivial) (fun _ _ _ _ _ _ _ _ _ _ => rfl) (fun _ _ => .inr fun _ hd => by cases hd) rfl
    (fun _ s server options holds =>
      have calm := World.Calm.createSession server options s
      ⟨fun i => (calm.shown i).trans (holds i), fun _ => ⟨calm.loop, calm.length, fun _ _ => .rfl⟩⟩)
    (fun path traced => by simpa [traced] using path.collects id (fun d => [d]) fun _ _ _ _ => And.left) rfl
  have shown (i : Nat) : m.world.shown i = Notice.kept i (noticesOf ds) := traced ▸ sound.holds i
  have kept {i : Nat} {x : Session} (found : m.world.sessions[i]? = some x) :
      x.diagnostics = Notice.kept i (noticesOf ds) := by
    rw [← shown i, World.shown, found]
    rfl
  refine ⟨⟨fun i x found uri ds => ?_, fun i x found => ?_, fun i held uri e => ?_, fun none uri => ?_⟩,
    fun i n => Session.handle_invalid i⟩
  · rw [kept found, Notice.mem_kept]
  · rw [kept found]
    exact Notice.nodup_kept ..
  · rw [Supervisor.mem_diagnosticsOf held, shown, Notice.mem_kept]
  · rw [Supervisor.diagnosticsOf, none]
    rfl

/-- A client that has opened a session with a watchful server, has opened one document and closed another one. -/
def Machine.watching : Machine :=
  let m := { Machine.ofWorld (.sample [.watchful]) with
    world := (Supervisor.createSession .standard .sample (.sample [.watchful])).2 }
  let m := (m.start (.call (.session 0 .open))).2.runUntil Client.turn 1000 1000000000 100
  let m := (m.start (.call (.session 0 (.didOpen (.str "file:///a.toml") (.str "toml") (.int 1) (.str ""))))).2.runUntil
    Client.turn 1000 1000000000 100
  (m.start (.call (.session 0 (.didClose (.str "file:///b.toml"))))).2.runUntil Client.turn 1000 1000000000 100

theorem lives_watching : ∃ ds, Machine.Lives ds Machine.watching := by
  have made := (Machine.Lives.fresh [] ⟨"/", []⟩ [.watchful] .sample .standard none false (.fresh .standard 80) (.empty 0)).session
    .standard .sample
  have opened := (made.call (c := .session 0 .open) trivial).runUntil 1000 1000000000 100
  have told := (opened.call (c := .session 0 (.didOpen (.str "file:///a.toml") (.str "toml") (.int 1) (.str "")))
    trivial).runUntil 1000 1000000000 100
  exact ⟨_, (told.call (c := .session 0 (.didClose (.str "file:///b.toml"))) trivial).runUntil 1000 1000000000 100⟩

/-- Both documents had diagnostics, and those of the closed one are gone; parameters without members say nothing. -/
theorem diagnostics_shown_watching :
    (Machine.watching.world.journal.filterMap Record.notice?).length = 2 ∧
      Machine.watching.world.sessions.map (fun x => x.diagnostics.map Prod.fst) = [["file:///a.toml"]] ∧
      Session.handle 0 (.notification ⟨"textDocument/publishDiagnostics", none⟩) = pure () ∧
      ∃ ds, Machine.Lives ds Machine.watching ∧ Shows (noticesOf ds) Machine.watching.world := by
  obtain ⟨ds, run⟩ := lives_watching
  obtain ⟨shows, passes⟩ := run.diagnostics_shown
  exact ⟨by decide +kernel, by decide +kernel, passes 0 ⟨_, none⟩ rfl fun _ e => (by cases e), ds, run, shows⟩

end LspHost

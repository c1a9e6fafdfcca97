import LspHost.Proofs.Clock.Sessions
import LspHost.Proofs.Protocol.Scope

/-!
# Calls to sessions, documents and queries

What a session is asked takes as long as its own time allows (`wp_sessionRun`), and what the supervisor does with
documents takes no time (`wp_takeUp`, `wp_forward`). None of these calls leaves anything in hand.
-/

namespace LspHost.Clock

open Discipline

variable {t u i j k : Nat} {o : Option Nat} {κ : TaskKind} {γ γ' : Roster} {s s' : World} {L : Ledger} {l : Loop} {d : Duty}
  {x : Session} {a b c : Roster × World} {n m : ℕ∞} {time grace : Seconds} {α β : Type}

/-- What belongs to a scope has a uri that can be read. -/
theorem legible_of_contains {scope : DocumentScope} {uri languageId : String}
    (mine : scope.contains uri languageId = .ok true) : (Uri.parse? uri).isSome = true := by
  rcases unread : Uri.parse? uri with _ | u
  · rcases eq_or_ne scope [] with rfl | filters
    · cases mine
    · cases (DocumentScope.contains_of_malformed unread filters languageId).symm.trans mine
  · rfl

/-- A task looks up whether a document belongs to the scope. -/
theorem wp_belongs (uri languageId : String) (γ : Roster) (s : World) :
    discipline.wp t (Supervisor.belongs uri languageId) (fun r γ' s' => γ' = γ ∧ s' = s ∧
      (r = .ok true → (Uri.parse? uri).isSome = true)) γ s :=
  Wp.look (Wp.ofExcept ⟨rfl, rfl, legible_of_contains⟩)

/-- The uris of all documents can be read. -/
theorem Inv.legible (h : Inv o γ s) : ∀ d ∈ s.supervisor.documents, (Uri.parse? d.uri).isSome = true := by
  intro d known
  by_contra unread
  exact unread (h.plain.legible d (List.mem_filter.mpr ⟨known, by simpa using unread⟩))

theorem bare_of_legible {v : Supervisor} (legible : ∀ d ∈ v.documents, (Uri.parse? d.uri).isSome = true) :
    v.bare = { v with documents := [] } := by
  have none : v.documents.filter (fun d => (Uri.parse? d.uri).isNone) = [] :=
    List.filter_eq_nil_iff.mpr fun d known => by simpa using Option.isSome_iff_ne_none.mp (legible d known)
  rw [Supervisor.bare, none]

/-! ## What a session is asked -/

/-- A session is not asked anything. -/
def Unasked (i : Nat) (r : Except Fault Json) : Prop :=
  r = .error (Transport.missing "session") ∨ ∃ state, r = .error (.notRunning (Session.nameOf i) state)

/-- A task asks a session that there is anything. -/
theorem wp_requestOf {method params : Json} (h : Fit t κ γ s) (foreground : ¬ κ.IsBackground) (poised : (γ.duty t).Poised)
    (quota : (γ.duty t).quota = .endless) (patient : ∀ o c m, κ.patience o c m = some o.requestTimeout)
    (found : s.sessions[i]? = some x)
    (may : x.state = .running → MayAsk t κ i method params γ s) :
    discipline.wp t (Session.request i method params) (fun r γ' s' => Within t κ ⊤ (γ, s) (γ', s') ∧
      (Got t i method params r γ' ∨ γ' = γ ∧ r = .error (.notRunning (Session.nameOf i) x.state.name))) γ s := by
  refine wp_getKnown found ?_
  split
  · next running =>
    refine Wp.mono (wp_ask h foreground poised.toFree found poised.asking (patient ..)
      (fun closed => by cases running.symm.trans closed) (may running)
      (by rw [quota]; exact le_top)) fun _ _ _ asked => ⟨asked.1.mono le_top, .inl asked.2⟩
  · exact ⟨(Still.refl h).within, .inr ⟨rfl, rfl⟩⟩

/-- A task asks a session anything that is no query of the supervisor. -/
theorem wp_request {method params : Json} (h : Fit t κ γ s) (foreground : ¬ κ.IsBackground) (poised : (γ.duty t).Poised)
    (quota : (γ.duty t).quota = .endless) (patient : ∀ o c m, κ.patience o c m = some o.requestTimeout)
    (other : ∀ c, κ = .call (.supervisor c) → c.subject? = none) :
    discipline.wp t (Session.request i method params) (fun r γ' s' => Within t κ ⊤ (γ, s) (γ', s') ∧
      (Got t i method params r γ' ∨ Unasked i r)) γ s := by
  rcases found : s.sessions[i]? with _ | x
  · exact wp_getOr (fun x e => by cases found.symm.trans e) fun _ => ⟨(Still.refl h).within, .inr (.inl rfl)⟩
  · refine Wp.mono (wp_requestOf h foreground poised quota patient found fun _ c e about => ?_) fun _ _ _ asked =>
      ⟨asked.1, asked.2.imp_right fun unasked => .inr ⟨_, unasked.2⟩⟩
    rw [other c e] at about
    cases about

/-- A task reads the answer to a request. -/
theorem wp_readAnswer {method params : Json} {read : Json → Except Fault α} {Q : Except Fault α → Roster → World → Prop}
    (asks : discipline.wp t (Session.request i method params) (fun r => Q (r.bind read)) γ s) :
    discipline.wp t (Session.request i method params >>= fun answer => .ofExcept (read answer)) Q γ s :=
  Wp.seq asks (fun _ _ _ read => Wp.ofExcept read) fun _ _ _ failed => failed

/-- A task asks a session about a place in a document. -/
theorem wp_hover {uri line character : Json} (h : Fit t κ γ s) (foreground : ¬ κ.IsBackground) (poised : (γ.duty t).Poised)
    (quota : (γ.duty t).quota = .endless) (patient : ∀ o c m, κ.patience o c m = some o.requestTimeout)
    (other : ∀ c, κ = .call (.supervisor c) → c.subject? = none) :
    discipline.wp t (Session.hover i uri line character) (fun _ γ' s' => Within t κ ⊤ (γ, s) (γ', s')) γ s :=
  wp_readAnswer (Wp.mono (wp_request h foreground poised quota patient other) fun _ _ _ asked => asked.1)

/-- A task asks a session for the tokens of a document. -/
theorem wp_semanticTokens {uri : Json} {range : Option Range} (h : Fit t κ γ s) (foreground : ¬ κ.IsBackground)
    (poised : (γ.duty t).Poised) (quota : (γ.duty t).quota = .endless) (patient : ∀ o c m, κ.patience o c m = some o.requestTimeout)
    (other : ∀ c, κ = .call (.supervisor c) → c.subject? = none) :
    discipline.wp t (Session.semanticTokens i uri range) (fun _ γ' s' => Within t κ ⊤ (γ, s) (γ', s')) γ s := by
  cases range with
  | none | some =>
    exact wp_readAnswer (Wp.mono (wp_request h foreground poised quota patient other) fun _ _ _ asked => asked.1)

/-- A task tells a session that a document is open. -/
theorem wp_didOpen {uri languageId version text : Json} (h : Fit t κ γ s) (foreground : ¬ κ.IsBackground)
    (free : (γ.duty t).MaySend) :
    discipline.wp t (Session.didOpen i uri languageId version text) (fun _ γ' s' => Still t κ (γ, s) (γ', s')) γ s := by
  unfold Session.didOpen
  split
  · exact wp_notify h foreground free
  · exact .refl h

/-- A task tells a session that a document is closed. -/
theorem wp_didClose {uri : Json} (h : Fit t κ γ s) (foreground : ¬ κ.IsBackground) (free : (γ.duty t).MaySend) :
    discipline.wp t (Session.didClose i uri) (fun _ γ' s' => Still t κ (γ, s) (γ', s')) γ s := by
  unfold Session.didClose
  split
  · refine wp_passive h (passive_setSession
      (f := fun x => { x with diagnostics := x.diagnostics.filter fun d => Json.str d.1 ≠ uri }) (fun _ => rfl) i s) fun still => ?_
    have same := still.stays.duty
    exact Wp.mono (wp_notify still.fit foreground (by rw [same]; exact free)) fun _ _ _ told => still.trans told
  · exact .refl h

/-! ## Documents -/

/-- The supervisor is changed in what nobody waits for. -/
theorem passive_setDocuments {f : Supervisor → Supervisor}
    (same : ∀ v, { f v with documents := [] } = { v with documents := [] })
    (legible : ∀ d ∈ s.supervisor.documents, (Uri.parse? d.uri).isSome = true)
    (kept : ∀ d ∈ (f s.supervisor).documents, (Uri.parse? d.uri).isSome = true) : Passive s (s.setSupervisor f) :=
  .still (by
    simp only [World.ledger, World.setSupervisor, bare_of_legible legible, bare_of_legible kept, same]
    rfl) rfl rfl

/-- A task tells the present session something. -/
theorem wp_forward {tell : Nat → Act Unit} (h : Fit t κ γ s)
    (tells : ∀ i, discipline.wp t (tell i) (fun _ γ' s' => Still t κ (γ, s) (γ', s')) γ s) :
    discipline.wp t (Supervisor.forward tell) (fun _ γ' s' => Still t κ (γ, s) (γ', s')) γ s := by
  refine Wp.look ?_
  split
  · exact .refl h
  · refine Wp.attempt_seq (tells _) fun r γ₁ s₁ told => ?_
    split
    · exact told
    · split <;> exact told

/-- A task changes the documents and tells the present session. -/
theorem wp_publishDocument {f : Supervisor → Supervisor} {tell : Nat → Act Unit} {v : α} (h : Fit t κ γ s)
    (same : ∀ v, { f v with documents := [] } = { v with documents := [] })
    (kept : ∀ d ∈ (f s.supervisor).documents, (Uri.parse? d.uri).isSome = true) (free : (γ.duty t).MaySend)
    (tells : ∀ i γ s, Fit t κ γ s → (γ.duty t).MaySend →
      discipline.wp t (tell i) (fun _ γ' s' => Still t κ (γ, s) (γ', s')) γ s) :
    discipline.wp t (do
      Supervisor.modify f
      Supervisor.forward tell
      pure v) (fun _ γ' s' => Still t κ (γ, s) (γ', s')) γ s := by
  refine wp_passive h (passive_setDocuments same h.inv.legible kept) fun still => ?_
  have free₁ : (γ.duty t).MaySend := free
  exact Wp.seq (wp_forward still.fit fun i => tells i _ _ still.fit free₁) (fun _ _ _ told => still.trans told)
    fun _ _ _ told => still.trans told

/-- What a task does with the documents takes no time. -/
theorem wp_withDocuments {body : Act α} (h : Fit t κ γ s) (foreground : ¬ κ.IsBackground) (free : (γ.duty t).Free)
    (inside : ∀ γ' s', Fit t κ γ' s' → Onward (γ, s) (γ', s') → (γ'.duty t).MaySend →
      discipline.wp t body (fun _ γ'' s'' => Still t κ (γ', s') (γ'', s'')) γ' s') :
    discipline.wp t (Act.locked Supervisor.documentPlace body) (fun _ γ' s' => Still t κ (γ, s) (γ', s')) γ s := by
  have may : (γ.duty t).MayTake .documents :=
    ⟨free.queued, free.closing, free.pipes, fun held => absurd held free.documents⟩
  refine Wp.mono (wp_locked_passing (p := .documents) h (h.calm foreground) (use_of_foreground foreground) trivial may (fun e => by cases e)
    fun γ₁ s₁ fit _ duty _ onward => ?_) fun _ _ _ goes => goes.1
  have free₁ : (γ₁.duty t).MaySend := by
    rw [duty]
    exact ⟨free.queued, free.closing, fun i held => free.pipes i (List.mem_of_ne_of_mem (fun e => by cases e) held)⟩
  refine Wp.mono (inside γ₁ s₁ fit onward free₁) fun _ γ₂ s₂ still => ⟨still, fun doomed => ?_⟩
  exact absurd doomed (still.fit.calm foreground)

/-- The host opens a document. -/
theorem wp_openDocument {uri languageId : String} {text : Json} (h : Fit t κ γ s) (foreground : ¬ κ.IsBackground)
    (free : (γ.duty t).Free) :
    discipline.wp t (Supervisor.openDocument uri languageId text) (fun _ γ' s' => Still t κ (γ, s) (γ', s')) γ s := by
  refine Wp.seq (wp_belongs uri languageId γ s) ?_ ?_
  · rintro mine γ₁ s₁ ⟨rfl, rfl, legible⟩
    split
    · next served =>
      refine wp_withDocuments h foreground free fun γ₂ s₂ fit _ may => Wp.look ?_
      split
      · exact .refl fit
      · refine wp_publishDocument fit (fun _ => rfl) (fun d known => ?_) may fun i γ₃ s₃ fit₃ may₃ =>
          wp_didOpen fit₃ foreground may₃
        rcases List.mem_append.mp known with old | new
        · exact fit.inv.legible d old
        · rw [List.mem_singleton.mp new]
          exact legible (by rw [served])
    · exact .refl h
  · rintro f γ₁ s₁ ⟨rfl, rfl, -⟩
    exact .refl h

/-- The host changes a document. -/
theorem wp_changeDocument {uri : String} {text : Json} (h : Fit t κ γ s) (foreground : ¬ κ.IsBackground)
    (free : (γ.duty t).Free) :
    discipline.wp t (Supervisor.changeDocument uri text) (fun _ γ' s' => Still t κ (γ, s) (γ', s')) γ s := by
  refine wp_withDocuments h foreground free fun γ₂ s₂ fit _ may => Wp.look ?_
  split
  · exact .refl fit
  · next d tracked =>
    refine wp_publishDocument fit (fun _ => rfl) (fun e known => ?_) may fun i γ₃ s₃ fit₃ may₃ => wp_notify fit₃ foreground may₃
    obtain ⟨e', old, rfl⟩ := List.mem_map.mp known
    split
    · exact fit.inv.legible d (List.mem_of_find?_eq_some tracked)
    · exact fit.inv.legible e' old

/-- The host closes a document. -/
theorem wp_closeDocument {uri : String} (h : Fit t κ γ s) (foreground : ¬ κ.IsBackground) (free : (γ.duty t).Free) :
    discipline.wp t (Supervisor.closeDocument uri) (fun _ γ' s' => Still t κ (γ, s) (γ', s')) γ s := by
  refine wp_withDocuments h foreground free fun γ₂ s₂ fit _ may => Wp.look ?_
  split
  · exact .refl fit
  · exact wp_publishDocument fit (fun _ => rfl) (fun d known => fit.inv.legible d (List.mem_filter.mp known).1) may
      fun i γ₃ s₃ fit₃ may₃ => wp_didClose fit₃ foreground may₃

/-- A task tells a session of documents in turn. -/
theorem wp_replay {ds : List TrackedDocument} (h : Fit t κ γ s) (foreground : ¬ κ.IsBackground) (free : (γ.duty t).MaySend) :
    discipline.wp t (Supervisor.replay i ds) (fun _ γ' s' => Still t κ (γ, s) (γ', s')) γ s := by
  induction ds generalizing γ s with
  | nil => exact .refl h
  | cons d rest ih =>
    refine Wp.attempt_seq (wp_didOpen h foreground free) fun r γ₁ s₁ told => ?_
    split
    · have same := told.stays.duty
      exact Wp.mono (ih told.fit (by rw [same]; exact free)) fun _ _ _ more => told.trans more
    · split <;> exact told

/-! ## Queries -/

/-- What a query is told in the end: nothing if it was not asked, and otherwise what comes of its request. -/
inductive Queried (t : Nat) (c : SupervisorCall) (γ : Roster) : Except Fault Reply → Prop
  | unasked (silent : ∀ q ∈ γ.asks, q.task ≠ t) : Queried t c γ (.ok c.nothing)
  | asked {i : Nat} {method params : Json} {r : Except Fault Json} (query : c.query? = some (method, params))
    (got : Got t i method params r γ) : Queried t c γ (c.yields r)

/-- What a task is told in the end that was called to ask a session something, or its supervisor about a document. -/
structure Told (t : Nat) (κ : TaskKind) (r : Except Fault Reply) (γ : Roster) : Prop where
  asked : ∀ i method params, κ = .call (.session i (.request method params)) →
    ∃ r', r = r'.map .value ∧ (Got t i method params r' γ ∨ Unasked i r')
  queried : ∀ c, κ = .call (.supervisor c) → c.subject?.isSome = true → Queried t c γ r

/-- Who does not ask anything is told nothing of this kind. -/
theorem told_of_background {r : Except Fault Reply} (back : κ.IsBackground) : Told t κ r γ := by
  refine ⟨fun i method params e => ?_, fun c e => ?_⟩ <;>
    rw [e] at back <;> exact back.elim

/-- How it is decided which session can be asked about a document. -/
structure Decides (s : World) (c : SupervisorCall) (r : Except Fault (Option Nat)) : Prop where
  routes : ∀ i x, r = .ok (some i) → s.sessions[i]? = some x → x.state = .running → s.Routes c i
  held : ∀ i, r = .ok (some i) → s.supervisor.session = some i
  decided : ∃ session, r = .ok session

/-- The session that can be asked about a document. -/
theorem wp_routable {c : SupervisorCall} {uri : String} (h : Inv o γ s) (about : c.subject? = some uri) :
    discipline.wp t (Supervisor.routable uri) (fun r γ' s' => γ' = γ ∧ s' = s ∧ Decides s c r) γ s := by
  have nobody : Decides s c (.ok none) := ⟨fun _ _ e => (by cases e), fun _ e => (by cases e), none, rfl⟩
  refine Wp.look ?_
  split
  · exact ⟨rfl, rfl, nobody⟩
  · next d tracked =>
    refine Wp.bind (Wp.look (Wp.ofExcept ?_))
    have same : d.uri = uri := by simpa using List.find?_some tracked
    obtain ⟨u, read⟩ := Option.isSome_iff_exists.mp (h.legible d (List.mem_of_find?_eq_some tracked))
    have served : s.supervisor.handles uri d.languageId = _ := DocumentScope.contains_of_parse? (same ▸ read) _ d.languageId
    rw [served, Wp.after_ok]
    split
    · next mine =>
      split
      · exact ⟨rfl, rfl, nobody⟩
      · next i session =>
        refine Wp.look ?_
        split
        · next alive =>
          refine ⟨rfl, rfl, fun _ x e found running => ?_, fun _ e => by cases e; exact session, _, rfl⟩
          cases e
          exact ⟨session, alive, ⟨x, found, running⟩, uri, d, about, tracked, by rw [served, mine]⟩
        · exact ⟨rfl, rfl, nobody⟩
    · exact ⟨rfl, rfl, nobody⟩

/-- A task asks the session that knows a document, and reads the answer. -/
theorem wp_queried {c : SupervisorCall} {uri : String} {method params : Json} {read : Json → Except Fault (Option α)}
    (reply : Option α → Reply) {ask : Nat → Act (Option α)} {g : Option Nat → Act (Option α)}
    (kind : κ = .call (.supervisor c)) (h : Fit t κ γ s) (poised : (γ.duty t).Poised) (quota : (γ.duty t).quota = .endless)
    (patient : ∀ o c m, κ.patience o c m = some o.requestTimeout) (silent : ∀ q ∈ γ.asks, q.task ≠ t)
    (about : c.subject? = some uri) (query : c.query? = some (method, params)) (absent : c.nothing = reply none)
    (yields : ∀ r, c.yields r = (Supervisor.forgiven (r.bind read)).map reply)
    (nobody : g none = pure none) (somebody : ∀ i, g (some i) = Supervisor.query (ask i))
    (asks : ∀ i, ask i = Session.request i method params >>= fun answer => .ofExcept (read answer)) :
    discipline.wp t (Supervisor.routable uri >>= g) (fun r γ' s' =>
      Within t κ ⊤ (γ, s) (γ', s') ∧ Queried t c γ' (r.map reply)) γ s := by
  have foreground : ¬ κ.IsBackground := by rw [kind]; exact fun e => e
  have unasked : Queried t c γ (.ok (reply none)) := absent ▸ .unasked silent
  refine Wp.seq (wp_routable h.inv about) ?_ ?_
  · rintro (_ | i) γ₁ s₁ ⟨rfl, rfl, decides⟩
    · rw [nobody]
      exact ⟨(Still.refl h).within, unasked⟩
    · have bound := h.inv.tables.bound i (h.inv.tables.held i (decides.held i rfl))
      have bound : i < s₁.sessions.length := by simpa only [World.ledger, List.length_map] using bound
      have found := List.getElem?_eq_getElem bound
      rw [somebody, asks]
      refine Wp.attempt_seq (P := fun r γ' s' => Within t κ ⊤ (γ₁, s₁) (γ', s') ∧
        Queried t c γ' ((Supervisor.forgiven r).map reply)) (wp_readAnswer ?_) fun r γ₂ s₂ asked => ?_
      · refine Wp.mono (wp_requestOf h foreground poised quota patient found fun running c' e _ => ?_) ?_
        · cases kind.symm.trans e
          exact ⟨query, decides.routes i _ rfl found running, silent⟩
        · rintro r γ' s' ⟨within, got | ⟨rfl, rfl⟩⟩
          · exact ⟨within, yields r ▸ .asked query got⟩
          · exact ⟨within, unasked⟩
      · split
        · exact asked
        · exact asked
        · next f other =>
          have timely : f ≠ .timeout := other
          split
          · next forgiven =>
            simp only [Supervisor.forgiven, forgiven, or_true, if_true] at asked
            exact asked
          · next unforgiven =>
            rwa [show Supervisor.forgiven (α := α) (.error f) = .error f from
              if_neg fun e => e.elim timely unforgiven] at asked
  · rintro f γ₁ s₁ ⟨-, -, decides⟩
    obtain ⟨_, ⟨⟩⟩ := decides.decided

end LspHost.Clock

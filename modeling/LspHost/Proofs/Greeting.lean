import LspHost.Proofs.Chronicle
import LspHost.Proofs.Protocol.Selector

/-!
# What a server is told first

A session is set going by the task that opens it, and this task is to greet its server: it draws the number of the
first request and writes it. The account of that (`Greeting.account`) keeps for each task the session whose server it is to
greet (`Greeters`). Nobody else draws a number for such a session or leads it on, since a session that is held by the
supervisor was set going before and nobody is to greet its server any more (`Greeting.Met`). So the greeting is the first
request, and it tells the scope that the session was made with (`Greeting.Told`).

Result: `Setting.Reaches.selector_told`. The selector that a server reads in a handshake is the scope of the supervisor.
-/

namespace LspHost

open Discipline Program

/-! ## Who greets whom -/

/-- How far a session has come: its scope, its state and the number of its last request. -/
def Session.progress (x : Session) : DocumentScope × SessionState × Nat := (x.options.scope, x.state, x.lastRequest)

theorem Session.Inward.progress {f : Session → Session} (h : Session.Inward f) (x : Session) :
    (f x).progress = x.progress := by
  rw [Session.progress, h.options, h.state, h.lastRequest]
  rfl

namespace World

variable {s : World} {i j : Nat} {f : Session → Session}

theorem setSession_self {x : Session} (found : s.sessions[i]? = some x) : (s.setSession i f).sessions[i]? = some (f x) := by
  simp [setSession, found]

theorem setSession_ne (other : j ≠ i) : (s.setSession i f).sessions[j]? = s.sessions[j]? := by
  simp [setSession, Ne.symm other]

/-- A session after a change of one of them is an old one, or the one that was changed. -/
theorem getElem?_setSession {y : Session} (found : (s.setSession i f).sessions[j]? = some y) :
    (j ≠ i ∧ s.sessions[j]? = some y) ∨ ∃ x, j = i ∧ s.sessions[i]? = some x ∧ y = f x := by
  by_cases same : j = i
  · subst same
    obtain ⟨x, old, rfl⟩ : ∃ x, s.sessions[j]? = some x ∧ f x = y := by simpa [setSession] using found
    exact .inr ⟨x, rfl, old, rfl⟩
  · exact .inl ⟨same, setSession_ne same ▸ found⟩

end World

/-- For each task, the session that it has set going and whose server it is to greet. -/
abbrev Greeters := Nat → Option Nat

namespace Greeters

/-- A task is to greet the server of a session. -/
def enlist (γ : Greeters) (t i : Nat) : Greeters := fun u => if u = t then some i else γ u

/-- Nobody is to greet the server of a session any more. -/
def dismiss (γ : Greeters) (i : Nat) : Greeters := fun u => if γ u = some i then none else γ u

variable {γ : Greeters} {t u i j : Nat}

theorem dismiss_ne (γ : Greeters) (u i : Nat) : γ.dismiss i u ≠ some i := by
  unfold dismiss
  split
  · exact fun e => by cases e
  · assumption

theorem of_dismiss (h : γ.dismiss i u = some j) : γ u = some j := by
  unfold dismiss at h
  split at h
  · cases h
  · exact h

theorem dismiss_of_ne (h : γ u ≠ some i) : γ.dismiss i u = γ u := if_neg h

theorem enlist_self (γ : Greeters) (t i : Nat) : γ.enlist t i t = some i := if_pos rfl

theorem enlist_ne (γ : Greeters) (i : Nat) (h : u ≠ t) : γ.enlist t i u = γ u := if_neg h

theorem of_enlist (h : γ.enlist t i u = some j) : u = t ∧ j = i ∨ u ≠ t ∧ γ u = some j := by
  unfold enlist at h
  split at h
  · exact .inl ⟨‹_›, (Option.some.inj h).symm⟩
  · exact .inr ⟨‹_›, h⟩

end Greeters

theorem Request.method_of_made {number : Nat} {method params : Json} {r : Request}
    (made : ofMembers [("id", .int number), ("method", method), ("params", params)] = .ok r) : method = .str r.method := by
  unfold ofMembers at made
  generalize Schema.optional _ "params" _ = p at made
  cases method with
  | str m => rcases p with p | p <;> cases made; rfl
  | _ => rcases p with p | p <;> cases made

namespace Greeting

/-! ## The account -/

/-- A session was set going, and nobody is to greet its server any more. -/
structure Met (γ : Greeters) (s : World) (i : Nat) : Prop where
  going : ∃ x, s.sessions[i]? = some x ∧ x.state ≠ .notStarted
  alone : ∀ t, γ t ≠ some i

/-- A message is the first request to a server, and tells a scope. -/
def Told (scope : DocumentScope) (m : Members) : Prop :=
  ∃ cwd o p, Session.handshakeParams cwd o = .ok p ∧ o.scope = scope ∧
    m = (Message.request (Session.greeting 1 p)).wireMembers.logged

/-- What holds of sessions and greetings. -/
structure Holds (scope : DocumentScope) (γ : Greeters) (s : World) : Prop where
  same : s.supervisor.scope = scope
  made : ∀ (i : Nat) (x : Session), s.sessions[i]? = some x → x.options.scope = scope
  told : ∀ pid m, .sent pid m ∈ s.journal → m.IsGreeting → Told scope m
  unasked : ∀ (i : Nat) (x : Session), s.sessions[i]? = some x → x.state = .notStarted → x.lastRequest = 0
  greets : ∀ t i, γ t = some i → ∃ x, s.sessions[i]? = some x ∧ x.state = .initializing ∧ x.lastRequest = 0
  alone : ∀ t u i, γ t = some i → γ u = some i → t = u
  held : ∀ i, s.supervisor.session = some i → Met γ s i
  reused : s.supervisor.reused = none

/-- What a task counts on: nobody else greets for it or takes its greeting away, and whom it has met it has met. -/
structure Rely (t : Nat) (a b : Greeters × World) : Prop where
  loop : a.2.loop.Grows b.2.loop
  mine : b.1 t = a.1 t
  met : ∀ i, Met a.1 a.2 i → Met b.1 b.2 i

theorem Rely.refl (t : Nat) (a : Greeters × World) : Rely t a a := ⟨.refl _, rfl, fun _ h => h⟩

theorem Rely.trans {t : Nat} {a b c : Greeters × World} (h : Rely t a b) (h' : Rely t b c) : Rely t a c :=
  ⟨h.loop.trans h'.loop, h'.mine.trans h.mine, fun i met => h'.met i (h.met i met)⟩

/-- The account of greetings that tell a scope. -/
def account (scope : DocumentScope) : Account Greeters where
  Holds := Holds scope
  Rely := Rely
  Acts t f a γ' := ∀ u, u ≠ t → Rely u a (γ', f a.2)
  Known _ := True
  Serves := TaskKind.Supervised
  Waits _ _ _ _ := True
  Begins _ _ _ := True
  Ends _ _ _ _ _ := True
  Told _ _ _ _ _ := True

variable {scope : DocumentScope} {γ γ' : Greeters} {s s' : World} {t u i j : Nat} {α β : Type}

/-! ## Changes that are no steps of sessions -/

/-- Nothing is different of what the account is about. -/
structure Plain (a b : World) : Prop where
  loop : a.loop.Grows b.loop
  sessions : b.sessions.map Session.progress = a.sessions.map Session.progress
  scope : b.supervisor.scope = a.supervisor.scope
  session : b.supervisor.session = a.supervisor.session
  reused : b.supervisor.reused = a.supervisor.reused
  greetings : ∀ pid m, .sent pid m ∈ b.journal → m.IsGreeting → .sent pid m ∈ a.journal

namespace Plain

variable {a b c : World}

theorem refl (a : World) : Plain a a := ⟨.refl _, rfl, rfl, rfl, rfl, fun _ _ sent _ => sent⟩

theorem trans (h : Plain a b) (h' : Plain b c) : Plain a c :=
  ⟨h.loop.trans h'.loop, h'.sessions.trans h.sessions, h'.scope.trans h.scope, h'.session.trans h.session,
    h'.reused.trans h.reused, fun pid m sent greets => h.greetings pid m (h'.greetings pid m sent greets) greets⟩

/-- Sessions have come as far as before. -/
theorem progress (h : Plain a b) (i : Nat) :
    (b.sessions[i]?).map Session.progress = (a.sessions[i]?).map Session.progress := by
  rw [← List.getElem?_map, h.sessions, List.getElem?_map]

/-- Each session was there before. -/
theorem before (h : Plain a b) {y : Session} (found : b.sessions[i]? = some y) : ∃ x, a.sessions[i]? = some x ∧
    x.options.scope = y.options.scope ∧ x.state = y.state ∧ x.lastRequest = y.lastRequest := by
  obtain ⟨x, old, same⟩ := Option.map_eq_some_iff.mp ((h.progress i).symm.trans (congrArg _ found))
  exact ⟨x, old, by simpa [Session.progress] using same⟩

/-- Each session is still there. -/
theorem after (h : Plain a b) {x : Session} (found : a.sessions[i]? = some x) : ∃ y, b.sessions[i]? = some y ∧
    y.options.scope = x.options.scope ∧ y.state = x.state ∧ y.lastRequest = x.lastRequest := by
  obtain ⟨y, new, same⟩ := Option.map_eq_some_iff.mp ((h.progress i).trans (congrArg _ found))
  exact ⟨y, new, by simpa [Session.progress] using same⟩

theorem record {r : Record} (h : ¬ r.IsGreeting) (s : World) : Plain s (s.record r) := by
  refine ⟨.refl _, rfl, rfl, rfl, rfl, fun pid m sent greets => ?_⟩
  rcases List.mem_cons.mp sent with rfl | sent
  · exact absurd greets h
  · exact sent

theorem publish (e : Event) (s : World) : Plain s (s.publish e) := by
  obtain ⟨l, waiting, grows, step⟩ := World.publish_eq e s
  rw [step]
  exact { record (r := .published e) (fun h => h) s with loop := grows }

theorem setSession {f : Session → Session} (h : ∀ x, (f x).progress = x.progress) (i : Nat) (s : World) :
    Plain s (s.setSession i f) := by
  refine ⟨.refl _, List.ext_getElem? fun j => ?_, rfl, rfl, rfl, fun _ _ sent _ => sent⟩
  rw [List.getElem?_map, List.getElem?_map]
  by_cases same : j = i
  · subst same
    rcases found : s.sessions[j]? with _ | x
    · simp [World.setSession, found]
    · rw [World.setSession_self found, Option.map_some, Option.map_some, h]
  · rw [World.setSession_ne same]

theorem withServer {f : Living → Living} (orderly : ∀ x, Living.Orderly x (f x)) (i : Nat) (s : World) :
    Plain s (s.withServer i f) := by
  unfold World.withServer
  split
  · next p _ => exact ⟨(orderly (s.loop, p)).grows, rfl, rfl, rfl, rfl, fun _ _ sent _ => sent⟩
  · exact refl s

end Plain

theorem Met.congr (h : Met γ s i) (sessions : s'.sessions = s.sessions) : Met γ s' i :=
  ⟨sessions ▸ h.going, h.alone⟩

theorem Met.plain (h : Met γ s i) (plain : Plain s s') : Met γ s' i := by
  obtain ⟨⟨x, found, going⟩, alone⟩ := h
  obtain ⟨y, found', -, state, -⟩ := plain.after found
  exact ⟨⟨y, found', state ▸ going⟩, alone⟩

/-- Such a change keeps the account, and nobody minds it. -/
theorem Holds.plain (h : Holds scope γ s) (plain : Plain s s') : Holds scope γ s' ∧ ∀ t, Rely t (γ, s) (γ, s') := by
  refine ⟨⟨plain.scope.trans h.same, fun i y found => ?_, fun pid m sent greets => ?_, fun i y found state => ?_,
    fun t i mine => ?_, h.alone, fun i held => (h.held i (plain.session.symm.trans held)).plain plain,
    plain.reused.trans h.reused⟩, fun t => ⟨plain.loop, rfl, fun _ met => met.plain plain⟩⟩
  · obtain ⟨x, old, own, -, -⟩ := plain.before found
    exact own ▸ h.made i x old
  · exact h.told pid m (plain.greetings pid m sent greets) greets
  · obtain ⟨x, old, -, same, last⟩ := plain.before found
    exact last ▸ h.unasked i x old (same.trans state)
  · obtain ⟨x, found, state, last⟩ := h.greets t i mine
    obtain ⟨y, new, -, same, same'⟩ := plain.after found
    exact ⟨y, new, same.trans state, same'.trans last⟩

/-! ## Steps of sessions -/

/-- A task leads a session on: it is to greet its server, or nobody is any more. -/
def Leads (t i : Nat) (γ : Greeters) (s : World) : Prop := γ t = some i ∨ Met γ s i

theorem Leads.others (h : Holds scope γ s) (leads : Leads t i γ s) (other : u ≠ t) : γ u ≠ some i := by
  rcases leads with mine | met
  · exact fun theirs => other (h.alone u t i theirs mine)
  · exact met.alone u

theorem Leads.going (h : Holds scope γ s) (leads : Leads t i γ s) :
    ∃ x, s.sessions[i]? = some x ∧ x.state ≠ .notStarted := by
  rcases leads with mine | met
  · obtain ⟨x, found, state, -⟩ := h.greets t i mine
    exact ⟨x, found, by rw [state]; decide⟩
  · exact met.going

/-- A session is led on: its server is greeted now, or will not be. -/
theorem Holds.getOn (h : Holds scope γ s) (leads : Leads t i γ s) {f : Session → Session}
    (options : ∀ x, (f x).options = x.options)
    (started : ∀ x, s.sessions[i]? = some x → x.state ≠ .notStarted → (f x).state ≠ .notStarted) :
    Holds scope (γ.dismiss i) (s.setSession i f) ∧ Met (γ.dismiss i) (s.setSession i f) i ∧
      ∀ u, γ u ≠ some i → Rely u (γ, s) (γ.dismiss i, s.setSession i f) := by
  obtain ⟨x, found, going⟩ := leads.going h
  -- The session itself is met from now on, and others are as they were.
  have led : Met (γ.dismiss i) (s.setSession i f) i :=
    ⟨⟨f x, World.setSession_self found, started x found going⟩, fun u => γ.dismiss_ne u i⟩
  have met {j : Nat} (met : Met γ s j) : Met (γ.dismiss i) (s.setSession i f) j := by
    by_cases same : j = i
    · exact same ▸ led
    · exact ⟨by rw [World.setSession_ne same]; exact met.going, fun u mine => met.alone u (Greeters.of_dismiss mine)⟩
  refine ⟨⟨h.same, fun j y found' => ?_, h.told, fun j y found' state => ?_, fun u j mine => ?_, fun u v j mine theirs =>
    h.alone u v j (Greeters.of_dismiss mine) (Greeters.of_dismiss theirs), fun j held => met (h.held j held), h.reused⟩, led,
    fun u other => ⟨.refl _, Greeters.dismiss_of_ne other, fun _ => met⟩⟩
  · rcases World.getElem?_setSession found' with ⟨-, old⟩ | ⟨x, rfl, old, rfl⟩
    · exact h.made j y old
    · exact (options x).symm ▸ h.made j x old
  · rcases World.getElem?_setSession found' with ⟨-, old⟩ | ⟨x', rfl, old, rfl⟩
    · exact h.unasked j y old state
    · obtain rfl := Option.some.inj (found.symm.trans old)
      exact absurd state (started x found going)
  · have other : j ≠ i := fun same => γ.dismiss_ne u i (same ▸ mine)
    rw [World.setSession_ne other]
    exact h.greets u j (Greeters.of_dismiss mine)

/-- A session is set going, by the one who is to greet its server. -/
theorem Holds.begin (h : Holds scope γ s) (t : Nat) {x : Session} (found : s.sessions[i]? = some x)
    (state : x.state = .notStarted) {s' : World} (sets : s' = s.setSession i fun x => { x with state := .initializing }) :
    Holds scope (γ.enlist t i) s' ∧ ∀ u, u ≠ t → Rely u (γ, s) (γ.enlist t i, s') := by
  subst sets
  -- Whoever is to greet a server has set its session going before.
  have idle (u : Nat) : γ u ≠ some i := fun mine => by
    obtain ⟨y, found', going, -⟩ := h.greets u i mine
    obtain rfl := Option.some.inj (found.symm.trans found')
    cases state.symm.trans going
  have met {j : Nat} (met : Met γ s j) :
      Met (γ.enlist t i) (s.setSession i fun x => { x with state := .initializing }) j := by
    obtain ⟨⟨y, found', going⟩, alone⟩ := met
    have other : j ≠ i := fun e => going ((Option.some.inj (found.symm.trans (e ▸ found'))) ▸ state)
    refine ⟨⟨y, (World.setSession_ne other).trans found', going⟩, fun u theirs => ?_⟩
    rcases Greeters.of_enlist theirs with ⟨-, same⟩ | ⟨-, theirs⟩
    · exact other same
    · exact alone u theirs
  refine ⟨⟨h.same, fun j y found' => ?_, h.told, fun j y found' going => ?_, fun u j theirs => ?_,
    fun u v j first second => ?_, fun j held => met (h.held j held), h.reused⟩,
    fun u other => ⟨.refl _, γ.enlist_ne i other, fun _ => met⟩⟩
  · rcases World.getElem?_setSession found' with ⟨-, old⟩ | ⟨x', rfl, old, rfl⟩
    · exact h.made j y old
    · exact h.made j x' old
  · rcases World.getElem?_setSession found' with ⟨-, old⟩ | ⟨x', -, -, rfl⟩
    · exact h.unasked j y old going
    · cases going
  · rcases Greeters.of_enlist theirs with ⟨-, rfl⟩ | ⟨-, theirs⟩
    · exact ⟨_, World.setSession_self found, rfl, h.unasked j x found state⟩
    · have other : j ≠ i := fun same => idle u (same ▸ theirs)
      rw [World.setSession_ne other]
      exact h.greets u j theirs
  · rcases Greeters.of_enlist first with ⟨hu, rfl⟩ | ⟨-, older⟩ <;>
      rcases Greeters.of_enlist second with ⟨hv, same⟩ | ⟨-, older'⟩
    · exact hu.trans hv.symm
    · exact absurd older' (idle v)
    · exact absurd (same ▸ older) (idle u)
    · exact h.alone u v j older older'

/-- A session is made. -/
theorem Holds.create (h : Holds scope γ s) (server : ServerConfig) :
    Holds scope γ (Supervisor.createSession server (Supervisor.sessionOptions s.supervisor) s).2 ∧
      ∀ t, Rely t (γ, s) (γ, (Supervisor.createSession server (Supervisor.sessionOptions s.supervisor) s).2) := by
  let x := Session.fresh (Supervisor.sessionOptions s.supervisor) s.transports.length
  have old {j : Nat} {y : Session} (found : s.sessions[j]? = some y) : (s.sessions ++ [x])[j]? = some y := by
    rw [List.getElem?_append_left (List.getElem?_eq_some_iff.mp found).1, found]
  have either {j : Nat} {y : Session} (found : (s.sessions ++ [x])[j]? = some y) : s.sessions[j]? = some y ∨ y = x := by
    rcases Nat.lt_or_ge j s.sessions.length with bound | bound
    · exact .inl ((List.getElem?_append_left bound).symm.trans found)
    · rw [List.getElem?_append_right bound] at found
      exact .inr (List.mem_singleton.mp (List.mem_of_getElem? found))
  have met {j : Nat} (met : Met γ s j) :
      Met γ (Supervisor.createSession server (Supervisor.sessionOptions s.supervisor) s).2 j := by
    obtain ⟨⟨y, found, going⟩, alone⟩ := met
    exact ⟨⟨y, old found, going⟩, alone⟩
  refine ⟨⟨h.same, fun j y found => ?_, h.told, fun j y found state => ?_, fun u j mine => ?_, h.alone,
    fun j held => met (h.held j held), h.reused⟩, fun _ => ⟨.refl _, rfl, fun _ => met⟩⟩
  · rcases either found with found | rfl
    · exact h.made j y found
    · exact h.same
  · rcases either found with found | rfl
    · exact h.unasked j y found state
    · rfl
  · obtain ⟨y, found, rest⟩ := h.greets u j mine
    exact ⟨y, old found, rest⟩

/-- The supervisor lets go of its session, or takes up one that was set going. -/
theorem Holds.hold (h : Holds scope γ s) {session : Option Nat} (met : ∀ i, session = some i → Met γ s i) :
    Holds scope γ (s.setSupervisor fun v => { v with session := session }) ∧
      ∀ t, Rely t (γ, s) (γ, s.setSupervisor fun v => { v with session := session }) :=
  ⟨{ h with held := fun i held => (met i held).congr rfl }, fun _ => ⟨.refl _, rfl, fun _ h => h.congr rfl⟩⟩

/-- A greeting is written. -/
theorem Holds.greet (h : Holds scope γ s) {m : Members} (told : Told scope m) (pid : Nat) :
    Holds scope γ (s.record (.sent pid m)) ∧ ∀ t, Rely t (γ, s) (γ, s.record (.sent pid m)) := by
  refine ⟨{ h with told := fun pid' m' sent _ => ?_, held := fun i held => (h.held i held).congr rfl },
    fun _ => ⟨.refl _, rfl, fun _ h => h.congr rfl⟩⟩
  rcases List.mem_cons.mp sent with e | sent
  · obtain ⟨-, rfl⟩ := Record.sent.inj e
    exact told
  · exact h.told pid' m' sent ‹_›

/-! ## Programs -/

/-- A change that keeps the account whenever it holds, and that nobody minds. -/
def Smooth (scope : DocumentScope) (f : World → World) : Prop :=
  ∀ γ s, Holds scope γ s → Holds scope γ (f s) ∧ ∀ u, Rely u (γ, s) (γ, f s)

theorem Smooth.of_plain {f : World → World} (h : ∀ s, Plain s (f s)) : Smooth scope f :=
  fun _ s holds => holds.plain (h s)

/-- What a task knows while it stands still, and goes on to know when others run. -/
def Stable (t : Nat) (Φ : Greeters → World → Prop) : Prop := ∀ a b, Rely t a b → Φ a.1 a.2 → Φ b.1 b.2

/-- A program of a task that keeps the account and what the task knows. -/
def Keeps (scope : DocumentScope) (t : Nat) (Φ : Greeters → World → Prop) (α : Type) (p : Act α) : Prop :=
  ∀ γ s, Holds scope γ s → Φ γ s → (account scope).discipline.wp t p (fun _ γ s => Holds scope γ s ∧ Φ γ s) γ s

theorem stable_true : Stable t fun _ _ => True := fun _ _ _ h => h

theorem stable_met : Stable t (Met · · i) := fun _ _ rely met => rely.met i met

theorem stable_leads : Stable t (Leads t i) :=
  fun _ _ rely => Or.imp (fun mine => rely.mine.trans mine) (rely.met i)

theorem stable_greets : Stable t fun γ _ => γ t = some i := fun _ _ rely mine => rely.mine.trans mine

section Repertoire

variable {Φ : Greeters → World → Prop} (stable : Stable t Φ)
include stable

/-- A smooth change is one that a task may make. -/
theorem wp_smooth {f : World → World} (smooth : Smooth scope f) (h : Holds scope γ s) (known : Φ γ s) :
    (∀ u, u ≠ t → Rely u (γ, s) (γ, f s)) ∧ Holds scope γ (f s) ∧ Φ γ (f s) :=
  have ⟨kept, spares⟩ := smooth γ s h
  ⟨fun u _ => spares u, kept, stable _ _ (spares t) known⟩

/-- The programs that keep the account have a silent repertoire. -/
theorem silently : SilentRepertoire Eq (Keeps scope t Φ) (Smooth scope) where
  alike {a _} same := ⟨a.gate, same.symm⟩
  done _ _ _ h known := ⟨h, known⟩
  fail _ _ _ h known := ⟨h, known⟩
  bind first next γ s h known :=
    Wp.seq (first γ s h known) (fun a γ' s' ⟨h, known⟩ => next a γ' s' h known) fun _ _ _ h => h
  attempt keeps γ s h known := Wp.attempt (Wp.mono (keeps γ s h known) fun _ _ _ h => h)
  view f _ _ next γ s h known := Wp.look (next (f s) γ s h known)
  rest _ _ h known := Wp.rest ⟨h, trivial⟩ fun _ _ _ rely resumes => ⟨resumes.1, stable _ _ rely known⟩
  await _ _ _ h known := Wp.await (fun _ _ => ⟨h, known⟩) (fun _ => ⟨h, trivial⟩)
    fun _ _ _ _ rely resumes => ⟨resumes.1, stable _ _ rely known⟩
  update smooth γ _ h known :=
    have ⟨acts, kept⟩ := wp_smooth stable smooth h known
    ⟨γ, acts, kept⟩
  yield _ smooth γ _ h known :=
    have ⟨acts, kept⟩ := wp_smooth stable smooth h known
    ⟨γ, acts, kept⟩
  still := .of_plain .refl
  after first next γ s h :=
    have ⟨kept, spares⟩ := first γ s h
    have ⟨kept', spares'⟩ := next γ _ kept
    ⟨kept', fun u => (spares u).trans (spares' u)⟩
  choose pick _ _ smooth γ s h := smooth (pick s) γ s h
  onLoop grows := .of_plain fun s => ⟨grows s.loop, rfl, rfl, rfl, rfl, fun _ _ sent _ => sent⟩
  setServer _ _ _ := .of_plain fun _ => ⟨.refl _, rfl, rfl, rfl, rfl, fun _ _ sent _ => sent⟩
  withServer i _ orderly := .of_plain (Plain.withServer orderly i)
  setTransport _ _ := .of_plain fun _ => ⟨.refl _, rfl, rfl, rfl, rfl, fun _ _ sent _ => sent⟩
  setSession i _ inward := .of_plain (Plain.setSession inward.progress i)

/-- The programs that keep the account have a plain repertoire. -/
theorem repertoire : PlainRepertoire Eq (Keeps scope t Φ) (Smooth scope) where
  toSilentRepertoire := silently stable
  born _ _ := .of_plain fun _ => ⟨.refl _, rfl, rfl, rfl, rfl, fun _ _ sent _ => sent⟩
  attempts _ := .of_plain fun _ => ⟨.refl _, rfl, rfl, rfl, rfl, fun _ _ sent _ => sent⟩
  record _ other := .of_plain (Plain.record other)

/-- What is done under the lock of the documents keeps the account, too. -/
theorem withDocuments {p : Act β} (h : Keeps scope t Φ β p) : Keeps scope t Φ β (Act.locked Supervisor.documentPlace p) :=
  (silently stable).locked (fun _ _ same => by rw [same])
    (fun _ => .of_plain fun _ => ⟨.refl _, rfl, rfl, rfl, rfl, fun _ _ sent _ => sent⟩) h

end Repertoire

/-! ## Requests -/

theorem wp_get {g : Session → Act β} {Q : Except Fault β → Greeters → World → Prop}
    (there : ∀ x, s.sessions[i]? = some x → (account scope).discipline.wp t (g x) Q γ s)
    (missing : ∀ f, Q (.error f) γ s) : (account scope).discipline.wp t (Session.get i >>= g) Q γ s := by
  refine Wp.bind (Wp.look ?_)
  rcases found : s.sessions[i]? with _ | x
  · exact missing _
  · exact there x found

/-- The number of a request is drawn for a session that the task leads on: it is the first one if the task is to greet
the server. -/
theorem wp_nextRequest {g : Nat → Act β} {Q : Except Fault β → Greeters → World → Prop} (h : Holds scope γ s)
    (leads : Leads t i γ s)
    (next : ∀ γ' s' n, Holds scope γ' s' → Met γ' s' i → (γ t = some i → n = 1) →
      (∀ u, γ u ≠ some i → Rely u (γ, s) (γ', s')) → (account scope).discipline.wp t (g n) Q γ' s') :
    (account scope).discipline.wp t (Session.nextRequest i >>= g) Q γ s := by
  obtain ⟨x, found, -⟩ := leads.going h
  obtain ⟨kept, met, spares⟩ := h.getOn leads (f := fun x => { x with lastRequest := x.lastRequest + 1 }) (fun _ => rfl)
    fun _ _ going => going
  -- Who draws a number asks with it next, so that the greeting is out and nobody owes one any more.
  refine Wp.yield (γ.dismiss i) (fun u other => ?_) ?_
  · simp only [found]
    exact spares u (leads.others h other)
  · simp only [found]
    refine next _ _ _ kept met (fun mine => ?_) spares
    obtain ⟨y, found', -, last⟩ := h.greets t i mine
    rw [Option.some.inj (found.symm.trans found'), last]

/-- Asking for anything but a handshake, of a session that was met. -/
theorem wp_ask {Φ : Greeters → World → Prop} (stable : Stable t Φ) {method : Json} (params : Json) (time : Seconds)
    (other : method ≠ .str "initialize") (h : Holds scope γ s) (leads : Leads t i γ s)
    (knows : ∀ γ' s', Met γ' s' i → (∀ u, γ u ≠ some i → Rely u (γ, s) (γ', s')) → Φ γ' s') :
    (account scope).discipline.wp t (Session.ask i method params time) (fun _ γ s => Holds scope γ s ∧ Φ γ s) γ s := by
  refine wp_nextRequest h leads fun γ' s' n kept met _ spares => ?_
  refine (repertoire stable).pose (fun r made _ => ?_) γ' s' kept (knows γ' s' met spares)
  refine (repertoire stable).write fun greets => other ?_
  rw [Request.method_of_made made]
  exact Option.some.inj greets

/-- Requests of a session that is running. -/
theorem request {Φ : Greeters → World → Prop} (stable : Stable t Φ) (i : Nat) {method : Json} (params : Json)
    (other : method ≠ .str "initialize") : Keeps scope t Φ Json (Session.request i method params) := by
  intro γ s h known
  refine wp_get (fun x found => ?_) fun _ => ⟨h, known⟩
  split
  · next running =>
    -- A session whose server is still to be greeted is not running yet.
    have met : Met γ s i := by
      refine ⟨⟨x, found, by rw [running]; decide⟩, fun u mine => ?_⟩
      obtain ⟨y, found', state, -⟩ := h.greets u i mine
      obtain rfl := Option.some.inj (found.symm.trans found')
      cases running.symm.trans state
    exact wp_ask stable params _ other h (.inr met) fun γ' s' _ spares => stable _ _ (spares t (met.alone t)) known
  · exact Wp.fail ⟨h, known⟩

theorem connects {Φ : Greeters → World → Prop} (stable : Stable t Φ) : ConnectSweep (Keeps scope t Φ) :=
  (repertoire stable).connects fun i _ => request stable i

/-- A session gets another state. -/
theorem wp_setState {state : SessionState} (named : state ≠ .notStarted) (h : Holds scope γ s) (leads : Leads t i γ s) :
    (account scope).discipline.wp t (Session.setState i state) (fun _ γ s => Holds scope γ s ∧ Met γ s i) γ s := by
  obtain ⟨kept, met, spares⟩ := h.getOn leads (f := fun x => { x with state := state }) (fun _ => rfl)
    fun _ _ _ => named
  exact Wp.update (γ.dismiss i) (fun u other => spares u (leads.others h other)) ⟨kept, met⟩

/-- What a task does with a session that it leads on, apart from the handshake. -/
theorem leading : SessionSweep i (Keeps scope t (Leads t i)) :=
  { connects stable_leads with
    setState := fun named _ _ h leads => Wp.mono (wp_setState named h leads) fun _ _ _ ⟨h, met⟩ => ⟨h, .inr met⟩
    ask := fun params time other _ _ h leads => wp_ask stable_leads params time other h leads fun _ _ met _ => .inr met }

/-! ## Handshakes -/

/-- The handshake is the first request, and tells the scope of the session. -/
theorem wp_greet {cwd : String} {o : SessionOptions} {p : InitializeParams} (time : Seconds)
    (params : Session.handshakeParams cwd o = .ok p) (own : o.scope = scope) (h : Holds scope γ s) (mine : γ t = some i) :
    (account scope).discipline.wp t (Session.ask i (.str "initialize") (.obj (p.toMembers .omitted)) time)
      (fun _ γ s => Holds scope γ s ∧ Met γ s i) γ s := by
  refine wp_nextRequest h (.inl mine) fun γ' s' n kept met first _ => ?_
  obtain rfl := first mine
  refine (repertoire stable_met).pose (fun r made _ => ?_) γ' s' kept met
  obtain rfl : Session.greeting 1 p = r :=
    Except.ok.inj ((Request.ofMembers_made 1 "initialize" (some (p.toMembers .omitted))).symm.trans made)
  have told : Told scope (Message.request (Session.greeting 1 p)).wireMembers.logged := ⟨cwd, o, p, params, own, rfl⟩
  exact (repertoire stable_met).write_of fun pid _ _ h => h.greet told pid

theorem wp_shakeHands (h : Holds scope γ s) (mine : γ t = some i) :
    (account scope).discipline.wp t (Session.shakeHands i) (fun _ γ s => Holds scope γ s ∧ Leads t i γ s) γ s := by
  refine wp_get (fun x found => ?_) fun _ => ⟨h, .inl mine⟩
  refine Wp.look (Wp.bind (Wp.ofExcept ?_))
  rcases params : Session.handshakeParams s.files.cwd x.options with f | p
  · exact ⟨h, .inl mine⟩
  · refine Wp.seq (wp_greet x.options.handshakeTimeout params (h.made i x found) h mine) (fun answer γ₁ s₁ ⟨h₁, met⟩ => ?_)
      fun _ _ _ ⟨h, met⟩ => ⟨h, .inr met⟩
    have K : SessionSweep i (Keeps scope t (Leads t i)) := leading
    split
    · exact Wp.fail ⟨h₁, .inr met⟩
    · refine K.bind (K.mild i ?_) (fun _ => K.bind (K.notify _ (by decide)) fun _ => K.done _) γ₁ s₁ h₁ (.inr met)
      exact ⟨⟨fun _ => rfl, fun _ => rfl, fun _ => rfl, fun _ => rfl, fun _ => rfl⟩, fun _ => rfl, fun _ => rfl⟩

/-- A session was opened, or it was not: then somebody may have left it before its server was greeted. -/
def Opened (scope : DocumentScope) (i : Nat) {α : Type} (r : Except Fault α) (γ : Greeters) (s : World) : Prop :=
  Holds scope γ s ∧ ∀ a, r = .ok a → Met γ s i

theorem Opened.failed {f : Fault} (h : Holds scope γ s) : Opened scope i (.error f : Except Fault α) γ s :=
  ⟨h, fun _ e => by cases e⟩

/-- A session is given up, and it is said why. -/
theorem wp_abortWith (f : Fault) (h : Holds scope γ s) (leads : Leads t i γ s) :
    (account scope).discipline.wp t (Session.abort i >>= fun _ => Act.fail f)
      (Opened scope i : Except Fault α → Greeters → World → Prop) γ s :=
  Wp.seq (leading.abort γ s h leads) (fun _ _ _ ⟨h, _⟩ => Wp.fail (.failed h)) fun _ _ _ ⟨h, _⟩ => .failed h

theorem wp_introduce (h : Holds scope γ s) (mine : γ t = some i) :
    (account scope).discipline.wp t (Session.introduce i) (Opened scope i) γ s := by
  refine wp_get (fun x _ => ?_) fun _ => .failed h
  refine Wp.attempt_seq (wp_shakeHands h mine) fun r γ₁ s₁ ⟨h₁, leads⟩ => ?_
  split
  · exact Wp.seq (wp_setState (by decide) h₁ leads) (fun _ _ _ ⟨h, met⟩ => ⟨h, fun _ _ => met⟩)
      fun _ _ _ ⟨h, _⟩ => .failed h
  · exact wp_abortWith _ h₁ leads
  · split
    · exact wp_abortWith _ h₁ leads
    · exact Wp.fail (.failed h₁)

/-- A session is set going by the one who opens it, who then greets its server. -/
theorem wp_openSession (h : Holds scope γ s) :
    (account scope).discipline.wp t (Session.openSession i) (Opened scope i) γ s := by
  refine wp_get (fun x found => ?_) fun _ => .failed h
  split
  · exact Wp.fail (.failed h)
  · next state =>
    have K : PlainRepertoire Eq (Keeps scope t fun γ _ => γ t = some i) (Smooth scope) := repertoire stable_greets
    -- From here to its first request the task owes a greeting, also while it waits for the process.
    obtain ⟨kept, spares⟩ := h.begin t found (Classical.not_not.mp state) rfl
    refine Wp.change (γ.enlist t i) spares ?_
    refine Wp.attempt_seq ((connects stable_greets).connect _ _ kept (γ.enlist_self t i)) fun r γ₁ s₁ ⟨h₁, mine⟩ => ?_
    split
    · split
      · exact Wp.seq (wp_setState (by decide) h₁ (.inl mine)) (fun _ _ _ ⟨h, _⟩ => Wp.fail (.failed h))
          fun _ _ _ ⟨h, _⟩ => .failed h
      · exact Wp.fail (.failed h₁)
    · refine Wp.seq (K.start γ₁ s₁ h₁ mine) (fun reader γ₂ s₂ ⟨h₂, mine₂⟩ => ?_) fun _ _ _ ⟨h, _⟩ => .failed h
      exact Wp.seq (K.setReader γ₂ s₂ h₂ mine₂) (fun _ _ _ ⟨h, mine⟩ => wp_introduce h mine) fun _ _ _ ⟨h, _⟩ => .failed h

/-! ## Lifecycle operations -/

/-- What a task keeps that knows nothing. -/
abbrev Upholds (scope : DocumentScope) (t : Nat) : ∀ α : Type, Act α → Prop := Keeps scope t fun _ _ => True

theorem tells {Φ : Greeters → World → Prop} (stable : Stable t Φ) : Sweep.Tells (Keeps scope t Φ) :=
  fun _ _ _ _ => (repertoire stable).update (.of_plain fun s => Plain.publish _ s)

/-- The session that is held is stopped. -/
theorem wp_stopSession (h : Holds scope γ s) (met : Met γ s i) :
    (account scope).discipline.wp t (Supervisor.stopSession i) (fun _ γ s => Holds scope γ s ∧ True) γ s := by
  have letsGo : Keeps scope t (Leads t i) Unit (Supervisor.modify fun v => { v with session := none }) :=
    (repertoire stable_leads).update fun _ _ h => h.hold fun _ e => by cases e
  refine Wp.mono (leading.toSweep.stopSession (tells stable_leads) leading.closeSession letsGo γ s h (.inr met)) ?_
  exact fun _ _ _ ⟨h, _⟩ => ⟨h, trivial⟩

theorem doStop : Upholds scope t LifecycleResult Supervisor.doStop := by
  intro γ s h _
  refine Wp.look ?_
  rcases held : s.supervisor.session with _ | i
  · exact Wp.done ⟨h, trivial⟩
  · exact wp_stopSession h (h.held i held)

theorem stopForRestart : Upholds scope t LifecycleResult Supervisor.stopForRestart := by
  intro γ s h _
  refine Wp.look ?_
  rcases held : s.supervisor.session with _ | i
  · exact Wp.done ⟨h, trivial⟩
  · exact wp_stopSession h (h.held i held)

/-- A session that was opened is taken up. -/
theorem takeUp : Keeps scope t (Met · · i) Unit (Supervisor.takeUp i) :=
  (connects stable_met).takeUp (withDocuments stable_met) fun γ s h met =>
    have held (j : Nat) (e : some i = some j) : Met γ s j := Option.some.inj e ▸ met
    have ⟨kept, spares⟩ := h.hold held
    ⟨γ, fun u _ => spares u, kept, (spares t).met i met⟩

theorem launch : Upholds scope t LifecycleResult Supervisor.launch := by
  intro γ s h _
  have K : PlainRepertoire Eq (Upholds scope t) (Smooth scope) := repertoire stable_true
  have S : Sweep (Upholds scope t) := (connects stable_true).toSweep
  have news : Sweep.Tells (Upholds scope t) := tells stable_true
  -- No session is there to be reused (`Holds.reused`), so a new one is made.
  obtain ⟨kept, spares⟩ := h.create s.supervisor.config.server
  refine Wp.yield γ (fun u _ => ?_) ?_
  · simp only [h.reused]
    exact spares u
  · simp only [h.reused]
    refine Wp.seq (news _ _ _ (by decide) γ _ kept trivial) (fun _ γ₁ s₁ ⟨h₁, _⟩ => ?_) fun _ _ _ h => h
    refine Wp.attempt_seq (wp_openSession h₁) fun r γ₂ s₂ ⟨h₂, met⟩ => ?_
    split
    · refine Wp.seq (takeUp γ₂ s₂ h₂ (met _ rfl)) (fun _ γ₃ s₃ ⟨h₃, _⟩ => ?_) fun _ _ _ ⟨h, _⟩ => ⟨h, trivial⟩
      exact S.look _ (fun _ _ => rfl) (fun _ => S.bind (news _ _ _ (by decide)) fun _ => S.bind S.pidOf fun _ => S.done _)
        γ₃ s₃ h₃ trivial
    · exact S.startFailed news _ _ γ₂ s₂ h₂ trivial
    · split
      · exact S.startFailed news _ _ γ₂ s₂ h₂ trivial
      · exact Wp.fail ⟨h₂, trivial⟩

theorem doStart : Upholds scope t LifecycleResult Supervisor.doStart := by
  intro γ s h _
  have S : Sweep (Upholds scope t) := (connects stable_true).toSweep
  refine Wp.look ?_
  rcases held : s.supervisor.session with _ | i
  · exact launch γ s h trivial
  · refine Wp.look ?_
    split
    · exact S.bind S.pidOf (fun _ => S.done _) γ s h trivial
    · exact Wp.seq (wp_stopSession h (h.held i held)) (fun _ γ s ⟨h, _⟩ => launch γ s h trivial) fun _ _ _ h => h

theorem edits : Sweep.Edits (Upholds scope t) where
  withDocuments := withDocuments stable_true
  edit _ _ := (repertoire stable_true).update (.of_plain fun _ => ⟨.refl _, rfl, rfl, rfl, rfl, fun _ _ sent _ => sent⟩)

theorem operate (o : Operation) : Upholds scope t LifecycleResult (Supervisor.operate o) := by
  have K : PlainRepertoire Eq (Upholds scope t) (Smooth scope) := repertoire stable_true
  have S : Sweep (Upholds scope t) := (connects stable_true).toSweep
  have serialized (o : Operation) (policy : BusyPolicy) {p : Act LifecycleResult} (h : Upholds scope t LifecycleResult p) :
      Upholds scope t LifecycleResult (Supervisor.serialized o policy p) := by
    refine K.view _ (fun _ _ same => by rw [same]) fun v => ?_
    split
    · exact K.done _
    · exact K.locked (fun _ _ same => by rw [same])
        (fun _ => .of_plain fun _ => ⟨.refl _, rfl, rfl, rfl, rfl, fun _ _ sent _ => sent⟩) h
  exact S.operate edits serialized doStart doStop (S.doRestart (tells stable_true) stopForRestart doStart) o

/-! ## Turns -/

theorem tellDiagnostics {p : PublishedDiagnostics} : Upholds scope t Unit (Session.tellDiagnostics i p) := by
  refine (repertoire stable_true).update (.of_plain fun s => ?_)
  split
  · exact Plain.record (by exact fun e => e) s
  · unfold Supervisor.hearDiagnostics
    split
    · dsimp only
      split
      · exact (Plain.publish _ s).trans (Plain.record (by exact fun e => e) _)
      · exact Plain.publish _ s
    · exact .refl s
  · exact .refl s

theorem tellLog {level : Int} {text : String} : Upholds scope t Unit (Session.tellLog i level text) := by
  refine (repertoire stable_true).update (.of_plain fun s => ?_)
  split
  · exact Plain.record (by exact fun e => e) s
  · exact Plain.publish _ s
  · exact .refl s

theorem handleDiagnostics {params : Members} : Upholds scope t Unit (Session.handleDiagnostics i params) := by
  have K : PlainRepertoire Eq (Upholds scope t) (Smooth scope) := repertoire stable_true
  unfold Session.handleDiagnostics
  split
  · exact K.done ()
  · exact K.bind (K.update (.of_plain (Plain.setSession (by exact fun _ => rfl) i))) fun _ => tellDiagnostics

theorem readerTurn : Upholds scope t Turn (Session.readerTurn i) :=
  (repertoire stable_true).readerTurn
    (fun _ _ => .of_plain fun _ => ⟨.refl _, rfl, rfl, rfl, rfl, fun _ _ sent _ => sent⟩)
    (fun _ => .of_plain (Plain.record fun e => e)) (fun _ => handleDiagnostics) fun _ _ => tellLog

/-- Every turn keeps the account. -/
theorem turn {κ : TaskKind} (supervised : κ.Supervised) : Upholds scope t Turn (Client.turn κ) := by
  have S : Sweep (Upholds scope t) := (connects stable_true).toSweep
  refine (repertoire stable_true).turn supervised.sessional S edits (fun _ _ => readerTurn) (fun o _ => operate o)
    (fun _ _ => S.closeDocument edits fun j => ?_) (fun _ _ e => ?_) fun _ _ e => ?_
  · exact (repertoire stable_true).update (.of_plain (Plain.setSession (by exact fun _ => rfl) j))
  · subst e
    exact supervised.elim
  · subst e
    exact supervised.elim

theorem lawful (scope : DocumentScope) : (account scope).Lawful where
  refl := Rely.refl
  trans _ _ _ _ := Rely.trans
  acts _ _ _ _ acts := acts
  grows _ _ _ rely := rely.loop
  begins _ _ _ _ _ := trivial
  told _ _ _ _ _ _ _ := trivial
  ends _ _ _ _ _ _ := trivial
  waits _ _ _ _ _ _ := trivial
  backstage γ a b holds stage := by
    have plain : Plain a b := by
      rw [stage.rest]
      exact ⟨stage.loop, rfl, rfl, rfl, rfl, fun _ _ sent _ => sent⟩
    exact holds.plain plain
  stops t k γ s s' holds _ stop := by
    subst stop
    have plain : Plain s { s with loop := (s.loop.watch k (.task t)).setWaiting t (some k) } :=
      ⟨(Loop.grows_watch ..).trans (Loop.grows_setWaiting ..), rfl, rfl, rfl, rfl, fun _ _ sent _ => sent⟩
    exact holds.plain plain
  known _ _ known _ := known
  interrupted _ _ _ _ _ _ _ _ := trivial
  turn t κ γ s supervised kind holds _ _ := by
    refine Wp.mono (Wp.returns (Course.returns_turn supervised.sessional) (turn supervised γ s holds trivial)) ?_
    rintro (f | x) γ' s' ⟨⟨kept, -⟩, returns⟩
    · exact ⟨kept, trivial⟩
    · cases x with
      | onward κ' => exact ⟨kept, returns _ rfl κ' rfl, trivial⟩
      | finished r => exact ⟨kept, trivial⟩

/-- Before anything has happened nobody is to greet a server. -/
theorem holds_fresh (env : Environment) (files : Files) (scripts : List Script) (config : Config) (scope : DocumentScope)
    (clientVersion : Option String) (hasListener : Bool) (host : Host) (broker : Broker) :
    Holds scope (fun _ => none) (.fresh env files scripts (.fresh config scope clientVersion hasListener) host broker) where
  same := rfl
  made _ _ e := by cases e
  told _ _ e := by cases e
  unasked _ _ e := by cases e
  greets _ _ e := by cases e
  alone _ _ _ e := by cases e
  held _ e := by cases e
  reused := rfl

/-- What tells a scope is read as the scope. -/
theorem Told.selector? {m : Members} (h : Told scope m) :
    Framing.selector? (Framing.bodyOf (("jsonrpc", .str "2.0") :: m)) = some (DocumentScope.toSelector scope) := by
  obtain ⟨cwd, o, p, params, rfl, rfl⟩ := h
  have first : (decimalDigits (Int.natAbs 1)).length ≤ Json.maxDigits := by decide
  exact Session.selector?_greeting params first

end Greeting

/-- Every client that comes about has an account of greetings. -/
theorem Setting.Reaches.greeting {σ : Setting} {m : Machine} (h : σ.Reaches m) :
    ∃ scope γ, (Greeting.account scope).Sound γ m := by
  induction h with
  | fresh env files _ scope clientVersion hasListener host broker =>
    exact ⟨scope, fun _ => none, Greeting.holds_fresh .., fun u =>
      ⟨fun _ e => (by cases e), fun _ _ => trivial, fun _ e => by cases e⟩, fun _ e => by cases e⟩
  | next before next ih =>
    obtain ⟨scope, γ, sound⟩ := ih
    obtain ⟨_, known⟩ := before.sound
    -- A step is the turn of a task, which may change the account; the host only makes calls and lets time pass.
    cases next with
    | step step =>
      obtain ⟨γ', sound', -⟩ := sound.step? (Greeting.lawful scope)
        ⟨trivial, known.inv.tasks.supervised, fun _ _ _ _ _ _ _ => trivial⟩ step
      exact ⟨scope, γ', sound'⟩
    | host hosts => exact ⟨scope, γ, (sound.hosts (Greeting.lawful scope) hosts).1⟩

/-- The selector that a server reads in a handshake is the scope of the supervisor, and matches the documents that the
supervisor handles. The journal leaves out the version of the protocol, which stands in front in the body. -/
theorem Setting.Reaches.selector_told {σ : Setting} {m : Machine} (h : σ.Reaches m) {pid : Nat} {msg : Members}
    (sent : .sent pid msg ∈ m.world.journal) (greets : msg.get? "method" = some (.str "initialize")) :
    ∃ selector, Framing.selector? (Framing.bodyOf (("jsonrpc", .str "2.0") :: msg)) = some selector ∧
      DocumentScope.IsToldBy m.world.supervisor.scope selector ∧
      ∀ read, DocumentScope.ofDatum (.ofJson selector) = .ok read → ∀ uri languageId,
        DocumentScope.contains read uri languageId = m.world.supervisor.handles uri languageId := by
  obtain ⟨scope, γ, sound⟩ := h.greeting
  have holds := sound.holds
  have told := holds.told pid msg sent greets
  rw [← show m.world.supervisor.scope = scope from holds.same] at told
  refine ⟨_, told.selector?, DocumentScope.isToldBy_toSelector _, fun read is uri languageId => ?_⟩
  rw [DocumentScope.ofDatum_toSelector] at is
  rw [← Except.ok.inj is]
  rfl

/-- A client whose filters are empty, partial and repeated, after its start. -/
def Machine.greeted : Machine :=
  (Machine.ofWorld (.fresh [] ⟨"/", []⟩ [.obedient] (.fresh .sample
    [⟨none, none, none⟩, ⟨some "file", none, some "**/é.toml"⟩, ⟨none, some "", none⟩, ⟨none, none, none⟩] none false)
    (.fresh .standard 80) (.empty 0))).asks (.operate .start) 1

theorem Setting.reaches_greeted : Setting.sample.Reaches Machine.greeted :=
  (Setting.Reaches.fresh [] ⟨"/", []⟩ rfl _ none false _ _).asks (c := .operate .start) trivial 1

/-- Its server was greeted, and read all four filters. -/
theorem selector_told_greeted : ∃ (pid : Nat) (msg : Members) (selector : Json),
    .sent pid msg ∈ Machine.greeted.world.journal ∧ msg.get? "method" = some (.str "initialize") ∧
    Framing.selector? (Framing.bodyOf (("jsonrpc", .str "2.0") :: msg)) = some selector ∧
    DocumentScope.IsToldBy Machine.greeted.world.supervisor.scope selector ∧
    Machine.greeted.world.supervisor.scope.length = 4 := by
  have first : (Machine.greeted.world.told 1001).head?.bind (Members.get? · "method") = some (.str "initialize") := by
    decide +kernel
  obtain ⟨msg, head, greets⟩ := Option.bind_eq_some_iff.mp first
  have sent := World.sent_of_told (List.mem_of_head? head)
  obtain ⟨selector, found, told, -⟩ := Setting.Reaches.selector_told Setting.reaches_greeted sent greets
  exact ⟨1001, msg, selector, sent, greets, found, told, by decide +kernel⟩

end LspHost

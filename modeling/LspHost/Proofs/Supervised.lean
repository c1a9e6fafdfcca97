import LspHost.Client.Plan
import LspHost.Proofs.Running
import LspHost.Proofs.Sample

/-!
# What a supervisor keeps

`Setting.Reaches` are the clients that come about when the host asks nothing but its supervisor: anything
may be asked at any time, and servers do what their scripts say. Results:

1. `Setting.Reaches.one_process`: at most one process is alive, and when no lifecycle operation is in
   flight it is that of the running session that is held.
2. `Setting.Reaches.mirrored`: the server of the session that is held was told of all documents.
3. `Setting.Reaches.in_order`: what a process was told is a conversation.
4. `Setting.Reaches.replied`: how lifecycle operations are replied to.
-/

namespace LspHost

variable {σ : Setting} {γ : Ghost} {m m' : Machine} {s : World}

/-! ## Reachable clients -/

/-- The clients that come about when the host asks nothing but its supervisor. -/
inductive Setting.Reaches (σ : Setting) : Machine → Prop
  | fresh (env : Environment) (files : Files) (cwd : files.cwd = σ.cwd) (scope : DocumentScope)
      (clientVersion : Option String) (hasListener : Bool) (host : Host) (broker : Broker) :
    σ.Reaches (.ofWorld (.fresh env files σ.scripts
      (.fresh σ.config scope clientVersion hasListener) host broker))
  | next {m m' : Machine} (before : σ.Reaches m) (next : m.Happens m') : σ.Reaches m'

/-- Nothing was begun yet. -/
def Ghost.fresh : Ghost where
  holder _ := none
  untold := []
  tongue _ := []
  newborn := none
  parting := none
  role _ := .unissued
  doomed _ := false
  phase _ := .ready

/-- Before anything has happened the invariant holds. -/
theorem inv_fresh {env : Environment} {files : Files} (cwd : files.cwd = σ.cwd) {scope : DocumentScope}
    {clientVersion : Option String} {hasListener : Bool} {host : Host} {broker : Broker} :
    Inv σ none .fresh (.fresh env files σ.scripts (.fresh σ.config scope clientVersion hasListener)
      host broker) where
  tickets :=
    { unissued := fun _ => ⟨fun _ => Nat.zero_le _, fun _ => rfl⟩
      fits := fun _ _ e => by cases e
      timers := fun _ e => by cases e
      ready := fun _ e => by cases e
      watchers := fun _ _ e => by cases e
      endings := fun _ _ e => by cases e
      ended := fun _ _ _ _ e => by cases e
      streams := fun _ _ _ _ _ e => by cases e
      exits := fun _ _ _ e => by cases e
      pending := fun _ _ _ e => by cases e
      getters := rfl }
  tasks :=
    { supervised := fun _ _ e => by cases e
      running := fun _ e => by cases e
      stopped := fun _ => rfl
      background := fun _ e => by cases e
      interrupted := fun _ e => by cases e
      waits := fun _ _ _ e => by cases e
      doomed := fun _ _ e => by cases e
      drainers := fun _ _ _ e => by cases e
      undrained := fun _ _ => rfl
      awaited := fun _ _ _ e => by cases e
      served := fun _ _ e => by rcases e with e | e <;> cases e }
  locks p := by
    cases p <;> exact ⟨.nil, fun _ e => (by cases e), rfl, fun _ e => by cases e⟩
  holders := ⟨fun _ _ e => (by cases e), fun _ e => (by cases e), fun _ e => by cases e⟩
  life :=
    { config := rfl, scripts := rfl, cwd := cwd, reused := rfl, paired := rfl
      seats := fun _ _ e => by cases e
      commands := fun _ e => by cases e
      pids := fun _ _ _ _ e => by cases e
      attempted := fun _ e => by cases e
      posted := fun _ e => by cases e
      tame := fun _ _ e => by cases e
      owned := fun _ _ e => by cases e
      owner := fun _ _ _ e => by cases e
      deaf := fun _ e => by cases e
      drains := fun _ _ _ e => by cases e
      readers := fun _ _ _ e => by cases e
      unstarted := fun _ e => by cases e
      newest := fun _ _ _ _ e => by cases e
      held := fun _ e => by cases e
      atRest := fun _ => ⟨fun _ _ _ _ e => (by cases e), fun _ e => by cases e⟩ }
  order := ⟨fun _ e => (by cases e), fun _ _ _ e => by cases e⟩
  mirror :=
    { distinct := .nil
      legible := fun _ e => by cases e
      followed := fun _ e => by cases e
      mirrored := fun _ _ _ e => by cases e
      done := fun _ => rfl
      early := fun _ _ _ _ _ e => by cases e
      refused := fun _ e => by cases e }
  closed := fun _ _ _ _ e => by cases e

/-- Every client that comes about is sound. -/
theorem Setting.Reaches.sound (h : σ.Reaches m) : ∃ γ, Sound σ γ m := by
  induction h with
  | fresh _ _ cwd =>
    refine ⟨.fresh, inv_fresh cwd, ⟨rfl, rfl, rfl⟩, fun u => ⟨fun _ e => ?_, fun _ e => ?_, fun _ _ => ?_, fun _ _ e => ?_⟩⟩
    · cases e
    · cases e
    · exact ⟨rfl, fun _ e => by cases e⟩
    · cases e
  | next _ next ih =>
    obtain ⟨γ, sound⟩ := ih
    exact sound.happens next

/-! ## What a host does -/

theorem Setting.Reaches.runUntil (h : σ.Reaches m) (ticket deadline fuel : Nat) :
    σ.Reaches (m.runUntil Client.turn ticket deadline fuel) := by
  induction fuel generalizing m with
  | zero => exact h
  | succ fuel ih =>
    simp only [Machine.runUntil]
    split
    · exact h
    · split
      · exact h
      · split
        · exact h
        · split
          · exact h
          · next step => exact ih (.next h (.step step))

/-- The host asks its supervisor for something and waits for the reply, up to a point in time. -/
def Machine.asks (m : Machine) (c : SupervisorCall) (deadline : Nat) : Machine :=
  let (begun, m) := Client.begin (.supervisor c) m
  Client.wait deadline begun m

theorem Setting.Reaches.asks (h : σ.Reaches m) {c : SupervisorCall} (proper : c.Proper) (deadline : Nat) :
    σ.Reaches (m.asks c deadline) := by
  have asked : σ.Reaches (m.start (.call (.supervisor c))).2 := .next h (.host (.call _ proper))
  simp only [Machine.asks, Client.begin, Client.wait, Client.waitForTask]
  split
  · exact Setting.Reaches.runUntil (.next asked (.host (.after _))) _ _ _
  · exact asked

/-! ## Calls in flight -/

/-- Calls to a supervisor for a lifecycle operation. -/
def SupervisorCall.IsOperation (c : SupervisorCall) : Prop := ∃ o, c = .operate o

/-- No call of some kind is in flight: all have been replied to. -/
def Machine.NoneInFlight (m : Machine) (P : SupervisorCall → Prop) : Prop :=
  ∀ u c, m.world.loop.kind? u = some (.call (.supervisor c)) → P c → m.hasEnded u = true

/-- Whether a task is a call to a supervisor. -/
def TaskKind.asksSupervisor : TaskKind → Bool
  | .call (.supervisor _) => true
  | _ => false

theorem Machine.noneInFlight_of_all {P : SupervisorCall → Prop}
    (h : (List.range m.world.loop.tasks.length).all (fun u =>
      m.hasEnded u || !(m.world.loop.kind? u).any TaskKind.asksSupervisor) = true) :
    m.NoneInFlight P := by
  intro u c kind _
  obtain ⟨T, found, -⟩ := Option.map_eq_some_iff.mp kind
  have bound := (List.getElem?_eq_some_iff.mp found).1
  have either := List.all_eq_true.mp h u (List.mem_range.mpr bound)
  rw [kind] at either
  simpa [TaskKind.asksSupervisor] using either

/-- Who has been replied to holds nothing. -/
theorem Sound.idle_of_ended {u : Nat} (h : Sound σ γ m) (ended : m.hasEnded u = true) : Idle u γ := by
  obtain ⟨r, reply⟩ := Option.isSome_iff_exists.mp ended
  have phase := ((h.stands u).ended r reply).1
  refine (h.stands u).idle (Machine.isSuspended_eq_false.mpr fun x hx mine => ?_)
  cases phase.symm.trans ((h.stands u).stopped x hx mine).1

theorem Sound.lifecycle_free (h : Sound σ γ m) (done : m.NoneInFlight SupervisorCall.IsOperation) :
    γ.holder .lifecycle = none := by
  rcases holder : γ.holder .lifecycle with _ | u
  · rfl
  · obtain ⟨o, kind⟩ := h.inv.holders.lifecycle u holder
    exact absurd holder (h.idle_of_ended (done u _ kind ⟨o, rfl⟩) _)

theorem Sound.documents_free (h : Sound σ γ m) (done : m.NoneInFlight SupervisorCall.Tells) :
    γ.holder .documents = none := by
  rcases holder : γ.holder .documents with _ | u
  · rfl
  · obtain ⟨c, kind, tells⟩ := h.inv.holders.documents u holder
    exact absurd holder (h.idle_of_ended (done u c kind tells) _)

/-! ## A client to try things on -/

/-- Servers that do as they are told. -/
def Setting.sample : Setting := ⟨.sample, [.obedient], "/"⟩

theorem Setting.sample_tame : Setting.sample.Tame := by
  intro s hs
  obtain rfl := List.mem_singleton.mp hs
  exact ⟨rfl, by decide⟩

theorem Setting.sample_resolvable : Setting.sample.Resolvable := ⟨none, rfl⟩

/-- A document of a host. -/
def SupervisorCall.sample : SupervisorCall := .openDocument "file:///a.toml" "toml" (.str "x")

/-- A client that was told of a document and then started. -/
def Machine.sample : Machine :=
  ((Machine.ofWorld (.sample [.obedient])).asks .sample 1).asks (.operate .start) 1

theorem Setting.reaches_sample : Setting.sample.Reaches Machine.sample := by
  have fresh : Setting.sample.Reaches (.ofWorld (.sample [.obedient])) :=
    .fresh [] ⟨"/", []⟩ rfl .standard none false _ _
  have opened := fresh.asks (c := .sample) ⟨"x", rfl⟩ 1
  exact opened.asks (c := .operate .start) trivial 1

/-! ## Processes -/

namespace World

/-- A session is held. -/
def Holds (s : World) (i : Nat) (x : Session) : Prop :=
  s.supervisor.session = some i ∧ s.sessions[i]? = some x

/-- The process of a session. -/
def Serves (s : World) (x : Session) (j : Nat) (p : Server) : Prop :=
  s.serverOf? x.transport = some j ∧ s.servers[j]? = some p

theorem processes_getElem? {j : Nat} {p : Server} (h : s.servers[j]? = some p) :
    s.overview.processes[j]? = some p.shown := by
  simp [overview, h]

/-- A session that is held and running, as the overview shows it. -/
theorem holds_of_busy {i j : Nat} (life : Life σ γ s.overview) (session : s.overview.session = some i)
    (state : s.overview.state? i = some .running) (server : s.overview.serverOf? i = some j) :
    ∃ x p, s.Holds i x ∧ x.state = .running ∧ s.Serves x j p := by
  obtain ⟨seat, found, running⟩ := Option.map_eq_some_iff.mp state
  obtain ⟨x, hx, rfl⟩ := Option.map_eq_some_iff.mp
    ((List.getElem?_map (f := Session.seat) (l := s.sessions) (i := i)).symm.trans found)
  have transport : x.transport = i := (life.seats i _ found).1
  have bound : j < s.servers.length := by simpa [overview] using life.owned i j server
  refine ⟨x, s.servers[j], ⟨session, hx⟩, running, ?_, List.getElem?_eq_getElem bound⟩
  rw [transport, ← overview_serverOf?]
  exact server

end World

/-- What any process was told is a conversation: a handshake, then documents and requests, then the
shutdown request, then documents at most, and nothing after the exit. -/
theorem Setting.Reaches.in_order (h : σ.Reaches m) :
    ∀ p ∈ m.world.servers, ∃ st, Talk.after? (m.world.said p.pid) .silent = some st := by
  obtain ⟨γ, sound⟩ := h.sound
  exact fun p hp => sound.inv.order.written p.shown (List.mem_map_of_mem hp)

/-- The server of the sample was told three things, and they are a conversation. -/
theorem in_order_opened :
    Machine.sample.world.servers.map (fun p => (Machine.sample.world.said p.pid).length) = [3] ∧
    ∀ p ∈ Machine.sample.world.servers,
      ∃ st, Talk.after? (Machine.sample.world.said p.pid) .silent = some st :=
  ⟨by decide +kernel, Setting.Reaches.in_order Setting.reaches_sample⟩

/-! ## Replies -/

end LspHost

import LspHost.Client
import LspHost.Proofs.Hearing
import LspHost.Proofs.Operating

/-!
# Turns of tasks

What a task has done when its turn ends (`TurnEnds`): it holds nothing, it ends as a cancelled one if it
was cancelled, another turn that follows at once is one of its own kind, and a lifecycle operation ends
as it may. So it is for every task of a client whose host asks nothing but its supervisor (`wp_turn`).
-/

namespace LspHost

open Discipline

variable {σ : Setting} {t : Nat} {κ : TaskKind} {γ γ' : Ghost} {s s' : World}

/-- A task may take a turn. -/
structure MayTurn (σ : Setting) (t : Nat) (κ : TaskKind) (γ : Ghost) (s : World) : Prop where
  poised : Poised σ t γ s
  idle : Idle t γ
  live : γ.doomed t = false
  kind : s.loop.kind? t = some κ
  free : ∀ j, κ = .drain j → s.errorWaiter? j = none

/-- How an operation is replied to. -/
def Operation.Answers (σ : Setting) (o : Operation) (r : Except Fault Reply) (s : World) : Prop :=
  ∃ x : Except Fault LifecycleResult, r = x.map .lifecycle ∧ o.Ends σ x s

/-- How a call to a supervisor is replied to. -/
structure SupervisorCall.Ends (σ : Setting) (c : SupervisorCall) (r : Except Fault Reply) (s : World) : Prop where
  answers : ∀ o, c = .operate o → o.Answers σ r s
  fails : ∀ f, r = .error f → c.MayFail f

/-- How a turn of a task ends. -/
structure TurnEnds (σ : Setting) (t : Nat) (κ : TaskKind) (r : Except Fault Turn) (γ : Ghost) (s : World) :
    Prop where
  poised : Poised σ t γ s
  idle : Idle t γ
  cancelled : γ.doomed t = true → r = .error .cancelled
  fits : EndFits γ s t κ (r.map fun _ => .null)
  onward : ∀ κ', r = .ok (.onward κ') → κ' = κ ∧ ∀ j, κ = .drain j → s.errorWaiter? j = none
  finished : ∀ c x, κ = .call (.supervisor c) → r = .ok (.finished x) → c.Ends σ (.ok x) s
  failed : ∀ c f, κ = .call (.supervisor c) → r = .error f → c.Ends σ (.error f) s

/-! ## Tasks that serve a session -/

theorem wp_turn_reader {i : Nat} (h : MayTurn σ t (.reader i) γ s) :
    (discipline σ).wp t (Client.turn (.reader i)) (TurnEnds σ t (.reader i)) γ s := by
  refine Wp.mono (wp_readerTurn h.poised h.idle h.live h.kind) ?_
  rintro r γ' s' ⟨acts, onward⟩
  exact
    { poised := acts.poised, idle := acts.idle, cancelled := acts.cancelled, fits := trivial
      onward := fun κ' e => ⟨onward κ' e, fun j e => by cases e⟩
      finished := fun _ _ e => by cases e
      failed := fun _ _ e => by cases e }

theorem wp_turn_drain {j : Nat} (h : MayTurn σ t (.drain j) γ s) :
    (discipline σ).wp t (Client.turn (.drain j)) (TurnEnds σ t (.drain j)) γ s := by
  refine Wp.mono (wp_drainTurn h.poised h.idle h.live h.kind (h.free j rfl)) ?_
  rintro r γ' s' ⟨acts, free, ends⟩
  exact
    { poised := acts.poised, idle := acts.idle, cancelled := acts.cancelled
      fits := fun f e => by
        rcases ends with ⟨f', rfl, ends⟩ | rfl | rfl
        · cases e; exact ends
        · cases e
        · cases e
      onward := fun κ' e => by
        rcases ends with ⟨f', rfl, -⟩ | rfl | rfl
        · cases e
        · cases e; exact ⟨rfl, fun _ e => by cases e; exact free⟩
        · cases e
      finished := fun _ _ e => by cases e
      failed := fun _ _ e => by cases e }

theorem wp_turn_exitWatch {j : Nat} (h : MayTurn σ t (.exitWatch j) γ s) :
    (discipline σ).wp t (Client.turn (.exitWatch j)) (TurnEnds σ t (.exitWatch j)) γ s := by
  refine Wp.mono (wp_exitWatchTurn h.poised h.idle h.live h.kind) ?_
  rintro r γ' s' ⟨acts, ends⟩
  exact
    { poised := acts.poised, idle := acts.idle, cancelled := acts.cancelled
      fits := by
        rcases ends with ⟨rfl, doomed⟩ | ⟨rfl, dead⟩
        · exact ⟨fun _ e => (by cases e), fun f e => ⟨(Except.error.inj e).symm, doomed⟩⟩
        · exact ⟨fun _ _ => dead, fun _ e => by cases e⟩
      onward := fun κ' e => by
        rcases ends with ⟨rfl, -⟩ | ⟨rfl, -⟩
        · cases e
        · cases e
      finished := fun _ _ e => by cases e
      failed := fun _ _ e => by cases e }

/-! ## Calls -/

/-- Whatever a task runs, it keeps what everybody keeps. -/
theorem wp_keeps {α : Type} {p : Act α} {Q : Except Fault α → Ghost → World → Prop}
    (h : (discipline σ).wp t p Q γ s) :
    (discipline σ).wp t p (fun r γ' s' => Q r γ' s' ∧ Keeps (γ, s) (γ', s')) γ s :=
  Wp.keeping (D := discipline σ) .refl (fun _ _ _ => .trans) (fun _ _ _ acts => keeps_of_spares (σ := σ) acts)
    (fun _ _ rely => rely.toKeeps) h

/-- A call ends when it has come to rest, and one to the supervisor when it has ended as it may. -/
theorem wp_turn_call {c : Call} (h : MayTurn σ t (.call c) γ s)
    (run : (discipline σ).wp t (Client.runCall c)
      (fun r γ' s' => Rests σ t γ' s' ∧ ∀ c', c = .supervisor c' → c'.Ends σ r s') γ s) :
    (discipline σ).wp t (Client.turn (.call c)) (TurnEnds σ t (.call c)) γ s := by
  have live {γ' : Ghost} {s' : World} (rests : Rests σ t γ' s') (keeps : Keeps (γ, s) (γ', s')) :
      γ'.doomed t = false :=
    rests.1.live ⟨_, keeps.loop.kinds t _ h.kind, fun back => back⟩
  refine Wp.seq (wp_keeps run) ?_ ?_
  · rintro x γ' s' ⟨⟨rests, ends⟩, keeps⟩
    exact
      { poised := rests.1, idle := rests.2, fits := trivial
        cancelled := fun doomed => by cases (live rests keeps).symm.trans doomed
        onward := fun _ e => by cases e
        finished := fun c' _ e e' => by cases e; cases e'; exact ends c' rfl
        failed := fun _ _ _ e => by cases e }
  · rintro f γ' s' ⟨⟨rests, ends⟩, keeps⟩
    exact
      { poised := rests.1, idle := rests.2, fits := trivial
        cancelled := fun doomed => by cases (live rests keeps).symm.trans doomed
        onward := fun _ e => by cases e
        finished := fun _ _ _ e => by cases e
        failed := fun c' _ e e' => by cases e; cases e'; exact ends c' rfl }

/-- Replying with what a program yields. -/
theorem wp_replied {α : Type} {p : Act α} {reply : α → Reply}
    {Q : Except Fault Reply → Ghost → World → Prop}
    (run : (discipline σ).wp t p (fun r => Q (r.map reply)) γ s) :
    (discipline σ).wp t (do pure (reply (← p))) Q γ s :=
  Wp.seq run (fun _ _ _ post => post) fun _ _ _ post => post

/-- What a host asks of a supervisor. -/
theorem wp_asked {c : SupervisorCall} (h : AtCall σ t c γ s) (proper : c.Proper) :
    (discipline σ).wp t (Supervisor.run c) (fun r γ' s' => Rests σ t γ' s' ∧ c.Ends σ r s') γ s := by
  have calm {α : Type} {p : Act α} {reply : α → Reply} (other : ∀ o, c ≠ .operate o)
      (run : (discipline σ).wp t p (fun r γ' s' => Rests σ t γ' s' ∧ ∀ f, r = .error f → c.MayFail f) γ s) :
      (discipline σ).wp t (do pure (reply (← p))) (fun r γ' s' => Rests σ t γ' s' ∧ c.Ends σ r s') γ s := by
    refine wp_replied (Wp.mono run fun r _ _ post => ⟨post.1, fun o e => absurd e (other o), fun f e => post.2 f ?_⟩)
    cases r with
    | ok => cases e
    | error => exact congrArg Except.error (Except.error.inj e)
  have free {α : Type} {p : Act α} (all : ∀ f, c.MayFail f) (run : (discipline σ).wp t p (fun _ => Rests σ t) γ s) :
      (discipline σ).wp t p (fun r γ' s' => Rests σ t γ' s' ∧ ∀ f, r = .error f → c.MayFail f) γ s :=
    Wp.mono run fun _ _ _ rests => ⟨rests, fun f _ => all f⟩
  cases c with
  | operate o =>
    refine wp_replied (Wp.mono (wp_operate h) ?_)
    rintro r γ' s' ⟨rests, ends⟩
    exact ⟨rests, fun _ e => by cases e; exact ⟨r, rfl, ends⟩, fun _ _ => trivial⟩
  | openDocument uri languageId text =>
    obtain ⟨str, rfl⟩ := proper
    exact calm (fun _ e => by cases e) (wp_openDocument h trivial uri languageId str)
  | changeDocument uri text =>
    obtain ⟨str, rfl⟩ := proper
    exact calm (fun _ e => by cases e) (wp_changeDocument h trivial uri str)
  | closeDocument uri => exact calm (fun _ e => by cases e) (wp_closeDocument h trivial uri)
  | hover uri line character =>
    exact calm (fun _ e => by cases e) (free (fun _ => trivial) (wp_hover h uri line character))
  | tokens uri range => exact calm (fun _ e => by cases e) (free (fun _ => trivial) (wp_semanticTokens h uri range))
  | request => exact proper.elim

/-- One turn of any task. -/
theorem wp_turn (h : MayTurn σ t κ γ s) :
    (discipline σ).wp t (Client.turn κ) (TurnEnds σ t κ) γ s := by
  have proper := h.poised.inv.tasks.supervised t κ h.kind
  cases κ with
  | reader => exact wp_turn_reader h
  | drain => exact wp_turn_drain h
  | exitWatch => exact wp_turn_exitWatch h
  | trace => exact proper.elim
  | showEvents => exact proper.elim
  | terminal => exact proper.elim
  | call c =>
    refine wp_turn_call h ?_
    cases c with
    | supervisor c =>
      refine Wp.mono (wp_asked ⟨h.poised, h.idle, h.kind⟩ proper) ?_
      rintro r γ' s' ⟨rests, ends⟩
      exact ⟨rests, fun c' e => Call.supervisor.inj e ▸ ends⟩
    | sleep time =>
      have fore : Foreground t s := ⟨_, h.kind, fun back => back⟩
      refine Wp.seq (wp_sleep h.poised fore time.nanos?) ?_ (by rintro _ _ _ ⟨e, -⟩; cases e)
      rintro _ γ' s' ⟨-, poised, rely⟩
      exact Wp.done ⟨⟨poised, h.idle.minds rely.toMinds⟩, fun _ e => by cases e⟩
    | act server actions =>
      have quiet := quiet_withServer h.poised.inv (quiet_perform server Server.noTrigger actions)
      exact wp_change γ quiet.spares
        (Wp.done ⟨⟨quiet.poised h.poised.ease, h.idle⟩, fun _ e => by cases e⟩)
    | transport => exact proper.elim
    | session => exact proper.elim
    | host => exact proper.elim

end LspHost

import LspHost.Proofs.Closing
import LspHost.Proofs.Reading

/-!
# Hearing what a server says

The task that reads the messages of a session settles requests, answers the server and passes on what
it says. It takes part in no conversation, and it ends as a cancelled task if it was cancelled
(`wp_readerTurn`).
-/

namespace LspHost

open Discipline

variable {σ : Setting} {t i : Nat} {γ γ' : Ghost} {s s' : World} {a : Ghost × World}

/-- A task reads the messages of a session and was not cancelled. -/
structure Hears (σ : Setting) (t i : Nat) (a : Ghost × World) (γ : Ghost) (s : World) : Prop where
  poised : Poised σ t γ s
  idle : Idle t γ
  keeps : Keeps a (γ, s)
  live : γ.doomed t = false
  kind : a.2.loop.kind? t = some (.reader i)
  there : i < a.2.sessions.length

namespace Hears

theorem acts {α : Type} {r : Except Fault α} (h : Hears σ t i a γ s) : Acts σ t a r γ s :=
  .of_live h.poised h.idle h.keeps h.live

theorem ended {α : Type} {v : α} (h : Hears σ t i a γ s) (acts : Acts σ t a (.ok v) γ' s') :
    Hears σ t i a γ' s' :=
  ⟨acts.poised, acts.idle, acts.keeps, acts.live, h.kind, h.there⟩

theorem quiet (h : Hears σ t i a γ s) (quiet : Quiet σ (some t) (γ, s) (γ, s')) :
    Hears σ t i a γ s' :=
  ⟨quiet.poised h.poised.ease, h.idle, h.keeps.trans (quiet.rely t).toKeeps, h.live, h.kind, h.there⟩

theorem exists_session (h : Hears σ t i a γ s) : ∃ x, s.sessions[i]? = some x :=
  World.exists_session (Nat.lt_of_lt_of_le h.there h.keeps.sessions)

/-- Nobody minds a quiet change. -/
theorem wp_quietly {f : World → World} (h : Hears σ t i a γ s)
    (quiet : Quiet σ (some t) (γ, s) (γ, f s)) :
    (discipline σ).wp t (Program.update f : Act Unit) (Acts σ t a) γ s :=
  wp_update γ quiet.spares (h.quiet quiet).acts

end Hears

/-! ## Receiving -/

/-- Reading a piece of a frame. -/
theorem wp_readStage {j : Nat} (h : Hears σ t i a γ s) (stage : Stage) :
    (discipline σ).wp t (Transport.readStage j stage) (Acts σ t a) γ s := by
  refine Wp.seq (wp_read h.poised h.idle h.live (h.keeps.loop.kinds t _ h.kind) h.keeps fun e => by cases e)
    ?_ ?_
  · intro _ γ₁ s₁ reads
    exact Wp.done reads.done
  · intro _ γ₁ s₁ reads
    exact reads.failed

/-- Receiving a message. -/
theorem wp_receive (h : Hears σ t i a γ s) :
    (discipline σ).wp t (Transport.receive i) (Acts σ t a) γ s := by
  refine Wp.look ?_
  split
  · exact Wp.fail h.acts
  · next j _ =>
    refine Wp.seq (wp_readStage h _) ?_ fun _ _ _ acts => acts.failed
    intro progress γ₁ s₁ acts
    have h₁ := h.ended acts
    split
    · exact Wp.done h₁.acts
    · exact Wp.fail h₁.acts
    · refine Wp.seq (wp_readStage h₁ _) ?_ fun _ _ _ acts => acts.failed
      intro progress γ₂ s₂ acts₂
      split
      · exact Wp.done acts₂.done
      · exact Wp.fail acts₂.done
      · exact Wp.fail acts₂.done

/-! ## Handling -/

/-- A response ends the request that it belongs to, and no other way than responses may. -/
theorem wp_handleResponse (h : Hears σ t i a γ s) (r : Response) :
    (discipline σ).wp t (Session.handleResponse i r) (Acts σ t a) γ s := by
  obtain ⟨x, found⟩ := h.exists_session
  have inv := h.poised.inv
  refine h.wp_quietly ?_
  simp only [found]
  split
  · next k waits =>
    obtain ⟨u, role⟩ : ∃ u, γ.role k = .request u := by
      unfold Session.awaited? at waits
      split at waits
      · split at waits
        · next p pending =>
          split at waits
          · cases waits
          · obtain rfl := Option.some.inj waits
            exact inv.tickets.pending i x p found (List.mem_of_find?_eq_some pending)
        · cases waits
      · cases waits
    have refused (f : Fault) (e : Session.outcomeOf r = .error f) : Supervisor.isServerFault f = true := by
      unfold Session.outcomeOf at e
      split at e
      · cases e; rfl
      · cases e
    refine quiet_settle inv ?_ (fun _ _ e => ?_) (fun p u m e => ?_) fun j d e => ?_
    · rw [role]
      exact fun f e => .inr (refused f e)
    · cases refused _ e
    · rw [role] at e
      cases e
    · obtain ⟨p, hp, waits⟩ := Option.bind_eq_some_iff.mp e
      obtain ⟨v, role'⟩ := inv.tickets.streams j p .errors k d hp waits
      rw [role] at role'
      cases role'
  · exact .refl inv

/-- Responses of the client belong to no conversation of its own. -/
theorem wp_sendResponse (h : Hears σ t i a γ s) (r : Response) :
    (discipline σ).wp t (Transport.send i (Message.response r).wireMembers) (Acts σ t a) γ s := by
  have kind := h.keeps.loop.kinds t _ h.kind
  have unheard : Said.of? (Message.response r).wireMembers = none := Said.of?_response r
  refine Wp.mono (wp_send h.poised h.live kind (fun _ => unheard)
    { speaks := fun x e => (by rw [unheard] at e; cases e), idle := h.idle _
      leads := fun held => absurd held (h.idle _)
      exits := fun e => (by rw [unheard] at e; cases e)
      tells := fun n e => (by rw [Note.of?_response] at e; cases e) }) ?_
  rintro r γ₁ s₁ ⟨sends, ends⟩
  have poised : Poised σ t γ₁ s₁ :=
    ⟨sends.inv, sends.tongue, sends.newborn,
      sends.parting.resolve_right fun e => by rw [unheard] at e; cases e.1⟩
  have idle := h.idle.minds sends.toMinds
  have keeps := h.keeps.trans sends.toKeeps
  cases r with
  | ok _ => exact .of_live poised idle keeps ends.1
  | error f =>
    obtain ⟨rfl, -⟩ | ⟨live, -⟩ := ends
    · exact ⟨poised, idle, keeps, fun _ => rfl⟩
    · exact .of_live poised idle keeps live

/-- Answering a request of the server. -/
theorem wp_handleRequest (h : Hears σ t i a γ s) (r : Request) :
    (discipline σ).wp t (Session.handleRequest i r) (Acts σ t a) γ s := by
  obtain ⟨x, found⟩ := h.exists_session
  refine wp_getSession found (Wp.bind (Wp.ofExcept ?_))
  rcases Session.answerTo r with f | answer
  · exact h.acts
  · rw [h.poised.inv.transport found]
    refine Wp.attempt_seq (wp_sendResponse h answer) ?_
    intro r γ₁ s₁ acts
    split
    · exact Wp.done acts.done
    · -- A closed connection is not a cancellation.
      exact Wp.done ⟨acts.poised, acts.idle, acts.keeps, fun doomed => by cases acts.cancelled doomed⟩
    · exact Wp.fail acts.failed

theorem quiet_hearDiagnostics {t : Option Nat} (inv : Inv σ t γ s) (i : Nat) (uri : String) (count : Nat) :
    Quiet σ t (γ, s) (γ, Supervisor.hearDiagnostics i uri count s) := by
  unfold Supervisor.hearDiagnostics
  split
  · have heard := quiet_publish inv
      ⟨.diagnostics, .midnight, some (Session.nameOf i), .diagnostics uri count⟩
    dsimp only
    split
    · exact heard.trans (quiet_record heard.inv _ (by simp [World.mail_record]))
    · exact heard
  · exact .refl inv

/-- Passing on diagnostics. -/
theorem wp_handleDiagnostics (h : Hears σ t i a γ s) (params : Members) :
    (discipline σ).wp t (Session.handleDiagnostics i params) (Acts σ t a) γ s := by
  unfold Session.handleDiagnostics
  split
  · exact Wp.done h.acts
  · next p _ =>
    have kept := quiet_setSession h.poised.inv i
      (f := fun x => { x with diagnostics := Session.putDiagnostics p.uri p.diagnostics x.diagnostics })
      (fun _ => rfl) fun _ _ _ he => .inl he
    refine wp_change γ kept.spares ?_
    have h₁ := h.quiet kept
    refine h₁.wp_quietly ?_
    split
    · exact quiet_record h₁.poised.inv _ (by simp [World.mail_record])
    · exact quiet_hearDiagnostics h₁.poised.inv ..
    · exact .refl h₁.poised.inv

/-- Passing on a log message. -/
theorem wp_handleLog (h : Hears σ t i a γ s) (params : Members) :
    (discipline σ).wp t (Session.handleLog i params) (Acts σ t a) γ s := by
  refine Wp.bind (Wp.ofExcept ?_)
  rcases Session.logLevel ((params.get? "type").getD (.int 4)) with f | level
  · exact h.acts
  · rw [Wp.after_ok]
    refine h.wp_quietly ?_
    split
    · exact quiet_record h.poised.inv _ (by simp [World.mail_record])
    · exact quiet_publish h.poised.inv _
    · exact .refl h.poised.inv

/-- Handling a message. -/
theorem wp_handle (h : Hears σ t i a γ s) (m : Message) :
    (discipline σ).wp t (Session.handle i m) (Acts σ t a) γ s := by
  cases m with
  | response r => exact wp_handleResponse h r
  | request r => exact wp_handleRequest h r
  | notification n =>
    simp only [Session.handle, Session.handleNotification]
    split
    · exact wp_handleDiagnostics h _
    · exact wp_handleLog h _
    · exact wp_handleLog h _
    · exact Wp.done h.acts

/-- Receiving a message and handling it. -/
theorem wp_handleNext (h : Hears σ t i a γ s) :
    (discipline σ).wp t (Session.handleNext i) (Acts σ t a) γ s := by
  obtain ⟨x, found⟩ := h.exists_session
  refine wp_getSession found ?_
  rw [h.poised.inv.transport found]
  refine Wp.seq (wp_receive h) (fun m γ₁ s₁ acts => ?_) fun _ _ _ acts => acts.failed
  have h₁ := h.ended acts
  have noted := quiet_record h₁.poised.inv (.heard i m) (by simp [World.mail_record])
  exact wp_change γ₁ noted.spares (wp_handle (h₁.quiet noted) m)

/-! ## A turn -/

/-- One turn of the task that reads messages. -/
theorem wp_readerTurn (poised : Poised σ t γ s) (idle : Idle t γ) (live : γ.doomed t = false)
    (kind : s.loop.kind? t = some (.reader i)) :
    (discipline σ).wp t (Session.readerTurn i)
      (fun r γ' s' => Acts σ t (γ, s) r γ' s' ∧
        ∀ κ, r = .ok (.onward κ) → κ = .reader i) γ s := by
  by_cases there : i < s.sessions.length
  · have h : Hears σ t i (γ, s) γ s := ⟨poised, idle, .refl _, live, kind, there⟩
    refine Wp.attempt_seq (wp_handleNext h) fun r γ₁ s₁ acts => ?_
    split
    · exact Wp.done ⟨acts.done, fun κ e => by cases e; rfl⟩
    · next f =>
      split
      · next passed =>
        -- Nobody who was cancelled passes ended a message.
        refine Wp.done ⟨⟨acts.poised, acts.idle, acts.keeps, fun doomed => ?_⟩, fun κ e => by cases e; rfl⟩
        cases acts.cancelled doomed
        cases passed
      · refine Wp.seq (wp_failPending acts.poised (Nat.lt_of_lt_of_le there acts.keeps.sessions) rfl)
          ?_ (by rintro _ _ _ ⟨e, -⟩; cases e)
        rintro _ γ₂ s₂ ⟨-, rfl, poised₂, mute⟩
        have failed : Acts σ t (γ, s) (.error f : Except Fault Turn) γ₂ s₂ :=
          ⟨poised₂, acts.idle, acts.keeps.trans mute.toKeeps, acts.failed.cancelled⟩
        split
        · next transport =>
          refine Wp.done ⟨⟨failed.poised, failed.idle, failed.keeps, fun doomed => ?_⟩,
            fun κ e => by cases e⟩
          cases failed.cancelled doomed
          cases transport
        · exact Wp.fail ⟨failed, fun _ e => by cases e⟩
  · have none : s.sessions[i]? = none := List.getElem?_eq_none (Nat.le_of_not_lt there)
    have fails {β : Type} {g : Session → Act β} {Q : Except Fault β → Ghost → World → Prop}
        (next : Q (.error (Transport.missing "session")) γ s) :
        (discipline σ).wp t (Session.get i >>= g) Q γ s := by
      refine Wp.bind (Wp.look ?_)
      simp only [none]
      exact Wp.fail next
    refine Wp.attempt_seq (P := fun r γ' s' => r = .error (Transport.missing "session") ∧ γ' = γ ∧ s' = s)
      (fails ⟨rfl, rfl, rfl⟩) ?_
    rintro _ _ _ ⟨rfl, rfl, rfl⟩
    refine Wp.bind (fails ?_)
    exact ⟨.of_live poised idle (.refl _) live, fun _ e => by cases e⟩

end LspHost

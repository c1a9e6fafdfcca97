import LspHost.Client

/-!
# What one server is told

The journal of a run holds every message that a process took and every write that one refused.
`World.told` picks the messages of one process, in order.

* `Talk` reads them as a conversation: the handshake, then documents and requests, then the shutdown
  request, and the exit at the very end. Between the shutdown request and the exit documents may
  still be mentioned, but nothing may be asked.
* `Note` reads them as changes of documents, and `Note.replay` does these changes one after the other.
  A document is opened when it is not open, changed and closed when it is, and each change carries
  the next version; otherwise there is no result.
-/

namespace LspHost

/-! ## The journal of one process -/

/-- The messages that processes took, and in between the writes that they refused, oldest first. -/
def World.mail (s : World) : List (Nat × Option Members) :=
  s.journal.reverse.filterMap fun
    | .sent pid m => some (pid, some m)
    | .refused pid => some (pid, none)
    | _ => none

/-- The messages of a mail that one process took. -/
def toldIn (mail : List (Nat × Option Members)) (pid : Nat) : List Members :=
  mail.filterMap fun x => if x.1 = pid then x.2 else none

/-- The messages that a process took, in the order in which they were written. -/
def World.told (s : World) (pid : Nat) : List Members := toldIn s.mail pid

/-- What a process took stands in the journal. -/
theorem World.sent_of_told {s : World} {pid : Nat} {m : Members} (h : m ∈ s.told pid) : .sent pid m ∈ s.journal := by
  obtain ⟨⟨pid', message⟩, mem, mine⟩ := List.mem_filterMap.mp h
  obtain ⟨r, stands, read⟩ := List.mem_filterMap.mp mem
  dsimp only at mine
  split at mine
  · next same =>
    subst same mine
    cases r with
    | sent => cases read; exact List.mem_reverse.mp stands
    | _ => cases read
  · cases mine

/-- A write to a process has failed. -/
def World.Refused (s : World) (pid : Nat) : Prop := (pid, none) ∈ s.mail

@[simp] theorem toldIn_append (mail mail' : List (Nat × Option Members)) (pid : Nat) :
    toldIn (mail ++ mail') pid = toldIn mail pid ++ toldIn mail' pid := List.filterMap_append ..

@[simp] theorem toldIn_sent (pid : Nat) (m : Members) : toldIn [(pid, some m)] pid = [m] := by
  simp [toldIn]

theorem toldIn_other {pid other : Nat} (m : Option Members) (h : other ≠ pid) :
    toldIn [(other, m)] pid = [] := by simp [toldIn, h]

@[simp] theorem toldIn_refused (pid other : Nat) : toldIn [(other, none)] pid = [] := by
  simp [toldIn]

/-! ## Conversations -/

/-- What a message of the client is about. -/
inductive Said where
  | greeting
  | greeted
  | document
  | query
  | shutdown
  | exit
  | other
  deriving DecidableEq, Repr

namespace Said

/-- The methods that tell of documents. -/
def documentMethods : List String :=
  ["textDocument/didOpen", "textDocument/didChange", "textDocument/didClose"]

/-- A request, by its method. -/
def ofRequest : String → Said
  | "initialize" => .greeting
  | "shutdown" => .shutdown
  | _ => .query

/-- A notification, by its method. -/
def ofNotification (method : String) : Said :=
  if method = "initialized" then .greeted
  else if method = "exit" then .exit
  else if method ∈ documentMethods then .document
  else .other

/-- What a message is about; a response belongs to no conversation of the client. -/
def of? (m : Members) : Option Said :=
  match m.get? "method" with
  | none => none
  | some (.str method) =>
    some (if (m.get? "id").isSome then ofRequest method else ofNotification method)
  | some _ => some .other

end Said

/-- How far a conversation has come. -/
inductive Talk where
  | silent
  | greeted
  | open
  | closing
  | done
  deriving DecidableEq, Repr

namespace Talk

/-- Where a conversation goes with one more message, if the message fits. -/
def next? : Talk → Said → Option Talk
  | .silent, .greeting => some .greeted
  | .greeted, .greeted => some .open
  | .open, .document => some .open
  | .open, .query => some .open
  | .open, .shutdown => some .closing
  | .closing, .document => some .closing
  | .closing, .exit => some .done
  | _, _ => none

/-- The stage after some messages, if all of them fit. -/
def after? (said : List Said) (st : Talk) : Option Talk := said.foldlM next? st

/-- Like `next?` for messages that are yet to be written: mentions of documents behind the exit will
never be. -/
def plan? : Talk → Said → Option Talk
  | .done, .document => some .done
  | st, x => st.next? x

def planned? (said : List Said) (st : Talk) : Option Talk := said.foldlM plan? st

@[simp] theorem after?_nil (st : Talk) : after? [] st = some st := rfl

@[simp] theorem planned?_nil (st : Talk) : planned? [] st = some st := rfl

theorem after?_append (a b : List Said) (st : Talk) :
    after? (a ++ b) st = (after? a st).bind (after? b) := by
  simp only [after?, List.foldlM_append]; rfl

theorem planned?_append (a b : List Said) (st : Talk) :
    planned? (a ++ b) st = (planned? a st).bind (planned? b) := by
  simp only [planned?, List.foldlM_append]; rfl

theorem planned?_cons (x : Said) (xs : List Said) (st : Talk) :
    planned? (x :: xs) st = (st.plan? x).bind (planned? xs) := by
  simp only [planned?, List.foldlM_cons]; rfl

@[simp] theorem planned?_singleton (x : Said) (st : Talk) : planned? [x] st = plan? st x := by
  simp [planned?]

@[simp] theorem after?_singleton (x : Said) (st : Talk) : after? [x] st = next? st x := by
  simp [after?]

theorem plan?_of_next? {st st' : Talk} {x : Said} (h : st.next? x = some st') :
    st.plan? x = some st' := by
  cases st <;> cases x <;> first | exact h | cases h

theorem next?_of_plan? {st st' : Talk} {x : Said} (h : st.plan? x = some st') (live : st ≠ .done) :
    st.next? x = some st' := by
  cases st <;> cases x <;> first | exact h | exact absurd rfl live

/-- What was written as planned is planned as it was written. -/
theorem planned?_of_after? {said : List Said} {st st' : Talk} (h : after? said st = some st') :
    planned? said st = some st' := by
  induction said generalizing st with
  | nil => exact h
  | cons x rest ih =>
    obtain ⟨mid, step, more⟩ := Option.bind_eq_some_iff.mp (by simpa [after?] using h)
    have := @ih mid more
    simp only [planned?, List.foldlM_cons, plan?_of_next? step]
    exact this

end Talk

/-! ## Changes of documents -/

/-- A change of documents that a server is told. What says so without saying it properly is garbled. -/
inductive Note where
  | opened (d : TrackedDocument)
  | changed (uri : String) (version : Nat) (text : Json)
  | closed (uri : String)
  | garbled
  deriving DecidableEq

namespace Note

/-- Members of an object, by key. -/
def field? (key : String) : Json → Option Json
  | .obj m => Members.get? m key
  | _ => none

/-- Reads the opening of a document. -/
def readOpened (params : Json) : Note :=
  let item := (field? "textDocument" params).getD .null
  match field? "uri" item, field? "languageId" item, field? "version" item, field? "text" item with
  | some (.str uri), some (.str languageId), some (.int (.ofNat version)), some text =>
    .opened ⟨uri, languageId, version, text⟩
  | _, _, _, _ => .garbled

/-- Reads the change of a document, which is told with its whole new text. -/
def readChanged (params : Json) : Note :=
  let item := (field? "textDocument" params).getD .null
  match field? "uri" item, field? "version" item, field? "contentChanges" params with
  | some (.str uri), some (.int (.ofNat version)), some (.arr [change]) =>
    match field? "text" change with
    | some text => .changed uri version text
    | none => .garbled
  | _, _, _ => .garbled

/-- Reads the closing of a document. -/
def readClosed (params : Json) : Note :=
  match field? "uri" ((field? "textDocument" params).getD .null) with
  | some (.str uri) => .closed uri
  | _ => .garbled

/-- The change of documents that a message tells, if it tells one. -/
def of? (m : Members) : Option Note :=
  let params := (m.get? "params").getD .null
  match m.get? "method" with
  | some (.str "textDocument/didOpen") => some (readOpened params)
  | some (.str "textDocument/didChange") => some (readChanged params)
  | some (.str "textDocument/didClose") => some (readClosed params)
  | _ => none

/-- Does one change to the open documents, if it fits them. -/
def edit? (docs : List TrackedDocument) : Note → Option (List TrackedDocument)
  | .opened d => if docs.any fun e => e.uri = d.uri then none else some (docs ++ [d])
  | .changed uri version text =>
    match docs.find? fun d => d.uri = uri with
    | some d =>
      if version = d.version + 1 then
        some (Supervisor.replace { d with version := version, text := text } docs)
      else none
    | none => none
  | .closed uri =>
    if docs.any fun d => d.uri = uri then some (docs.filter fun d => d.uri ≠ uri) else none
  | .garbled => none

/-- Does changes in turn, to no documents at first. -/
def replay (notes : List Note) : Option (List TrackedDocument) := notes.foldlM edit? []

theorem replay_append (a b : List Note) : replay (a ++ b) = (replay a).bind fun d => b.foldlM edit? d := by
  simp only [replay, List.foldlM_append]; rfl

@[simp] theorem replay_nil : replay [] = some [] := rfl

theorem isSome_replay_of_append {a b : List Note} {docs : List TrackedDocument}
    (h : replay (a ++ b) = some docs) : (replay a).isSome := by
  rw [replay_append] at h
  obtain ⟨_, first, -⟩ := Option.bind_eq_some_iff.mp h
  simp [first]

/-- Documents with different uris are what they make when they are opened in turn. -/
theorem replay_opened {docs : List TrackedDocument} (distinct : (docs.map TrackedDocument.uri).Nodup) :
    replay (docs.map .opened) = some docs := by
  suffices h : ∀ done rest : List TrackedDocument,
      ((done ++ rest).map TrackedDocument.uri).Nodup →
      (rest.map Note.opened).foldlM edit? done = some (done ++ rest) by
    simpa [replay] using h [] docs (by simpa using distinct)
  intro done rest
  induction rest generalizing done with
  | nil => intro _; simp
  | cons d rest ih =>
    intro distinct
    have isNew : (done.any fun e => e.uri = d.uri) = false := by
      simp only [List.map_append, List.map_cons, List.nodup_append] at distinct
      simp only [List.any_eq_false, decide_eq_true_eq]
      intro e he same
      exact distinct.2.2 e.uri (List.mem_map_of_mem he) d.uri List.mem_cons_self same
    simp only [List.map_cons, List.foldlM_cons, edit?, isNew]
    have := ih (done ++ [d]) (by simpa using distinct)
    simpa using this

/-- A change of documents carries no text but a proper one. -/
def Legible : Note → Prop
  | .opened d => ∃ text, d.text = .str text
  | .changed _ _ text => ∃ str, text = .str str
  | _ => True

variable {docs docs' : List TrackedDocument} {n : Note}

/-- What a change does to documents that it fits. -/
theorem edit?_cases (h : edit? docs n = some docs') :
    (∃ d, n = .opened d ∧ (∀ e ∈ docs, e.uri ≠ d.uri) ∧ docs' = docs ++ [d]) ∨
    (∃ uri version text, ∃ d : TrackedDocument, n = .changed uri version text ∧
      docs' = Supervisor.replace { d with version := version, text := text } docs) ∨
    ∃ uri, n = .closed uri ∧ docs' = docs.filter fun d => d.uri ≠ uri := by
  cases n with
  | opened d =>
    simp only [edit?] at h
    split at h
    · cases h
    · next isNew => exact .inl ⟨d, rfl, by simpa using isNew, (Option.some.inj h).symm⟩
  | changed uri version text =>
    simp only [edit?] at h
    split at h
    · next d _ =>
      split at h
      · exact .inr (.inl ⟨uri, version, text, d, rfl, (Option.some.inj h).symm⟩)
      · cases h
    · cases h
  | closed uri =>
    simp only [edit?] at h
    split at h
    · exact .inr (.inr ⟨uri, rfl, (Option.some.inj h).symm⟩)
    · cases h
  | garbled => cases h

theorem uri_replace (d : TrackedDocument) (docs : List TrackedDocument) :
    (Supervisor.replace d docs).map TrackedDocument.uri = docs.map TrackedDocument.uri := by
  simp only [Supervisor.replace, List.map_map]
  apply List.map_congr_left
  intro e _
  simp only [Function.comp]
  split <;> simp_all

/-- Documents keep different uris. -/
theorem distinct_edit? (h : edit? docs n = some docs')
    (distinct : (docs.map TrackedDocument.uri).Nodup) : (docs'.map TrackedDocument.uri).Nodup := by
  obtain ⟨d, rfl, isNew, rfl⟩ | ⟨uri, version, text, d, rfl, rfl⟩ | ⟨uri, rfl, rfl⟩ := edit?_cases h
  · rw [List.map_append]
    refine List.nodup_append.mpr ⟨distinct, by simp, fun u hu v hv => ?_⟩
    obtain ⟨e, he, rfl⟩ := List.mem_map.mp hu
    obtain rfl : v = d.uri := by simpa using hv
    exact isNew e he
  · rw [uri_replace]
    exact distinct
  · exact distinct.sublist (List.filter_sublist.map _)

/-- Documents keep proper texts. -/
theorem legible_edit? (h : edit? docs n = some docs') (legible : ∀ d ∈ docs, ∃ text, d.text = .str text)
    (proper : n.Legible) : ∀ d ∈ docs', ∃ text, d.text = .str text := by
  intro e he
  obtain ⟨d, rfl, -, rfl⟩ | ⟨uri, version, text, d, rfl, rfl⟩ | ⟨uri, rfl, rfl⟩ := edit?_cases h
  · rcases List.mem_append.mp he with he | he
    · exact legible e he
    · obtain rfl := List.mem_singleton.mp he
      exact proper
  · obtain ⟨d', hd, rfl⟩ := List.mem_map.mp he
    split
    · exact proper
    · exact legible d' hd
  · exact legible e (List.mem_filter.mp he).1

end Note

/-- The changes of documents that a process was told. -/
def notesIn (mail : List (Nat × Option Members)) (pid : Nat) : List Note :=
  (toldIn mail pid).filterMap Note.of?

/-- What a process was told, as a conversation. -/
def saidIn (mail : List (Nat × Option Members)) (pid : Nat) : List Said :=
  (toldIn mail pid).filterMap Said.of?

/-- The changes of documents that a process was told. -/
def World.notes (s : World) (pid : Nat) : List Note := notesIn s.mail pid

/-- What a process was told, as a conversation. -/
def World.said (s : World) (pid : Nat) : List Said := saidIn s.mail pid

@[simp] theorem notesIn_append (mail mail' : List (Nat × Option Members)) (pid : Nat) :
    notesIn (mail ++ mail') pid = notesIn mail pid ++ notesIn mail' pid := by simp [notesIn]

@[simp] theorem saidIn_append (mail mail' : List (Nat × Option Members)) (pid : Nat) :
    saidIn (mail ++ mail') pid = saidIn mail pid ++ saidIn mail' pid := by simp [saidIn]

end LspHost

import LspHost.Proofs.Process.Reception
import LspHost.Proofs.Sample
import LspHost.Proofs.Task.Loop
import LspHost.Transport.Calls

/-!
# Calls that receive

A task calls `receiveFrom` again and again (`receiveMany`) while octets come to the output of the server
(`arrive`). What its calls end with is what a `Reception` yields:

* `advance_read`: a read ends at once if its demand can be decided. If not, it waits for a ticket that is
  settled by the arrival that decides the demand, and then it ends as decided.
* `stands_onward`: so after every arrival the calls stand where the reception does.
* `heard_received`, `heard_outcomes`: so they end with the same outcomes, each as soon as the reception
  has it.
-/

namespace LspHost

namespace Program

variable {σ ε α β : Type}

/-- What is looked at after an attempt at two programs in turn. -/
theorem attempt_bind (p : Program σ ε α) (f : α → Program σ ε β) :
    attempt (bind p f) = bind (attempt p) fun
      | .ok a => attempt (f a)
      | .error e => .done (.error e) := by
  induction p with
  | done a => rfl
  | fail e => rfl
  | look k ih => exact congrArg look (funext ih)
  | change g k ih => exact congrArg (change g) ih
  | wait t k ih => exact congrArg (wait t) (funext ih)
  | pause k ih => exact congrArg pause (funext ih)

end Program

/-- Who waits for a stream is not changed by what is taken from it. -/
theorem Stream.waiter_take? {s rest : Stream} {d : Demand} {taken : Taken}
    (h : s.take? d = some (taken, rest)) : rest.waiter = s.waiter := by
  obtain ⟨⟨taken', buffer⟩, -, e⟩ := Option.map_eq_some_iff.mp h
  cases e
  rfl

/-- Who waits for a stream does not matter for what can be decided. -/
theorem Stream.meets_waiter (x : Stream) (w : Option (Nat × Demand)) (d : Demand) :
    Stream.meets { x with waiter := w } d = (x.take? d).isSome := by
  simp only [Stream.meets, Stream.take?, Option.isSome_map]
  cases d <;> rfl

namespace Reception

theorem stream_resume (rest : Stream) (p : Progress) : (resume rest p).2.stream = rest := by
  cases p <;> rfl

/-- There is no step while the demand cannot be decided. -/
theorem step?_eq_none {r : Reception} (h : r.stream.take? r.stage.demand = none) : r.step? = none := by
  simp only [step?, h, ite_self]

theorem take?_of_step?_eq_none {r : Reception} (going : r.ended = false) (h : r.step? = none) :
    r.stream.take? r.stage.demand = none := by
  rcases took : r.stream.take? r.stage.demand with _ | ⟨taken, rest⟩
  · rfl
  · have step := step?_eq_some_iff.mpr ⟨going, taken, rest, took, rfl⟩
    rw [h] at step
    cases step

end Reception

namespace Transport

/-! ## A read -/

/-- The fate of tickets, by which programs go on. -/
abbrev fate (s : World) (ticket : Nat) : Option (Except Fault Json) := s.loop.outcome? ticket

/-- A transport holds a server, the output of the server is a stream, and there is a task to read it. -/
structure Offers (id server : Nat) (output : Stream) (s : World) : Prop where
  held : s.serverOf? id = some server
  there : ∃ p, s.servers[server]? = some p ∧ p.output = output
  tasks : s.loop.tasks ≠ []

variable {α : Type} {s : World} {id server n : Nat} {output rest : Stream} {d : Demand} {taken : Taken}

theorem Offers.setServer {f : Stream → Stream} (offers : Offers id server output s) :
    Offers id server (f output) (s.setServer server (Channel.output.set f)) := by
  obtain ⟨held, ⟨p, found, rfl⟩, tasks⟩ := offers
  exact ⟨held, ⟨Channel.output.set f p, by simp [World.setServer, found], rfl⟩, tasks⟩

/-- A read ends at once if its demand can be decided. -/
theorem advance_readWithin_some (K : Except Fault Taken → Act α) (offers : Offers id server output s)
    (took : output.take? d = some (taken, rest)) :
    ∃ s', Offers id server rest s' ∧
      (Program.bind (Program.attempt (readWithin server .output d (n + 1))) K).advance fate s =
        (K (.ok taken)).advance fate s' := by
  refine ⟨s.setServer server (Channel.output.set fun _ => rest),
    offers.setServer (f := fun _ => rest), ?_⟩
  obtain ⟨p, found, rfl⟩ := offers.there
  have now : (s.servers[server]?).map Channel.output.get = some p.output := by rw [found]; rfl
  simp only [readWithin, takeNow, Program.yield, Bind.bind, Program.bind, Program.attempt, Program.advance, now,
    took, pure]

/-- Where a read stands that waits for a ticket: the ticket is not settled, and once it is the read takes
what it asked for and `K` goes on. -/
structure Awaits (id server : Nat) (output : Stream) (d : Demand) (K : Except Fault Taken → Act α)
    (s : World) (ticket : Nat) (next : Except Fault Json → Act α) : Prop where
  offers : Offers id server { output with waiter := some (ticket, d) } s
  issued : ticket < s.loop.tickets.length
  unsettled : s.loop.outcome? ticket = none
  goesOn : ∀ s' output' taken rest, Offers id server output' s' →
    Stream.take? { output' with waiter := none } d = some (taken, rest) →
    ∃ s'', Offers id server rest s'' ∧
      (next (.ok .null)).advance fate s' = (K (.ok taken)).advance fate s''

/-- The world in which a new ticket waits for a demand on the output of a server. -/
def awaiting (server : Nat) (d : Demand) (s : World) : World :=
  { s with loop := s.loop.issue.2 }.setServer server
    (Channel.output.set fun stream => { stream with waiter := some (s.loop.issue.1, d) })

/-- How a read goes on after its ticket. -/
def readOn (server : Nat) (d : Demand) (n : Nat) (K : Except Fault Taken → Act α)
    (r : Except Fault Json) : Act α :=
  Program.bind (Program.attempt (Program.bind (Program.ensure
    (Program.bind (Program.ofExcept r) fun _ => .done ()) (setWaiter server .output none))
    fun _ => readWithin server .output d n)) K

/-- A read waits if its demand cannot be decided. -/
theorem advance_readWithin_none (K : Except Fault Taken → Act α) (offers : Offers id server output s)
    (free : output.waiter = none) (stuck : output.take? d = none) :
    ∃ s' ticket next,
      (Program.bind (Program.attempt (readWithin server .output d (n + 2))) K).advance fate s =
        (s', .waiting ticket next) ∧ Awaits id server output d K s' ticket next := by
  have unsettled : fate (awaiting server d s) s.loop.issue.1 = none := by
    simp [fate, awaiting, World.setServer, Loop.issue, Loop.outcome?]
  refine ⟨awaiting server d s, s.loop.issue.1, readOn server d (n + 1) K, ?_, ?_⟩
  · obtain ⟨p, found, rfl⟩ := offers.there
    have now : (s.servers[server]?).map Channel.output.get = some p.output := by rw [found]; rfl
    have free' : (Channel.output.get p).waiter = none := free
    rw [readWithin]
    simp only [takeNow, Program.yield, Bind.bind, Program.bind, Program.attempt, Program.advance, now, stuck]
    simp only [isAwaited, Program.peek, Program.bind, Program.attempt, Program.advance, found, free',
      Option.isSome_none, Bool.false_eq_true, if_false]
    simp only [Act.issue, Act.ask, Program.yield, setWaiter, Program.update, Program.ensure,
      Program.await, Program.bind, Program.attempt, Program.advance]
    split
    · next r settled => exact absurd (unsettled.symm.trans settled) (by simp)
    · rfl
  · have issued : s.loop.issue.1 < (awaiting server d s).loop.tickets.length := by
      simp [awaiting, World.setServer, Loop.issue]
    have offers' : Offers id server output { s with loop := s.loop.issue.2 } :=
      ⟨offers.held, offers.there, offers.tasks⟩
    refine ⟨offers'.setServer (f := fun stream => { stream with waiter := some (s.loop.issue.1, d) }),
      issued, unsettled, ?_⟩
    intro s' output' taken rest offers'' took
    exact advance_readWithin_some K
      (offers''.setServer (f := fun stream => { stream with waiter := none })) took

theorem exists_readWithin (tasks : s.loop.tasks ≠ []) (K : Except Fault Taken → Act α) :
    ∃ n, (Program.bind (Program.attempt (read server .output d)) K).advance fate s =
      (Program.bind (Program.attempt (readWithin server .output d (n + 2))) K).advance fate s := by
  rcases e : s.loop.tasks with _ | ⟨task, others⟩
  · exact absurd e tasks
  · refine ⟨others.length, ?_⟩
    have count : s.loop.tasks.length = others.length + 1 := by rw [e, List.length_cons]
    show (Program.bind (Program.attempt (readWithin server .output d (s.loop.tasks.length + 1))) K).advance
      fate s = _
    rw [count]

/-- A read ends at once, as its demand is decided. -/
theorem advance_read_some (K : Except Fault Taken → Act α) (offers : Offers id server output s)
    (took : output.take? d = some (taken, rest)) :
    ∃ s', Offers id server rest s' ∧
      (Program.bind (Program.attempt (read server .output d)) K).advance fate s =
        (K (.ok taken)).advance fate s' := by
  obtain ⟨n, same⟩ := exists_readWithin offers.tasks K
  obtain ⟨s', offers', same'⟩ := advance_readWithin_some (n := n + 1) K offers took
  exact ⟨s', offers', same.trans same'⟩

/-- A read whose demand cannot be decided waits. -/
theorem advance_read_none (K : Except Fault Taken → Act α) (offers : Offers id server output s)
    (free : output.waiter = none) (stuck : output.take? d = none) :
    ∃ s' ticket next,
      (Program.bind (Program.attempt (read server .output d)) K).advance fate s =
        (s', .waiting ticket next) ∧ Awaits id server output d K s' ticket next := by
  obtain ⟨n, same⟩ := exists_readWithin offers.tasks K
  rw [same]
  exact advance_readWithin_none K offers free stuck

/-! ## Many calls -/

/-- Receives so many messages one after the other, but none after a fault that ends receiving. What has
been heard before stands in front. -/
def receiveMany (id : Nat) : Nat → List Reception.Outcome → Act (List Reception.Outcome)
  | 0, heard => pure heard
  | n + 1, heard => do
    match ← Program.attempt (receive id) with
    | .ok m => receiveMany id n (heard ++ [.ok m])
    | .error f =>
      if f.isPassedOver then receiveMany id n (heard ++ [.error f])
      else pure (heard ++ [.error f])

/-- What follows a call that ended so; `n` calls are left. -/
def afterCall (id n : Nat) (heard : List Reception.Outcome) (o : Reception.Outcome) :
    Act (List Reception.Outcome) :=
  match o with
  | .ok m => receiveMany id n (heard ++ [.ok m])
  | .error f =>
    if f.isPassedOver then receiveMany id n (heard ++ [.error f])
    else pure (heard ++ [.error f])

/-- What follows the second read of a call. -/
def afterBody (id n : Nat) (heard : List Reception.Outcome) (stage : Stage) :
    Except Fault Taken → Act (List Reception.Outcome)
  | .error f => afterCall id n heard (.error f)
  | .ok taken =>
    match stage.next taken with
    | .received m => afterCall id n heard (.ok m)
    | .failed f => afterCall id n heard (.error f)
    | .onward _ => afterCall id n heard (.error (.closed .endOfOutput))

/-- What follows a read of a call. -/
def afterRead (id server n : Nat) (heard : List Reception.Outcome) :
    Stage → Except Fault Taken → Act (List Reception.Outcome)
  | .body length, r => afterBody id n heard (.body length) r
  | .header, .error f => afterCall id n heard (.error f)
  | .header, .ok taken =>
    match Stage.header.next taken with
    | .received m => afterCall id n heard (.ok m)
    | .failed f => afterCall id n heard (.error f)
    | .onward stage =>
      Program.bind (Program.attempt (read server .output stage.demand)) (afterBody id n heard stage)

/-- A call to receive from a server, and what follows. -/
theorem attempt_receiveFrom (id server n : Nat) (heard : List Reception.Outcome) :
    Program.bind (Program.attempt (receiveFrom server)) (afterCall id n heard) =
      Program.bind (Program.attempt (read server .output Stage.header.demand))
        (afterRead id server n heard .header) := by
  simp only [receiveFrom, readStage, Bind.bind, Program.attempt_bind, Program.bind_assoc]
  congr 1
  funext r
  cases r with
  | error f => rfl
  | ok taken =>
    simp only [pure, Program.bind, Program.attempt, afterRead]
    cases Stage.header.next taken with
    | received m => rfl
    | failed f => rfl
    | onward stage =>
      simp only [Program.attempt_bind, Program.bind_assoc]
      congr 1
      funext r
      cases r with
      | error f => rfl
      | ok taken =>
        simp only [afterBody]
        cases stage.next taken <;> rfl

/-- A call reads a header first. -/
theorem advance_receiveMany_succ (held : s.serverOf? id = some server) (heard : List Reception.Outcome) :
    (receiveMany id (n + 1) heard).advance fate s =
      (Program.bind (Program.attempt (read server .output Stage.header.demand))
        (afterRead id server n heard .header)).advance fate s := by
  have call : receiveMany id (n + 1) heard =
      Program.bind (Program.attempt (receive id)) (afterCall id n heard) := by
    rw [receiveMany]
    rfl
  rw [call, ← attempt_receiveFrom]
  simp only [receive, server?, Program.peek, Bind.bind, Program.bind, Program.attempt, Program.advance, held]

/-- The rest of the calls, `n` in all, where a reception stands that has brought some outcomes. -/
def proceed (id server n : Nat) (heard : List Reception.Outcome) (r : Reception) :
    Act (List Reception.Outcome) :=
  if n ≤ heard.length ∨ r.ended then pure (heard.take n)
  else
    match r.stage with
    | .header => receiveMany id (n - heard.length) heard
    | .body length =>
      Program.bind (Program.attempt (read server .output (.exactly length)))
        (afterRead id server (n - heard.length - 1) heard (.body length))

variable {r r' : Reception} {heard : List Reception.Outcome} {o : Option Reception.Outcome}

/-- The rest of the calls begins with a read. -/
theorem advance_proceed (held : s.serverOf? id = some server) (more : heard.length < n)
    (going : r.ended = false) :
    (proceed id server n heard r).advance fate s =
      (Program.bind (Program.attempt (read server .output r.stage.demand))
        (afterRead id server (n - heard.length - 1) heard r.stage)).advance fate s := by
  rw [proceed, if_neg (by simp [going]; omega)]
  cases r.stage with
  | body length => rfl
  | header =>
    have left : n - heard.length = n - heard.length - 1 + 1 := by omega
    show (receiveMany id (n - heard.length) heard).advance fate s = _
    rw [left]
    exact advance_receiveMany_succ held heard

theorem receiveMany_eq (id server n : Nat) (heard : List Reception.Outcome) (stream : Stream)
    (most : heard.length ≤ n) :
    receiveMany id (n - heard.length) heard = proceed id server n heard ⟨stream, .header, false⟩ := by
  rcases Nat.lt_or_eq_of_le most with more | enough
  · rw [proceed, if_neg (by simp; omega)]
  · rw [proceed, if_pos (.inl (by omega)), ← enough, Nat.sub_self, List.take_length]
    rfl

theorem afterCall_eq (id server : Nat) (o : Reception.Outcome) (stream : Stream)
    (more : heard.length < n) :
    afterCall id (n - heard.length - 1) heard o =
      proceed id server n (heard ++ [o]) ⟨stream, .header, match o with
        | .ok _ => false
        | .error f => !f.isPassedOver⟩ := by
  have length : (heard ++ [o]).length = heard.length + 1 := by simp
  have next := receiveMany_eq id server n (heard ++ [o]) stream (by omega)
  rw [length, ← Nat.sub_sub] at next
  cases o with
  | ok m => exact next
  | error f =>
    cases passed : f.isPassedOver with
    | true =>
      simp only [afterCall, passed]
      exact next
    | false =>
      have all : (heard ++ [(.error f : Reception.Outcome)]).take n = heard ++ [.error f] :=
        List.take_of_length_le (by omega)
      simp [afterCall, proceed, passed, all]

/-- After what a reception takes, the calls go on where its next step leads. -/
theorem afterRead_eq (id server : Nat) (stage : Stage) (more : heard.length < n)
    (next : (o, r') = Reception.resume rest (stage.next taken)) :
    afterRead id server (n - heard.length - 1) heard stage (.ok taken) =
      proceed id server n (heard ++ o.toList) r' := by
  have body (stage : Stage) (solid : ∀ s, stage.next taken ≠ .onward s)
      (next : (o, r') = Reception.resume rest (stage.next taken)) :
      afterBody id (n - heard.length - 1) heard stage (.ok taken) =
        proceed id server n (heard ++ o.toList) r' := by
    rw [afterBody]
    cases e : stage.next taken with
    | received m => rw [e] at next; cases next; exact afterCall_eq id server (.ok m) rest more
    | failed f => rw [e] at next; cases next; exact afterCall_eq id server (.error f) rest more
    | onward s => exact absurd e (solid s)
  cases stage with
  | body length =>
    refine body (.body length) (fun s onward => ?_) next
    rcases Stage.next_cases (.body length) taken with ⟨n, bytes, isHeader, -⟩ |
      ⟨-, -, ⟨m, received⟩ | ⟨f, failed, -⟩⟩ | ⟨f, failed, -⟩
    · cases isHeader
    · rw [onward] at received; cases received
    · rw [onward] at failed; cases failed
    · rw [onward] at failed; cases failed
  | header =>
    rw [afterRead]
    cases e : Stage.header.next taken with
    | received m => rw [e] at next; cases next; exact afterCall_eq id server (.ok m) rest more
    | failed f => rw [e] at next; cases next; exact afterCall_eq id server (.error f) rest more
    | onward stage =>
      rw [e] at next
      cases next
      have body : ∃ length, stage = .body length := by
        rcases Stage.next_cases .header taken with ⟨n, bytes, -, -, onward⟩ |
          ⟨length, isBody, -⟩ | ⟨f, failed, -⟩
        · rw [e] at onward; cases onward; exact ⟨n, rfl⟩
        · cases isBody
        · rw [e] at failed; cases failed
      obtain ⟨length, rfl⟩ := body
      rw [proceed, if_neg (by simp; omega)]
      simp only [Option.toList_none, List.append_nil]
      congr 1

/-- Where the calls of a task stand, `n` in all, after a reception has brought some outcomes: they have
ended with these, or one of them waits for what the reception wants next. -/
def Stands (id server n : Nat) (heard : List Reception.Outcome) (r : Reception)
    (x : World × Program.Stop World Fault (List Reception.Outcome)) : Prop :=
  if n ≤ heard.length ∨ r.ended then x.2 = .done (heard.take n)
  else
    r.stream.waiter = none ∧ ∃ ticket next, x.2 = .waiting ticket next ∧
      Awaits id server r.stream r.stage.demand
        (afterRead id server (n - heard.length - 1) heard r.stage) x.1 ticket next

/-- The calls receive as much as the reception. -/
theorem stands_proceed (offers : Offers id server r.stream s) (free : r.stream.waiter = none) :
    Stands id server n (heard ++ r.receiveAll.1) r.receiveAll.2
      ((proceed id server n heard r).advance fate s) := by
  induction r using Reception.receive_induction generalizing s heard with
  | stuck r h =>
    rw [Reception.receiveAll_of_stuck h, List.append_nil, Stands]
    split
    · next stopped => rw [proceed, if_pos stopped]; rfl
    · next going =>
      simp only [not_or, Nat.not_le, Bool.not_eq_true] at going
      have stuck := Reception.take?_of_step?_eq_none going.2 h
      obtain ⟨s', ticket, next, stops, awaits⟩ := advance_read_none _ offers free stuck
      rw [advance_proceed offers.held going.1 going.2, stops]
      exact ⟨free, ticket, next, rfl, awaits⟩
  | step r o r' h ih =>
    obtain ⟨going, taken, rest, took, next⟩ := Reception.step?_eq_some_iff.mp h
    rw [Reception.receiveAll_of_step h]
    rcases Nat.lt_or_ge heard.length n with more | enough
    · obtain ⟨s', offers', same⟩ := advance_read_some
        (afterRead id server (n - heard.length - 1) heard r.stage) offers took
      have rest' : r'.stream = rest := by
        rw [← Reception.stream_resume rest (r.stage.next taken), ← next]
      have free' : r'.stream.waiter = none := by
        rw [rest', Stream.waiter_take? took, free]
      have all : Stands id server n ((heard ++ o.toList) ++ r'.receiveAll.1) r'.receiveAll.2
          ((proceed id server n (heard ++ o.toList) r').advance fate s') :=
        ih (rest' ▸ offers') free'
      rw [advance_proceed offers.held more going, same, afterRead_eq id server r.stage more next,
        ← List.append_assoc]
      exact all
    · have early : (heard ++ (o.toList ++ r'.receiveAll.1)).take n = heard.take n :=
        List.take_append_of_le_length enough
      rw [Stands, if_pos (.inl (by simp; omega)), early, proceed, if_pos (.inl enough)]
      rfl

/-! ## Arrivals -/

/-- Something happens to a server while the calls stand; they go on if the ticket that they wait for is
settled by it. -/
def arrive (server : Nat) (act : Living → Living)
    (x : World × Program.Stop World Fault (List Reception.Outcome)) :
    World × Program.Stop World Fault (List Reception.Outcome) :=
  let s := x.1.withServer server act
  match x.2 with
  | .waiting ticket next =>
    match fate s ticket with
    | some r => (next r).advance fate s
    | none => (s, x.2)
  | _ => (s, x.2)

/-- What happens to a server changes its output by `f`, and wakes who waits for that. -/
structure ActsOnOutput (act : Living → Living) (f : Stream → Stream) : Prop where
  rouses : ∀ l p, act (l, p) = ((Server.rouse l (f p.output)).1,
    { p with output := (Server.rouse l (f p.output)).2 })
  free : ∀ x w, f { x with waiter := w } = { f x with waiter := w }

theorem ActsOnOutput.emit (bytes : List UInt8) :
    ActsOnOutput (Server.emit bytes) (Stream.feed · bytes) where
  rouses _ _ := rfl
  free x w := by
    simp only [Stream.feed]
    split <;> rfl

theorem ActsOnOutput.closeOutput : ActsOnOutput Server.closeOutput Stream.close where
  rouses _ _ := rfl
  free _ _ := rfl

variable {act : Living → Living} {f : Stream → Stream} {K : Except Fault Taken → Act α} {ticket : Nat}
  {next : Except Fault Json → Act α}

/-- What arrives settles the ticket that is waited for iff it decides the demand. -/
theorem Awaits.arrive (acts : ActsOnOutput act f) (awaits : Awaits id server output d K s ticket next) :
    if ((f output).take? d).isSome then
      fate (s.withServer server act) ticket = some (.ok .null) ∧
      Offers id server { f output with waiter := none } (s.withServer server act)
    else Awaits id server (f output) d K (s.withServer server act) ticket next := by
  obtain ⟨p, found, isOutput⟩ := awaits.offers.there
  have changed : f p.output = { f output with waiter := some (ticket, d) } := by
    rw [isOutput, acts.free]
  have inside : server < s.servers.length := (List.getElem?_eq_some_iff.mp found).1
  have step : s.withServer server act =
      { s with
        loop := (Server.rouse s.loop (f p.output)).1
        servers := s.servers.set server { p with output := (Server.rouse s.loop (f p.output)).2 } } := by
    simp only [World.withServer, found, acts.rouses]
  rw [step, changed]
  split
  · next decided =>
    have roused : Server.rouse s.loop { f output with waiter := some (ticket, d) } =
        (s.loop.settle ticket (.ok .null), { f output with waiter := none }) := by
      simp only [Server.rouse, Stream.meets_waiter, decided, if_true]
    obtain ⟨r, settled, first⟩ := Loop.isSome_outcome?_settle (.ok .null) awaits.issued
    rw [first awaits.unsettled] at settled
    rw [roused]
    refine ⟨settled, awaits.offers.held, ⟨_, List.getElem?_set_self inside, rfl⟩, ?_⟩
    simp only [Loop.tasks_settle]
    exact awaits.offers.tasks
  · next undecided =>
    have unroused : Server.rouse s.loop { f output with waiter := some (ticket, d) } =
        (s.loop, { f output with waiter := some (ticket, d) }) := by
      simp only [Server.rouse, Stream.meets_waiter, undecided, Bool.false_eq_true, if_false]
    rw [unroused]
    exact ⟨⟨awaits.offers.held, ⟨_, List.getElem?_set_self inside, rfl⟩, awaits.offers.tasks⟩,
      awaits.issued, awaits.unsettled, awaits.goesOn⟩

variable {x : World × Program.Stop World Fault (List Reception.Outcome)}

/-- After an arrival the calls stand where the reception does. -/
theorem stands_arrive (acts : ActsOnOutput act f) (stands : Stands id server n heard r x) :
    Stands id server n (heard ++ { r with stream := f r.stream }.receiveAll.1)
      { r with stream := f r.stream }.receiveAll.2 (Transport.arrive server act x) := by
  obtain ⟨s, stop⟩ := x
  rw [Stands] at stands
  split at stands
  · next stopped =>
    -- nobody calls any more
    subst stands
    have still : (heard ++ { r with stream := f r.stream }.receiveAll.1).take n = heard.take n ∧
        (n ≤ (heard ++ { r with stream := f r.stream }.receiveAll.1).length ∨
          { r with stream := f r.stream }.receiveAll.2.ended) := by
      rcases stopped with enough | ended
      · exact ⟨List.take_append_of_le_length enough, .inl (by simp; omega)⟩
      · have nothing := Reception.receiveAll_of_ended (r := { r with stream := f r.stream }) ended
        rw [nothing, List.append_nil]
        exact ⟨rfl, .inr ended⟩
    rw [Stands, if_pos still.2, still.1]
    rfl
  · next going =>
    obtain ⟨free, ticket, next, rfl, awaits⟩ := stands
    simp only [not_or, Nat.not_le, Bool.not_eq_true] at going
    have free' : { f r.stream with waiter := none } = f r.stream := by
      rw [← acts.free, ← free]
    have arrived := awaits.arrive acts
    split at arrived
    · next decided =>
      obtain ⟨settled, offers⟩ := arrived
      obtain ⟨⟨taken, rest⟩, took⟩ := Option.isSome_iff_exists.mp decided
      obtain ⟨s', offers', same⟩ := awaits.goesOn _ _ taken rest offers (by rw [← took, free'])
      rcases leads : Reception.resume rest (r.stage.next taken) with ⟨o, r'⟩
      have step : Reception.step? { r with stream := f r.stream } = some (o, r') :=
        Reception.step?_eq_some_iff.mpr ⟨going.2, taken, rest, took, leads.symm⟩
      have goesOn : Transport.arrive server act (s, .waiting ticket next) =
          (next (.ok .null)).advance fate (s.withServer server act) := by
        simp only [Transport.arrive, settled]
      rw [goesOn, same, afterRead_eq id server r.stage going.1 leads.symm,
        Reception.receiveAll_of_step step, ← List.append_assoc]
      have rest' : r'.stream = rest := by
        rw [← Reception.stream_resume rest (r.stage.next taken), leads]
      refine stands_proceed (rest'.symm ▸ offers') ?_
      rw [rest', Stream.waiter_take? took, ← free']
    · next undecided =>
      have stuck : Reception.step? { r with stream := f r.stream } = none :=
        Reception.step?_eq_none (Option.not_isSome_iff_eq_none.mp undecided)
      have waits : Transport.arrive server act (s, .waiting ticket next) =
          (s.withServer server act, .waiting ticket next) := by
        have unsettled : fate (s.withServer server act) ticket = none := arrived.unsettled
        simp only [Transport.arrive, unsettled]
      rw [Reception.receiveAll_of_stuck stuck, waits, List.append_nil, Stands,
        if_neg (by simp [going])]
      exact ⟨by rw [← free'], ticket, next, rfl, arrived⟩

/-- After chunks the calls stand where the reception of the chunks does. -/
theorem stands_chunks (chunks : List (List UInt8)) (stands : Stands id server n heard r x) :
    Stands id server n (heard ++ (Reception.receiveChunks chunks r).1)
      (Reception.receiveChunks chunks r).2
      ((chunks.map Server.emit).foldl (fun x act => arrive server act x) x) := by
  induction chunks generalizing heard r x with
  | nil => simpa [Reception.receiveChunks] using stands
  | cons chunk chunks ih =>
    have first := stands_arrive (.emit chunk) stands
    have rest := ih first
    rw [List.append_assoc] at rest
    exact rest

/-! ## What is heard -/

/-- `n` calls to receive, and then what happens to the server while they stand. -/
def callsAmong (id server n : Nat) (s : World) (acts : List (Living → Living)) :
    World × Program.Stop World Fault (List Reception.Outcome) :=
  acts.foldl (fun x act => arrive server act x) ((receiveMany id n []).advance fate s)

/-- What the calls have ended with, if they have. -/
def heard? (x : World × Program.Stop World Fault (List Reception.Outcome)) :
    Option (List Reception.Outcome) :=
  match x.2 with
  | .done os => some os
  | _ => none

/-- What `n` calls have ended with when octets have come in chunks and the stream is still open. -/
def heardOpen? (id server n : Nat) (s : World) (chunks : List (List UInt8)) :
    Option (List Reception.Outcome) :=
  heard? (callsAmong id server n s (chunks.map Server.emit))

/-- What `n` calls have ended with when octets have come in chunks and then the stream has ended. -/
def heardClosed? (id server n : Nat) (s : World) (chunks : List (List UInt8)) :
    Option (List Reception.Outcome) :=
  heard? (callsAmong id server n s (chunks.map Server.emit ++ [Server.closeOutput]))

theorem stands_received (silent : Offers id server .empty s) (n : Nat) (chunks : List (List UInt8)) :
    Stands id server n (Reception.received chunks) (Reception.receiveChunks chunks .start).2
      (callsAmong id server n s (chunks.map Server.emit)) := by
  have first : Stands id server n ([] ++ (Reception.receiveAll .start).1) (Reception.receiveAll .start).2
      ((proceed id server n [] .start).advance fate s) := stands_proceed silent rfl
  rw [Reception.receiveAll_of_stuck Reception.step?_start] at first
  have calls : receiveMany id n [] = proceed id server n [] .start :=
    receiveMany_eq id server n [] .empty (Nat.zero_le n)
  have all := stands_chunks chunks first
  rw [← calls] at all
  exact all

theorem Stands.heard? (stands : Stands id server n heard r x) :
    heard? x = if n ≤ heard.length ∨ r.ended then some (heard.take n) else none := by
  rw [Stands] at stands
  split at stands
  · next stopped => rw [Transport.heard?, stands, if_pos stopped]
  · next going =>
    obtain ⟨-, ticket, next, waits, -⟩ := stands
    rw [Transport.heard?, waits, if_neg going]

/-- While the stream is open the calls have ended iff the reception has as many outcomes, or has ended. -/
theorem heardOpen?_eq (silent : Offers id server .empty s) (n : Nat) (chunks : List (List UInt8)) :
    heardOpen? id server n s chunks =
      if n ≤ (Reception.received chunks).length ∨ (Reception.receiveChunks chunks .start).2.ended
      then some ((Reception.received chunks).take n) else none :=
  (stands_received silent n chunks).heard?

/-- After the end of the stream the calls have ended as the reception has. -/
theorem heardClosed?_eq (silent : Offers id server .empty s) (n : Nat) (chunks : List (List UInt8)) :
    heardClosed? id server n s chunks = some ((Reception.outcomes chunks).take n) := by
  have stands := stands_arrive .closeOutput (stands_received silent n chunks)
  have ended := Reception.ended_receiveAll (Reception.receiveChunks chunks .start).2.close rfl
  rw [heardClosed?, callsAmong, List.foldl_append]
  exact stands.heard?.trans (if_pos (.inr ended))

/-- Calls to receive do not depend on how the octets of a stream are cut into chunks. If the stream ends,
they end with messages and bodies that hold none, up to a fault that ends receiving, and that is the
last one. Two ways of cutting the same octets make them end alike, but for the words about a header
that is too long. Calls that have ended with a front of the octets end so with all of them, whether or
not the stream ends. And the call for a frame has ended as soon as its last octet is there. -/
theorem heard_by_octets (silent : Offers id server .empty s) :
    (∀ chunks, ∃ before f, (∀ o ∈ before, o.GoesOn) ∧ f.isPassedOver = false ∧
      ∀ n, heardClosed? id server n s chunks = some ((before ++ [.error f]).take n)) ∧
    (∀ chunks chunks' n, chunks.flatten = chunks'.flatten →
      (heardClosed? id server n s chunks).map (List.map Reception.Outcome.leveled) =
        (heardClosed? id server n s chunks').map (List.map Reception.Outcome.leveled)) ∧
    (∀ chunks chunks' n os, chunks.flatten <+: chunks'.flatten →
      heardOpen? id server n s chunks = some os →
      (heardOpen? id server n s chunks').map (List.map Reception.Outcome.leveled) =
        some (os.map Reception.Outcome.leveled) ∧
      (heardClosed? id server n s chunks').map (List.map Reception.Outcome.leveled) =
        some (os.map Reception.Outcome.leveled)) ∧
    ∀ chunks (frames : List (List UInt8 × Reception.Outcome)) (last : List UInt8 × Reception.Outcome),
      (∀ frame ∈ frames, Reception.Complete frame.1 frame.2) → (∀ frame ∈ frames, frame.2.GoesOn) →
      Reception.Complete last.1 last.2 → chunks.flatten = frames.flatMap Prod.fst ++ last.1 →
      heardOpen? id server (frames.length + 1) s chunks = some (frames.map Prod.snd ++ [last.2]) := by
  refine ⟨fun chunks => ?_, fun chunks chunks' n same => ?_, fun chunks chunks' n os front ended => ?_,
    fun chunks frames last complete goesOn ends cut => ?_⟩
  · obtain ⟨before, going, f, final, all⟩ := Reception.outcomes_end chunks
    exact ⟨before, f, going, final, fun n => by rw [heardClosed?_eq silent, all]⟩
  · have all := (Reception.outcomes_flatten chunks).trans
      (same ▸ (Reception.outcomes_flatten chunks').symm)
    simp only [heardClosed?_eq silent, Option.map_some, List.map_take, all]
  · obtain ⟨later, later', open', closed', stopped⟩ := Reception.received_front front
    rw [heardOpen?_eq silent] at ended
    split at ended
    · next enough =>
      cases ended
      -- nothing behind the front counts
      have short (rest : List Reception.Outcome) (none : (Reception.receiveChunks chunks .start).2.ended →
          rest = []) : ((Reception.received chunks).map Reception.Outcome.leveled ++ rest).take n =
            ((Reception.received chunks).take n).map Reception.Outcome.leveled := by
        rcases enough with enough | ended
        · rw [List.take_append_of_le_length (by simpa using enough), List.map_take]
        · rw [none ended, List.append_nil, List.map_take]
      have enough' : n ≤ (Reception.received chunks').length ∨
          (Reception.receiveChunks chunks' .start).2.ended := by
        have longer := congrArg List.length open'
        simp only [List.length_append, List.length_map] at longer
        exact enough.imp (fun _ => by omega) fun ended => (stopped ended).2.2
      constructor
      · rw [heardOpen?_eq silent, if_pos enough', Option.map_some, List.map_take, open',
          short later fun ended => (stopped ended).1]
      · rw [heardClosed?_eq silent, Option.map_some, List.map_take, closed',
          short later' fun ended => (stopped ended).2.1]
    · cases ended
  · have all := Reception.received_frames complete goesOn ends cut
    have count : (frames.map Prod.snd ++ [last.2]).length = frames.length + 1 := by simp
    rw [heardOpen?_eq silent, all, if_pos (.inl (by omega)), List.take_of_length_le (by omega)]

/-- A world in which a transport holds a server that has said nothing yet, with a task to read it. -/
def quietWorld : World :=
  { World.sample [] with
    loop := (Loop.empty.start (.reader 0)).2
    servers := [.fresh 1001 .obedient]
    transports := [{ Transport.ofConfig [] .standard with server := some 0 }] }

theorem offers_quietWorld : Offers 0 0 .empty quietWorld := ⟨rfl, ⟨_, rfl, rfl⟩, List.cons_ne_nil _ _⟩

/-- An empty object in a frame that is cut in the middle of its header. -/
theorem heard_cut_frame :
    Offers 0 0 .empty quietWorld ∧
    heardOpen? 0 0 1 quietWorld [(Framing.frame [123, 125]).take 5, (Framing.frame [123, 125]).drop 5] =
      some [.ok (.response ⟨none, none, none⟩)] := by
  have isHeader : Reception.IsHeader (Framing.header 2) := ⟨17, by decide, by decide, by decide⟩
  have length : Framing.contentLength? (Framing.header 2) = some 2 := by decide +kernel
  have body : Reception.Outcome.ofBody [123, 125] = .ok (.response ⟨none, none, none⟩) := by rfl
  have complete : Reception.Complete (Framing.frame [123, 125]) (.ofBody [123, 125]) :=
    .frame isHeader length
  have heard := (heard_by_octets offers_quietWorld).2.2.2
    [(Framing.frame [123, 125]).take 5, (Framing.frame [123, 125]).drop 5] []
    (Framing.frame [123, 125], .ofBody [123, 125]) (by simp) (by simp) complete (by simp)
  rw [body] at heard
  exact ⟨offers_quietWorld, heard⟩

end Transport

end LspHost

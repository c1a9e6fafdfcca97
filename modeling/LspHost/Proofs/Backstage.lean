import LspHost.Machine
import LspHost.Proofs.Process.Living

/-!
# What happens backstage

Between two segments of tasks the event loop and the servers act by themselves. `World.Backstage` says how
far: nothing but loop and servers is different, only tickets are settled that may be
(`Leave`) or whose reader finds what it asked for, nobody is stopped or interrupted, and only tasks of some
kinds are new.
-/

namespace LspHost

variable {P : TaskKind → Prop} {C C' : Leave} {a b c : World}

theorem Machine.isInterrupted_eq (m : Machine) (t : Nat) :
    m.isInterrupted t = m.world.loop.isInterrupted t := by
  simp only [isInterrupted, Loop.isInterrupted]
  cases m.world.loop.tasks[t]? <;> rfl

/-- Whatever a world keeps settles only what may be settled. -/
structure World.Tidy (C : Leave) (s : World) : Prop where
  loop : s.loop.Tidy C
  servers : ∀ p ∈ s.servers, p.Tidy C

/-- More may be settled. -/
theorem World.Tidy.mono (h : a.Tidy C) (more : ∀ k now, C.allows k now → C'.allows k now)
    (guards : ∀ k, k < a.loop.tickets.length → C.guarded k → C'.guarded k)
    (outputs : ∀ p ∈ a.servers, ∀ k d, p.output.waiter = some (k, d) → ¬ C'.guarded k) : a.Tidy C' where
  loop := h.loop.mono more guards
  servers p hp :=
    { exits := fun k hk now => more _ _ ((h.servers p hp).exits k hk now)
      errors := fun k d e now => more _ _ ((h.servers p hp).errors k d e now)
      output := outputs p hp }

/-- Who reads the output of a process with a ticket is woken. -/
def World.Rouses (a b : World) (k : Nat) : Prop :=
  b.loop.outcome? k = some (.ok .null) ∧
    ∃ (j : Nat) (p p' : Server) (d : Demand), a.servers[j]? = some p ∧ p.output.waiter = some (k, d) ∧
      b.servers[j]? = some p' ∧ p'.output.waiter = none

/-- Nothing but the event loop and the servers is different. -/
structure World.Passes (a b : World) : Prop where
  loop : a.loop.Grows b.loop
  rest : b = { a with loop := b.loop, servers := b.servers }

namespace World.Passes

theorem refl (a : World) : a.Passes a := ⟨.refl _, rfl⟩

theorem trans (h : a.Passes b) (h' : b.Passes c) : a.Passes c :=
  ⟨h.loop.trans h'.loop, by rw [h'.rest, h.rest]⟩

theorem onLoop {l : Loop} (grows : a.loop.Grows l) : a.Passes { a with loop := l } := ⟨grows, rfl⟩

end World.Passes

/-- What the event loop and the servers do by themselves, with new tasks of some kinds only. -/
structure World.Backstage (P : TaskKind → Prop) (a b : World) : Prop extends World.Passes a b where
  time : a.loop.now ≤ b.loop.now
  servers : b.servers.length = a.servers.length
  processes : ∀ (j : Nat) (p : Server), a.servers[j]? = some p →
    ∃ p', b.servers[j]? = some p' ∧ p'.pid = p.pid ∧ p.output.Follows p'.output
  tidy : ∀ C : Leave, C.Welcomes a.loop b.loop → a.Tidy C →
    b.Tidy C ∧ ∀ k, ¬ C.allows k b.loop.now → b.loop.outcome? k = a.loop.outcome? k ∨ a.Rouses b k
  waiting : ∀ u k, b.loop.waitingFor? u = some k → a.loop.waitingFor? u = some k
  calm : ∀ u, b.loop.isInterrupted u = true → a.loop.isInterrupted u = true
  kinds : ∀ u κ, b.loop.kind? u = some κ → a.loop.kind? u = some κ ∨ P κ

namespace World.Backstage

/-- The process of before is there afterwards. -/
theorem process_back (h : a.Backstage P b) {j : Nat} {p' : Server} (found : b.servers[j]? = some p') :
    ∃ p, a.servers[j]? = some p ∧ p'.pid = p.pid ∧ p.output.Follows p'.output := by
  have bound : j < a.servers.length := h.servers ▸ (List.getElem?_eq_some_iff.mp found).1
  obtain ⟨q, found', rest⟩ := h.processes j _ (List.getElem?_eq_getElem bound)
  obtain rfl := Option.some.inj (found.symm.trans found')
  exact ⟨_, List.getElem?_eq_getElem bound, rest⟩

/-- The event loop goes on. -/
theorem onLoop {l : Loop} (orderly : a.loop.Orderly P l) : a.Backstage P { a with loop := l } where
  rest := rfl
  loop := orderly.grows
  time := orderly.time
  servers := rfl
  processes _ p found := ⟨p, found, rfl, .refl _⟩
  tidy C welcome h := by
    obtain ⟨tidy, same⟩ := orderly.tidy C welcome h.loop
    exact ⟨⟨tidy, h.servers⟩, fun k never => .inl (same k never)⟩
  waiting := orderly.waiting
  calm := orderly.calm
  kinds := orderly.kinds

theorem refl (a : World) : a.Backstage P a := onLoop (.refl _)

theorem trans (h : a.Backstage P b) (h' : b.Backstage P c) : a.Backstage P c where
  toPasses := h.toPasses.trans h'.toPasses
  time := Nat.le_trans h.time h'.time
  servers := h'.servers.trans h.servers
  processes j p found := by
    obtain ⟨p', found', pid, follows⟩ := h.processes j p found
    obtain ⟨p'', found'', pid', follows'⟩ := h'.processes j p' found'
    exact ⟨p'', found'', pid'.trans pid, follows.trans follows'⟩
  tidy C welcome tidy := by
    obtain ⟨tidy', settled⟩ :=
      h.tidy C (fun k lo hi => welcome k lo (Nat.lt_of_lt_of_le hi h'.loop.issued)) tidy
    obtain ⟨tidy'', settled'⟩ :=
      h'.tidy C (fun k lo hi => welcome k (Nat.le_trans h.loop.issued lo) hi) tidy'
    refine ⟨tidy'', fun k never => ?_⟩
    have early : ¬ C.allows k b.loop.now := fun may => never (C.lasting k _ _ h'.time may)
    rcases settled' k never with same' | ⟨outcome, j, p', p'', d, found', waits, found'', woken⟩
    · rcases settled k early with same | ⟨outcome, j, p, p', d, found, waits, found', woken⟩
      · exact .inl (same'.trans same)
      · obtain ⟨p'', found'', -, follows⟩ := h'.processes j p' found'
        refine .inr ⟨h'.loop.outcomes k _ outcome, j, p, p'', d, found, waits, found'', ?_⟩
        rcases follows.waiter with still | ⟨_, _, waits', -⟩
        · exact still.trans woken
        · cases woken.symm.trans waits'
    · obtain ⟨p, found, -, follows⟩ := h.process_back found'
      refine .inr ⟨outcome, j, p, p'', d, found, ?_, found'', woken⟩
      rcases follows.waiter with still | ⟨_, _, -, woken', -⟩
      · exact still.symm.trans waits
      · cases woken'.symm.trans waits
  waiting u k e := h.waiting u k (h'.waiting u k e)
  calm u e := h.calm u (h'.calm u e)
  kinds u κ e := (h'.kinds u κ e).elim (h.kinds u κ) .inr

/-- A server acts. -/
theorem withServer {f : Living → Living} (id : Nat) (orderly : ∀ x, Living.Orderly x (f x)) (s : World) :
    s.Backstage P (s.withServer id f) := by
  unfold World.withServer
  split
  · next p found =>
    have acts := orderly (s.loop, p)
    generalize f (s.loop, p) = y at acts
    obtain ⟨l, p'⟩ := y
    have bound := (List.getElem?_eq_some_iff.mp found).1
    exact
      { rest := rfl
        loop := acts.grows
        time := Nat.le_of_eq acts.now.symm
        servers := by simp
        processes := fun j q found' => by
          by_cases e : id = j
          · subst e
            obtain rfl := Option.some.inj (found.symm.trans found')
            exact ⟨p', List.getElem?_set_self bound, acts.pid, acts.output⟩
          · exact ⟨q, by rwa [List.getElem?_set_ne e], rfl, .refl _⟩
        tidy := fun C _ h => by
          have hp := h.servers p (List.mem_of_getElem? found)
          obtain ⟨tidy, tidy'⟩ := acts.tidy C h.loop hp
          refine ⟨⟨tidy, fun q hq => ?_⟩, fun k never => ?_⟩
          · rcases List.mem_or_eq_of_mem_set hq with hq | rfl
            · exact h.servers q hq
            · exact tidy'
          · have never : ¬ C.allows k s.loop.now := by rw [← acts.now]; exact never
            refine (acts.settled C h.loop hp k never).imp_right ?_
            rintro ⟨outcome, woken, d, waits⟩
            exact ⟨outcome, id, p, p', d, found, waits, List.getElem?_set_self bound, woken⟩
        waiting := fun u k e => by
          have same : l.tasks = s.loop.tasks := acts.tasks
          simpa only [Loop.waitingFor?, same] using e
        calm := fun u e => by
          have same : l.tasks = s.loop.tasks := acts.tasks
          simpa only [Loop.isInterrupted, same] using e
        kinds := fun u κ e => by
          have same : l.tasks = s.loop.tasks := acts.tasks
          exact .inl (by simpa only [Loop.kind?, same] using e) }
  · exact .refl s

end World.Backstage

end LspHost

import LspHost.Process.Reception
import LspHost.Proofs.Process.Stream

/-!
# Chunks do not matter

The octets of a stream come in chunks, and after each chunk everything is received that can be decided
(`Reception.receiveChunks`). What is received depends on the octets alone and not on where they were
cut:

* `step?_feed`, `step?_close`: a step that can be taken can still be taken, with the same outcome, when
  more octets have come or the stream has ended. Only the words for a header that is too long differ.
* `receiveAll_feed`, `receiveAll_close`: so receiving now and then later is receiving all at once.
* `receiveChunks_flatten`, `outcomes_flatten`: receiving chunk by chunk is receiving everything in one
  piece.
* `received_front`: what was received of a front of the octets stays received.
* `received_frames`: the outcome of a frame is there as soon as its last octet is.
-/

namespace LspHost

/-! ## What can be taken can still be taken -/

/-- A demand for something; a separator has octets. -/
def Demand.IsSolid : Demand → Prop
  | .until separator => separator ≠ []
  | .exactly _ => True

theorem Stage.isSolid_demand (stage : Stage) : stage.demand.IsSolid := by
  cases stage with
  | header => exact List.cons_ne_nil _ _
  | body => trivial

/-- Two ends of a read that differ at most in whether a separator was found behind too many octets. -/
inductive Taken.Alike : Taken → Taken → Prop where
  | same (taken : Taken) : Alike taken taken
  | tooLong (found : Bool) (before before' : Nat) :
    Alike (.tooLong false before) (.tooLong found before')

namespace Stream

/-- A separator that ends within the octets that are there is found among them. -/
theorem find?_within {separator bytes more : List UInt8} {place i : Nat} (solid : separator ≠ [])
    (h : find? separator place (bytes ++ more) = some i)
    (within : i + separator.length ≤ place + bytes.length) :
    find? separator place bytes = some i := by
  induction bytes generalizing place with
  | nil =>
    have bound := (find?_bound solid h).1
    have : 0 < separator.length := List.length_pos_iff.mpr solid
    simp only [List.length_nil] at within
    omega
  | cons b rest ih =>
    have bound := (find?_bound solid h).1
    have fits : separator.length ≤ (b :: rest).length := by
      simp only [List.length_cons] at within ⊢
      omega
    simp only [List.cons_append, find?] at h ⊢
    rw [← List.cons_append, isPrefixOf_append more fits] at h
    split at h
    · next isPrefix => rw [if_pos isPrefix]; exact h
    · next notPrefix =>
      rw [if_neg notPrefix]
      refine ih h ?_
      simp only [List.length_cons] at within
      omega

theorem feed_feed (s : Stream) (a b : List UInt8) : (s.feed a).feed b = s.feed (a ++ b) := by
  unfold feed
  by_cases ended : s.ended <;> simp [ended]

theorem decide?_feed {s : Stream} {d : Demand} {taken : Taken} {rest : List UInt8}
    (b : List UInt8) (isOpen : s.ended = false) (solid : d.IsSolid)
    (h : s.decide? d = some (taken, rest)) :
    ∃ taken', { s with buffer := s.buffer ++ b }.decide? d = some (taken', rest ++ b) ∧
      taken.Alike taken' := by
  cases d with
  | exactly count =>
    simp only [decide?, isOpen] at h ⊢
    split at h
    · next enough =>
      cases h
      refine ⟨.piece (s.buffer.take count), ?_, .same _⟩
      rw [if_pos (by simp only [List.length_append]; omega), List.take_append_of_le_length enough,
        List.drop_append_of_le_length enough]
    · cases h
  | «until» separator =>
    simp only [decide?, isOpen] at h ⊢
    rcases found : find? separator 0 s.buffer with _ | i
    · rw [found] at h
      dsimp only at h
      split at h
      · next stopped =>
        cases h
        rcases found' : find? separator 0 (s.buffer ++ b) with _ | j
        · have stopped' := isOverlong_mono (n := (s.buffer ++ b).length) (by simp) stopped
          exact ⟨_, by dsimp only; rw [if_pos stopped'], .tooLong _ _ _⟩
        · -- it begins behind the octets that are too many, or it would have been found before
          have behind : limit < j := by
            refine Nat.lt_of_not_le fun early => ?_
            have within : j + separator.length ≤ 0 + s.buffer.length := by
              simp only [isOverlong, Bool.and_eq_true, decide_eq_true_eq] at stopped
              omega
            rw [find?_within solid found' within] at found
            cases found
          exact ⟨_, by dsimp only; rw [if_pos behind], .tooLong _ _ _⟩
      · simp at h
    · have bound := (find?_bound solid found).2
      rw [find?_append b solid found]
      rw [found] at h
      dsimp only at h ⊢
      split at h
      · next long =>
        cases h
        exact ⟨_, by rw [if_pos long], .same _⟩
      · next short =>
        cases h
        refine ⟨.piece (s.buffer.take (i + separator.length)), ?_, .same _⟩
        rw [if_neg short, List.take_append_of_le_length (by omega),
          List.drop_append_of_le_length (by omega)]

theorem take?_feed {s rest : Stream} {d : Demand} {taken : Taken} (b : List UInt8)
    (solid : d.IsSolid) (h : s.take? d = some (taken, rest)) :
    ∃ taken', (s.feed b).take? d = some (taken', rest.feed b) ∧ taken.Alike taken' := by
  unfold take? at h
  rcases decided : s.decide? d with _ | ⟨taken₁, buffer⟩
  · rw [decided] at h; cases h
  · rw [decided] at h
    cases h
    unfold feed
    cases ended : s.ended with
    | true => exact ⟨taken, by simp [take?, decided, ended], .same _⟩
    | false =>
      obtain ⟨taken', decided', alike⟩ := decide?_feed b ended solid decided
      rw [ended] at decided'
      exact ⟨taken', by simp [take?, decided'], alike⟩

/-- What can be decided of a stream is decided in the same way after its end. -/
theorem take?_close {s rest : Stream} {d : Demand} {taken : Taken}
    (h : s.take? d = some (taken, rest)) : s.close.take? d = some (taken, rest.close) := by
  unfold take? at h ⊢
  rcases decided : s.decide? d with _ | ⟨taken₁, buffer⟩
  · rw [decided] at h; cases h
  · rw [decided] at h
    cases h
    have same : s.close.decide? d = some (taken, buffer) := by
      cases d with
      | exactly count =>
        simp only [decide?, close] at decided ⊢
        split at decided
        · next enough => rw [if_pos enough]; exact decided
        · next few =>
          rw [if_neg few]
          split at decided
          · exact decided
          · cases decided
      | «until» separator =>
        simp only [decide?, close] at decided ⊢
        split at decided
        · exact decided
        · split at decided
          · next stopped => rw [if_pos stopped]; exact decided
          · next short =>
            rw [if_neg short]
            split at decided
            · exact decided
            · cases decided
    rw [same]
    rfl

/-- What is taken of a stream does not come back. -/
theorem length_take? {s rest : Stream} {d : Demand} {taken : Taken}
    (h : s.take? d = some (taken, rest)) : rest.buffer.length ≤ s.buffer.length := by
  obtain ⟨⟨taken', buffer⟩, decided, e⟩ := Option.map_eq_some_iff.mp h
  cases e
  cases d with
  | exactly count =>
    simp only [decide?] at decided
    split at decided
    · cases decided; simp
    · split at decided <;> cases decided
      simp
  | «until» separator =>
    simp only [decide?] at decided
    split at decided
    · split at decided <;> cases decided <;> simp
    · split at decided
      · cases decided; simp
      · split at decided <;> cases decided
        simp

/-- A piece up to a separator holds the separator. -/
theorem length_piece {s rest : Stream} {separator piece : List UInt8} (solid : separator ≠ [])
    (h : s.take? (.until separator) = some (.piece piece, rest)) :
    rest.buffer.length + separator.length ≤ s.buffer.length := by
  obtain ⟨⟨taken, buffer⟩, decided, e⟩ := Option.map_eq_some_iff.mp h
  cases e
  simp only [decide?] at decided
  split at decided
  · next i found =>
    have bound := (find?_bound solid found).2
    split at decided
    · cases decided
    · cases decided
      simp only [List.length_drop]
      omega
  · split at decided
    · cases decided
    · split at decided <;> cases decided

/-- After the end every demand can be decided. -/
theorem isSome_take?_of_ended {s : Stream} (d : Demand) (ended : s.ended = true) :
    (s.take? d).isSome := by
  cases d with
  | exactly count =>
    simp only [take?, decide?, ended, Option.isSome_map]
    split <;> rfl
  | «until» separator =>
    simp only [take?, decide?, ended, Option.isSome_map]
    split
    · split <;> rfl
    · split <;> rfl

end Stream

/-- What follows the end of a read: after a header its body, after a body an outcome that reading goes
on after; all else ends the reception. -/
theorem Stage.next_cases (stage : Stage) (taken : Taken) :
    (∃ n bytes, stage = .header ∧ taken = .piece bytes ∧ stage.next taken = .onward (.body n)) ∨
    (∃ length, stage = .body length ∧ ((∃ m, stage.next taken = .received m) ∨
      ∃ f, stage.next taken = .failed f ∧ f.isPassedOver = true)) ∨
    ∃ f, stage.next taken = .failed f ∧ f.isPassedOver = false := by
  cases taken with
  | ended rest => exact .inr (.inr ⟨_, by cases stage <;> rfl, rfl⟩)
  | tooLong found before => exact .inr (.inr ⟨_, by cases stage <;> rfl, rfl⟩)
  | piece bytes =>
    cases stage with
    | header =>
      simp only [Stage.next, Stage.afterHeader]
      split
      · exact .inr (.inr ⟨_, rfl, rfl⟩)
      · split
        · exact .inr (.inr ⟨_, rfl, rfl⟩)
        · exact .inl ⟨_, _, trivial, rfl, rfl⟩
    | body length =>
      simp only [Stage.next, Stage.afterBody]
      split
      · exact .inr (.inl ⟨_, rfl, .inl ⟨_, rfl⟩⟩)
      · exact .inr (.inl ⟨_, rfl, .inr ⟨_, rfl, rfl⟩⟩)

/-! ## Steps of a reception -/

namespace Reception

/-- What a call for the next message ends with. -/
abbrev Outcome := Except Fault Message

namespace Outcome

/-- Receiving goes on after a message, and after a body that holds none. -/
def GoesOn : Outcome → Prop
  | .ok _ => True
  | .error f => f.isPassedOver = true

/-- An outcome but for the words about a header that is too long. -/
def leveled : Outcome → Outcome
  | .error (.transport (.overlongHeader _)) => .error (.transport (.overlongHeader false))
  | o => o

/-- The outcome of a frame, which its body alone determines. -/
def ofBody (body : List UInt8) : Outcome :=
  (Framing.readBody body).mapError fun f => .transport (.undecodableBody f)

end Outcome

variable {r r' : Reception} {o : Option Outcome}

/-- What follows alike ends of a read is the same but for the words. -/
theorem next_alike (stage : Stage) {taken taken' : Taken} (h : taken.Alike taken') :
    stage.next taken' = stage.next taken ∨
    ∃ found, stage.next taken = .failed (.transport (.overlongHeader false)) ∧
      stage.next taken' = .failed (.transport (.overlongHeader found)) := by
  cases h with
  | same => exact .inl rfl
  | tooLong found => cases stage <;> exact .inr ⟨found, rfl, rfl⟩

/-- What a step leads to, by what follows the piece that it has taken. -/
def resume (stream : Stream) : Progress → Option Outcome × Reception
  | .onward stage => (none, ⟨stream, stage, false⟩)
  | .received m => (some (.ok m), ⟨stream, .header, false⟩)
  | .failed f => (some (.error f), ⟨stream, .header, !f.isPassedOver⟩)

/-- A step can be taken iff the demand of the present stage can be decided. -/
theorem step?_eq_some_iff {next : Option Outcome × Reception} : r.step? = some next ↔
    r.ended = false ∧ ∃ taken rest, r.stream.take? r.stage.demand = some (taken, rest) ∧
      next = resume rest (r.stage.next taken) := by
  obtain ⟨stream, stage, ended⟩ := r
  cases ended with
  | true => simp [step?]
  | false =>
    rcases took : stream.take? stage.demand with _ | ⟨taken, rest⟩
    · simp [step?, took]
    · have step : step? ⟨stream, stage, false⟩ = some (resume rest (stage.next taken)) := by
        simp only [step?, took]
        cases stage.next taken <;> rfl
      rw [step]
      refine ⟨fun h => ⟨rfl, taken, rest, rfl, ?_⟩, ?_⟩
      · cases h; rfl
      · rintro ⟨-, taken', rest', took', rfl⟩
        cases took'
        rfl

/-- A step can still be taken when more octets have come. -/
theorem step?_feed (b : List UInt8) (h : r.step? = some (o, r')) :
    ∃ o', (r.feed b).step? = some (o', r'.feed b) ∧ o'.map Outcome.leveled = o.map Outcome.leveled := by
  obtain ⟨going, taken, rest, took, next⟩ := step?_eq_some_iff.mp h
  obtain ⟨taken', took', alike⟩ := Stream.take?_feed b r.stage.isSolid_demand took
  have step : (r.feed b).step? = some (resume (rest.feed b) (r.stage.next taken')) :=
    step?_eq_some_iff.mpr ⟨going, taken', _, took', rfl⟩
  rcases next_alike r.stage alike with same | ⟨found, before, after⟩
  · rw [same] at step
    cases e : r.stage.next taken <;> rw [e] at step next <;> cases next <;> exact ⟨_, step, rfl⟩
  · rw [before] at next
    rw [after] at step
    cases next
    exact ⟨_, step, rfl⟩

/-- A step can still be taken when the stream has ended. -/
theorem step?_close (h : r.step? = some (o, r')) : r.close.step? = some (o, r'.close) := by
  obtain ⟨going, taken, rest, took, next⟩ := step?_eq_some_iff.mp h
  refine step?_eq_some_iff.mpr ⟨going, taken, rest.close, Stream.take?_close took, ?_⟩
  show (o, r'.close) = resume rest.close (r.stage.next taken)
  cases e : r.stage.next taken <;> rw [e] at next <;> cases next <;> rfl

/-! ## Receiving everything -/

/-- What is left to receive at most: two steps for each octet, one for the body that is awaited and one
for the end. -/
def weight (r : Reception) : Nat :=
  2 * r.stream.buffer.length + (if r.stage = .header then 0 else 1) + if r.ended then 0 else 1

/-- A step takes something from the stream, ends an awaited body or ends the reception. -/
theorem weight_lt_of_step? (h : r.step? = some (o, r')) : r'.weight < r.weight := by
  obtain ⟨going, taken, rest, took, next⟩ := step?_eq_some_iff.mp h
  have shorter := Stream.length_take? took
  rcases Stage.next_cases r.stage taken with ⟨n, bytes, header, rfl, onward⟩ |
    ⟨length, body, awaited⟩ | ⟨f, failed, final⟩
  · rw [onward] at next
    cases next
    rw [header] at took
    have separated := Stream.length_piece (List.cons_ne_nil _ _) took
    simp only [weight, header, going, List.length_cons] at separated ⊢
    simp only [reduceCtorEq, if_true, if_false]
    omega
  · have next' : r' = ⟨rest, .header, false⟩ := by
      rcases awaited with ⟨m, received⟩ | ⟨f, failed, passed⟩
      · rw [received] at next; cases next; rfl
      · rw [failed] at next; cases next; rw [passed]; rfl
    simp only [next', weight, body, going, reduceCtorEq, if_true, if_false]
    omega
  · rw [failed] at next
    cases next
    simp only [weight, final, going, Bool.not_false, reduceCtorEq, if_true, if_false]
    omega

/-- Fuel beyond the weight makes no difference. -/
theorem receiveWithin_of_weight {m n : Nat} (hm : r.weight ≤ m) (hn : r.weight ≤ n) :
    receiveWithin m r = receiveWithin n r := by
  induction m generalizing r n with
  | zero =>
    have stuck : r.step? = none := by
      rcases step : r.step? with _ | ⟨o, r'⟩
      · rfl
      · have := weight_lt_of_step? step
        omega
    cases n with
    | zero => rfl
    | succ n => simp only [receiveWithin, stuck]
  | succ m ih =>
    rcases step : r.step? with _ | ⟨o, r'⟩
    · cases n <;> simp only [receiveWithin, step]
    · have lighter := weight_lt_of_step? step
      cases n with
      | zero => omega
      | succ n =>
        have same : receiveWithin m r' = receiveWithin n r' := ih (by omega) (by omega)
        simp only [receiveWithin, step, same]

theorem weight_le (r : Reception) : r.weight ≤ 2 * r.stream.buffer.length + 2 := by
  unfold weight
  split <;> split <;> omega

/-- Without a step nothing is received. -/
theorem receiveAll_of_stuck (h : r.step? = none) : r.receiveAll = ([], r) := by
  simp only [receiveAll, receiveWithin, h]

/-- What is received is the outcome of the first step, if it has one, and what is received then. -/
theorem receiveAll_of_step (h : r.step? = some (o, r')) :
    r.receiveAll = (o.toList ++ r'.receiveAll.1, r'.receiveAll.2) := by
  have lighter := weight_lt_of_step? h
  have bound := r.weight_le
  have fuel : receiveWithin (2 * r.stream.buffer.length + 1) r' = r'.receiveAll :=
    receiveWithin_of_weight (by omega) r'.weight_le
  rw [← fuel]
  simp only [receiveAll, receiveWithin, h]
  cases o <;> rfl

/-- Receiving step by step: what holds when nothing can be received, and is kept by a step before,
holds always. -/
theorem receive_induction {P : Reception → Prop} (stuck : ∀ r, r.step? = none → P r)
    (step : ∀ r o r', r.step? = some (o, r') → P r' → P r) (r : Reception) : P r := by
  induction weighs : r.weight using Nat.strongRecOn generalizing r with
  | ind n ih =>
    rcases e : r.step? with _ | ⟨o, r'⟩
    · exact stuck r e
    · exact step r o r' e (ih r'.weight (weighs ▸ weight_lt_of_step? e) r' rfl)

/-- After everything was received nothing more can be. -/
theorem step?_receiveAll (r : Reception) : r.receiveAll.2.step? = none := by
  induction r using receive_induction with
  | stuck r h => rw [receiveAll_of_stuck h]; exact h
  | step r o r' h ih => rw [receiveAll_of_step h]; exact ih

/-- Receiving what is there, and then what has come, is receiving everything at once. -/
theorem receiveAll_feed (r : Reception) (b : List UInt8) :
    (r.feed b).receiveAll.1.map Outcome.leveled =
      (r.receiveAll.1 ++ (r.receiveAll.2.feed b).receiveAll.1).map Outcome.leveled ∧
    (r.feed b).receiveAll.2 = (r.receiveAll.2.feed b).receiveAll.2 := by
  induction r using receive_induction with
  | stuck r h => rw [receiveAll_of_stuck h]; exact ⟨rfl, rfl⟩
  | step r o r' h ih =>
    obtain ⟨o', h', leveled⟩ := step?_feed b h
    rw [receiveAll_of_step h, receiveAll_of_step h']
    refine ⟨?_, ih.2⟩
    have first : o'.toList.map Outcome.leveled = o.toList.map Outcome.leveled := by
      cases o <;> cases o' <;> simp_all
    simp only [List.map_append, ih.1, first, List.append_assoc]

/-- Receiving what is there, and then what the end of the stream decides, is receiving everything after
the end. -/
theorem receiveAll_close (r : Reception) :
    r.close.receiveAll = (r.receiveAll.1 ++ r.receiveAll.2.close.receiveAll.1,
      r.receiveAll.2.close.receiveAll.2) := by
  induction r using receive_induction with
  | stuck r h => rw [receiveAll_of_stuck h]; rfl
  | step r o r' h ih =>
    rw [receiveAll_of_step h, receiveAll_of_step (step?_close h), ih]
    simp only [List.append_assoc]

/-! ## Chunks -/

/-- Octets arrive in chunks, and after each chunk everything that can be decided is received. -/
def receiveChunks : List (List UInt8) → Reception → List Outcome × Reception
  | [], r => ([], r)
  | chunk :: rest, r =>
    let (now, r) := (r.feed chunk).receiveAll
    let (later, r) := receiveChunks rest r
    (now ++ later, r)

/-- What is received of chunks while more may come. -/
def received (chunks : List (List UInt8)) : List Outcome := (receiveChunks chunks start).1

/-- What is received of chunks that the stream ends after. -/
def outcomes (chunks : List (List UInt8)) : List Outcome :=
  received chunks ++ (receiveChunks chunks start).2.close.receiveAll.1

theorem feed_feed (r : Reception) (a b : List UInt8) : (r.feed a).feed b = r.feed (a ++ b) := by
  simp only [feed, Stream.feed_feed]

theorem step?_start : start.step? = none := rfl

theorem receiveChunks_append (chunks more : List (List UInt8)) (r : Reception) :
    receiveChunks (chunks ++ more) r =
      ((receiveChunks chunks r).1 ++ (receiveChunks more (receiveChunks chunks r).2).1,
        (receiveChunks more (receiveChunks chunks r).2).2) := by
  induction chunks generalizing r with
  | nil => rfl
  | cons chunk rest ih => simp only [List.cons_append, receiveChunks, ih, List.append_assoc]

/-- Between two chunks nothing is left to receive. -/
theorem step?_receiveChunks (chunks : List (List UInt8)) (h : r.step? = none) :
    (receiveChunks chunks r).2.step? = none := by
  induction chunks generalizing r with
  | nil => exact h
  | cons chunk rest ih => exact ih (step?_receiveAll _)

/-- Chunk by chunk as much is received as of all chunks at once. -/
theorem receiveChunks_flatten (chunks : List (List UInt8)) (h : r.step? = none) :
    (receiveChunks chunks r).1.map Outcome.leveled =
      (r.feed chunks.flatten).receiveAll.1.map Outcome.leveled ∧
    (receiveChunks chunks r).2 = (r.feed chunks.flatten).receiveAll.2 := by
  induction chunks generalizing r with
  | nil =>
    have nothing : r.feed [] = r := by
      simp only [feed, Stream.feed, List.append_nil, ite_self]
    simp only [receiveChunks, List.flatten_nil, nothing, receiveAll_of_stuck h, and_self]
  | cons chunk rest ih =>
    obtain ⟨later, same⟩ := ih (step?_receiveAll (r.feed chunk))
    obtain ⟨all, same'⟩ := receiveAll_feed (r.feed chunk) rest.flatten
    rw [feed_feed] at all same'
    refine ⟨?_, ?_⟩
    · rw [List.flatten_cons, all, List.map_append, ← later, ← List.map_append]
      rfl
    · rw [List.flatten_cons, same', ← same]
      rfl

/-- Receiving all octets at once and then the end gives the same as receiving them in chunks. -/
theorem outcomes_flatten (chunks : List (List UInt8)) :
    (outcomes chunks).map Outcome.leveled =
      (start.feed chunks.flatten).close.receiveAll.1.map Outcome.leveled := by
  obtain ⟨before, same⟩ := receiveChunks_flatten chunks step?_start
  rw [receiveAll_close, outcomes, List.map_append, List.map_append, same, ← before]
  rfl

/-! ## How receiving ends -/

/-- Outcomes of a reception that goes on, or that has ended with the last of them. -/
def Ends (ended : Bool) (os : List Outcome) : Prop :=
  ∃ before, (∀ o ∈ before, o.GoesOn) ∧
    if ended then ∃ f, f.isPassedOver = false ∧ os = before ++ [.error f] else os = before

theorem Ends.ongoing {os : List Outcome} (all : ∀ o ∈ os, o.GoesOn) : Ends false os := ⟨os, all, rfl⟩

theorem Ends.final {f : Fault} (final : f.isPassedOver = false) : Ends true [.error f] :=
  ⟨[], by simp, f, final, rfl⟩

theorem Ends.append {ended : Bool} {os os' : List Outcome} (h : Ends false os) (h' : Ends ended os') :
    Ends ended (os ++ os') := by
  obtain ⟨before, going, rfl⟩ := h
  obtain ⟨before', going', last⟩ := h'
  refine ⟨os ++ before', fun o mem => (List.mem_append.mp mem).elim (going o) (going' o), ?_⟩
  cases ended with
  | true =>
    obtain ⟨f, final, rfl⟩ := last
    exact ⟨f, final, (List.append_assoc ..).symm⟩
  | false => exact congrArg (os ++ ·) last

theorem receiveAll_of_ended (h : r.ended = true) : r.receiveAll = ([], r) :=
  receiveAll_of_stuck (by simp only [step?, h, if_true])

/-- Only the last outcome ends a reception. -/
theorem receiveAll_ends (r : Reception) (going : r.ended = false) :
    Ends r.receiveAll.2.ended r.receiveAll.1 := by
  induction r using receive_induction with
  | stuck r h =>
    rw [receiveAll_of_stuck h]
    exact going ▸ Ends.ongoing (by simp)
  | step r o r' h ih =>
    rw [receiveAll_of_step h]
    obtain ⟨-, taken, rest, -, next⟩ := step?_eq_some_iff.mp h
    rcases Stage.next_cases r.stage taken with ⟨n, bytes, -, -, onward⟩ |
      ⟨length, -, ⟨m, received⟩ | ⟨f, failed, passed⟩⟩ | ⟨f, failed, final⟩
    · rw [onward] at next
      cases next
      exact ih rfl
    · rw [received] at next
      cases next
      have first : Ends false [(.ok m : Outcome)] := .ongoing (by simp [Outcome.GoesOn])
      exact first.append (ih rfl)
    · rw [failed] at next
      cases next
      have first : Ends false [(.error f : Outcome)] := .ongoing (by simp [Outcome.GoesOn, passed])
      exact first.append (ih (by simp [passed]))
    · rw [failed] at next
      cases next
      rw [receiveAll_of_ended (by simp [final])]
      simp only [final, Bool.not_false]
      exact Ends.final final

theorem receiveChunks_of_ended (chunks : List (List UInt8)) (h : r.ended = true) :
    (receiveChunks chunks r).1 = [] ∧ (receiveChunks chunks r).2.ended = true := by
  induction chunks generalizing r with
  | nil => exact ⟨rfl, h⟩
  | cons chunk rest ih =>
    have fed : (r.feed chunk).receiveAll = ([], r.feed chunk) := receiveAll_of_ended h
    obtain ⟨nothing, ended⟩ := ih (r := r.feed chunk) h
    simp only [receiveChunks, fed, nothing, ended, List.append_nil, and_self]

theorem receiveChunks_ends (chunks : List (List UInt8)) (going : r.ended = false) :
    Ends (receiveChunks chunks r).2.ended (receiveChunks chunks r).1 := by
  induction chunks generalizing r with
  | nil => exact going ▸ Ends.ongoing (by simp [receiveChunks])
  | cons chunk rest ih =>
    have now := receiveAll_ends (r.feed chunk) going
    cases ended : (r.feed chunk).receiveAll.2.ended with
    | true =>
      obtain ⟨nothing, ended'⟩ := receiveChunks_of_ended rest ended
      simp only [receiveChunks, nothing, ended', List.append_nil]
      exact ended ▸ now
    | false => exact Ends.append (ended ▸ now) (ih ended)

/-- A reception that a stream has ended for ends when everything is received. -/
theorem ended_receiveAll (r : Reception) (closed : r.stream.ended = true) :
    r.receiveAll.2.ended = true := by
  induction r using receive_induction with
  | stuck r h =>
    rw [receiveAll_of_stuck h]
    refine Decidable.byContradiction fun going => ?_
    have taken := Stream.isSome_take?_of_ended r.stage.demand closed
    obtain ⟨⟨taken, rest⟩, took⟩ := Option.isSome_iff_exists.mp taken
    have step := step?_eq_some_iff.mpr ⟨by simpa using going, taken, rest, took, rfl⟩
    rw [h] at step
    cases step
  | step r o r' h ih =>
    rw [receiveAll_of_step h]
    obtain ⟨-, taken, rest, took, next⟩ := step?_eq_some_iff.mp h
    have still : rest.ended = true := by
      obtain ⟨_, _, e⟩ := Option.map_eq_some_iff.mp took
      cases e
      exact closed
    refine ih ?_
    cases e : r.stage.next taken <;> rw [e] at next <;> cases next <;> exact still

/-- Whatever octets come, a stream that ends is received up to one outcome that ends the reception. -/
theorem outcomes_end (chunks : List (List UInt8)) : Ends true (outcomes chunks) := by
  have before := receiveChunks_ends (r := start) chunks rfl
  have last := ended_receiveAll (receiveChunks chunks start).2.close rfl
  cases ended : (receiveChunks chunks start).2.ended with
  | true =>
    have nothing := receiveAll_of_ended (r := (receiveChunks chunks start).2.close) ended
    rw [outcomes, nothing, List.append_nil]
    exact ended ▸ before
  | false => exact Ends.append (ended ▸ before) (last ▸ receiveAll_ends _ ended)

/-! ## Frames -/

/-- A header: octets that end with the first separator among them, which is not too far behind. -/
def IsHeader (header : List UInt8) : Prop :=
  ∃ i, Stream.find? Framing.separator 0 header = some i ∧ i + Framing.separator.length = header.length ∧
    i ≤ Stream.limit

/-- Octets after which an outcome is due: a frame, or a header whose length cannot be used. -/
inductive Complete : List UInt8 → Outcome → Prop where
  | frame {header body : List UInt8} (isHeader : IsHeader header)
    (length : Framing.contentLength? header = some (body.length : Int)) :
    Complete (header ++ body) (.ofBody body)
  | badHeader {header : List UInt8} {f : Fault} (isHeader : IsHeader header)
    (failed : Stage.afterHeader header = .failed f) : Complete header (.error f)

/-- Where a header stands in front, it is read as one piece. -/
theorem take?_header {header : List UInt8} (more : List UInt8) (h : IsHeader header) :
    (start.feed (header ++ more)).stream.take? Stage.header.demand =
      some (.piece header, (start.feed more).stream) := by
  obtain ⟨i, found, ends, near⟩ := h
  have solid : Framing.separator ≠ [] := List.cons_ne_nil _ _
  have found' := Stream.find?_append more solid found
  have decided : Stream.decide? ⟨header ++ more, false, none⟩ (.until Framing.separator) =
      some (.piece header, more) := by
    simp only [Stream.decide?, found']
    rw [if_neg (Nat.not_lt.mpr near), ends, List.take_left, List.drop_left]
  show (Stream.decide? ⟨header ++ more, false, none⟩ (.until Framing.separator)).map _ = _
  rw [decided]
  rfl

/-- A frame in front is received, and then what stands behind it. -/
theorem receiveAll_frame {header body : List UInt8} (more : List UInt8) (h : IsHeader header)
    (length : Framing.contentLength? header = some (body.length : Int)) :
    (start.feed (header ++ body ++ more)).receiveAll =
      (Outcome.ofBody body :: (start.feed more).receiveAll.1, (start.feed more).receiveAll.2) := by
  have onward : Stage.header.next (.piece header) = .onward (.body body.length) := by
    simp only [Stage.next, Stage.afterHeader, length]
    rw [if_neg (by omega), Int.toNat_natCast]
  have first : (start.feed (header ++ body ++ more)).step? =
      some (none, ⟨⟨body ++ more, false, none⟩, .body body.length, false⟩) := by
    rw [List.append_assoc]
    exact step?_eq_some_iff.mpr ⟨rfl, _, _, take?_header _ h, by
      rw [show (start.feed (header ++ (body ++ more))).stage = .header from rfl, onward]; rfl⟩
  have took : Stream.take? ⟨body ++ more, false, none⟩ (.exactly body.length) =
      some (.piece body, ⟨more, false, none⟩) := by
    simp only [Stream.take?, Stream.decide?, List.length_append]
    rw [if_pos (by omega), List.take_left, List.drop_left]
    rfl
  have second : step? ⟨⟨body ++ more, false, none⟩, .body body.length, false⟩ =
      some (some (Outcome.ofBody body), start.feed more) := by
    refine step?_eq_some_iff.mpr ⟨rfl, _, _, took, ?_⟩
    simp only [Stage.next, Stage.afterBody, Outcome.ofBody]
    cases Framing.readBody body <;> rfl
  rw [receiveAll_of_step first, receiveAll_of_step second]
  rfl

theorem isPassedOver_of_afterHeader {header : List UInt8} {f : Fault}
    (failed : Stage.afterHeader header = .failed f) : f.isPassedOver = false := by
  simp only [Stage.afterHeader] at failed
  split at failed
  · cases failed; rfl
  · split at failed <;> cases failed
    rfl

/-- A header whose length cannot be used ends the reception. -/
theorem receiveAll_badHeader {header : List UInt8} {f : Fault} (h : IsHeader header)
    (failed : Stage.afterHeader header = .failed f) :
    (start.feed header).receiveAll.1 = [.error f] := by
  have took := take?_header [] h
  rw [List.append_nil] at took
  have step : (start.feed header).step? = some (resume (start.feed []).stream (.failed f)) :=
    step?_eq_some_iff.mpr ⟨rfl, _, _, took, by rw [← failed]; rfl⟩
  rw [receiveAll_of_step step,
    receiveAll_of_ended (by simp [isPassedOver_of_afterHeader failed])]
  rfl

/-- Two outcomes are the same if they are but for the words and one is not about a header that is too
long. -/
theorem Outcome.eq_of_leveled {o o' : Outcome} (h : o.leveled = o'.leveled)
    (short : ∀ found, o' ≠ .error (.transport (.overlongHeader found))) : o = o' := by
  have cases (x : Outcome) :
      (∃ found, x = .error (.transport (.overlongHeader found))) ∨ x.leveled = x := by
    unfold Outcome.leveled
    split
    · exact .inl ⟨_, rfl⟩
    · exact .inr rfl
  rcases cases o' with ⟨found, long⟩ | same'
  · exact absurd long (short found)
  · rcases cases o with ⟨found, rfl⟩ | same
    · rw [same'] at h
      exact absurd h.symm (short false)
    · rw [← same, h, same']

theorem eq_of_map_leveled {os os' : List Outcome}
    (h : os.map Outcome.leveled = os'.map Outcome.leveled)
    (short : ∀ o ∈ os', ∀ found, o ≠ .error (.transport (.overlongHeader found))) : os = os' := by
  induction os generalizing os' with
  | nil => cases os' <;> simp_all
  | cons o rest ih =>
    cases os' with
    | nil => cases h
    | cons o' rest' =>
      rw [List.map_cons, List.map_cons, List.cons.injEq] at h
      rw [Outcome.eq_of_leveled h.1 (short o' (by simp)),
        ih h.2 fun x mem => short x (List.mem_cons_of_mem _ mem)]

theorem Complete.short {octets : List UInt8} {o : Outcome} (h : Complete octets o) (found : Bool) :
    o ≠ .error (.transport (.overlongHeader found)) := by
  cases h with
  | @frame header body =>
    unfold Outcome.ofBody
    cases Framing.readBody body with
    | ok m => intro e; cases e
    | error f => intro e; cases e
  | @badHeader header f isHeader failed =>
    rintro ⟨⟩
    simp only [Stage.afterHeader] at failed
    split at failed
    · cases failed
    · split at failed <;> cases failed

/-- A frame in front that holds a message, or holds none, is received, and then what stands behind it. -/
theorem Complete.receiveAll_append {octets : List UInt8} {o : Outcome} (h : Complete octets o)
    (goesOn : o.GoesOn) (more : List UInt8) :
    (start.feed (octets ++ more)).receiveAll =
      (o :: (start.feed more).receiveAll.1, (start.feed more).receiveAll.2) := by
  cases h with
  | @frame header body isHeader length => exact receiveAll_frame more isHeader length
  | @badHeader header f isHeader failed =>
    exact absurd goesOn (by simp [Outcome.GoesOn, isPassedOver_of_afterHeader failed])

theorem Complete.receiveAll {octets : List UInt8} {o : Outcome} (h : Complete octets o) :
    (start.feed octets).receiveAll.1 = [o] := by
  cases h with
  | @frame header body isHeader length =>
    have read := receiveAll_frame [] isHeader length
    rw [List.append_nil] at read
    rw [read, show start.feed [] = start from rfl, receiveAll_of_stuck step?_start]
  | @badHeader header f isHeader failed => exact receiveAll_badHeader isHeader failed

/-- The outcomes of frames are there as soon as the last octet is, however they were cut. -/
theorem received_frames {chunks : List (List UInt8)} {frames : List (List UInt8 × Outcome)}
    {last : List UInt8 × Outcome} (complete : ∀ frame ∈ frames, Complete frame.1 frame.2)
    (goesOn : ∀ frame ∈ frames, frame.2.GoesOn) (ends : Complete last.1 last.2)
    (cut : chunks.flatten = frames.flatMap Prod.fst ++ last.1) :
    received chunks = frames.map Prod.snd ++ [last.2] := by
  have all : (start.feed (frames.flatMap Prod.fst ++ last.1)).receiveAll.1 =
      frames.map Prod.snd ++ [last.2] := by
    clear cut
    induction frames with
    | nil => exact ends.receiveAll
    | cons frame frames ih =>
      have first := (complete frame List.mem_cons_self).receiveAll_append
        (goesOn frame List.mem_cons_self) (frames.flatMap Prod.fst ++ last.1)
      have rest := ih (fun x mem => complete x (List.mem_cons_of_mem _ mem))
        (fun x mem => goesOn x (List.mem_cons_of_mem _ mem))
      rw [List.flatMap_cons, List.append_assoc, first, rest]
      rfl
  have leveled := (receiveChunks_flatten chunks step?_start).1
  rw [cut, all] at leveled
  refine eq_of_map_leveled leveled fun o mem => ?_
  rcases List.mem_append.mp mem with inFrames | isLast
  · obtain ⟨frame, isFrame, rfl⟩ := List.mem_map.mp inFrames
    exact (complete frame isFrame).short
  · rw [List.mem_singleton.mp isLast]
    exact ends.short

/-- What was received of a front of the octets stays received, and nothing follows what ends a
reception. -/
theorem received_front {chunks chunks' : List (List UInt8)} (front : chunks.flatten <+: chunks'.flatten) :
    ∃ later later', (received chunks').map Outcome.leveled =
        (received chunks).map Outcome.leveled ++ later ∧
      (outcomes chunks').map Outcome.leveled = (received chunks).map Outcome.leveled ++ later' ∧
      ((receiveChunks chunks start).2.ended = true →
        later = [] ∧ later' = [] ∧ (receiveChunks chunks' start).2.ended = true) := by
  obtain ⟨more, cut⟩ := front
  obtain ⟨now, stands⟩ := receiveChunks_flatten chunks step?_start
  obtain ⟨now', stands'⟩ := receiveChunks_flatten chunks' step?_start
  obtain ⟨all, same⟩ := receiveAll_feed (start.feed chunks.flatten) more
  rw [feed_feed, cut, ← stands, ← stands'] at same
  rw [feed_feed, cut, ← now', List.map_append, ← now, ← stands] at all
  refine ⟨((receiveChunks chunks start).2.feed more).receiveAll.1.map Outcome.leveled,
    ((receiveChunks chunks start).2.feed more).receiveAll.1.map Outcome.leveled ++
      (receiveChunks chunks' start).2.close.receiveAll.1.map Outcome.leveled, all, ?_, ?_⟩
  · rw [outcomes, List.map_append, ← List.append_assoc]
    exact congrArg (· ++ _) all
  · intro ended
    have nothing := receiveAll_of_ended (r := (receiveChunks chunks start).2.feed more) ended
    have ended' : (receiveChunks chunks' start).2.ended = true := by
      rw [same, nothing]
      exact ended
    have nothing' := receiveAll_of_ended (r := (receiveChunks chunks' start).2.close) ended'
    rw [nothing, nothing']
    exact ⟨rfl, rfl, ended'⟩

end Reception

end LspHost

import Mathlib.Data.List.Count
import Mathlib.Data.List.Nodup
import Mathlib.Logic.Function.Iterate
import LspHost.Broker

/-!
# What the queues of a broker hold

A history is what was done with a broker: queues are made, each with its subscriptions, subscriptions end, events are
published and queues are drained. `History.arrivals` are the events that a queue was subscribed to when they were
published, and `History.toll` counts those of them that were drained, and those that were discarded because the queue was
full when a newer one came. Neither mentions another queue.

Results (together `Broker.queue_holds`):
1. `Broker.agrees_after`: a queue holds its arrivals but for the oldest ones, of which as many are gone as were drained
   or discarded.
2. `Broker.Agrees.admits`: an event that is published finds room in each queue that it goes to, at the latest when the
   oldest event is gone from it.
3. `History.waiting_own`: a queue holds what it would hold if it were the only one.
-/

namespace LspHost.Broker

/-- Something that is done with a broker. -/
inductive Step where
  | subscribe (types : List EventType)
  | unsubscribe (queue : Nat) (types : List EventType)
  | publish (e : Event)
  | drain (queue count : Nat)
  deriving DecidableEq, Repr

/-- A queue is not subscribed twice to the same type. -/
def Step.Distinct : Step → Prop
  | .subscribe types => types.Nodup
  | _ => True

instance (s : Step) : Decidable s.Distinct :=
  match s with
  | .subscribe types => inferInstanceAs (Decidable types.Nodup)
  | .unsubscribe .. | .publish _ | .drain .. => .isTrue trivial

/-- What was done with a broker, the latest step in front. -/
abbrev History := List Step

/-- The broker after a step. -/
def perform (b : Broker) : Step → Broker
  | .subscribe types => (b.subscribe types).1
  | .unsubscribe queue types => b.unsubscribe queue types
  | .publish e => b.publish e
  | .drain queue count => (b.drain queue count).1

/-- A broker after a history. -/
def after (capacity : Nat) : History → Broker
  | [] => .empty capacity
  | s :: past => (after capacity past).perform s

/-! ## What is owed to a queue -/

/-- How many of the events that came to a queue have left it, and how. -/
structure Toll where
  drained : Nat
  discarded : Nat
  deriving DecidableEq, Repr

/-- How many events have left. -/
def Toll.total (t : Toll) : Nat := t.drained + t.discarded

namespace History

/-- How many queues were made; the next one gets this number. -/
def made : History → Nat
  | [] => 0
  | .subscribe _ :: past => made past + 1
  | .unsubscribe .. :: past | .publish _ :: past | .drain .. :: past => made past

/-- Whether a queue is subscribed to a type of events. -/
def listens (queue : Nat) (type : EventType) : History → Bool
  | [] => false
  | .subscribe types :: past => if made past = queue then types.contains type else listens queue type past
  | .unsubscribe q types :: past => listens queue type past && !(q == queue && types.contains type)
  | .publish _ :: past | .drain .. :: past => listens queue type past

/-- The events that were published, in this order. -/
def published : History → List Event
  | [] => []
  | .publish e :: past => published past ++ [e]
  | .subscribe _ :: past | .unsubscribe .. :: past | .drain .. :: past => published past

/-- The events that a queue was subscribed to when they were published, in this order. -/
def arrivals (queue : Nat) : History → List Event
  | [] => []
  | .publish e :: past =>
    if listens queue e.type past then arrivals queue past ++ [e] else arrivals queue past
  | .subscribe _ :: past | .unsubscribe .. :: past | .drain .. :: past => arrivals queue past

/-- How many events have left a queue. One that comes to a full queue discards one; nobody drains more than there are. -/
def toll (capacity queue : Nat) : History → Toll
  | [] => ⟨0, 0⟩
  | .publish e :: past =>
    let t := toll capacity queue past
    if listens queue e.type past ∧ (arrivals queue past).length = t.total + capacity then
      { t with discarded := t.discarded + 1 }
    else t
  | .drain q count :: past =>
    let t := toll capacity queue past
    if q = queue then { t with drained := t.drained + min count ((arrivals queue past).length - t.total) } else t
  | .subscribe _ :: past | .unsubscribe .. :: past => toll capacity queue past

/-- The events that wait in a queue: its arrivals less the oldest ones, which have left. -/
def waiting (capacity queue : Nat) (h : History) : List Event :=
  (h.arrivals queue).drop (h.toll capacity queue).total

/-- What was done with one queue, as if it were the only one. -/
def own (queue : Nat) : History → History
  | [] => []
  | .subscribe types :: past => if made past = queue then .subscribe types :: own queue past else own queue past
  | .unsubscribe q types :: past => if q = queue then .unsubscribe 0 types :: own queue past else own queue past
  | .publish e :: past => .publish e :: own queue past
  | .drain q count :: past => if q = queue then .drain 0 count :: own queue past else own queue past

variable {h : History} {capacity queue : Nat} {type : EventType}

/-- Only queues that were made are subscribed. -/
theorem lt_made (listening : h.listens queue type = true) : queue < h.made := by
  induction h with
  | nil => cases listening
  | cons s past ih =>
    cases s with
    | subscribe types =>
      simp only [listens, made] at listening ⊢
      split at listening
      · omega
      · exact Nat.lt_succ_of_lt (ih listening)
    | unsubscribe q types =>
      simp only [listens, Bool.and_eq_true] at listening
      exact ih listening.1
    | publish | drain => exact ih listening

/-- Events come in the order in which they were published, and each at most once. -/
theorem arrivals_sublist (queue : Nat) (h : History) : (h.arrivals queue).Sublist h.published := by
  induction h with
  | nil => exact .slnil
  | cons s past ih =>
    cases s with
    | publish e =>
      simp only [arrivals, published]
      split
      · exact ih.append (.refl [e])
      · exact ih.trans (List.sublist_append_left _ [e])
    | subscribe | unsubscribe | drain => exact ih

/-- Nothing leaves a queue that did not come to it, and no more than the capacity waits. -/
theorem toll_bounds (positive : 0 < capacity) (queue : Nat) (h : History) :
    (h.toll capacity queue).total ≤ (h.arrivals queue).length ∧
      (h.arrivals queue).length ≤ (h.toll capacity queue).total + capacity := by
  induction h with
  | nil => simp [toll, arrivals, Toll.total]
  | cons s past ih =>
    cases s with
    | publish e =>
      simp only [toll, arrivals, Toll.total] at ih ⊢
      by_cases listening : listens queue e.type past = true
      · simp only [listening, if_true, true_and, List.length_append, List.length_singleton]
        -- One more has come; at a full queue one more is gone as well.
        split
        · next full => dsimp only; omega
        · next room => omega
      · simpa only [listening, if_false, false_and, Bool.false_eq_true] using ih
    | drain q count =>
      simp only [toll, arrivals, Toll.total] at ih ⊢
      split
      · dsimp only; omega
      · exact ih
    | subscribe | unsubscribe => exact ih

/-- No more than the capacity waits. -/
theorem length_waiting_le (positive : 0 < capacity) : (h.waiting capacity queue).length ≤ capacity := by
  have := toll_bounds positive queue h
  simp only [waiting, List.length_drop]
  omega

/-! ## One queue alone -/

theorem made_own (queue : Nat) (h : History) : (h.own queue).made = if queue < h.made then 1 else 0 := by
  induction h with
  | nil => rfl
  | cons s past ih =>
    cases s with
    | subscribe types =>
      simp only [own, made]
      by_cases mine : made past = queue
      · simp [mine, made, ih]
      · rw [if_neg mine, ih]
        grind
    | unsubscribe q types =>
      simp only [own]
      split <;> exact ih
    | publish => exact ih
    | drain q count =>
      simp only [own]
      split <;> exact ih

theorem listens_own (queue : Nat) (type : EventType) (h : History) :
    (h.own queue).listens 0 type = h.listens queue type := by
  induction h with
  | nil => rfl
  | cons s past ih =>
    cases s with
    | subscribe types =>
      simp only [own, listens]
      split
      · next mine => simp [listens, made_own, mine]
      · exact ih
    | unsubscribe q types =>
      simp only [own, listens]
      split
      · next mine => simp [listens, ih, mine]
      · next other => simp [ih, other]
    | publish => exact ih
    | drain q count =>
      simp only [own, listens]
      split <;> exact ih

theorem arrivals_own (queue : Nat) (h : History) : (h.own queue).arrivals 0 = h.arrivals queue := by
  induction h with
  | nil => rfl
  | cons s past ih =>
    cases s with
    | publish e => simp only [own, arrivals, listens_own, ih]
    | subscribe | unsubscribe | drain =>
      simp only [own, arrivals]
      split <;> exact ih

theorem toll_own (capacity queue : Nat) (h : History) :
    (h.own queue).toll capacity 0 = h.toll capacity queue := by
  induction h with
  | nil => rfl
  | cons s past ih =>
    cases s with
    | publish e => simp only [own, toll, listens_own, arrivals_own, ih]
    | drain q count =>
      simp only [own, toll]
      split
      · simp only [toll, arrivals_own, ih, if_true]
      · exact ih
    | subscribe | unsubscribe =>
      simp only [own, toll]
      split <;> exact ih

/-- What waits in a queue has to do with nothing but what was done with this queue. -/
theorem waiting_own (capacity queue : Nat) (h : History) :
    (h.own queue).waiting capacity 0 = h.waiting capacity queue := by
  simp only [waiting, arrivals_own, toll_own]

theorem mem_own {s : Step} (mem : s ∈ h.own queue) (subscribes : ∃ types, s = .subscribe types) : s ∈ h := by
  obtain ⟨types, rfl⟩ := subscribes
  induction h with
  | nil => cases mem
  | cons s past ih =>
    cases s with
    | subscribe types' =>
      simp only [own] at mem
      split at mem
      · exact List.mem_cons.mpr ((List.mem_cons.mp mem).imp_right ih)
      · exact List.mem_cons_of_mem _ (ih mem)
    | publish e => exact List.mem_cons_of_mem _ (ih ((List.mem_cons.mp mem).resolve_left (fun e => by cases e)))
    | unsubscribe | drain =>
      simp only [own] at mem
      split at mem
      · exact List.mem_cons_of_mem _ (ih ((List.mem_cons.mp mem).resolve_left (fun e => by cases e)))
      · exact List.mem_cons_of_mem _ (ih mem)

end History

/-! ## One step -/

/-- An event finds room in a queue, at the latest when the oldest event is gone. -/
inductive Admits (capacity : Nat) (e : Event) : List Event → List Event → Prop
  | room {held : List Event} (free : held.length < capacity) : Admits capacity e held (held ++ [e])
  | full {oldest : Event} {rest : List Event} (full : (oldest :: rest).length = capacity)
    (free : rest.length < capacity) : Admits capacity e (oldest :: rest) (rest ++ [e])

theorem admits_enqueue {capacity : Nat} {held : List Event} (positive : 0 < capacity) (bound : held.length ≤ capacity)
    (e : Event) : Admits capacity e held (enqueue capacity held e) := by
  unfold enqueue
  split
  · next full =>
    cases held with
    | nil => exact absurd full.2 (Nat.not_le.mpr positive)
    | cons oldest rest =>
      have same : (oldest :: rest).length = capacity := Nat.le_antisymm bound full.2
      exact .full same (same ▸ Nat.lt_succ_self _)
  · next room => exact .room (by omega)

variable {b : Broker} {e : Event} {queue : Nat}

theorem count_receivers (b : Broker) (type : EventType) (queue : Nat) :
    (b.receivers type).count queue = b.subscriptions.count (type, queue) := by
  unfold receivers
  induction b.subscriptions with
  | nil => rfl
  | cons s rest ih =>
    obtain ⟨t, q⟩ := s
    by_cases same : t = type
    · subst same
      by_cases mine : q = queue <;> simp [mine, ih]
    · simp [same, ih]

theorem length_deliver (b : Broker) (e : Event) (q : Nat) : (b.deliver e q).queues.length = b.queues.length :=
  List.length_modify ..

theorem content_deliver (there : queue < b.queues.length) (q : Nat) :
    (b.deliver e q).content queue = if q = queue then enqueue b.capacity (b.content queue) e else b.content queue := by
  simp only [content, deliver, List.getElem?_modify, List.getElem?_eq_getElem there]
  split <;> rfl

/-- Each queue that an event goes to gets it as often as it is subscribed to it. -/
theorem content_delivers (there : queue < b.queues.length) (qs : List Nat) :
    (qs.foldl (fun b q => b.deliver e q) b).content queue =
      (fun held => enqueue b.capacity held e)^[qs.count queue] (b.content queue) := by
  induction qs generalizing b with
  | nil => rfl
  | cons q rest ih =>
    rw [List.foldl_cons, ih ((length_deliver b e q).symm ▸ there), content_deliver there,
      show (b.deliver e q).capacity = b.capacity from rfl]
    by_cases mine : q = queue
    · simp [mine]
    · simp [mine]

theorem publish_eq (b : Broker) (e : Event) (qs : List Nat) :
    (qs.foldl (fun b q => b.deliver e q) b).capacity = b.capacity ∧
      (qs.foldl (fun b q => b.deliver e q) b).subscriptions = b.subscriptions ∧
      (qs.foldl (fun b q => b.deliver e q) b).queues.length = b.queues.length := by
  induction qs generalizing b with
  | nil => exact ⟨rfl, rfl, rfl⟩
  | cons q rest ih =>
    obtain ⟨capacity, subscriptions, length⟩ := ih (b.deliver e q)
    exact ⟨capacity, subscriptions, length.trans (length_deliver b e q)⟩

theorem count_unsubscribe (b : Broker) (q : Nat) (types : List EventType) (type : EventType) (queue : Nat) :
    (b.unsubscribe q types).subscriptions.count (type, queue) =
      b.subscriptions.count (type, queue) - if q = queue then types.count type else 0 := by
  simp only [unsubscribe]
  induction types generalizing b with
  | nil => simp
  | cons t rest ih =>
    have rest' := ih { b with subscriptions := b.subscriptions.erase (t, q) }
    rw [List.foldl_cons, rest', List.count_erase]
    by_cases mine : q = queue
    · by_cases same : t = type
      · simp [mine, same]
        omega
      · simp [mine, same]
    · simp [mine]

/-! ## A whole history -/

/-- A broker holds what is owed to its queues after a history. -/
structure Agrees (capacity : Nat) (h : History) (b : Broker) : Prop where
  bound : b.capacity = capacity
  made : b.queues.length = h.made
  subscribed : ∀ queue type, b.subscriptions.count (type, queue) = if h.listens queue type then 1 else 0
  content : ∀ queue, b.content queue = h.waiting capacity queue

namespace Agrees

variable {capacity : Nat} {h : History}

/-- An event that is published goes to the queues that listen, once each. -/
theorem content_publish (agrees : Agrees capacity h b) (e : Event) (queue : Nat) :
    (b.publish e).content queue =
      if h.listens queue e.type then enqueue capacity (b.content queue) e else b.content queue := by
  by_cases there : queue < b.queues.length
  · rw [publish, content_delivers there, count_receivers, agrees.subscribed, agrees.bound]
    split <;> rfl
  · -- A queue that is not made yet holds nothing, before and after.
    have deaf : h.listens queue e.type = false := by
      by_contra listening
      exact there (agrees.made ▸ History.lt_made (by simpa using listening))
    have none (b' : Broker) (length : b'.queues.length = b.queues.length) : b'.content queue = [] := by
      rw [Broker.content, List.getElem?_eq_none (by omega)]
      rfl
    rw [deaf, none b rfl, none (b.publish e) (publish_eq b e _).2.2]
    rfl

/-- Publishing an event finds room for it wherever it goes. -/
theorem admits (agrees : Agrees capacity h b) (positive : 0 < capacity) (listening : h.listens queue e.type = true) :
    Admits capacity e (b.content queue) ((b.publish e).content queue) := by
  rw [agrees.content_publish, if_pos listening]
  exact admits_enqueue positive (agrees.content queue ▸ History.length_waiting_le positive) e

theorem publish (agrees : Agrees capacity h b) (positive : 0 < capacity) (e : Event) :
    Agrees capacity (.publish e :: h) (b.publish e) := by
  obtain ⟨same, subscriptions, length⟩ := publish_eq b e (b.receivers e.type)
  refine ⟨same.trans agrees.bound, length.trans agrees.made, fun queue type => ?_, fun queue => ?_⟩
  · exact (congrArg _ subscriptions).trans (agrees.subscribed queue type)
  · rw [agrees.content_publish, agrees.content queue]
    obtain ⟨gone, bound⟩ := History.toll_bounds positive queue h
    simp only [History.waiting, History.arrivals, History.toll]
    by_cases listening : h.listens queue e.type = true
    · simp only [listening, if_true, true_and, enqueue, List.length_drop]
      by_cases full : (h.arrivals queue).length = (h.toll capacity queue).total + capacity
      · -- The oldest event leaves, and the new one comes behind the others.
        rw [if_pos (by omega), if_pos full, List.tail_drop]
        exact (List.drop_append_of_le_length (by omega)).symm
      · rw [if_neg (by omega), if_neg full]
        exact (List.drop_append_of_le_length gone).symm
    · simp only [listening, if_false, false_and, Bool.false_eq_true]

theorem subscribe (agrees : Agrees capacity h b) {types : List EventType} (distinct : types.Nodup) :
    Agrees capacity (.subscribe types :: h) (b.subscribe types).1 := by
  refine ⟨agrees.bound, by simp [Broker.subscribe, History.made, agrees.made], fun queue type => ?_, fun queue => ?_⟩
  · simp only [Broker.subscribe, List.count_append, agrees.subscribed, agrees.made]
    by_cases mine : h.made = queue
    · -- The number of the new queue was nobody's before, so that all its subscriptions are new.
      subst mine
      have deaf : h.listens h.made type = false := by
        by_contra listening
        exact Nat.lt_irrefl _ (History.lt_made (by simpa using listening))
      have once := List.count_map_of_injective types (fun t => (t, h.made)) (fun _ _ e => (Prod.mk.inj e).1) type
      simp only [History.listens, deaf, once, if_true, Bool.false_eq_true, if_false, Nat.zero_add, List.contains_iff_mem]
      split
      · next mem => exact List.count_eq_one_of_mem distinct mem
      · next absent => exact List.count_eq_zero_of_not_mem absent
    · have others : (types.map fun t => (t, h.made)).count (type, queue) = 0 := by
        refine List.count_eq_zero_of_not_mem fun mem => ?_
        obtain ⟨_, -, e⟩ := List.mem_map.mp mem
        exact mine (Prod.mk.inj e).2
      simp only [History.listens, others, if_neg mine, Nat.add_zero]
  · refine Eq.trans ?_ (agrees.content queue)
    simp only [Broker.content, Broker.subscribe, List.getElem?_append]
    split
    · rfl
    · next outside =>
      -- The new queue is empty, and there are no others behind it.
      rw [List.getElem?_eq_none (by omega : b.queues.length ≤ queue)]
      cases queue - b.queues.length <;> rfl

theorem unsubscribe (agrees : Agrees capacity h b) (q : Nat) (types : List EventType) :
    Agrees capacity (.unsubscribe q types :: h) (b.unsubscribe q types) := by
  refine ⟨agrees.bound, agrees.made, fun queue type => ?_, agrees.content⟩
  rw [count_unsubscribe, agrees.subscribed]
  simp only [History.listens]
  by_cases mine : q = queue
  · by_cases mem : type ∈ types
    · have := List.count_pos_iff.mpr mem
      simp only [mine, if_true, beq_self_eq_true, List.contains_iff_mem.mpr mem, Bool.and_true, Bool.not_true,
        Bool.and_false, Bool.false_eq_true, if_false]
      split <;> omega
    · simp [mine, mem, List.count_eq_zero_of_not_mem mem]
  · simp [mine]

theorem drain (agrees : Agrees capacity h b) (q count : Nat) :
    Agrees capacity (.drain q count :: h) (b.drain q count).1 := by
  refine ⟨agrees.bound, (List.length_modify ..).trans agrees.made, agrees.subscribed, fun queue => ?_⟩
  have before := agrees.content queue
  simp only [Broker.content, Broker.drain, List.getElem?_modify, History.waiting, History.arrivals, History.toll] at before ⊢
  by_cases mine : q = queue
  · subst mine
    simp only [if_true, Option.map_eq_map]
    have taken : ((b.queues[q]?).map (List.drop count)).getD [] = ((b.queues[q]?).getD []).drop count := by
      cases b.queues[q]? <;> simp
    rw [taken, before, List.drop_drop]
    simp only [Toll.total]
    by_cases enough : count ≤ (h.arrivals q).length - ((h.toll capacity q).drained + (h.toll capacity q).discarded)
    · rw [Nat.min_eq_left enough]
      congr 1
      omega
    · -- Whoever drains more than there is leaves nothing.
      rw [List.drop_eq_nil_of_le (by omega), List.drop_eq_nil_of_le (by omega)]
  · simpa [mine] using before

end Agrees

/-- After any history a broker holds what is owed to its queues. -/
theorem agrees_after {capacity : Nat} (positive : 0 < capacity) {h : History} (distinct : ∀ s ∈ h, s.Distinct) :
    Agrees capacity h (after capacity h) := by
  induction h with
  | nil => exact ⟨rfl, rfl, fun _ _ => rfl, fun _ => rfl⟩
  | cons s past ih =>
    have agrees := ih fun s mem => distinct s (List.mem_cons_of_mem _ mem)
    cases s with
    | subscribe types => exact agrees.subscribe (distinct _ List.mem_cons_self)
    | unsubscribe q types => exact agrees.unsubscribe q types
    | publish e => exact agrees.publish positive e
    | drain q count => exact agrees.drain q count

/-- After any history, a queue holds the events that it was subscribed to when they were published, in the order in which
they were published and each once, less the oldest ones: as many as were drained, and as many as were discarded because the
queue was full when a newer one came. It never holds more than the capacity, an event that is published finds room in it,
and it holds what it would hold if it were the only queue. -/
theorem queue_holds {capacity : Nat} (positive : 0 < capacity) {h : History} (distinct : ∀ s ∈ h, s.Distinct)
    (queue : Nat) :
    (after capacity h).content queue = (h.arrivals queue).drop (h.toll capacity queue).total ∧
    (h.arrivals queue).Sublist h.published ∧
    ((after capacity h).content queue).length ≤ capacity ∧
    (∀ e, h.listens queue e.type = true →
      Admits capacity e ((after capacity h).content queue) ((after capacity (.publish e :: h)).content queue)) ∧
    (after capacity h).content queue = (after capacity (h.own queue)).content 0 := by
  have agrees := agrees_after positive distinct
  -- What was done with one queue is a history as well, and the same is owed to the queue there.
  have alone : Agrees capacity (h.own queue) (after capacity (h.own queue)) := by
    refine agrees_after positive fun s mem => ?_
    cases s with
    | subscribe types => exact distinct _ (History.mem_own mem ⟨types, rfl⟩)
    | unsubscribe | publish | drain => trivial
  refine ⟨agrees.content queue, History.arrivals_sublist queue h, ?_, fun e => agrees.admits positive, ?_⟩
  · exact agrees.content queue ▸ History.length_waiting_le positive
  · rw [agrees.content, alone.content, History.waiting_own]

/-- An event of a type, told apart by a number. -/
def numbered (type : EventType) (n : Int) : Event := ⟨type, .midnight, none, .serverLog n ""⟩

/-- Two queues of which the first is subscribed to two types, gives one of them up and overflows twice. -/
def History.crowded : History :=
  [.publish (numbered .diagnostics 6), .publish (numbered .diagnostics 5), .drain 1 1, .drain 0 1,
    .publish (numbered .serverLog 4), .publish (numbered .diagnostics 3), .unsubscribe 0 [.serverLog],
    .publish (numbered .serverLog 2), .publish (numbered .diagnostics 1), .subscribe [.diagnostics],
    .subscribe [.diagnostics, .serverLog]]

/-- Of the first queue one event was drained, and two were discarded. -/
theorem queue_holds_crowded :
    0 < 2 ∧ (∀ s ∈ History.crowded, s.Distinct) ∧ History.crowded.toll 2 0 = ⟨1, 2⟩ ∧
    (after 2 History.crowded).content 0 = [numbered .diagnostics 5, numbered .diagnostics 6] ∧
    (after 2 History.crowded).content 0 = (History.crowded.arrivals 0).drop (History.crowded.toll 2 0).total ∧
    (History.crowded.arrivals 0).Sublist History.crowded.published ∧
    ((after 2 History.crowded).content 0).length ≤ 2 ∧
    (∀ e, History.crowded.listens 0 e.type = true →
      Admits 2 e ((after 2 History.crowded).content 0) ((after 2 (.publish e :: History.crowded)).content 0)) ∧
    (after 2 History.crowded).content 0 = (after 2 (History.crowded.own 0)).content 0 :=
  ⟨by decide, by decide, by decide, by decide, queue_holds (by decide) (by decide) 0⟩

end LspHost.Broker

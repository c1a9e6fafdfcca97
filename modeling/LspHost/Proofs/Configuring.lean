import LspHost.ConfigFile

/-!
What becomes of a configuration file, whatever it holds.

Most of what can be wrong with it is refused by a fault of the configuration. What is not: octets
that are no text, scalars that are misused, and the values of a mapping that are used before anybody
has asked what they are. `Config.Unguarded` lists the latter and `Config.Escapes` all of them; the
main result says that nothing else escapes, that nothing of these is accepted, and that a
configuration that is accepted keeps what it promises.
-/

namespace LspHost.Config

variable {α β : Type} {R : Fault → Prop} {entries : Entries}

/-! ### Faults that are foreseen -/

/-- A computation that fails by a fault of the configuration only, but for faults of one kind. -/
def Foreseen (R : Fault → Prop) (x : Except Fault α) : Prop :=
  ∀ f, x = .error f → (∃ k, f = .config k) ∨ R f

namespace Foreseen

theorem ok (a : α) : Foreseen R (.ok a) := by
  intro f failed
  cases failed

theorem config (k : ConfigFault) : Foreseen R (.error (.config k) : Except Fault α) := by
  intro f failed
  cases failed
  exact .inl ⟨k, rfl⟩

theorem escape {f : Fault} (h : R f) : Foreseen R (.error f : Except Fault α) := by
  intro f' failed
  cases failed
  exact .inr h

theorem bind {x : Except Fault α} {g : α → Except Fault β} (first : Foreseen R x)
    (next : ∀ a, x = .ok a → Foreseen R (g a)) : Foreseen R (x >>= g) := by
  cases x with
  | error f =>
    intro f' failed
    cases failed
    exact first f rfl
  | ok a => exact next a rfl

theorem map {x : Except Fault α} {g : α → β} (first : Foreseen R x) : Foreseen R (x.map g) := by
  cases x with
  | error f =>
    intro f' failed
    cases failed
    exact first f rfl
  | ok a => exact ok _

end Foreseen

/-- A computation in two steps that succeeds does both. -/
theorem bind_eq_ok {x : Except Fault α} {g : α → Except Fault β} {b : β} :
    (x >>= g) = .ok b ↔ ∃ a, x = .ok a ∧ g a = .ok b := by
  cases x with
  | error f =>
    constructor
    · intro done
      cases done
    · rintro ⟨a, done, -⟩
      cases done
  | ok a =>
    constructor
    · intro done
      exact ⟨a, rfl, done⟩
    · rintro ⟨a', same, done⟩
      cases same
      exact done

/-! ### What is used unguarded -/

/-- The items of the selector that a mapping gives. -/
def selectorItems? (entries : Entries) : Option (List Datum) :=
  (Datum.entry? entries "document_selector").bind DocumentScope.itemsOf?

/-- The names of the lengths of time. -/
def timeoutNames : List String := ["initialize", "request", "shutdown_grace"]

/-- A value that is written out as a text: to be kept, or to say what is wrong with it. -/
inductive Quoted (entries : Entries) : Datum → Prop
  | argument {server : Entries} {items : List Datum} {v : Datum}
    (outer : Datum.entry? entries "server" = some (.map server))
    (given : Datum.entry? server "args" = some (.seq items)) (mem : v ∈ items) : Quoted entries v
  | name {server own : Entries} {p : Datum × Datum}
    (outer : Datum.entry? entries "server" = some (.map server))
    (given : Datum.entry? server "env" = some (.map own)) (mem : p ∈ own) : Quoted entries p.1
  | value {server own : Entries} {p : Datum × Datum}
    (outer : Datum.entry? entries "server" = some (.map server))
    (given : Datum.entry? server "env" = some (.map own)) (mem : p ∈ own) : Quoted entries p.2
  | level {v : Datum} (given : Datum.entry? entries "log_level" = some v) : Quoted entries v
  | policy {v : Datum} (given : Datum.entry? entries "busy_policy" = some v)
    (unknown : BusyPolicy.ofDatum? v = none) : Quoted entries v
  | timeout {inner : Entries} {name : String} {v : Datum}
    (outer : Datum.entry? entries "timeouts" = some (.map inner)) (known : name ∈ timeoutNames)
    (given : Datum.entry? inner name = some v)
    (unfit : ∀ t, Seconds.ofDatum? v = some t → t.isPositive = false) : Quoted entries v
  | filter {items : List Datum} {v : Datum} (given : selectorItems? entries = some items)
    (mem : v ∈ items) (other : ∀ filter, v ≠ .map filter) : Quoted entries v

/-- A value of a mapping that is used for what it is not, and the fault of that. -/
inductive Unguarded (entries : Entries) : Fault → Prop
  /-- Lengths of time are looked up in what has no entries. -/
  | timeouts {v : Datum} (given : Datum.entry? entries "timeouts" = some v)
    (counts : v.isTruthy = true) (other : ∀ inner, v ≠ .map inner) :
    Unguarded entries (.plain .missingAttribute "object has no attribute 'get'")
  /-- What has no items is gone through for filters. -/
  | selector {v : Datum} (given : Datum.entry? entries "document_selector" = some v)
    (counts : v.isTruthy = true) (other : DocumentScope.itemsOf? v = none) :
    Unguarded entries (.plain .wrongType "object is not iterable")
  /-- The keys of a filter that are unknown are put into one text, and one of them is none. -/
  | key {items : List Datum} {filter : Entries} {p : Datum × Datum}
    (given : selectorItems? entries = some items) (mem : .map filter ∈ items) (entry : p ∈ filter)
    (other : ∀ k, p.1 ≠ .str k) :
    Unguarded entries (.plain .wrongType "sequence item 0: expected str instance")
  /-- A number is too long for its text. -/
  | number {v : Datum} (quoted : Quoted entries v) (long : v.isWritable = false) :
    Unguarded entries overlongNumber

/-! ### The steps of the reader -/

theorem mappingAt_map {key : String} {fault : Fault} {inner : Entries}
    (given : Datum.entry? entries key = some (.map inner)) :
    mappingAt entries key fault = .ok inner := by
  cases inner with
  | nil => simp [mappingAt, given, Datum.isTruthy]
  | cons p rest => simp [mappingAt, given, Datum.isTruthy]

/-- A mapping under a key is the one that is given, or an empty one. -/
theorem mappingAt_eq_ok {key : String} {fault : Fault} {inner : Entries}
    (done : mappingAt entries key fault = .ok inner) :
    inner = [] ∨ Datum.entry? entries key = some (.map inner) := by
  unfold mappingAt at done
  split at done
  · cases done
    exact .inl rfl
  next v given =>
    split at done
    · split at done
      · cases done
        exact .inr given
      · cases done
    · cases done
      exact .inl rfl

theorem foreseen_mappingAt (key : String) (k : ConfigFault) :
    Foreseen R (mappingAt entries key (.config k)) := by
  unfold mappingAt
  split
  · exact .ok _
  · split
    · split
      · exact .ok _
      · exact .config k
    · exact .ok _

theorem foreseen_shown {v : Datum} (long : v.isWritable = false → R overlongNumber) :
    Foreseen R (shown v) := by
  unfold shown
  split
  · exact .ok _
  next unwritable => exact .escape (long (by simpa using unwritable))

theorem isWritable_of_shown {v : Datum} {s : String} (done : shown v = .ok s) :
    v.isWritable = true := by
  unfold shown at done
  split at done
  · assumption
  · cases done

theorem foreseen_quoting {v : Datum} {fault : String → ConfigFault}
    (long : v.isWritable = false → R overlongNumber) :
    Foreseen R (.error (quoting v fault) : Except Fault α) := by
  unfold quoting
  split
  · exact .config _
  next unwritable => exact .escape (long (by simpa using unwritable))

theorem foreseen_mapM_shown {items : List Datum}
    (long : ∀ v ∈ items, v.isWritable = false → R overlongNumber) :
    Foreseen R (items.mapM shown) := by
  induction items with
  | nil => exact .ok _
  | cons v rest ih =>
    rw [List.mapM_cons]
    refine .bind (foreseen_shown (long v (by simp))) fun _ _ => ?_
    exact .bind (ih fun v mem => long v (by simp [mem])) fun _ _ => .ok _

theorem isWritable_of_mapM_shown {items : List Datum} {texts : List String}
    (done : items.mapM shown = .ok texts) : ∀ v ∈ items, v.isWritable = true := by
  induction items generalizing texts with
  | nil => simp
  | cons v rest ih =>
    rw [List.mapM_cons] at done
    obtain ⟨s, first, done⟩ := bind_eq_ok.mp done
    obtain ⟨ss, others, -⟩ := bind_eq_ok.mp done
    intro v' mem
    cases List.mem_cons.mp mem with
    | inl same => exact same ▸ isWritable_of_shown first
    | inr later => exact ih others v' later

theorem foreseen_envOf {own : Entries}
    (long : ∀ p ∈ own, (p.1.isWritable = false → R overlongNumber)
      ∧ (p.2.isWritable = false → R overlongNumber)) :
    Foreseen R (envOf own) := by
  unfold envOf
  generalize ([] : Environment) = e
  induction own generalizing e with
  | nil => exact .ok _
  | cons p rest ih =>
    rw [List.foldlM_cons]
    refine .bind ?_ fun e' _ => ih (fun q mem => long q (by simp [mem])) e'
    refine .bind (foreseen_shown (long p (by simp)).1) fun _ _ => ?_
    exact .bind (foreseen_shown (long p (by simp)).2) fun _ _ => .ok _

theorem isWritable_of_envOf {own : Entries} {e : Environment} (done : envOf own = .ok e) :
    ∀ p ∈ own, p.1.isWritable = true ∧ p.2.isWritable = true := by
  unfold envOf at done
  generalize ([] : Environment) = start at done
  induction own generalizing start with
  | nil => simp
  | cons p rest ih =>
    rw [List.foldlM_cons] at done
    obtain ⟨e', first, done⟩ := bind_eq_ok.mp done
    obtain ⟨s, name, first⟩ := bind_eq_ok.mp first
    obtain ⟨t, value, -⟩ := bind_eq_ok.mp first
    intro q mem
    cases List.mem_cons.mp mem with
    | inl same => exact same ▸ ⟨isWritable_of_shown name, isWritable_of_shown value⟩
    | inr later => exact ih e' done q later

theorem foreseen_argsOf (v : Datum) : Foreseen R (argsOf v) := by
  unfold argsOf
  split
  · exact .ok _
  · exact .config _

theorem argsOf_eq_ok {v : Datum} {items : List Datum} (done : argsOf v = .ok items) :
    v = .seq items := by
  unfold argsOf at done
  split at done
  · cases done
    rfl
  · cases done

/-- The server's part of a mapping. -/
theorem foreseen_serverOf {env : Environment} {server : Entries}
    (argument : ∀ items, Datum.entry? server "args" = some (.seq items) →
      ∀ v ∈ items, v.isWritable = false → R overlongNumber)
    (named : ∀ own, Datum.entry? server "env" = some (.map own) → ∀ p ∈ own,
      (p.1.isWritable = false → R overlongNumber) ∧ (p.2.isWritable = false → R overlongNumber)) :
    Foreseen R (serverOf env server) := by
  unfold serverOf
  refine .bind (foreseen_argsOf _) fun items args => ?_
  refine .bind (foreseen_mappingAt "env" _) fun own found => ?_
  refine .bind (foreseen_mapM_shown fun v mem long => ?_) fun _ _ => ?_
  · have args := argsOf_eq_ok args
    unfold entryOr at args
    cases given : Datum.entry? server "args" with
    | some w =>
      rw [given] at args
      exact argument items (given.trans (congrArg some args)) v mem long
    | none =>
      rw [given] at args
      cases args
      simp [ServerConfig.defaultArgs] at mem
      simp [mem, Datum.isWritable] at long
  refine .bind (foreseen_envOf fun p mem => ?_) fun _ _ => .ok _
  cases mappingAt_eq_ok found with
  | inl none => simp [none] at mem
  | inr given => exact named own given p mem

theorem foreseen_positive {name : String} {v : Datum}
    (long : (∀ t, Seconds.ofDatum? v = some t → t.isPositive = false) → v.isWritable = false →
      R overlongNumber) :
    Foreseen R (positive name v) := by
  unfold positive
  cases fits : Seconds.ofDatum? v with
  | none => exact foreseen_quoting (long (by simp [fits]))
  | some t =>
    cases sign : t.isPositive with
    | true => simpa [sign] using Foreseen.ok _
    | false =>
      simp only [sign]
      exact foreseen_quoting (long (by simp [fits, sign]))

theorem positive_eq_ok {name : String} {v : Datum} {t : Seconds}
    (done : positive name v = .ok t) : Seconds.ofDatum? v = some t ∧ t.isPositive = true := by
  unfold positive at done
  cases fits : Seconds.ofDatum? v with
  | none => simp [fits] at done
  | some t' =>
    cases sign : t'.isPositive with
    | true =>
      simp [fits, sign] at done
      exact ⟨congrArg some done, done ▸ sign⟩
    | false => simp [fits, sign] at done

theorem foreseen_unknownKeys {filter : Entries}
    (key : ∀ p ∈ filter, (∀ k, p.1 ≠ .str k) →
      R (.plain .wrongType "sequence item 0: expected str instance")) :
    Foreseen R (unknownKeys filter) := by
  induction filter with
  | nil => exact .ok _
  | cons p rest ih =>
    obtain ⟨k, v⟩ := p
    have later := ih fun q mem => key q (by simp [mem])
    cases k with
    | str k =>
      unfold unknownKeys
      split
      · exact later
      · exact later.map
    | _ => exact .escape (key (_, v) List.mem_cons_self (by simp))

/-- A filter whose keys are told apart has texts for keys, each of them known or told. -/
theorem unknownKeys_eq_ok {filter : Entries} {unknown : List String}
    (done : unknownKeys filter = .ok unknown) :
    ∀ p ∈ filter, ∃ k, p.1 = .str k ∧ (k ∈ filterKeys ∨ k ∈ unknown) := by
  induction filter generalizing unknown with
  | nil => simp
  | cons p rest ih =>
    obtain ⟨k, v⟩ := p
    cases k with
    | str k =>
      unfold unknownKeys at done
      split at done
      next known =>
        intro q mem
        cases List.mem_cons.mp mem with
        | inl same => exact ⟨k, by simp [same], .inl (by simpa using known)⟩
        | inr later => exact ih done q later
      · cases others : unknownKeys rest with
        | error f => simp [others, Except.map] at done
        | ok names =>
          simp only [others, Except.map, Except.ok.injEq] at done
          subst done
          intro q mem
          cases List.mem_cons.mp mem with
          | inl same => exact ⟨k, by simp [same], .inr (by simp)⟩
          | inr later =>
            obtain ⟨k', key, known⟩ := ih others q later
            exact ⟨k', key, known.imp_right fun told => by simp [told]⟩
    | _ => cases done

theorem insertSorted_ne_nil (s : String) (names : List String) : insertSorted s names ≠ [] := by
  cases names with
  | nil => simp [insertSorted]
  | cons t rest =>
    unfold insertSorted
    split <;> simp

theorem foreseen_filtersOf {items : List Datum}
    (key : ∀ filter, .map filter ∈ items → ∀ p ∈ filter, (∀ k, p.1 ≠ .str k) →
      R (.plain .wrongType "sequence item 0: expected str instance"))
    (long : ∀ v ∈ items, (∀ filter, v ≠ .map filter) → v.isWritable = false → R overlongNumber) :
    Foreseen R (filtersOf items) := by
  induction items with
  | nil => exact .ok _
  | cons v rest ih =>
    cases v with
    | map filter =>
      unfold filtersOf
      refine .bind (foreseen_unknownKeys (key filter (by simp))) fun unknown _ => ?_
      split
      · refine (ih ?_ ?_).map
        · exact fun filter mem => key filter (by simp [mem])
        · exact fun v mem => long v (by simp [mem])
      · exact .config _
    | _ => exact foreseen_quoting (long _ List.mem_cons_self (by simp))

/-- Filters that are accepted are mappings with known keys only. -/
theorem filtersOf_eq_ok {items : List Datum} {filters : List Entries}
    (done : filtersOf items = .ok filters) :
    items = filters.map .map
      ∧ ∀ filter ∈ filters, ∀ p ∈ filter, ∃ k ∈ filterKeys, p.1 = .str k := by
  induction items generalizing filters with
  | nil =>
    cases done
    simp
  | cons v rest ih =>
    cases v with
    | map filter =>
      unfold filtersOf at done
      obtain ⟨unknown, keys, done⟩ := bind_eq_ok.mp done
      cases unknown with
      | cons k ks =>
        cases sorted : (k :: ks).foldr insertSorted [] with
        | nil => exact absurd sorted (insertSorted_ne_nil _ _)
        | cons name names => simp [sorted] at done
      | nil =>
        cases others : filtersOf rest with
        | error f => simp [others, Except.map] at done
        | ok later =>
          simp only [others, Except.map, List.foldr_nil, Except.ok.injEq] at done
          subst done
          obtain ⟨same, known⟩ := ih others
          refine ⟨by simp [same], ?_⟩
          intro filter' mem
          cases List.mem_cons.mp mem with
          | inr mem => exact known filter' mem
          | inl first =>
            subst first
            intro p entry
            obtain ⟨k, key, known⟩ := unknownKeys_eq_ok keys p entry
            exact ⟨k, by simpa using known, key⟩
    | _ => cases done

/-- A value that counts and is gone through has an item. -/
theorem items_ne_nil {v : Datum} {items : List Datum} (counts : v.isTruthy = true)
    (given : DocumentScope.itemsOf? v = some items) : items ≠ [] := by
  cases v <;>
    simp only [DocumentScope.itemsOf?, Option.some.injEq, reduceCtorEq] at given <;>
    subst given <;>
    simp_all [Datum.isTruthy]

/-- The selector of the standard scope is accepted. -/
theorem standardSelector_fits : ∃ filters, selectorOf .null = .ok filters :=
  ⟨_, rfl⟩

theorem foreseen_selectorOf {v : Datum}
    (other : v.isTruthy = true → DocumentScope.itemsOf? v = none →
      R (.plain .wrongType "object is not iterable"))
    (items : ∀ items, DocumentScope.itemsOf? v = some items → Foreseen R (filtersOf items)) :
    Foreseen R (selectorOf v) := by
  cases v with
  | null =>
    obtain ⟨filters, fits⟩ := standardSelector_fits
    rw [fits]
    exact .ok _
  | _ =>
    simp only [selectorOf]
    split
    next counts =>
      split
      next given => exact items _ given
      next given => exact .escape (other counts given)
    · exact .config _

/-- A selector that is given is gone through. -/
theorem gone_through {v : Datum} {filters : List Entries} (given : v ≠ .null)
    (done : selectorOf v = .ok filters) :
    ∃ items, v.isTruthy = true ∧ DocumentScope.itemsOf? v = some items
      ∧ filtersOf items = .ok filters := by
  cases v with
  | null => exact absurd rfl given
  | _ =>
    simp only [selectorOf] at done
    split at done
    next counts =>
      split at done
      next items => exact ⟨_, counts, items, done⟩
      · cases done
    · cases done

/-- Filters that are accepted: at least one, with known keys only, and those that were given. -/
theorem selectorOf_eq_ok {v : Datum} {filters : List Entries}
    (done : selectorOf v = .ok filters) :
    filters ≠ [] ∧ (∀ filter ∈ filters, ∀ p ∈ filter, ∃ k ∈ filterKeys, p.1 = .str k)
      ∧ (v ≠ .null → DocumentScope.itemsOf? v = some (filters.map .map)) := by
  have fit : ∀ w, w ≠ .null → selectorOf w = .ok filters → filters ≠ []
      ∧ (∀ filter ∈ filters, ∀ p ∈ filter, ∃ k ∈ filterKeys, p.1 = .str k)
      ∧ DocumentScope.itemsOf? w = some (filters.map .map) := by
    intro w given accepted
    obtain ⟨items, counts, some, accepted⟩ := gone_through given accepted
    obtain ⟨same, known⟩ := filtersOf_eq_ok accepted
    have filled := items_ne_nil counts some
    exact ⟨by simpa [same] using filled, known, same ▸ some⟩
  cases v with
  | null =>
    have given : standardSelector ≠ .null := by
      simp [standardSelector, DocumentScope.toSelector, Datum.ofJson]
    obtain ⟨filled, known, -⟩ := fit standardSelector given done
    exact ⟨filled, known, fun given => absurd rfl given⟩
  | _ =>
    obtain ⟨filled, known, items⟩ := fit _ (by simp) done
    exact ⟨filled, known, fun _ => items⟩

theorem foreseen_timeoutsOf {inner : Entries}
    (long : ∀ name ∈ timeoutNames, ∀ v, Datum.entry? inner name = some v →
      (∀ t, Seconds.ofDatum? v = some t → t.isPositive = false) → v.isWritable = false →
        R overlongNumber) :
    Foreseen R (timeoutsOf inner) := by
  have fit : ∀ name ∈ timeoutNames, ∀ other : Binary64, Seconds.isPositive (.real other) = true →
      Foreseen R (positive name (entryOr inner name (.float other))) := by
    intro name known other sign
    refine foreseen_positive fun unfit unwritable => ?_
    unfold entryOr at unfit unwritable
    cases given : Datum.entry? inner name with
    | some v =>
      rw [given] at unfit unwritable
      exact long name known v given unfit unwritable
    | none =>
      rw [given] at unwritable
      cases unwritable
  unfold timeoutsOf
  refine .bind (fit _ (by simp [timeoutNames]) _ (by decide +kernel)) fun _ _ => ?_
  refine .bind (fit _ (by simp [timeoutNames]) _ (by decide +kernel)) fun _ _ => ?_
  exact .bind (fit _ (by simp [timeoutNames]) _ (by decide +kernel)) fun _ _ => .ok _

/-! ### The whole of a mapping -/

/-- What a configuration that was accepted promises. -/
structure Valid (c : Config) : Prop where
  command : c.server.command.isTruthy = true
  handshake : c.timeouts.handshake.isPositive = true
  request : c.timeouts.request.isPositive = true
  grace : c.timeouts.shutdownGrace.isPositive = true
  selector : c.selector ≠ []
  filters : ∀ filter ∈ c.selector, ∀ p ∈ filter, ∃ k ∈ filterKeys, p.1 = .str k
  level : isLevelName c.logLevel = true

theorem foreseen_policyOf (entries : Entries) :
    Foreseen (Unguarded entries) (policyOf (entryOr entries "busy_policy" (.str "queue"))) := by
  unfold policyOf
  split
  · exact .ok _
  next unknown =>
    refine .bind (foreseen_shown fun long => ?_) fun _ _ => .config _
    unfold entryOr at unknown long
    cases given : Datum.entry? entries "busy_policy" with
    | some v =>
      rw [given] at unknown long
      exact .number (.policy given unknown) long
    | none =>
      rw [given] at long
      cases long

theorem foreseen_selector (entries : Entries) :
    Foreseen (Unguarded entries) (selectorOf (entryOr entries "document_selector" .null)) := by
  unfold entryOr
  cases given : Datum.entry? entries "document_selector" with
  | none =>
    obtain ⟨filters, fits⟩ := standardSelector_fits
    rw [Option.getD_none, fits]
    exact .ok _
  | some v =>
    refine foreseen_selectorOf (fun counts other => .selector given counts other) ?_
    intro items gone
    have given : selectorItems? entries = some items := by
      simpa [selectorItems?, given] using gone
    refine foreseen_filtersOf ?_ ?_
    · exact fun filter mem p entry other => .key given mem entry other
    · exact fun v mem other long => .number (.filter given mem other) long

/-- Nothing but what is unguarded makes a mapping fail by another fault than one of the
configuration. -/
theorem foreseen_ofEntries (env : Environment) (entries : Entries) :
    Foreseen (Unguarded entries) (ofEntries env entries) := by
  unfold ofEntries
  refine .bind (foreseen_mappingAt "server" _) fun server outer => ?_
  refine .bind ?server fun server _ => ?_
  case server =>
    cases mappingAt_eq_ok outer with
    | inl none =>
      subst none
      refine foreseen_serverOf ?_ ?_
      · intro items given
        cases given
      · intro own given
        cases given
    | inr outer =>
      refine foreseen_serverOf ?_ ?_
      · exact fun items given v mem => .number (.argument outer given mem)
      · exact fun own given p mem =>
          ⟨.number (.name outer given mem), .number (.value outer given mem)⟩
  refine .bind ?timeouts fun inner outer => ?_
  case timeouts =>
    unfold mappingAt
    split
    · exact .ok _
    next v given =>
      split
      next counts =>
        split
        · exact .ok _
        next other => exact .escape (.timeouts given counts other)
      · exact .ok _
  refine .bind ?level fun _ _ => ?_
  case level =>
    refine foreseen_shown fun long => ?_
    unfold entryOr at long
    cases given : Datum.entry? entries "log_level" with
    | some v =>
      rw [given] at long
      exact .number (.level given) long
    | none =>
      rw [given] at long
      cases long
  refine .bind ?command fun _ _ => ?_
  case command =>
    unfold checkCommand
    split
    · exact .ok _
    · exact .config _
  refine .bind (foreseen_policyOf entries) fun _ _ => ?_
  refine .bind ?lengths fun _ _ => ?_
  case lengths =>
    cases mappingAt_eq_ok outer with
    | inl none =>
      subst none
      refine foreseen_timeoutsOf fun name known v given => ?_
      cases given
    | inr outer =>
      exact foreseen_timeoutsOf fun name known v given unfit long =>
        .number (.timeout outer known given unfit) long
  refine .bind (foreseen_selector entries) fun _ _ => ?_
  refine .bind ?known fun _ _ => .ok _
  case known =>
    unfold levelOf
    split
    · exact .ok _
    · exact .config _

example : ofEntries [] [(.str "timeouts", .int 5)]
    = .error (.plain .missingAttribute "object has no attribute 'get'") := by cbv

theorem serverOf_eq_ok {env : Environment} {server : Entries} {c : ServerConfig}
    (done : serverOf env server = .ok c) :
    (∀ items, Datum.entry? server "args" = some (.seq items) → ∀ v ∈ items, v.isWritable = true)
      ∧ ∀ own, Datum.entry? server "env" = some (.map own) →
        ∀ p ∈ own, p.1.isWritable = true ∧ p.2.isWritable = true := by
  unfold serverOf at done
  obtain ⟨args, listed, done⟩ := bind_eq_ok.mp done
  obtain ⟨own, found, done⟩ := bind_eq_ok.mp done
  obtain ⟨texts, written, done⟩ := bind_eq_ok.mp done
  obtain ⟨named, kept, -⟩ := bind_eq_ok.mp done
  constructor
  · intro items given
    have same := argsOf_eq_ok listed
    simp only [entryOr, given, Option.getD_some, Datum.seq.injEq] at same
    exact same ▸ isWritable_of_mapM_shown written
  · intro own' given
    rw [mappingAt_map given] at found
    cases found
    exact isWritable_of_envOf kept

/-- The lengths of time of a mapping that are accepted are positive, and so is each that is given. -/
theorem timeoutsOf_eq_ok {inner : Entries} {t : Timeouts} (done : timeoutsOf inner = .ok t) :
    (t.handshake.isPositive = true ∧ t.request.isPositive = true
      ∧ t.shutdownGrace.isPositive = true)
      ∧ ∀ name ∈ timeoutNames, ∀ v, Datum.entry? inner name = some v →
        ∃ s, Seconds.ofDatum? v = some s ∧ s.isPositive = true := by
  unfold timeoutsOf at done
  obtain ⟨handshake, first, done⟩ := bind_eq_ok.mp done
  obtain ⟨request, second, done⟩ := bind_eq_ok.mp done
  obtain ⟨grace, third, done⟩ := bind_eq_ok.mp done
  cases done
  have first := positive_eq_ok first
  have second := positive_eq_ok second
  have third := positive_eq_ok third
  refine ⟨⟨first.2, second.2, third.2⟩, ?_⟩
  intro name known v given
  simp only [timeoutNames, List.mem_cons, List.not_mem_nil, or_false] at known
  obtain rfl | rfl | rfl := known
  · exact ⟨_, by simpa [entryOr, given] using first⟩
  · exact ⟨_, by simpa [entryOr, given] using second⟩
  · exact ⟨_, by simpa [entryOr, given] using third⟩

theorem checkCommand_eq_ok {v : Datum} {u : Unit} (done : checkCommand v = .ok u) :
    v.isTruthy = true := by
  unfold checkCommand at done
  split at done
  · assumption
  · cases done

theorem levelOf_eq_ok {s level : String} (done : levelOf s = .ok level) :
    isLevelName level = true := by
  unfold levelOf at done
  split at done
  next known =>
    cases done
    exact known
  · cases done

theorem policyOf_eq_ok {v : Datum} {p : BusyPolicy} (done : policyOf v = .ok p) :
    BusyPolicy.ofDatum? v = some p := by
  unfold policyOf at done
  split at done
  next known =>
    cases done
    exact known
  · obtain ⟨_, -, done⟩ := bind_eq_ok.mp done
    cases done

/-- The items of a selector that is accepted are its filters. -/
theorem selectorItems_eq {items : List Datum} {filters : List Entries}
    (given : selectorItems? entries = some items)
    (done : selectorOf (entryOr entries "document_selector" .null) = .ok filters) :
    items = filters.map .map := by
  obtain ⟨v, entry, gone⟩ := Option.bind_eq_some_iff.mp given
  have some : v ≠ .null := by
    rintro rfl
    cases gone
  simp only [entryOr, entry, Option.getD_some] at done
  have same := (selectorOf_eq_ok done).2.2 some
  exact Option.some.inj (gone.symm.trans same)

/-- A mapping that is accepted holds nothing that is unguarded, and makes a valid configuration. -/
theorem ofEntries_eq_ok {env : Environment} {c : Config} (done : ofEntries env entries = .ok c) :
    Valid c ∧ ∀ f, ¬ Unguarded entries f := by
  unfold ofEntries at done
  obtain ⟨serverEntries, serverFound, done⟩ := bind_eq_ok.mp done
  obtain ⟨server, served, done⟩ := bind_eq_ok.mp done
  obtain ⟨inner, innerFound, done⟩ := bind_eq_ok.mp done
  obtain ⟨name, leveled, done⟩ := bind_eq_ok.mp done
  obtain ⟨_, commanded, done⟩ := bind_eq_ok.mp done
  obtain ⟨policy, chosen, done⟩ := bind_eq_ok.mp done
  obtain ⟨timeouts, timed, done⟩ := bind_eq_ok.mp done
  obtain ⟨selector, selected, done⟩ := bind_eq_ok.mp done
  obtain ⟨level, known, done⟩ := bind_eq_ok.mp done
  cases done
  obtain ⟨arguments, named⟩ := serverOf_eq_ok served
  obtain ⟨⟨handshake, request, grace⟩, lengths⟩ := timeoutsOf_eq_ok timed
  obtain ⟨filled, keys, -⟩ := selectorOf_eq_ok selected
  refine ⟨⟨checkCommand_eq_ok commanded, handshake, request, grace, filled, keys,
    levelOf_eq_ok known⟩, fun f unguarded => ?_⟩
  cases unguarded with
  | @timeouts v given counts other =>
    simp only [mappingAt, given, counts, if_true] at innerFound
    cases innerFound
  | @selector v given counts other =>
    have gone : DocumentScope.itemsOf? v ≠ none := by
      have some : v ≠ .null := by
        rintro rfl
        cases counts
      simp only [entryOr, given, Option.getD_some] at selected
      simp [(selectorOf_eq_ok selected).2.2 some]
    exact gone other
  | @key items filter p given mem entry other =>
    have mem : filter ∈ selector := by simpa [selectorItems_eq given selected] using mem
    obtain ⟨k, -, key⟩ := keys filter mem p entry
    exact other k key
  | @number v quoted long =>
    suffices written : v.isWritable = true by simp [written] at long
    cases quoted with
    | argument outer given mem =>
      rw [mappingAt_map outer] at serverFound
      cases serverFound
      exact arguments _ given v mem
    | name outer given mem =>
      rw [mappingAt_map outer] at serverFound
      cases serverFound
      exact (named _ given _ mem).1
    | value outer given mem =>
      rw [mappingAt_map outer] at serverFound
      cases serverFound
      exact (named _ given _ mem).2
    | level given =>
      simp only [entryOr, given, Option.getD_some] at leveled
      exact isWritable_of_shown leveled
    | policy given unknown =>
      simp only [entryOr, given, Option.getD_some] at chosen
      rw [policyOf_eq_ok chosen] at unknown
      cases unknown
    | timeout outer known given unfit =>
      rw [mappingAt_map outer] at innerFound
      cases innerFound
      obtain ⟨t, length, positive⟩ := lengths _ known v given
      simp [unfit t length] at positive
    | filter given mem other =>
      rw [selectorItems_eq given selected] at mem
      obtain ⟨filter, -, same⟩ := List.mem_map.mp mem
      exact absurd same.symm (other filter)

/-! ### Files -/

/-- How a file fails by another fault than one of the configuration. -/
inductive Escapes : FileEntry → Fault → Prop
  | directory : Escapes .directory (.plain .isDirectory "Is a directory")
  | undecodable {bytes : List UInt8} {p : Text.Utf8.Piece}
    (flawed : Text.Utf8.piece? bytes = some p) :
    Escapes (.file bytes) (.plain .undecodable (Files.undecodable p))
  /-- A scalar cannot be what its tag says. -/
  | misused {bytes : List UInt8} {text : List Char} {kind : PlainKind}
    (decoded : Files.textOf bytes = .ok text) (read : Yaml.read text = .error (.misused kind)) :
    Escapes (.file bytes) (.plain kind "")
  | unguarded {bytes : List UInt8} {text : List Char} {entries : Entries} {f : Fault}
    (decoded : Files.textOf bytes = .ok text) (read : Yaml.read text = .ok (.map entries))
    (value : Unguarded entries f) : Escapes (.file bytes) f

theorem textOf_cases (bytes : List UInt8) :
    (∃ p, Text.Utf8.piece? bytes = some p
      ∧ Files.textOf bytes = .error (.plain .undecodable (Files.undecodable p)))
    ∨ ∃ text, Files.textOf bytes = .ok text := by
  unfold Files.textOf
  cases flawed : Text.Utf8.piece? bytes with
  | some p => exact .inl ⟨p, rfl, rfl⟩
  | none => exact .inr ⟨_, rfl⟩

theorem not_unguarded_nil (f : Fault) : ¬ Unguarded [] f := by
  intro unguarded
  cases unguarded with
  | timeouts given => cases given
  | selector given => cases given
  | key given => cases given
  | number quoted =>
    cases quoted with
    | argument outer => cases outer
    | name outer => cases outer
    | value outer => cases outer
    | level given => cases given
    | policy given => cases given
    | timeout outer => cases outer
    | filter given => cases given

theorem foreseen_ofFile (env : Environment) (e : FileEntry) :
    Foreseen (Escapes e) (ofFile env e) := by
  unfold ofFile
  cases e with
  | directory => exact .escape .directory
  | file bytes =>
    obtain ⟨p, flawed, failed⟩ | ⟨text, decoded⟩ := textOf_cases bytes
    · simp only [Files.textAt, failed]
      exact .escape (.undecodable flawed)
    · simp only [Files.textAt, decoded]
      show Foreseen _ (ofText env text)
      unfold ofText
      split
      next fault read =>
        cases fault with
        | malformed => exact .config _
        | misused kind => exact .escape (.misused decoded read)
      · intro f failed
        exact (foreseen_ofEntries env [] f failed).imp_right fun value =>
          absurd value (not_unguarded_nil f)
      next entries read =>
        intro f failed
        exact (foreseen_ofEntries env entries f failed).imp_right (.unguarded decoded read)
      · exact .config _

theorem ofFile_eq_ok {env : Environment} {e : FileEntry} {c : Config}
    (done : ofFile env e = .ok c) : Valid c ∧ ∀ f, ¬ Escapes e f := by
  unfold ofFile at done
  obtain ⟨text, decoded, accepted⟩ := bind_eq_ok.mp done
  cases e with
  | directory => cases decoded
  | file bytes =>
    simp only [Files.textAt] at decoded
    -- The cases that escape before the mapping is known cannot have been: its text was read.
    have only : ∀ {f}, Escapes (.file bytes) f →
        (∃ kind, Yaml.read text = .error (.misused kind))
          ∨ ∃ entries, Yaml.read text = .ok (.map entries) ∧ Unguarded entries f := by
      intro f escapes
      cases escapes with
      | undecodable flawed => simp [Files.textOf, flawed] at decoded
      | misused found read =>
        cases decoded.symm.trans found
        exact .inl ⟨_, read⟩
      | unguarded found read value =>
        cases decoded.symm.trans found
        exact .inr ⟨_, read, value⟩
    unfold ofText at accepted
    split at accepted
    · cases accepted
    next read =>
      refine ⟨(ofEntries_eq_ok accepted).1, fun f escapes => ?_⟩
      obtain ⟨kind, other⟩ | ⟨entries, other, -⟩ := only escapes
      · cases read.symm.trans other
      · cases read.symm.trans other
    next entries read =>
      obtain ⟨valid, guarded⟩ := ofEntries_eq_ok accepted
      refine ⟨valid, fun f escapes => ?_⟩
      obtain ⟨kind, other⟩ | ⟨entries', other, value⟩ := only escapes
      · cases read.symm.trans other
      · cases read.symm.trans other
        exact guarded f value
    · cases accepted

end LspHost.Config

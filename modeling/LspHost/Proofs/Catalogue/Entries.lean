import LspHost.Catalogue

/-!
# Looking up what was put in a catalogue

`find?` reads the first entry under a key, while `putAll` and `putText` put entries in the place of older ones. Here is
what is found behind them: of the entries that were put the last one under a key, and else the older one.
-/

namespace LspHost.Catalogue

variable {α : Type}

theorem find?_cons (k : Datum) (v : α) (entries : List (Datum × α)) (key : Datum) :
    find? ((k, v) :: entries) key = if Datum.agrees k key then some v else find? entries key := by
  unfold find?
  rw [List.find?_cons]
  cases Datum.agrees k key <;> rfl

theorem find?_append (before behind : List (Datum × α)) (key : Datum) :
    find? (before ++ behind) key = (find? before key).or (find? behind key) := by
  unfold find?
  rw [List.find?_append, Option.map_or]

/-- Keys that agree with each other agree with the same texts. -/
theorem agrees_str_congr {k k' : Datum} (same : Datum.agrees k k' = true) (key : String) :
    Datum.agrees k (.str key) = Datum.agrees k' (.str key) := by
  rw [Bool.eq_iff_iff]
  constructor
  · intro agrees
    obtain rfl := Datum.eq_str_of_agrees agrees
    cases k' <;> simp_all [Datum.agrees, Datum.number?]
  · intro agrees
    obtain rfl := Datum.eq_str_of_agrees agrees
    exact same

theorem find?_put (entries : Entries) (k v : Datum) (key : String) :
    find? (Datum.put entries k v) (.str key) =
      if Datum.agrees k (.str key) then some v else find? entries (.str key) := by
  induction entries with
  | nil => exact find?_cons k v [] (.str key)
  | cons e entries ih =>
    obtain ⟨old, w⟩ := e
    unfold Datum.put
    split
    · next same =>
      rw [find?_cons, find?_cons, agrees_str_congr same]
      split <;> rfl
    · next other =>
      rw [find?_cons, find?_cons, ih]
      cases here : Datum.agrees old (.str key) with
      | false => rfl
      | true =>
        have apart : Datum.agrees k (.str key) = false := by
          refine Bool.eq_false_iff.mpr fun agrees => other ?_
          obtain rfl := Datum.eq_str_of_agrees agrees
          exact here
        rw [apart]
        rfl

/-- Of entries that are put over others the last one under a key counts. -/
theorem find?_putAll (own entries : Entries) (key : String) :
    find? (putAll own entries) (.str key) = (find? entries.reverse (.str key)).or (find? own (.str key)) := by
  induction entries generalizing own with
  | nil => rfl
  | cons e entries ih =>
    obtain ⟨k, v⟩ := e
    have step : putAll own ((k, v) :: entries) = putAll (Datum.put own k v) entries := rfl
    rw [step, ih, find?_put, List.reverse_cons, find?_append, find?_cons, Option.or_assoc]
    split <;> rfl

/-- Entries are put over those of their language and over no others. -/
theorem find?_putText (texts : Texts) (language language' : String) (entries : Entries) :
    find? (putText texts (.str language) entries) (.str language') =
      if language = language' then some (putAll ((find? texts (.str language)).getD []) entries)
      else find? texts (.str language') := by
  induction texts with
  | nil =>
    unfold putText
    rw [find?_cons, Datum.agrees_str]
    by_cases here : language = language'
    · simp [here, find?]
    · simp [here, find?]
  | cons p texts ih =>
    obtain ⟨l, own⟩ := p
    unfold putText
    split
    · next same =>
      obtain rfl := Datum.eq_str_of_agrees same
      rw [find?_cons, find?_cons, find?_cons, if_pos same]
      by_cases here : language = language'
      · simp [here, Datum.agrees_str]
      · simp [here, Datum.agrees_str]
    · next other =>
      rw [find?_cons, find?_cons, if_neg other, ih]
      by_cases here : language = language'
      · subst here
        rw [if_neg other, if_pos rfl, if_pos rfl]
      · rw [if_neg here, if_neg here, find?_cons]

theorem mem_keys_putText (texts : Texts) (language : String) (entries : Entries) (d : Datum) :
    d ∈ (putText texts (.str language) entries).map Prod.fst ↔ d ∈ texts.map Prod.fst ∨ d = .str language := by
  induction texts with
  | nil => simp [putText]
  | cons p texts ih =>
    obtain ⟨l, own⟩ := p
    unfold putText
    split
    · next same =>
      obtain rfl := Datum.eq_str_of_agrees same
      simp only [List.map_cons, List.mem_cons]
      rw [or_right_comm, or_self]
    · next other =>
      rw [List.map_cons, List.map_cons, List.mem_cons, List.mem_cons, ih, or_assoc]

end LspHost.Catalogue

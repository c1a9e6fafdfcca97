import LspHost.Proofs.Catalogue.Entries
import LspHost.Proofs.Template

/-!
# What a catalogue says after any updates

A catalogue is changed at run time by texts that are added and by languages that are chosen. `Update.lastText` reads the
text that was added last under a key straight off the list of updates, and `Update.inUse` the language that was chosen
last; after any updates the catalogue agrees with both (`agrees_after`). From there `translate_after` says what becomes
of a translation: the key itself where there is no text, and otherwise the text, its fields filled.
-/

namespace LspHost

/-! ## Updates -/

/-- A change of a catalogue at run time. -/
inductive Update where
  | add (language : String) (texts : List (String × String))
  | choose (language : String)
  deriving DecidableEq, Repr

namespace Update

/-- Does an update; it fails with the fault that it leads to. -/
def apply (c : Catalogue) : Update → Except Fault Catalogue
  | .add language texts =>
    match c.add (.str language) (.map (Catalogue.entriesOf texts)) with
    | (c, none) => .ok c
    | (_, some f) => .error f
  | .choose language => (c.select (.str language)).map Prod.snd

/-- A catalogue after updates, the latest one in front. -/
def after (c : Catalogue) : List Update → Except Fault Catalogue
  | [] => .ok c
  | u :: earlier => do u.apply (← after c earlier)

/-- The text that was added last under a key of a language. -/
def lastText : List Update → String → String → Option String
  | [], language, key => (Catalogue.standardTexts.lookup language).bind (List.lookup key)
  | .add l texts :: earlier, language, key =>
    if l = language then (texts.reverse.lookup key).or (lastText earlier language key)
    else lastText earlier language key
  | .choose _ :: earlier, language, key => lastText earlier language key

/-- Whether a language was there from the start or was added. -/
def knows : List Update → String → Bool
  | [], language => (Catalogue.standardTexts.lookup language).isSome
  | .add l _ :: earlier, language => l = language || knows earlier language
  | .choose _ :: earlier, language => knows earlier language

/-- The language that was chosen last of those that were known when they were chosen, or else the first one. -/
def inUse (first : String) : List Update → String
  | [] => first
  | .add _ _ :: earlier => inUse first earlier
  | .choose language :: earlier => if knows earlier language then language else inUse first earlier

/-- The language of a translation: the one that is asked for, unless that is empty, or else the one in use. -/
def languageOf (first : String) (us : List Update) (asked : Option String) : String :=
  (asked.filter (· ≠ "")).getD (inUse first us)

/-- The text that is to be shown under a key: that of the language, or else that of the language that fills gaps. -/
def wording (first fallback : String) (us : List Update) (key : String) (asked : Option String) : Option String :=
  (lastText us (languageOf first us asked) key).or (lastText us fallback key)

end Update

namespace Catalogue

open Update

variable {first fallback : String} {us : List Update} {c : Catalogue}

/-- A catalogue holds what its updates say. -/
structure Agrees (first fallback : String) (us : List Update) (c : Catalogue) : Prop where
  texts : ∀ language key, find? ((find? c.texts (.str language)).getD []) (.str key) =
    (lastText us language key).map Datum.str
  known : ∀ language, (find? c.texts (.str language)).isSome = knows us language
  current : c.current = .str (inUse first us)
  fallback : c.fallback = .str fallback

theorem find?_entriesOf (texts : List (String × String)) (key : String) :
    find? (entriesOf texts) (.str key) = (texts.lookup key).map Datum.str := by
  induction texts with
  | nil => rfl
  | cons p texts ih =>
    obtain ⟨k, text⟩ := p
    have cons : entriesOf ((k, text) :: texts) = (.str k, .str text) :: entriesOf texts := rfl
    rw [cons, find?_cons, ih, List.lookup_cons, Datum.agrees_str]
    by_cases same : k = key
    · simp [same]
    · rw [beq_false_of_ne same, beq_false_of_ne (Ne.symm same)]
      rfl

/-- Of texts that are put over others the last one under a key counts. -/
theorem find?_putAll_entriesOf (own : Entries) (texts : List (String × String)) (key : String) :
    find? (putAll own (entriesOf texts)) (.str key) =
      ((texts.reverse.lookup key).map Datum.str).or (find? own (.str key)) := by
  have reversed : (entriesOf texts).reverse = entriesOf texts.reverse := List.map_reverse.symm
  rw [find?_putAll, reversed, find?_entriesOf]

theorem find?_standard (current fallback : Datum) (language : String) :
    find? (withStandard current fallback).texts (.str language) = (standardTexts.lookup language).map entriesOf := by
  have texts : (withStandard current fallback).texts =
      [(.str "en", entriesOf english), (.str "zh", entriesOf chinese)] := rfl
  have standard : standardTexts = [("en", english), ("zh", chinese)] := rfl
  rw [texts, standard, find?_cons, find?_cons, List.lookup_cons, List.lookup_cons, Datum.agrees_str, Datum.agrees_str]
  by_cases first : language = "en"
  · simp [first]
  · by_cases second : language = "zh"
    · simp [second]
    · rw [beq_false_of_ne first, beq_false_of_ne second, beq_false_of_ne (Ne.symm first),
        beq_false_of_ne (Ne.symm second)]
      rfl

theorem agrees_standard (first fallback : String) :
    Agrees first fallback [] (withStandard (.str first) (.str fallback)) where
  texts language key := by
    rw [find?_standard, lastText]
    cases standardTexts.lookup language with
    | none => rfl
    | some texts => exact find?_entriesOf texts key
  known language := by
    rw [find?_standard, knows, Option.isSome_map]
  current := rfl
  fallback := rfl

theorem Agrees.add (h : Agrees first fallback us c) (language : String) (texts : List (String × String)) :
    ∃ c', (Update.add language texts).apply c = .ok c' ∧ Agrees first fallback (.add language texts :: us) c' := by
  refine ⟨{ c with texts := putText c.texts (.str language) (entriesOf texts) }, rfl, ?_, ?_, h.current, h.fallback⟩
  · intro l key
    rw [find?_putText, lastText]
    split
    · next same =>
      subst same
      rw [Option.getD_some, find?_putAll_entriesOf, h.texts]
      cases texts.reverse.lookup key <;> rfl
    · exact h.texts l key
  · intro l
    rw [find?_putText, knows, ← h.known l]
    split
    · next same => simp [same]
    · next other => simp [other]

theorem Agrees.choose (h : Agrees first fallback us c) (language : String) :
    ∃ c', (Update.choose language).apply c = .ok c' ∧ Agrees first fallback (.choose language :: us) c' := by
  have known := h.known language
  cases found : (find? c.texts (.str language)).isSome with
  | true =>
    have chosen : c.select (.str language) = .ok (true, { c with current := .str language }) := by
      unfold select
      rw [found]
      rfl
    refine ⟨{ c with current := .str language }, by rw [Update.apply, chosen]; rfl, h.texts, h.known, ?_, h.fallback⟩
    rw [inUse, ← known, found, if_pos rfl]
  | false =>
    have unchanged : c.select (.str language) = .ok (false, c) := by
      unfold select
      rw [found]
      rfl
    refine ⟨c, by rw [Update.apply, unchanged]; rfl, h.texts, h.known, ?_, h.fallback⟩
    rw [inUse, ← known, found]
    exact h.current

/-- No update with texts fails, and after all of them the catalogue holds what they say. -/
theorem agrees_after (first fallback : String) (us : List Update) :
    ∃ c, after (withStandard (.str first) (.str fallback)) us = .ok c ∧ Agrees first fallback us c := by
  induction us with
  | nil => exact ⟨_, rfl, agrees_standard first fallback⟩
  | cons u us ih =>
    obtain ⟨c, earlier, h⟩ := ih
    rw [after, earlier]
    cases u with
    | add language texts => exact h.add language texts
    | choose language => exact h.choose language

/-! ## Translations -/

/-- A language that is asked for, or none. -/
def asked (language : Option String) : Datum := language.elim .null Datum.str

theorem Agrees.textIn (h : Agrees first fallback us c) (language key : String) :
    c.textIn (.str language) (.str key) = .ok ((lastText us language key).map Datum.str) := by
  rw [← h.texts language key]
  rfl

theorem Agrees.get? (h : Agrees first fallback us c) (key : String) (language : Option String) :
    c.get? (.str key) (asked language) = .ok ((wording first fallback us key language).map Datum.str) := by
  have chosen : (if (asked language).isTruthy then asked language else c.current) =
      .str (languageOf first us language) := by
    unfold languageOf asked
    cases language with
    | none => exact h.current
    | some l =>
      by_cases empty : l = ""
      · subst empty
        exact h.current
      · simp [Datum.isTruthy, Option.filter, empty]
  unfold Catalogue.get? wording
  rw [chosen, h.textIn, h.fallback, h.textIn]
  cases lastText us (languageOf first us language) key <;> rfl

/-- What a translation shows of a text. -/
structure Shows (values : Members) (text : String) (shown : Except Fault Datum) : Prop where
  /-- Without values it is the text as it stands. -/
  asItStands : values = [] → shown = .ok (.str text)
  /-- With values it is the text with its fields filled. -/
  filled : ∀ t, values ≠ [] → Template.fill values text.toList = .ok t → shown = .ok (.str (String.ofList t))
  /-- A name without a value leaves the text as it is. -/
  unnamed : ∀ w, values ≠ [] → Template.fill values text.toList = .error (.plain .unknownKey w) →
    shown = .ok (.str text)
  /-- Any other fault of the text ends the translation. -/
  fails : ∀ f, values ≠ [] → Template.fill values text.toList = .error f → (∀ w, f ≠ .plain .unknownKey w) →
    shown = .error f
  /-- A text with no more than names in its fields is shown with their values, or as it is if one is missing. -/
  bare : ∀ ps : List Template.Piece, values ≠ [] → Template.Writable values → (∀ p ∈ ps, p.Plain) →
    (∀ p ∈ ps, p.Bare) → text.toList = ps.flatMap Template.Piece.written →
    shown = .ok (.str (if ps.all (Template.Piece.isGiven values)
      then String.ofList (ps.flatMap (Template.Piece.face values)) else text))

theorem shows_text (values : Members) (text : String) (key language : Datum)
    (found : c.get? key language = .ok (some (.str text))) : Shows values text (c.translate key language values) := by
  have filling (given : values ≠ []) : values.isEmpty = false := List.isEmpty_eq_false_iff.mpr given
  unfold Catalogue.translate
  simp only [found, bind, Except.bind]
  refine ⟨?_, ?_, ?_, ?_, ?_⟩
  · rintro rfl
    rfl
  · intro t given filled
    simp only [filling given, filled, Bool.false_eq_true, if_false]
  · intro w given fault
    simp only [filling given, fault, Bool.false_eq_true, if_false]
  · intro f given fault other
    simp only [filling given, fault, Bool.false_eq_true, if_false]
  · intro ps given writable plain bare written
    simp only [filling given, written, Template.fill_bare writable plain bare, Bool.false_eq_true, if_false]
    cases ps.all (Template.Piece.isGiven values) <;> rfl

end Catalogue

end LspHost

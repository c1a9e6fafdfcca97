import LspHost.Proofs.Catalogue.Entries
import Mathlib.Data.List.Forall2

/-!
# Texts from the files of a directory

A catalogue takes in the files of a directory one after the other. `Offers` is the table of what becomes of one file, by
what stands in it: an object offers its members and a list of pairs offers these, a file that is no JSON is passed over,
and any other content is a fault. The first fault ends the reading, and where there is none the catalogue is that with
everything added that the files offer (`addDirectory_cases`).
-/

namespace LspHost.Catalogue

variable {fs : Files} {path : String} {name : List Char} {c : Catalogue}

/-! ## One file -/

/-- The names in a directory that stand for a language. -/
def textFiles (fs : Files) (path : String) : List (List Char) :=
  (fs.list path).filter fun n => fileEnding.isSuffixOf n

/-- The language that a file is named after. -/
def languageOfFile (name : List Char) : String := String.ofList (stem name)

/-- What a name in a directory leads to. -/
def lead (fs : Files) (path : String) (name : List Char) : Except Fault (Option FileEntry) :=
  fs.find (path ++ "/" ++ String.ofList name)

/-- A file holds a text that is read as JSON with this outcome. -/
def Reads (fs : Files) (path : String) (name : List Char) (outcome : Except Json.ParseError Json) : Prop :=
  ∃ bytes text, lead fs path name = .ok (some (.file bytes)) ∧ Files.textOf bytes = .ok text ∧ Json.parse text = outcome

/-- What becomes of a file, by what stands in it: the entries that it offers, none if it is passed over, or a fault. -/
inductive Offers (fs : Files) (path : String) (name : List Char) : Except Fault (Option Entries) → Prop where
  | unreachable {f} : lead fs path name = .error f → Offers fs path name (.error f)
  | absent : lead fs path name = .ok none → Offers fs path name (.ok none)
  | directory : lead fs path name = .ok (some .directory) → Offers fs path name (.ok none)
  | undecodable {bytes p} : lead fs path name = .ok (some (.file bytes)) → Text.Utf8.piece? bytes = some p →
    Offers fs path name (.error (.plain .undecodable (Files.undecodable p)))
  | malformed : Reads fs path name (.error .malformed) → Offers fs path name (.ok none)
  | overlong : Reads fs path name (.error .integerTooLong) →
    Offers fs path name (.error (.plain .badValue "Exceeds the limit for integer string conversion"))
  | object {members} : Reads fs path name (.ok (.obj members)) →
    Offers fs path name (.ok (some (Datum.ofMembers members)))
  | pairs {items entries} : Reads fs path name (.ok (.arr items)) → (Datum.ofItems items).mapM pairOf = .ok entries →
    Offers fs path name (.ok (some entries))
  | unpaired {items f} : Reads fs path name (.ok (.arr items)) → (Datum.ofItems items).mapM pairOf = .error f →
    Offers fs path name (.error f)
  | blank : Reads fs path name (.ok (.str "")) → Offers fs path name (.ok (some []))
  | word {s} : Reads fs path name (.ok (.str s)) → s ≠ "" →
    Offers fs path name (.error (.plain .badValue "dictionary update sequence element has wrong length"))
  | scalar {v} : Reads fs path name (.ok v) → DocumentScope.itemsOf? (.ofJson v) = none →
    Offers fs path name (.error (.plain .wrongType "object is not iterable"))

/-- Takes in what a file offers. -/
def takeIn (c : Catalogue) (name : List Char) (offer : Option Entries) : Catalogue :=
  offer.elim c fun entries => (c.add (.str (languageOfFile name)) (.map entries)).1

theorem readEntries_go_pairs {items : List Datum} {entries : Entries} (all : items.mapM pairOf = .ok entries)
    (out : Entries) : readEntries.go items out = (out.reverse ++ entries, none) := by
  induction items generalizing entries out with
  | nil =>
    obtain rfl : [] = entries := Except.ok.inj all
    simp [readEntries.go]
  | cons item items ih =>
    rw [List.mapM_cons] at all
    unfold readEntries.go
    cases first : pairOf item with
    | error f => simp [first, bind, Except.bind] at all
    | ok pair =>
      cases rest : items.mapM pairOf with
      | error f => simp [first, rest, bind, Except.bind] at all
      | ok others =>
        obtain rfl : pair :: others = entries := by simpa [first, rest, bind, Except.bind, pure, Except.pure] using all
        dsimp only
        rw [ih rest, List.reverse_cons, List.append_assoc]
        rfl

theorem readEntries_go_fault {items : List Datum} {f : Fault} (broken : items.mapM pairOf = .error f) (out : Entries) :
    (readEntries.go items out).2 = some f := by
  induction items generalizing out with
  | nil => cases broken
  | cons item items ih =>
    rw [List.mapM_cons] at broken
    unfold readEntries.go
    cases first : pairOf item with
    | error f' => simpa [first, bind, Except.bind] using broken
    | ok pair =>
      cases rest : items.mapM pairOf with
      | error f' =>
        obtain rfl : f' = f := by simpa [first, rest, bind, Except.bind] using broken
        exact ih rest (pair :: out)
      | ok others => simp [first, rest, bind, Except.bind, pure, Except.pure] at broken

theorem readEntries_of_items {v : Datum} {items : List Datum} (noMap : ∀ entries, v ≠ .map entries)
    (yields : DocumentScope.itemsOf? v = some items) : readEntries v = readEntries.go items [] := by
  unfold readEntries
  split
  · next entries => exact absurd rfl (noMap entries)
  · rw [yields]

theorem readEntries_of_none {v : Datum} (fails : DocumentScope.itemsOf? v = none) :
    readEntries v = ([], some (.plain .wrongType "object is not iterable")) := by
  unfold readEntries
  split
  · cases fails
  · rw [fails]

/-- A character is no pair. -/
theorem readEntries_str {s : String} (written : s ≠ "") : (readEntries (.str s)).2 =
    some (.plain .badValue "dictionary update sequence element has wrong length") := by
  rw [readEntries_of_items (fun _ => Datum.noConfusion) rfl]
  cases chars : s.toList with
  | nil => exact absurd (String.toList_eq_nil_iff.mp chars) written
  | cons c rest =>
    have noPair : pairOf (.str (String.singleton c)) =
        .error (.plain .badValue "dictionary update sequence element has wrong length") := by
      simp [pairOf, DocumentScope.itemsOf?]
    rw [List.map_cons, readEntries.go, noPair]

/-- What becomes of a file, step by step as it is read. -/
def offer (fs : Files) (path : String) (name : List Char) : Except Fault (Option Entries) := do
  match ← lead fs path name with
  | none => .ok none
  | some e =>
    match Files.textAt e with
    | .error f => if f.isOs then .ok none else .error f
    | .ok text =>
      match Json.parse text with
      | .error .malformed => .ok none
      | .error .integerTooLong => .error (.plain .badValue "Exceeds the limit for integer string conversion")
      | .ok v => (readEntries (.ofJson v)).2.elim (.ok (some (readEntries (.ofJson v)).1)) .error

theorem offer_of_reads {v : Json} (reads : Reads fs path name (.ok v)) :
    offer fs path name = (readEntries (.ofJson v)).2.elim (.ok (some (readEntries (.ofJson v)).1)) .error := by
  obtain ⟨bytes, text, leads, decoded, parsed⟩ := reads
  unfold offer
  simp only [leads, bind, Except.bind, Files.textAt, decoded, parsed]

theorem Offers.offer {r : Except Fault (Option Entries)} (offers : Offers fs path name r) :
    offer fs path name = r := by
  cases offers with
  | unreachable leads => simp only [Catalogue.offer, leads, bind, Except.bind]
  | absent leads => simp only [Catalogue.offer, leads, bind, Except.bind]
  | directory leads =>
    simp only [Catalogue.offer, leads, bind, Except.bind, Files.textAt, Fault.isOs, if_true]
  | undecodable leads flawed =>
    simp only [Catalogue.offer, leads, bind, Except.bind, Files.textAt, Files.textOf, flawed, Fault.isOs,
      Bool.false_eq_true, if_false]
  | malformed reads =>
    obtain ⟨bytes, text, leads, decoded, parsed⟩ := reads
    simp only [Catalogue.offer, leads, bind, Except.bind, Files.textAt, decoded, parsed]
  | overlong reads =>
    obtain ⟨bytes, text, leads, decoded, parsed⟩ := reads
    simp only [Catalogue.offer, leads, bind, Except.bind, Files.textAt, decoded, parsed]
  | object reads => exact offer_of_reads reads
  | pairs reads all =>
    rw [offer_of_reads reads, Datum.ofJson, readEntries_of_items (fun _ => Datum.noConfusion) rfl,
      readEntries_go_pairs all]
    rfl
  | unpaired reads broken =>
    rw [offer_of_reads reads, Datum.ofJson, readEntries_of_items (fun _ => Datum.noConfusion) rfl,
      readEntries_go_fault broken]
    rfl
  | blank reads => exact offer_of_reads reads
  | word reads written =>
    rw [offer_of_reads reads, Datum.ofJson, readEntries_str written]
    rfl
  | scalar reads fails =>
    rw [offer_of_reads reads, readEntries_of_none fails]
    rfl

theorem Offers.unique {r r' : Except Fault (Option Entries)} (offers : Offers fs path name r)
    (offers' : Offers fs path name r') : r = r' := by
  rw [← offers.offer, ← offers'.offer]

theorem offers_json {v : Json} (reads : Reads fs path name (.ok v)) : ∃ r, Offers fs path name r := by
  cases v with
  | obj members => exact ⟨_, .object reads⟩
  | arr items =>
    cases all : (Datum.ofItems items).mapM pairOf with
    | ok entries => exact ⟨_, .pairs reads all⟩
    | error f => exact ⟨_, .unpaired reads all⟩
  | str s =>
    by_cases blank : s = ""
    · subst blank
      exact ⟨_, .blank reads⟩
    · exact ⟨_, .word reads blank⟩
  | null => exact ⟨_, .scalar reads rfl⟩
  | bool b => exact ⟨_, .scalar reads rfl⟩
  | int n => exact ⟨_, .scalar reads rfl⟩
  | float x => exact ⟨_, .scalar reads rfl⟩

theorem exists_offers (fs : Files) (path : String) (name : List Char) : ∃ r, Offers fs path name r := by
  cases leads : lead fs path name with
  | error f => exact ⟨_, .unreachable leads⟩
  | ok e =>
    rcases e with _ | bytes | _
    · exact ⟨_, .absent leads⟩
    · cases flawed : Text.Utf8.piece? bytes with
      | some p => exact ⟨_, .undecodable leads flawed⟩
      | none =>
        have decoded : Files.textOf bytes = .ok (Files.plainLines [] (Text.Utf8.decodeLossy bytes)) := by
          unfold Files.textOf
          rw [flawed]
        cases parsed : Json.parse (Files.plainLines [] (Text.Utf8.decodeLossy bytes)) with
        | ok v => exact offers_json ⟨bytes, _, leads, decoded, parsed⟩
        | error e =>
          cases e with
          | malformed => exact ⟨_, .malformed ⟨bytes, _, leads, decoded, parsed⟩⟩
          | integerTooLong => exact ⟨_, .overlong ⟨bytes, _, leads, decoded, parsed⟩⟩
    · exact ⟨_, .directory leads⟩

/-- The table has one line for every file. -/
theorem offers_iff {r : Except Fault (Option Entries)} : Offers fs path name r ↔ offer fs path name = r := by
  constructor
  · exact Offers.offer
  · rintro rfl
    obtain ⟨r, offers⟩ := exists_offers fs path name
    rw [offers.offer]
    exact offers

/-- A file adds to a catalogue what it offers, and nothing else of it matters. -/
theorem addFile_of_offer (c : Catalogue) (fs : Files) (path : String) (name : List Char) :
    (lead fs path name >>= fun e => e.elim (.ok c) (addFile c name)) = (offer fs path name).map (c.takeIn name) := by
  unfold offer
  cases lead fs path name with
  | error f => rfl
  | ok e =>
    cases e with
    | none => rfl
    | some e =>
      simp only [bind, Except.bind, Option.elim_some]
      unfold addFile
      cases Files.textAt e with
      | error f =>
        dsimp only
        cases f.isOs <;> rfl
      | ok text =>
        dsimp only
        cases Json.parse text with
        | error e => cases e <;> rfl
        | ok v =>
          have known : checkKey (.str (String.ofList (stem name))) = .ok () := rfl
          simp only [add, known]
          cases (readEntries (.ofJson v)).2 <;> rfl

/-! ## A directory -/

/-- Takes in what files offer, one after the other. -/
def takeAll (c : Catalogue) (offers : List (List Char × Option Entries)) : Catalogue :=
  offers.foldl (fun c o => c.takeIn o.1 o.2) c

/-- The entries that are offered under a language, in the order of the files. -/
def entriesUnder (offers : List (List Char × Option Entries)) (language : String) : Entries :=
  offers.flatMap fun o => if languageOfFile o.1 = language then o.2.getD [] else []

theorem mem_languages_takeAll (c : Catalogue) (offers : List (List Char × Option Entries)) (d : Datum) :
    d ∈ (c.takeAll offers).languages ↔
      d ∈ c.languages ∨ ∃ name entries, (name, some entries) ∈ offers ∧ d = .str (languageOfFile name) := by
  induction offers generalizing c with
  | nil => simp [takeAll]
  | cons o offers ih =>
    obtain ⟨name, offer⟩ := o
    have step : c.takeAll ((name, offer) :: offers) = (c.takeIn name offer).takeAll offers := rfl
    rw [step, ih]
    cases offer with
    | none => simp [takeIn]
    | some entries =>
      have taken : d ∈ (c.takeIn name (some entries)).languages ↔ d ∈ c.languages ∨ d = .str (languageOfFile name) :=
        mem_keys_putText c.texts (languageOfFile name) entries d
      rw [taken]
      constructor
      · rintro ((held | same) | ⟨n, es, offered, same⟩)
        · exact .inl held
        · exact .inr ⟨name, entries, List.mem_cons_self, same⟩
        · exact .inr ⟨n, es, List.mem_cons_of_mem _ offered, same⟩
      · rintro (held | ⟨n, es, offered, same⟩)
        · exact .inl (.inl held)
        · rcases List.mem_cons.mp offered with first | later
          · obtain rfl := (Prod.mk.inj first).1
            exact .inl (.inr same)
          · exact .inr ⟨n, es, later, same⟩

theorem find?_takeAll (c : Catalogue) (offers : List (List Char × Option Entries)) (language key : String) :
    find? ((find? (c.takeAll offers).texts (.str language)).getD []) (.str key) =
      (find? (entriesUnder offers language).reverse (.str key)).or
        (find? ((find? c.texts (.str language)).getD []) (.str key)) := by
  induction offers generalizing c with
  | nil => rfl
  | cons o offers ih =>
    obtain ⟨name, offer⟩ := o
    have step : c.takeAll ((name, offer) :: offers) = (c.takeIn name offer).takeAll offers := rfl
    have under : entriesUnder ((name, offer) :: offers) language =
        (if languageOfFile name = language then offer.getD [] else []) ++ entriesUnder offers language := rfl
    rw [step, ih, under, List.reverse_append, find?_append, Option.or_assoc]
    congr 1
    cases offer with
    | none => simp [takeIn, find?]
    | some entries =>
      have taken : (c.takeIn name (some entries)).texts = putText c.texts (.str (languageOfFile name)) entries := rfl
      rw [taken, find?_putText]
      split
      · next same =>
        subst same
        exact find?_putAll _ entries key
      · next other => rfl

/-- The files of a directory are taken in up to the first that is a fault. -/
theorem foldlM_takeIn (names : List (List Char)) (c : Catalogue) :
    (∃ offers, List.Forall₂ (fun n o => o.1 = n ∧ offer fs path n = .ok o.2) names offers ∧
      names.foldlM (fun c n => (offer fs path n).map (c.takeIn n)) c = .ok (c.takeAll offers)) ∨
    ∃ before name behind f, names = before ++ name :: behind ∧ (∀ n ∈ before, ∃ o, offer fs path n = .ok o) ∧
      offer fs path name = .error f ∧
      names.foldlM (fun c n => (offer fs path n).map (c.takeIn n)) c = .error f := by
  induction names generalizing c with
  | nil => exact .inl ⟨[], .nil, rfl⟩
  | cons name names ih =>
    rw [List.foldlM_cons]
    cases first : offer fs path name with
    | error f => exact .inr ⟨[], name, names, f, rfl, by simp, first, rfl⟩
    | ok o =>
      have step (r : Catalogue → Except Fault Catalogue) :
          ((Except.ok o).map (c.takeIn name) >>= r) = r (c.takeIn name o) := rfl
      rw [step]
      rcases ih (c.takeIn name o) with ⟨offers, each, taken⟩ | ⟨before, broken, behind, f, split, fine, fault, ended⟩
      · exact .inl ⟨(name, o) :: offers, .cons ⟨rfl, first⟩ each, taken⟩
      · refine .inr ⟨name :: before, broken, behind, f, by rw [split]; rfl, fun n mem => ?_, fault, ended⟩
        rcases List.mem_cons.mp mem with rfl | mem
        · exact ⟨o, first⟩
        · exact fine n mem

theorem addDirectory_eq (there : fs.find path = .ok (some .directory)) (c : Catalogue) :
    c.addDirectory fs path = (textFiles fs path).foldlM (fun c n => (offer fs path n).map (c.takeIn n)) c := by
  unfold addDirectory
  simp only [there, bind, Except.bind]
  congr 1
  funext c n
  rw [← addFile_of_offer, lead]
  cases fs.find (path ++ "/" ++ String.ofList n) with
  | error f => rfl
  | ok e => cases e <;> rfl

/-- A catalogue with the files of a directory: its languages are the old ones and those of the files that offer entries,
and under each key it has what the last of the files of a language offer, or else what it had. -/
structure TakesIn (c : Catalogue) (offers : List (List Char × Option Entries)) (c' : Catalogue) : Prop where
  languages : ∀ d, d ∈ c'.languages ↔
    d ∈ c.languages ∨ ∃ name entries, (name, some entries) ∈ offers ∧ d = .str (languageOfFile name)
  texts : ∀ language key, find? ((find? c'.texts (.str language)).getD []) (.str key) =
    (find? (entriesUnder offers language).reverse (.str key)).or
      (find? ((find? c.texts (.str language)).getD []) (.str key))
  current : c'.current = c.current
  fallback : c'.fallback = c.fallback

theorem takesIn_takeAll (c : Catalogue) (offers : List (List Char × Option Entries)) :
    TakesIn c offers (c.takeAll offers) := by
  refine ⟨mem_languages_takeAll c offers, find?_takeAll c offers, ?_, ?_⟩
  all_goals
    induction offers generalizing c with
    | nil => rfl
    | cons o offers ih =>
      obtain ⟨name, offer⟩ := o
      refine (ih (c.takeIn name offer)).trans ?_
      cases offer <;> rfl

/-- A directory with a file that holds an empty object, and one that holds half of it. -/
def frenchDirectory : Files := ⟨"/w", [("/w/tr/fr.json", [123, 125]), ("/w/tr/x.json", [123])]⟩

theorem offers_french : Offers frenchDirectory "/w/tr" "fr.json".toList (.ok (some [])) := by
  have leads : lead frenchDirectory "/w/tr" "fr.json".toList = .ok (some (.file [123, 125])) := by decide +kernel
  have decoded : Files.textOf [123, 125] = .ok "\x7b\x7d".toList := by decide
  exact .object ⟨_, _, leads, decoded, rfl⟩

theorem offers_half : Offers frenchDirectory "/w/tr" "x.json".toList (.ok none) := by
  have leads : lead frenchDirectory "/w/tr" "x.json".toList = .ok (some (.file [123])) := by decide +kernel
  have decoded : Files.textOf [123] = .ok "\x7b".toList := by decide
  exact .malformed ⟨_, _, leads, decoded, rfl⟩

/-- The stray octet of a file is a fault. -/
example : Files.textOf [255] = .error (.plain .undecodable
    "'utf-8' codec can't decode byte 0xff in position 0: invalid start byte") := by
  decide

end LspHost.Catalogue

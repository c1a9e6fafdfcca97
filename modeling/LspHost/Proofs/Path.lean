import LspHost.Path

/-!
# The plain form of a path

A path without its empty parts and single points leads to the same place: it has the same names and starts where the
path starts, so it has the same absolute form and the same uri.
-/

namespace LspHost

namespace Text

variable {divider c : Char} {s t : List Char}

theorem splitFrom_out (part : List Char) (out : List (List Char)) (s : List Char) :
    splitFrom divider part out s = out.reverse ++ splitFrom divider part [] s := by
  induction s generalizing part out with
  | nil => simp [splitFrom]
  | cons c s ih =>
    unfold splitFrom
    split
    · rw [ih [] (_ :: out), ih [] [_]]
      simp
    · exact ih (c :: part) out

theorem splitFrom_append (part s t : List Char) :
    splitFrom divider part [] (s ++ divider :: t) = splitFrom divider part [] s ++ splitOn divider t := by
  induction s generalizing part with
  | nil =>
    have step : splitFrom divider part [] (divider :: t) = splitFrom divider [] [part.reverse] t := by
      simp [splitFrom]
    rw [List.nil_append, step, splitFrom_out]
    rfl
  | cons c s ih =>
    rw [List.cons_append]
    unfold splitFrom
    split
    · rw [splitFrom_out, splitFrom_out [] [_] s, ih, List.append_assoc]
    · exact ih (c :: part)

theorem splitOn_append (s t : List Char) :
    splitOn divider (s ++ divider :: t) = splitOn divider s ++ splitOn divider t :=
  splitFrom_append [] s t

theorem splitFrom_whole (whole : divider ∉ s) (part : List Char) :
    splitFrom divider part [] s = [part.reverse ++ s] := by
  induction s generalizing part with
  | nil => simp [splitFrom]
  | cons c s ih =>
    have other : c ≠ divider := fun same => whole (same ▸ List.mem_cons_self)
    rw [splitFrom, if_neg other, ih fun mem => whole (List.mem_cons_of_mem _ mem)]
    simp

theorem splitOn_whole (whole : divider ∉ s) : splitOn divider s = [s] := splitFrom_whole whole []

theorem mem_splitFrom {part piece : List Char} (whole : divider ∉ part) (mem : piece ∈ splitFrom divider part [] s) :
    divider ∉ piece ∧ ∀ c ∈ piece, c ∈ part ∨ c ∈ s := by
  induction s generalizing part with
  | nil =>
    obtain rfl : piece = part.reverse := by simpa [splitFrom] using mem
    exact ⟨by simpa using whole, fun c mem => .inl (List.mem_reverse.mp mem)⟩
  | cons d s ih =>
    unfold splitFrom at mem
    split at mem
    · rw [splitFrom_out] at mem
      rcases List.mem_append.mp mem with first | later
      · obtain rfl : piece = part.reverse := by simpa using first
        exact ⟨by simpa using whole, fun c mem => .inl (List.mem_reverse.mp mem)⟩
      · obtain ⟨undivided, within⟩ := ih (List.not_mem_nil) later
        exact ⟨undivided, fun c mem => .inr (List.mem_cons_of_mem _ ((within c mem).resolve_left List.not_mem_nil))⟩
    · next other =>
      have still : divider ∉ d :: part := by simp [whole, Ne.symm other]
      obtain ⟨undivided, within⟩ := ih still mem
      refine ⟨undivided, fun c mem => ?_⟩
      rcases within c mem with before | behind
      · rcases List.mem_cons.mp before with rfl | before
        · exact .inr List.mem_cons_self
        · exact .inl before
      · exact .inr (List.mem_cons_of_mem _ behind)

theorem mem_splitOn {piece : List Char} (mem : piece ∈ splitOn divider s) :
    divider ∉ piece ∧ ∀ c ∈ piece, c ∈ s := by
  obtain ⟨undivided, within⟩ := mem_splitFrom List.not_mem_nil mem
  exact ⟨undivided, fun c mem => (within c mem).resolve_left List.not_mem_nil⟩

end Text

namespace Path

variable {cwd path : List Char}

/-- What can be the name of something. -/
structure IsName (n : List Char) : Prop where
  written : n ≠ []
  noPoint : n ≠ ['.']
  whole : '/' ∉ n

theorem isName_of_mem_names {n : List Char} (mem : n ∈ names path) : IsName n := by
  obtain ⟨piece, kept⟩ := List.mem_filter.mp mem
  simp only [Bool.and_eq_true, Bool.not_eq_true', List.isEmpty_eq_false_iff, bne_iff_ne] at kept
  exact ⟨kept.1, kept.2, (Text.mem_splitOn piece).1⟩

theorem mem_of_mem_names {n : List Char} (mem : n ∈ names path) {c : Char} (mem' : c ∈ n) : c ∈ path :=
  (Text.mem_splitOn (List.mem_filter.mp mem).1).2 c mem'

theorem names_cons_slash (path : List Char) : names ('/' :: path) = names path := by
  have divided : Text.splitOn '/' ('/' :: path) = [] :: Text.splitOn '/' path := Text.splitOn_append [] path
  rw [names, divided]
  rfl

theorem names_name {n : List Char} (h : IsName n) : names n = [n] := by
  rw [names, Text.splitOn_whole h.whole]
  simp [h.written, h.noPoint]

theorem names_append {n : List Char} (h : IsName n) (path : List Char) :
    names (n ++ '/' :: path) = n :: names path := by
  have first := names_name h
  unfold names at first ⊢
  rw [Text.splitOn_append, List.filter_append, first]
  rfl

theorem join_cons_cons (n m : List Char) (ns : List (List Char)) :
    join (n :: m :: ns) = n ++ '/' :: join (m :: ns) := by
  simp [join]

theorem names_join {ns : List (List Char)} (h : ∀ n ∈ ns, IsName n) : names (join ns) = ns := by
  induction ns with
  | nil => rfl
  | cons n ns ih =>
    have first := h n List.mem_cons_self
    have others : ∀ m ∈ ns, IsName m := fun m mem => h m (List.mem_cons_of_mem _ mem)
    cases ns with
    | nil => exact names_name first
    | cons m ns => rw [join_cons_cons, names_append first, ih others]

theorem mem_join {ns : List (List Char)} {c : Char} (mem : c ∈ join ns) : c = '/' ∨ ∃ n ∈ ns, c ∈ n := by
  induction ns with
  | nil => cases mem
  | cons n ns ih =>
    cases ns with
    | nil => exact .inr ⟨n, List.mem_cons_self, mem⟩
    | cons m ns =>
      rw [join_cons_cons] at mem
      rcases List.mem_append.mp mem with first | later
      · exact .inr ⟨n, List.mem_cons_self, first⟩
      · rcases List.mem_cons.mp later with slash | later
        · exact .inl slash
        · rcases ih later with slash | ⟨k, mem, inside⟩
          · exact .inl slash
          · exact .inr ⟨k, List.mem_cons_of_mem _ mem, inside⟩

theorem head_join {ns : List (List Char)} (h : ∀ n ∈ ns, IsName n) : (join ns).head? ≠ some '/' := by
  cases ns with
  | nil => simp [join]
  | cons n ns =>
    have first := h n List.mem_cons_self
    cases n with
    | nil => exact absurd rfl first.written
    | cons c n =>
      have other : c ≠ '/' := fun same => first.whole (same ▸ List.mem_cons_self)
      cases ns <;> simp [join, other]

/-- A plain path is its names behind the slashes that it starts with, or a single point if that is nothing. -/
theorem exists_lead (path : List Char) : ∃ lead,
    (lead = [] ∧ isAbsolute path = false ∨ (lead = ['/'] ∨ lead = ['/', '/']) ∧ isAbsolute path = true) ∧
    (plain path = lead ++ join (names path) ∨ plain path = ['.'] ∧ lead ++ join (names path) = []) := by
  unfold plain
  split
  · exact ⟨['/'], .inr ⟨.inl rfl, rfl⟩, .inl rfl⟩
  · exact ⟨['/', '/'], .inr ⟨.inr rfl, rfl⟩, .inl rfl⟩
  · exact ⟨['/'], .inr ⟨.inl rfl, rfl⟩, .inl rfl⟩
  · next other =>
    have relative : isAbsolute path = false := by
      cases path with
      | nil => rfl
      | cons c path => simpa [isAbsolute] using fun same => other path (by rw [same])
    refine ⟨[], .inl ⟨rfl, relative⟩, ?_⟩
    cases join (names path) with
    | nil => exact .inr ⟨rfl, rfl⟩
    | cons c rest => exact .inl rfl

theorem names_plain (path : List Char) : names (plain path) = names path := by
  have joined : names (join (names path)) = names path := names_join fun n => isName_of_mem_names
  obtain ⟨lead, slashes, same | ⟨point, empty⟩⟩ := exists_lead path
  · rw [same]
    rcases slashes with ⟨rfl, -⟩ | ⟨rfl | rfl, -⟩
    · exact joined
    · exact (names_cons_slash _).trans joined
    · exact (names_cons_slash _).trans ((names_cons_slash _).trans joined)
  · rw [point, ← joined, (List.append_eq_nil_iff.mp empty).2]
    rfl

theorem isAbsolute_plain (path : List Char) : isAbsolute (plain path) = isAbsolute path := by
  have relative : isAbsolute (join (names path)) = false := by
    have each : ∀ n ∈ names path, IsName n := fun n => isName_of_mem_names
    simpa [isAbsolute] using head_join each
  obtain ⟨lead, slashes, same | ⟨point, empty⟩⟩ := exists_lead path
  · rw [same]
    rcases slashes with ⟨rfl, here⟩ | ⟨rfl | rfl, here⟩
    · exact relative.trans here.symm
    · exact here.symm
    · exact here.symm
  · obtain rfl := (List.append_eq_nil_iff.mp empty).1
    rcases slashes with ⟨-, here⟩ | ⟨none | none, -⟩
    · rw [point, here]
      rfl
    · cases none
    · cases none

theorem mem_of_mem_plain {c : Char} (mem : c ∈ plain path) : c = '/' ∨ c = '.' ∨ c ∈ path := by
  obtain ⟨lead, slashes, same | ⟨point, -⟩⟩ := exists_lead path
  · rw [same] at mem
    rcases List.mem_append.mp mem with front | behind
    · rcases slashes with ⟨rfl, -⟩ | ⟨rfl | rfl, -⟩
      · cases front
      · exact .inl (by simpa using front)
      · exact .inl (by simpa using front)
    · rcases mem_join behind with slash | ⟨n, name, inside⟩
      · exact .inl slash
      · exact .inr (.inr (mem_of_mem_names name inside))
  · rw [point] at mem
    exact .inr (.inl (List.mem_singleton.mp mem))

/-- The plain form of a path has the same uri. -/
theorem toUri?_plain (cwd : List Char) (whole : '\x00' ∉ path) :
    toUri? cwd (plain path) = some (Uri.ofPath (resolve cwd path)) := by
  have same : resolve cwd (plain path) = resolve cwd path := by
    unfold resolve resolveNames
    rw [names_plain, isAbsolute_plain]
  have clean : '\x00' ∉ plain path := fun mem => by
    rcases mem_of_mem_plain mem with slash | point | mem
    · cases slash
    · cases point
    · exact whole mem
  rw [toUri?, if_neg (by simpa using clean), same]

end Path

end LspHost

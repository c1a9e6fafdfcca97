import Mathlib.Data.List.TakeDrop
import Mathlib.Data.List.TakeWhile
import LspHost.Path
import LspHost.Proofs.Text.Utf8

/-!
# The uri of a path names that path

A path is written octet by octet, and everything but the characters of `isWritten` becomes a percent escape. So nothing
in it can be taken for the end of the path, for a host or for a character that is no part of a uri (`parse?_ofPath`),
and the octets are read as one run, which is the UTF-8 of the path again (`unescape_escape`).
-/

namespace LspHost.Uri

/-- A character that an escaped path can have. -/
def isWritten (c : Char) : Bool :=
  c.isAlphanum || c == '_' || c == '.' || c == '-' || c == '~' || c == '/' || c == '%'

/-! ## Escapes -/

theorem hexValue?_upperHexDigit {n : Nat} (h : n < 16) : Json.hexValue? (upperHexDigit n) = some n := by
  revert n
  decide

theorem isWritten_upperHexDigit {n : Nat} (h : n < 16) : isWritten (upperHexDigit n) = true := by
  revert n
  decide

theorem toNat_ofNat_octet {b : UInt8} (ascii : b.toNat < 0x80) : (Char.ofNat b.toNat).toNat = b.toNat := by
  rw [Char.ofNat, dif_pos (.inl (by omega))]
  rfl

theorem isWritten_of_mem_escapeOctet {b : UInt8} {c : Char} (h : c ∈ escapeOctet b) : isWritten c = true := by
  have bound := b.toNat_lt
  unfold escapeOctet at h
  split at h
  · next plain =>
    obtain rfl := List.mem_singleton.mp h
    simp only [isPlainOctet, Bool.and_eq_true] at plain
    simp [isWritten, plain.2]
  · simp only [List.mem_cons, List.not_mem_nil, or_false] at h
    rcases h with rfl | rfl | rfl
    · rfl
    · exact isWritten_upperHexDigit (by omega)
    · exact isWritten_upperHexDigit (by omega)

theorem isWritten_of_mem_escape {path : List Char} {c : Char} (h : c ∈ escape path) : isWritten c = true := by
  obtain ⟨b, -, h⟩ := List.mem_flatMap.mp h
  exact isWritten_of_mem_escapeOctet h

/-- Other characters do not occur in an escaped path. -/
theorem ne_of_mem_escape {path : List Char} {c d : Char} (h : c ∈ escape path) (other : isWritten d = false) :
    c ≠ d := by
  rintro rfl
  rw [isWritten_of_mem_escape h] at other
  cases other

theorem unescapeFrom_cons {c : Char} (other : c ≠ '%') (run : List UInt8) (out rest : List Char) :
    unescapeFrom run out (c :: rest) =
      if c.toNat < 0x80 then unescapeFrom (c.toNat.toUInt8 :: run) out rest
      else unescapeFrom [] (c :: ((Text.Utf8.decodeLossy run.reverse).reverse ++ out)) rest := by
  rw [unescapeFrom]
  rintro a b tail rfl
  exact absurd rfl other

/-- An escaped octet joins the run that is being read. -/
theorem unescapeFrom_escapeOctet (b : UInt8) (run : List UInt8) (out rest : List Char) :
    unescapeFrom run out (escapeOctet b ++ rest) = unescapeFrom (b :: run) out rest := by
  have bound := b.toNat_lt
  unfold escapeOctet
  split
  · next plain =>
    simp only [isPlainOctet, Bool.and_eq_true, decide_eq_true_eq] at plain
    have char := toNat_ofNat_octet plain.1
    have other : Char.ofNat b.toNat ≠ '%' := by
      intro percent
      rw [percent] at plain
      exact absurd plain.2 (by decide)
    rw [List.cons_append, List.nil_append, unescapeFrom_cons other, char, if_pos plain.1,
      show b.toNat.toUInt8 = b from UInt8.ofNat_toNat]
  · -- The two digits of an escape are the halves of the octet.
    have octet : (b.toNat / 16 * 16 + b.toNat % 16).toUInt8 = b := by
      rw [show b.toNat / 16 * 16 + b.toNat % 16 = b.toNat by omega]
      exact UInt8.ofNat_toNat
    simp only [List.cons_append, List.nil_append, unescapeFrom,
      hexValue?_upperHexDigit (show b.toNat / 16 < 16 by omega),
      hexValue?_upperHexDigit (show b.toNat % 16 < 16 by omega), octet]

theorem unescapeFrom_octets (octets run : List UInt8) (out : List Char) :
    unescapeFrom run out (octets.flatMap escapeOctet) =
      out.reverse ++ Text.Utf8.decodeLossy (run.reverse ++ octets) := by
  induction octets generalizing run with
  | nil => simp [unescapeFrom]
  | cons b octets ih =>
    rw [List.flatMap_cons, unescapeFrom_escapeOctet, ih]
    simp

/-- An escaped path is read back. -/
theorem unescape_escape (path : List Char) : unescape (escape path) = path := by
  rw [unescape, escape, unescapeFrom_octets]
  exact Text.Utf8.decodeLossy_encode path

theorem ofPath_injective {path path' : List Char} (h : ofPath path = ofPath path') : path = path' := by
  have escapes : escape path = escape path' := List.append_cancel_left (String.ofList_injective h)
  rw [← unescape_escape path, escapes, unescape_escape]

/-! ## The uri of a path -/

theorem toList_ofPath (path : List Char) :
    (ofPath path).toList = 'f' :: 'i' :: 'l' :: 'e' :: ':' :: '/' :: '/' :: escape path := by
  have written : (ofPath path).toList = "file://".toList ++ escape path := String.toList_ofList ..
  rw [written, show "file://".toList = ['f', 'i', 'l', 'e', ':', '/', '/'] by decide]
  rfl

theorem escape_cons_slash (path : List Char) : escape ('/' :: path) = '/' :: escape path := by
  have octets : Text.Utf8.encode ('/' :: path) = 47 :: Text.Utf8.encode path := by
    rw [Text.Utf8.encode, List.flatMap_cons, show Text.Utf8.encodeChar '/' = [47] by decide]
    rfl
  have plain (rest : List UInt8) : (47 :: rest).flatMap escapeOctet = '/' :: rest.flatMap escapeOctet := by
    rw [List.flatMap_cons, show escapeOctet 47 = ['/'] by decide]
    rfl
  rw [escape, octets, plain, escape]

theorem takeWhile_escape {path : List Char} {c : Char} (other : isWritten c = false) :
    (escape path).takeWhile (· ≠ c) = escape path :=
  List.takeWhile_eq_self_iff.mpr fun _ h => decide_eq_true (ne_of_mem_escape h other)

/-- No character of an escaped path is dropped. -/
theorem filter_escape (path : List Char) :
    (escape path).filter (fun c => c != '\t' && c != '\r' && c != '\n') = escape path := by
  refine List.filter_eq_self.mpr fun c h => ?_
  have tab := ne_of_mem_escape h (d := '\t') rfl
  have back := ne_of_mem_escape h (d := '\r') rfl
  have feed := ne_of_mem_escape h (d := '\n') rfl
  simp [tab, back, feed]

theorem cutScheme_file (rest : List Char) :
    cutScheme ('f' :: 'i' :: 'l' :: 'e' :: ':' :: rest) = (['f', 'i', 'l', 'e'], rest) := rfl

/-- The uri of a path from the root has that path, escaped, and nothing else. -/
theorem parse?_ofPath (path : List Char) :
    parse? (ofPath ('/' :: path)) = some ⟨"file", String.ofList (escape ('/' :: path))⟩ := by
  have kept : ((ofPath ('/' :: path)).toList.dropWhile fun c => c.toNat ≤ 0x20).filter
      (fun c => c != '\t' && c != '\r' && c != '\n') =
      'f' :: 'i' :: 'l' :: 'e' :: ':' :: '/' :: '/' :: escape ('/' :: path) := by
    rw [toList_ofPath, List.dropWhile_cons_of_neg (by decide)]
    simp [filter_escape]
  -- The slash that the path starts with ends the host at once.
  have host : (escape ('/' :: path)).span (fun c => c != '/' && c != '?' && c != '#') = ([], escape ('/' :: path)) := by
    rw [escape_cons_slash]
    rfl
  have scheme : schemesWithParameters.contains (String.ofList ['f', 'i', 'l', 'e']) = false := by decide
  unfold parse?
  simp only [kept, cutScheme_file, host, scheme]
  rw [takeWhile_escape rfl, takeWhile_escape rfl]
  rfl

/-! ## Uris that can be read -/

/-- A character that has no meaning in a host but its own. -/
def IsOrdinary (c : Char) : Prop := c ≠ '[' ∧ c ≠ ']' ∧ c.toNat ∉ disguisedDelimiters

theorem isHost_of_isOrdinary {host : List Char} (h : ∀ c ∈ host, IsOrdinary c) : isHost host = true := by
  have opening : host.contains '[' = false := by simpa using fun mem => (h _ mem).1 rfl
  have closing : host.contains ']' = false := by simpa using fun mem => (h _ mem).2.1 rfl
  simp only [isHost, opening, closing, Bool.true_and, Bool.not_eq_true', List.any_eq_false, List.contains_iff_mem]
  exact fun c mem => (h c mem).2.2

theorem mem_of_cutAt? {divider c : Char} {s before after : List Char}
    (cut : Text.cutAt? divider s = some (before, after)) (h : c ∈ after) : c ∈ s := by
  rw [Text.cutAt?, List.span_eq_takeWhile_dropWhile] at cut
  split at cut
  · cases cut
  next found =>
    cases cut
    have rest := (Prod.mk.inj found).2
    exact (List.dropWhile_sublist _).mem (rest ▸ List.mem_cons_of_mem _ h)

theorem mem_of_mem_cutScheme {s : List Char} {c : Char} (h : c ∈ (cutScheme s).2) : c ∈ s := by
  unfold cutScheme at h
  split at h
  · next cut =>
    split at h
    · exact mem_of_cutAt? cut h
    · exact h
  · exact h

/-- Only the rules of hosts make a uri one that cannot be read. -/
theorem exists_parse? {uri : String} (h : ∀ c ∈ uri.toList, IsOrdinary c) : ∃ u, parse? uri = some u := by
  unfold parse?
  extract_lets s
  -- What can be taken for a host is cut out of the uri, so its characters are ordinary, too.
  have within {c : Char} (mem : c ∈ (cutScheme s).2) : IsOrdinary c :=
    h c ((List.dropWhile_sublist _).mem (List.mem_filter.mp (mem_of_mem_cutScheme mem)).1)
  rcases cut : cutScheme s with ⟨scheme, rest⟩
  rw [cut] at within
  dsimp only
  split
  · next rest =>
    rw [List.span_eq_takeWhile_dropWhile, if_pos (isHost_of_isOrdinary fun c mem =>
      within (List.mem_cons_of_mem _ (List.mem_cons_of_mem _ ((List.takeWhile_sublist _).mem mem))))]
    exact ⟨_, rfl⟩
  · exact ⟨_, rfl⟩

end LspHost.Uri

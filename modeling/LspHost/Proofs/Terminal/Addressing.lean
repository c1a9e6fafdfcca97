import LspHost.Terminal.Execute
import LspHost.Proofs.Path
import LspHost.Proofs.Sample
import LspHost.Proofs.Text.Words

/-!
# What lines say of a path

The commands of the terminal take a path from their arguments in different ways: as all of them, as what stands before
two last words, or as the first of the words. `commands_address` says for every path which uri a line acts on. All
commands act on the uri of the path itself, whatever its words look like; but `/tokens` reads words, so it does that for
paths without blanks only.
-/

namespace LspHost.Terminal

open Act Host

variable {s : World} {p : List Char} {u : String} {k : Nat} {c : TerminalCommand} {args : List Char} {α : Type}
  {outcome? : World → Nat → Option (Except Fault Json)}

/-! ## Lines -/

/-- A line that gives arguments to a command. -/
def lineOf (c : TerminalCommand) (args : List Char) : List Char := '/' :: c.name.toList ++ ' ' :: args

/-- In a state a line has the effect of a program, and there is more to come. -/
def Means (s : World) (line : List Char) (program : Act Unit) : Prop :=
  ∀ outcome?, (execute (String.ofList line)).advance outcome? s = (program >>= fun _ => pure true).advance outcome? s

theorem isWord_name (c : TerminalCommand) : Text.IsWord c.name.toList := by
  cases c <;> decide

theorem ofWord?_name (c : TerminalCommand) :
    TerminalCommand.ofWord? (String.ofList (Text.lower c.name.toList)) = some c := by
  cases c <;> decide +kernel

theorem execute_lineOf (first : ∀ d ∈ args.head?, Text.isBlank d = false) :
    execute (String.ofList (lineOf c args)) = runCommand c args := by
  have bare : (lineOf c args).dropWhile (· = '/') = c.name.toList ++ ' ' :: args := by
    cases c <;> rfl
  unfold execute
  rw [String.toList_ofList, bare, Text.firstWord?_append (isWord_name c) rfl, Text.trimLeft_of_head first]
  simp only [ofWord?_name]

/-! ## Documents -/

/-- The uri of a path in a state. -/
def uriAt (s : World) (p : List Char) : String := Uri.ofPath (Path.resolve s.files.cwd.toList p)

theorem uriOf_advance (named : Path.toUri? s.files.cwd.toList p = some u) (next : String → Act α) :
    (uriOf p >>= next).advance outcome? s = (next u).advance outcome? s := by
  unfold uriOf
  simp only [bind, Program.bind, Program.peek, Program.advance, named, pure]

/-- A session can be asked about a document: the document is open and belongs to the scope, and the session is the
present one with a process that is alive. -/
structure Ready (s : World) (u : String) (k : Nat) : Prop where
  tracked : ∃ d, s.supervisor.document? u = some d ∧ s.supervisor.handles u d.languageId = .ok true
  present : s.supervisor.session = some k
  alive : s.isSessionAlive k = true

theorem routable_advance (ready : Ready s u k) (next : Option Nat → Act α) :
    (Supervisor.routable u >>= next).advance outcome? s = (next (some k)).advance outcome? s := by
  obtain ⟨d, tracked, belongs⟩ := ready.tracked
  unfold Supervisor.routable Supervisor.now Supervisor.belongs Supervisor.now
  simp only [bind, Program.bind, Program.peek, Program.advance, tracked, belongs, ready.present, ready.alive, pure,
    Program.ofExcept, if_true]

/-! ## Programs -/

/-- Opens a document. -/
def opening (u languageId : String) (text : List Char) : Act Unit := do
  if !(← Supervisor.openDocument u languageId (.str (String.ofList text))) then say .warning ("不在服务范围内: " ++ u)

/-- Closes a document. -/
def closing (u : String) : Act Unit := do
  if !(← Supervisor.closeDocument u) then say .warning ("文档未打开: " ++ u)

/-- Shows the diagnostics of a document. -/
def diagnosing (u : String) : Act Unit := do
  notify (.diagnostics (← .peek fun s => Supervisor.diagnosticsOf s (some u)))

/-- Shows an answer about a place. -/
def showHover : Option Hover → Act Unit
  | some h => say .info (if h.text.isEmpty then "没有悬停信息" else h.text)
  | none => say .info "没有悬停信息"

/-- Asks a session about a place in a document. -/
def asking (k : Nat) (u : String) (line character : Int) : Act Unit := do
  showHover (← Supervisor.query (Session.hover k (.str u) (.int line) (.int character)))

/-- Shows an answer about tokens. -/
def showAnswer (tokens : Option SemanticTokens) : Act Unit := do
  let legend ← .peek presentLegend
  match legend with
  | .error m => fail (.misfit m)
  | .ok legend =>
    match tokens, legend with
    | some t, some l => showTokens t l
    | _, _ => say .info "没有语义 token"

/-- Asks a session for the tokens of a document or of a range. -/
def reading (k : Nat) (u : String) (range : Option Range) : Act Unit := do
  showAnswer (← Supervisor.query (Session.semanticTokens k (.str u) range))

/-- Says how `/tokens` is used. -/
def explaining : Act Unit := say .error "用法: /tokens <path> [start_line end_line]（从 1 开始）"

theorem means_of_runs {program : Act Unit} (first : ∀ d ∈ args.head?, Text.isBlank d = false)
    (runs : runCommand c args = (program >>= fun _ => pure true)) : Means s (lineOf c args) program := by
  intro outcome?
  rw [execute_lineOf first, runs]

/-- Programs may be told apart by what they do in the present state only. -/
theorem Means.trans {line : List Char} {program program' : Act Unit} (h : Means s line program)
    (same : ∀ (next : Unit → Act Bool) outcome?,
      (program >>= next).advance outcome? s = (program' >>= next).advance outcome? s) : Means s line program' :=
  fun outcome? => (h outcome?).trans (same _ outcome?)

theorem uriOf_bind_advance (named : Path.toUri? s.files.cwd.toList p = some u) (body : String → Act Unit)
    (next : Unit → Act α) :
    ((uriOf p >>= body) >>= next).advance outcome? s = (body u >>= next).advance outcome? s := by
  have assoc : ((uriOf p >>= body) >>= next) = (uriOf p >>= fun u => body u >>= next) := Program.bind_assoc _ _ _
  rw [assoc, uriOf_advance named]

/-- What is to be done with an answer is done with that of the session that can be asked. -/
theorem answered_advance {β : Type} (ready : Ready s u k) (ask : Option Nat → Act β) (tell : β → Act Unit)
    (next : Unit → Act α) : (((Supervisor.routable u >>= ask) >>= tell) >>= next).advance outcome? s =
      ((ask (some k) >>= tell) >>= next).advance outcome? s := by
  have assoc : (((Supervisor.routable u >>= ask) >>= tell) >>= next) =
      (Supervisor.routable u >>= fun o => (ask o >>= tell) >>= next) := by
    calc (((Supervisor.routable u >>= ask) >>= tell) >>= next)
        = ((Supervisor.routable u >>= fun o => ask o >>= tell) >>= next) :=
          congrArg (· >>= next) (Program.bind_assoc _ _ _)
      _ = (Supervisor.routable u >>= fun o => (ask o >>= tell) >>= next) := Program.bind_assoc _ _ _
  rw [assoc, routable_advance ready]

/-! ## Commands -/

theorem closeFile_trimmed (trimmed : Text.Trimmed p) : closeFile p = (uriOf p >>= closing) := by
  unfold closeFile
  rw [trimmed.trim]
  rfl

theorem diagnostics_trimmed (trimmed : Text.Trimmed p) : diagnostics p = (uriOf p >>= diagnosing) := by
  have written : p.isEmpty = false := List.isEmpty_eq_false_iff.mpr trimmed.written
  unfold diagnostics
  rw [trimmed.trim]
  simp only [written, Bool.false_eq_true, if_false]
  exact Program.bind_assoc _ _ _

/-- Two last words behind a path are taken off, and what is left is the path. -/
theorem placeOf?_trimmed {lw cw : List Char} {l c : Int} (trimmed : Text.Trimmed p) (lineWord : Text.IsWord lw)
    (columnWord : Text.IsWord cw) (line : Text.readInt? lw = some l) (column : Text.readInt? cw = some c) :
    placeOf? (p ++ ' ' :: lw ++ ' ' :: cw) = some (p, l, c) := by
  have whole : Text.Trimmed (p ++ ' ' :: lw ++ ' ' :: cw) := by
    simpa using trimmed.append columnWord.trimmed (' ' :: lw ++ [' '])
  have front : Text.Trimmed (p ++ ' ' :: lw) := by
    simpa using trimmed.append lineWord.trimmed [' ']
  have written : p.isEmpty = false := List.isEmpty_eq_false_iff.mpr trimmed.written
  have blank : Text.isBlank ' ' = true := rfl
  unfold placeOf?
  rw [whole.trim, Text.lastWord?_append columnWord blank front.last]
  simp only [bind, Option.bind, Text.lastWord?_append lineWord blank trimmed.last, written, line, column,
    Bool.false_eq_true, if_false]

theorem hover_trimmed {lw cw : List Char} {l c : Int} (trimmed : Text.Trimmed p) (lineWord : Text.IsWord lw)
    (columnWord : Text.IsWord cw) (line : Text.readInt? lw = some l) (column : Text.readInt? cw = some c)
    (fromOne : 1 ≤ l ∧ 1 ≤ c) :
    hover (p ++ ' ' :: lw ++ ' ' :: cw) = (uriOf p >>= fun u =>
      Supervisor.hover u (.int (l - 1)) (.int (c - 1)) >>= showHover) := by
  have counted : ¬(l < 1 ∨ c < 1) := by omega
  unfold hover
  rw [placeOf?_trimmed trimmed lineWord columnWord line column]
  simp only [if_neg counted]
  rfl

theorem askTokens_eq (p : List Char) (range : Option Range) :
    askTokens p range = (uriOf p >>= fun u => Supervisor.semanticTokens u range >>= showAnswer) := rfl

theorem tokens_word (word : Text.IsWord p) : tokens p = askTokens p none := by
  unfold tokens
  rw [word.words]

theorem words_three {aw bw : List Char} (firstWord : Text.IsWord aw) (lastWord : Text.IsWord bw) :
    Text.words (p ++ ' ' :: aw ++ ' ' :: bw) = Text.words p ++ [aw, bw] := by
  have blank : Text.isBlank ' ' = true := rfl
  rw [Text.words_append blank, Text.words_append blank, firstWord.words, lastWord.words, List.append_assoc]
  rfl

theorem tokens_lines {aw bw : List Char} {a b : Int} (word : Text.IsWord p) (firstWord : Text.IsWord aw)
    (lastWord : Text.IsWord bw) (first : Text.readInt? aw = some a) (last : Text.readInt? bw = some b)
    (ordered : 1 ≤ a ∧ a ≤ b) :
    tokens (p ++ ' ' :: aw ++ ' ' :: bw) = askTokens p (some (linesRange a b)) := by
  have inOrder : ¬(a < 1 ∨ b < a) := by omega
  unfold tokens
  rw [words_three firstWord lastWord, word.words]
  simp only [List.singleton_append, first, last, if_neg inOrder]

theorem tokens_explained (args : List Char) (one : (Text.words args).length ≠ 1)
    (three : (Text.words args).length ≠ 3) :
    tokens args = explaining := by
  unfold tokens
  split
  · next path words => simp [words] at one
  · next path first last words => simp [words] at three
  · rfl

/-- What lines say of a path, where a session can be asked about its uri. -/
structure Addresses (s : World) (p : List Char) (u : String) (k : Nat) : Prop where
  /-- Opening a file opens the document. -/
  opens : ∀ bytes text, s.files.find (String.ofList p) = .ok (some (.file bytes)) → Files.textOf bytes = .ok text →
    Means s (lineOf .openFile p) (opening u (Path.languageId (Path.plain p)) text)
  closes : Means s (lineOf .close p) (closing u)
  diagnoses : Means s (lineOf .diagnostics p) (diagnosing u)
  /-- A line and a column from one on are a place from zero on. -/
  hovers : ∀ lw cw l c, Text.IsWord lw → Text.IsWord cw → Text.readInt? lw = some l → Text.readInt? cw = some c →
    1 ≤ l ∧ 1 ≤ c → Means s (lineOf .hover (p ++ ' ' :: lw ++ ' ' :: cw)) (asking k u (l - 1) (c - 1))
  /-- The tokens of a path without blanks are those of the document. -/
  reads : (∀ d ∈ p, Text.isBlank d = false) → Means s (lineOf .tokens p) (reading k u none)
  /-- Two lines from one on are the range from the start of the first to the end of the last. -/
  readsLines : (∀ d ∈ p, Text.isBlank d = false) → ∀ aw bw a b, Text.IsWord aw → Text.IsWord bw →
    Text.readInt? aw = some a → Text.readInt? bw = some b → 1 ≤ a ∧ a ≤ b →
    Means s (lineOf .tokens (p ++ ' ' :: aw ++ ' ' :: bw)) (reading k u (some (linesRange a b)))
  /-- A path with a blank inside has too many words, unless they are three. -/
  explains : ∀ d ∈ p, Text.isBlank d = true → (Text.words p).length ≠ 3 → Means s (lineOf .tokens p) explaining
  explainsLines : ∀ d ∈ p, Text.isBlank d = true → ∀ aw bw, Text.IsWord aw → Text.IsWord bw →
    Means s (lineOf .tokens (p ++ ' ' :: aw ++ ' ' :: bw)) explaining

theorem openFile_found {bytes : List UInt8} {text : List Char} (trimmed : Text.Trimmed p)
    (found : s.files.find (String.ofList p) = .ok (some (.file bytes))) (decoded : Files.textOf bytes = .ok text)
    (whole : '\x00' ∉ p) (next : Unit → Act α) : (openFile p >>= next).advance outcome? s =
      (opening (uriAt s p) (Path.languageId (Path.plain p)) text >>= next).advance outcome? s := by
  have written : p.isEmpty = false := List.isEmpty_eq_false_iff.mpr trimmed.written
  have plain : openText (Path.plain p) text =
      (uriOf (Path.plain p) >>= fun u => opening u (Path.languageId (Path.plain p)) text) := rfl
  have opens : (openFile p >>= next).advance outcome? s =
      (openText (Path.plain p) text >>= next).advance outcome? s := by
    unfold openFile
    rw [trimmed.trim]
    simp only [written, bind, Program.bind, Program.peek, Program.advance, Program.ofExcept, found, decoded,
      Bool.false_eq_true, if_false]
  rw [opens, plain, uriOf_bind_advance (Path.toUri?_plain _ whole)]
  rfl

theorem asking_advance (ready : Ready s u k) (line character : Int) (next : Unit → Act α) :
    ((Supervisor.hover u (.int line) (.int character) >>= showHover) >>= next).advance outcome? s =
      (asking k u line character >>= next).advance outcome? s :=
  answered_advance ready _ showHover next

theorem reading_advance (ready : Ready s u k) (range : Option Range) (next : Unit → Act α) :
    ((Supervisor.semanticTokens u range >>= showAnswer) >>= next).advance outcome? s =
      (reading k u range >>= next).advance outcome? s :=
  answered_advance ready _ showAnswer next

/-- Every line about a path acts on the uri of the path, but for `/tokens` with a blank in the path. -/
theorem commands_address (trimmed : Text.Trimmed p) (whole : '\x00' ∉ p) (ready : Ready s (uriAt s p) k) :
    Addresses s p (uriAt s p) k := by
  have named : Path.toUri? s.files.cwd.toList p = some (uriAt s p) := by
    rw [Path.toUri?, if_neg (by simpa using whole)]
    rfl
  have front (rest : List Char) : ∀ d ∈ (p ++ ' ' :: rest).head?, Text.isBlank d = false := by
    rw [List.head?_append, List.head?_eq_some_head trimmed.written, Option.some_or, ← List.head?_eq_some_head]
    exact trimmed.first
  constructor
  case opens =>
    intro bytes text found decoded
    exact (means_of_runs trimmed.first rfl).trans fun next outcome? => openFile_found trimmed found decoded whole next
  case closes =>
    refine (means_of_runs trimmed.first rfl).trans fun next outcome? => ?_
    rw [closeFile_trimmed trimmed, uriOf_bind_advance named]
  case diagnoses =>
    refine (means_of_runs trimmed.first rfl).trans fun next outcome? => ?_
    rw [diagnostics_trimmed trimmed, uriOf_bind_advance named]
  case hovers =>
    intro lw cw l c lineWord columnWord line column fromOne
    refine (means_of_runs (by simpa using front (lw ++ ' ' :: cw)) rfl).trans fun next outcome? => ?_
    rw [hover_trimmed trimmed lineWord columnWord line column fromOne, uriOf_bind_advance named, asking_advance ready]
  case reads =>
    intro unbroken
    refine (means_of_runs trimmed.first rfl).trans fun next outcome? => ?_
    rw [tokens_word ⟨trimmed.written, unbroken⟩, askTokens_eq, uriOf_bind_advance named, reading_advance ready]
  case readsLines =>
    intro unbroken aw bw a b firstWord lastWord first last ordered
    refine (means_of_runs (by simpa using front (aw ++ ' ' :: bw)) rfl).trans fun next outcome? => ?_
    rw [tokens_lines ⟨trimmed.written, unbroken⟩ firstWord lastWord first last ordered, askTokens_eq,
      uriOf_bind_advance named, reading_advance ready]
  case explains =>
    intro d mem blank three
    have two := trimmed.two_words mem blank
    refine (means_of_runs trimmed.first rfl).trans fun next outcome? => ?_
    rw [tokens_explained p (by omega) three]
  case explainsLines =>
    intro d mem blank aw bw firstWord lastWord
    have two := trimmed.two_words mem blank
    have four : 4 ≤ (Text.words (p ++ ' ' :: aw ++ ' ' :: bw)).length := by
      rw [words_three firstWord lastWord, List.length_append]
      simpa using two
    refine (means_of_runs (by simpa using front (aw ++ ' ' :: bw)) rfl).trans fun next outcome? => ?_
    rw [tokens_explained _ (by omega) (by omega)]

/-- A client whose server is alive and knows a document with numbers in its name. -/
def numbered : World :=
  let options : SessionOptions := ⟨.standard, .whole 10, .whole 10, .null, none, .supervisor⟩
  { World.sample [] with
    servers := [.fresh 1001 .obedient]
    transports := [{ Transport.ofConfig [] .standard with server := some 0 }]
    sessions := [{ Session.fresh options 0 with state := .running }]
    supervisor := { (World.sample []).supervisor with
      session := some 0
      documents := [⟨"file:///a%201%202", "plaintext", 1, .str ""⟩] } }

/-- The numbers of the path are not taken for a place; but there are too many words for tokens. -/
theorem commands_address_numbered :
    Means numbered "/hover a 1 2 3 7".toList (asking 0 "file:///a%201%202" 2 6) ∧
    Means numbered "/tokens a 1 2 3 7".toList explaining := by
  have uri : uriAt numbered "a 1 2".toList = "file:///a%201%202" := by decide +kernel
  have ready : Ready numbered (uriAt numbered "a 1 2".toList) 0 := by
    rw [uri]
    exact ⟨⟨_, rfl, by decide +kernel⟩, rfl, rfl⟩
  have addressed := commands_address (by decide) (by decide) ready
  have three : Text.IsWord "3".toList := by decide
  have seven : Text.IsWord "7".toList := by decide
  constructor
  · rw [← uri]
    exact addressed.hovers "3".toList "7".toList 3 7 three seven (by decide +kernel) (by decide +kernel) (by decide)
  · exact addressed.explainsLines ' ' (by decide) rfl "3".toList "7".toList three seven

end LspHost.Terminal

import LspHost.Host.Commands
import LspHost.Terminal.Command
import LspHost.Text.Integer
import LspHost.Text.Lower

/-!
Carrying out the lines that are typed at a terminal. A line is a command with its arguments; what is
wrong with them is said in a notice.
-/

namespace LspHost.Terminal

open Act Host

/-- The uri of a path. -/
def uriOf (path : List Char) : Act String := do
  let cwd ← .peek fun s => s.files.cwd
  match Path.toUri? cwd.toList path with
  | some uri => pure uri
  | none => fail (.plain .badValue "embedded null byte")

/-- Shows what there is to type. -/
def help : Act Unit := TerminalCommand.all.forM fun c => print (.plain c.helpMarkup)

/-- Opens a document whose text has been read. -/
def openText (path text : List Char) : Act Unit := do
  let uri ← uriOf path
  if !(← Supervisor.openDocument uri (Path.languageId path) (.str (String.ofList text))) then
    say .warning ("不在服务范围内: " ++ uri)

/-- Opens a document. -/
def openFile (args : List Char) : Act Unit := do
  let path := Text.trim args
  let files ← .peek World.files
  let entry ← if path.isEmpty then pure none else .ofExcept (files.find (String.ofList path))
  match entry with
  | some (.file bytes) =>
    let path := Path.plain path
    match Files.textOf bytes with
    | .ok text => openText path text
    | .error f => say .error ("无法读取 " ++ String.ofList path ++ ": " ++ f.message)
  | _ => say .error ("文件不存在: " ++ String.ofList path)

/-- Closes a document. -/
def closeFile (args : List Char) : Act Unit := do
  let uri ← uriOf (Text.trim args)
  if !(← Supervisor.closeDocument uri) then say .warning ("文档未打开: " ++ uri)

/-- A path and two integers behind it. -/
def placeOf? (args : List Char) : Option (List Char × Int × Int) := do
  let (rest, column) ← Text.lastWord? (Text.trim args)
  let (path, line) ← Text.lastWord? rest
  if path.isEmpty then none
  else
    let line ← Text.readInt? line
    let column ← Text.readInt? column
    some (path, line, column)

/-- Shows what the server has to say about a place, counted from one. -/
def hover (args : List Char) : Act Unit :=
  match placeOf? args with
  | none => say .error "用法: /hover <path> <line> <column>（从 1 开始）"
  | some (path, line, column) =>
    if line < 1 ∨ column < 1 then say .error "行号和列号从 1 开始"
    else do
      let uri ← uriOf path
      match ← Supervisor.hover uri (.int (line - 1)) (.int (column - 1)) with
      | some h => say .info (if h.text.isEmpty then "没有悬停信息" else h.text)
      | none => say .info "没有悬停信息"

/-- The legend of the present session. -/
def presentLegend (s : World) : Except Misfit (Option Legend) :=
  match s.supervisor.session.bind fun id => s.sessions[id]? with
  | some x => x.legend
  | none => .ok none

/-- Shows tokens. -/
def showTokens (tokens : SemanticTokens) (legend : Legend) : Act Unit :=
  match tokens.decode legend with
  | .ok ts => notify (.tokens ts)
  | .error (.notFives count) =>
    say .error ("语义 token 解码失败: " ++ (Fault.tokenCount count).message)
  | .error .unknownType => fail (.plain .outOfRange "list index out of range")

/-- Asks for the tokens of a document or of some of its lines, and shows them. -/
def askTokens (path : List Char) (range : Option Range) : Act Unit := do
  let uri ← uriOf path
  let tokens ← Supervisor.semanticTokens uri range
  let legend ← .peek presentLegend
  match legend with
  | .error m => fail (.misfit m)
  | .ok legend =>
    match tokens, legend with
    | some t, some l => showTokens t l
    | _, _ => say .info "没有语义 token"

/-- The range from the start of one line to the end of another, counted from one. -/
def linesRange (first last : Int) : Range := ⟨⟨first - 1, 0⟩, ⟨last, 0⟩⟩

/-- Shows the tokens of a document or of some of its lines. -/
def tokens (args : List Char) : Act Unit :=
  match Text.words args with
  | [path] => askTokens path none
  | [path, first, last] =>
    match Text.readInt? first, Text.readInt? last with
    | some a, some b =>
      if a < 1 ∨ b < a then say .error ("无效的行范围: " ++ toString a ++ "-" ++ toString b)
      else askTokens path (some (linesRange a b))
    | _, _ => say .error "行号必须是整数"
  | _ => say .error "用法: /tokens <path> [start_line end_line]（从 1 开始）"

/-- Shows the diagnostics of all documents or of one. -/
def diagnostics (args : List Char) : Act Unit := do
  let path := Text.trim args
  let uri ← if path.isEmpty then pure none else do pure (some (← uriOf path))
  notify (.diagnostics (← .peek fun s => Supervisor.diagnosticsOf s uri))

/-- Carries out a command; tells whether there is more to come. -/
def runCommand (c : TerminalCommand) (args : List Char) : Act Bool := do
  match c with
  | .help => help
  | .restart => do let _ ← Host.execute restartName
  | .start => do let _ ← Host.execute startName
  | .stop => do let _ ← Host.execute stopName
  | .status => do let _ ← Host.execute statusName
  | .openFile => openFile args
  | .close => closeFile args
  | .hover => hover args
  | .tokens => tokens args
  | .diagnostics => diagnostics args
  | .quit => pure ()
  pure (c ≠ .quit)

/-- Carries out a line; tells whether there is more to come. -/
def execute (line : String) : Act Bool :=
  match Text.firstWord? (line.toList.dropWhile (· = '/')) with
  | none => pure true
  | some (word, args) => do
    let word := String.ofList (Text.lower word)
    match TerminalCommand.ofWord? word with
    | some c => runCommand c args
    | none =>
      say .error ("未知命令: " ++ word ++ "，输入 /help 查看帮助")
      pure true

end LspHost.Terminal

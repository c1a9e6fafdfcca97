/-!
The commands that are typed at a terminal: their names, other names for them, and what help says of
them. The start of a name will do if no other name has it.
-/

namespace LspHost

/-- A command of the terminal. -/
inductive TerminalCommand where
  | close
  | diagnostics
  | help
  | hover
  | openFile
  | quit
  | restart
  | start
  | status
  | stop
  | tokens
  deriving DecidableEq, Repr

namespace TerminalCommand

/-- All commands in the order of their names. -/
def all : List TerminalCommand :=
  [.close, .diagnostics, .help, .hover, .openFile, .quit, .restart, .start, .status, .stop, .tokens]

def name : TerminalCommand → String
  | .close => "close"
  | .diagnostics => "diagnostics"
  | .help => "help"
  | .hover => "hover"
  | .openFile => "open"
  | .quit => "quit"
  | .restart => "restart"
  | .start => "start"
  | .status => "status"
  | .stop => "stop"
  | .tokens => "tokens"

/-- What help says of a command. -/
def summary : TerminalCommand → String
  | .close => "关闭文档"
  | .diagnostics => "显示诊断信息"
  | .help => "显示帮助信息"
  | .hover => "显示悬停信息: /hover <path> <line> <column>"
  | .openFile => "打开文档并同步给服务器"
  | .quit => "停止语言服务器并退出"
  | .restart => "重启语言服务器"
  | .start => "启动语言服务器"
  | .status => "显示语言服务器状态"
  | .stop => "停止语言服务器"
  | .tokens => "显示语义 token: /tokens <path> [start_line end_line]"

/-- Other names for commands. -/
def aliases : List (String × String) :=
  [("q", "quit"), ("exit", "quit"), ("?", "help"), ("h", "help"), ("r", "restart"),
    ("s", "status"), ("diag", "diagnostics")]

/-- The command that a word names. -/
def ofWord? (word : String) : Option TerminalCommand :=
  let word := (aliases.lookup word).getD word
  match all.find? fun c => c.name = word with
  | some c => some c
  | none =>
    match all.filter fun c => word.toList.isPrefixOf c.name.toList with
    | [c] => some c
    | _ => none

/-- The line of help for a command, in markup. -/
def helpMarkup (c : TerminalCommand) : String :=
  "  [bold]/" ++ c.name ++ String.ofList (List.replicate (12 - c.name.length) ' ') ++ "[/bold] "
    ++ c.summary

end TerminalCommand

end LspHost

import LspHost.Config
import LspHost.Files
import LspHost.Template.Fill

/-!
The catalogue of texts shown to people, by language, with a language that fills the gaps. More
languages come from files or at run time; what they hold need not be texts.
-/

namespace LspHost

/-- The texts of a catalogue by language. -/
abbrev Texts := List (Datum × Entries)

/-- A catalogue: its texts, the language in use and the one that fills its gaps. -/
structure Catalogue where
  texts : Texts
  current : Datum
  fallback : Datum

namespace Catalogue

/-- The texts in English. -/
def english : List (String × String) := [
  ("restarting", "Restarting Deval language server..."),
  ("restarted", "Deval language server restarted successfully"),
  ("not_running", "Deval language server is not running"),
  ("started", "Deval language server started (\x7bserver\x7d)"),
  ("already_running", "Deval language server is already running"),
  ("stopped", "Deval language server stopped"),
  ("already_stopped", "Deval language server is already stopped"),
  ("spawn_failed", "Failed to launch Deval language server: \x7breason\x7d"),
  ("handshake_failed", "Deval language server failed to initialize: \x7breason\x7d"),
  ("shutdown_timeout", "Deval language server did not shut down cleanly: \x7breason\x7d"),
  ("operation_in_progress", "Another language server operation is in progress"),
  ("command_failed", "Command \x7bcommand\x7d failed: \x7breason\x7d"),
  ("unknown_command", "Unknown command: \x7bcommand\x7d"),
  ("status_running", "Running: \x7bserver\x7d (session \x7bsession\x7d, PID \x7bpid\x7d)"),
  ("status_stopped", "Stopped"),
  ("status_exited", "Exited: \x7bserver\x7d (session \x7bsession\x7d), use restart to relaunch"),
  ("status_busy", "Operation in progress")]

/-- The texts in Chinese. -/
def chinese : List (String × String) := [
  ("restarting", "正在重启 Deval 语言服务器..."),
  ("restarted", "Deval 语言服务器重启成功"),
  ("not_running", "Deval 语言服务器未在运行"),
  ("started", "Deval 语言服务器已启动 (\x7bserver\x7d)"),
  ("already_running", "Deval 语言服务器已在运行"),
  ("stopped", "Deval 语言服务器已停止"),
  ("already_stopped", "Deval 语言服务器已经停止"),
  ("spawn_failed", "无法启动 Deval 语言服务器: \x7breason\x7d"),
  ("handshake_failed", "Deval 语言服务器初始化失败: \x7breason\x7d"),
  ("shutdown_timeout", "Deval 语言服务器未能正常关闭: \x7breason\x7d"),
  ("operation_in_progress", "另一个语言服务器操作正在进行"),
  ("command_failed", "命令 \x7bcommand\x7d 执行失败: \x7breason\x7d"),
  ("unknown_command", "未知命令: \x7bcommand\x7d"),
  ("status_running", "运行中: \x7bserver\x7d (会话 \x7bsession\x7d, PID \x7bpid\x7d)"),
  ("status_stopped", "已停止"),
  ("status_exited", "已退出: \x7bserver\x7d (会话 \x7bsession\x7d)，可使用 restart 重新启动"),
  ("status_busy", "操作进行中")]

/-- The languages that every catalogue has. -/
def standardTexts : List (String × List (String × String)) := [("en", english), ("zh", chinese)]

def entriesOf (texts : List (String × String)) : Entries :=
  texts.map fun (k, v) => (.str k, .str v)

/-- A catalogue with the standard texts. -/
def withStandard (current fallback : Datum) : Catalogue :=
  ⟨standardTexts.map fun (l, texts) => (.str l, entriesOf texts), current, fallback⟩

/-- The standard catalogue. -/
def standard : Catalogue := withStandard (.str "en") (.str "en")

/-- The entry of a mapping under any key. -/
def find? {α : Type} (entries : List (Datum × α)) (key : Datum) : Option α :=
  (entries.find? fun e => Datum.agrees e.1 key).map Prod.snd

def checkKey (key : Datum) : Except Fault Unit :=
  if key.isKey then .ok () else .error (.plain .wrongType "unhashable type")

def languages (c : Catalogue) : List Datum := c.texts.map Prod.fst

/-- The text under a key in one language. -/
def textIn (c : Catalogue) (language key : Datum) : Except Fault (Option Datum) := do
  checkKey language
  checkKey key
  .ok (find? ((find? c.texts language).getD []) key)

/-- The text under a key in a language, or else in the language that fills gaps. Without a language
it is the one in use. -/
def get? (c : Catalogue) (key language : Datum) : Except Fault (Option Datum) := do
  match ← c.textIn (if language.isTruthy then language else c.current) key with
  | some v => .ok (some v)
  | none => c.textIn c.fallback key

/-- The text under a key, its fields filled if there are values. A key without a text stands for
itself, and a text with a field that has no value stays as it is. -/
def translate (c : Catalogue) (key language : Datum) (values : Members) : Except Fault Datum := do
  match ← c.get? key language with
  | none => .ok key
  | some text =>
    if values.isEmpty then .ok text
    else
      match text with
      | .str s =>
        match Template.fill values s.toList with
        | .ok t => .ok (.str (String.ofList t))
        | .error (.plain .unknownKey _) => .ok text
        | .error f => .error f
      | _ => .error (.plain .missingAttribute "object has no attribute 'format'")

/-- A text of the catalogue in the language in use. -/
def text (c : Catalogue) (key : String) (values : Members) : String :=
  match c.translate (.str key) .null values with
  | .ok (.str s) => s
  | _ => key

/-- Changes the language in use, if the catalogue has it. -/
def select (c : Catalogue) (language : Datum) : Except Fault (Bool × Catalogue) := do
  checkKey language
  if (find? c.texts language).isSome then .ok (true, { c with current := language })
  else .ok (false, c)

/-- The two parts of an item of a list of pairs. -/
def pairOf (v : Datum) : Except Fault (Datum × Datum) :=
  match DocumentScope.itemsOf? v with
  | none => .error (.plain .wrongType "cannot convert dictionary update sequence element")
  | some [k, v] => do
    checkKey k
    .ok (k, v)
  | some _ => .error (.plain .badValue "dictionary update sequence element has wrong length")

/-- The entries that a mapping or a list of pairs holds, up to the first item that is no pair, with
the fault of that. -/
def readEntries (v : Datum) : Entries × Option Fault :=
  match v with
  | .map entries => (entries, none)
  | v =>
    match DocumentScope.itemsOf? v with
    | none => ([], some (.plain .wrongType "object is not iterable"))
    | some items => go items []
where
  go : List Datum → Entries → Entries × Option Fault
    | [], out => (out.reverse, none)
    | item :: rest, out =>
      match pairOf item with
      | .ok pair => go rest (pair :: out)
      | .error f => (out.reverse, some f)

/-- Entries with others put over them, one after the other. -/
def putAll (own entries : Entries) : Entries := entries.foldl (fun e p => Datum.put e p.1 p.2) own

/-- Puts entries over those of a language, in its present place if it has one, else at the end. -/
def putText (texts : Texts) (language : Datum) (entries : Entries) : Texts :=
  match texts with
  | [] => [(language, putAll [] entries)]
  | (l, own) :: rest =>
    if Datum.agrees l language then (l, putAll own entries) :: rest
    else (l, own) :: putText rest language entries

/-- Adds texts to a language; a fault may come after some of them were added. -/
def add (c : Catalogue) (language translations : Datum) : Catalogue × Option Fault :=
  match checkKey language with
  | .error f => (c, some f)
  | .ok () =>
    let (entries, fault) := readEntries translations
    ({ c with texts := putText c.texts language entries }, fault)

/-- The ending of the files that hold texts of a language. -/
def fileEnding : List Char := ".json".toList

/-- The name of a file without its ending; a name that is nothing but the ending keeps it. -/
def stem (name : List Char) : List Char :=
  if fileEnding.length < name.length then name.take (name.length - fileEnding.length) else name

/-- Adds the texts in a file named after their language. Files that are not JSON are skipped. -/
def addFile (c : Catalogue) (name : List Char) (e : FileEntry) : Except Fault Catalogue :=
  match Files.textAt e with
  | .error f => if f.isOs then .ok c else .error f
  | .ok text =>
    match Json.parse text with
    | .error .malformed => .ok c
    | .error .integerTooLong => .error (.plain .badValue "Exceeds the limit for integer string conversion")
    | .ok v =>
      match c.add (.str (String.ofList (stem name))) (.ofJson v) with
      | (c, none) => .ok c
      | (_, some f) => .error f

/-- Adds the texts in the files of a directory, if there is one. -/
def addDirectory (c : Catalogue) (fs : Files) (path : String) : Except Fault Catalogue := do
  match ← fs.find path with
  | some .directory =>
    let names := (fs.list path).filter fun n => fileEnding.isSuffixOf n
    names.foldlM (fun c n => do
      match ← fs.find (path ++ "/" ++ String.ofList n) with
      | some e => addFile c n e
      | none => .ok c) c
  | _ => .ok c

end Catalogue

end LspHost

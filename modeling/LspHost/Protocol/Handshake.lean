import LspHost.Protocol.SemanticTokens

/-!
The handshake: what the client says about itself and what the server answers.
-/

namespace LspHost

/-- The name and version of one side. -/
structure PeerInfo where
  name : String
  version : Option String
  deriving DecidableEq, Repr

namespace PeerInfo

def ofMembers (model : String) (m : Members) : Except Misfit PeerInfo :=
  ((Checked.start PeerInfo.mk).ap (Schema.required m "name" Schema.text?)).ap
    (Schema.optional m "version" Schema.text?) |>.under model

def ofJson? (v : Json) : Option PeerInfo :=
  (Schema.members? v).bind fun m => (ofMembers "ServerInfo" m).toOption

def toMembers (p : PeerInfo) (g : Gaps) : Members :=
  [("name", .str p.name)] ++ g.field "version" (p.version.map .str)

end PeerInfo

/-- What the client says when it opens a session. -/
structure InitializeParams where
  processId : Option Int
  clientInfo : Option PeerInfo
  rootUri : Option String
  capabilities : Members
  initializationOptions : Option Members
  workspaceFolders : Option (List (List (String × String)))
  deriving DecidableEq

namespace InitializeParams

def ofMembers (m : Members) : Except Misfit InitializeParams :=
  ((((((Checked.start InitializeParams.mk).ap
    (Schema.required m "processId" (Schema.nullable Schema.integer?))).ap
    (Schema.optional m "clientInfo" PeerInfo.ofJson?)).ap
    (Schema.optional m "rootUri" Schema.text?)).ap
    (Schema.withDefault m "capabilities" Schema.members? [])).ap
    (Schema.optional m "initializationOptions" Schema.members?)).ap
    (Schema.optional m "workspaceFolders" (Schema.list? Schema.texts?)) |>.under "InitializeParams"

def folderToJson (folder : List (String × String)) : Json :=
  .obj (folder.map fun p => (p.1, .str p.2))

def toMembers (p : InitializeParams) (g : Gaps) : Members :=
  g.field "processId" (p.processId.map .int)
    ++ g.field "clientInfo" (p.clientInfo.map fun i => .obj (i.toMembers g))
    ++ g.field "rootUri" (p.rootUri.map .str)
    ++ [("capabilities", .obj p.capabilities)]
    ++ g.field "initializationOptions" (p.initializationOptions.map .obj)
    ++ g.field "workspaceFolders" (p.workspaceFolders.map fun fs => .arr (fs.map folderToJson))

end InitializeParams

/-- What a server answers. -/
structure InitializeResult where
  capabilities : Members
  serverInfo : Option PeerInfo
  deriving DecidableEq

namespace InitializeResult

def ofMembers (m : Members) : Except Misfit InitializeResult :=
  ((Checked.start InitializeResult.mk).ap
    (Schema.withDefault m "capabilities" Schema.members? [])).ap
    (Schema.optional m "serverInfo" PeerInfo.ofJson?) |>.under "InitializeResult"

def toMembers (r : InitializeResult) (g : Gaps) : Members :=
  [("capabilities", .obj r.capabilities)]
    ++ g.field "serverInfo" (r.serverInfo.map fun i => .obj (i.toMembers g))

/-- The legend that the server declares, if it declares one. -/
def legend (r : InitializeResult) : Except Misfit (Option Legend) :=
  match Members.get? r.capabilities "semanticTokensProvider" with
  | some (.obj provider) =>
    match Members.get? provider "legend" with
    | some (.obj m) => (Legend.ofMembers m).map some
    | _ => .ok none
  | _ => .ok none

end InitializeResult

namespace ClientCapabilities

/-- The token types that the client understands. -/
def tokenTypes : List String :=
  ["namespace", "type", "class", "enum", "interface", "struct", "typeParameter", "parameter",
    "variable", "property", "enumMember", "event", "function", "method", "macro", "keyword",
    "modifier", "comment", "string", "number", "regexp", "operator", "decorator"]

/-- What the client can do, as it is told to servers. -/
def members : Members :=
  [("textDocument", .obj
      [("synchronization", .obj [("dynamicRegistration", .bool false), ("didSave", .bool false)]),
        ("publishDiagnostics", .obj [("versionSupport", .bool true)]),
        ("hover", .obj [("contentFormat", .arr [.str "markdown", .str "plaintext"])]),
        ("semanticTokens", .obj
          [("dynamicRegistration", .bool false),
            ("requests", .obj [("range", .bool true), ("full", .bool true)]),
            ("tokenTypes", .arr (tokenTypes.map .str)), ("tokenModifiers", .arr []),
            ("formats", .arr [.str "relative"])])]),
    ("workspace", .obj [("workspaceFolders", .bool true), ("configuration", .bool true)]),
    ("window", .obj [("workDoneProgress", .bool true)])]

end ClientCapabilities

/-- A document as it is sent to a server. -/
structure TextDocumentItem where
  uri : String
  languageId : String
  version : Int
  text : String
  deriving DecidableEq, Repr

namespace TextDocumentItem

def ofMembers (m : Members) : Except Misfit TextDocumentItem :=
  ((((Checked.start TextDocumentItem.mk).ap (Schema.required m "uri" Schema.text?)).ap
    (Schema.required m "languageId" Schema.text?)).ap
    (Schema.required m "version" Schema.integer?)).ap
    (Schema.required m "text" Schema.text?) |>.under "TextDocumentItem"

def toMembers (t : TextDocumentItem) : Members :=
  [("uri", .str t.uri), ("languageId", .str t.languageId), ("version", .int t.version),
    ("text", .str t.text)]

end TextDocumentItem

end LspHost

import LspHost.Lifecycle
import LspHost.Protocol.Diagnostic
import LspHost.Protocol.Handshake
import LspHost.Protocol.Hover
import LspHost.Protocol.Message
import LspHost.Protocol.Scope

/-!
Models by their names. Every model is read from its members and can tell them in two ways: all of
them, or only those that are sent.
-/

namespace LspHost

/-- A model of any kind. -/
inductive Model where
  | request (r : Request)
  | notification (n : Notification)
  | error (e : ResponseError)
  | response (r : Response)
  | filter (f : DocumentFilter)
  | peer (p : PeerInfo)
  | initializeParams (p : InitializeParams)
  | initializeResult (r : InitializeResult)
  | legend (l : Legend)
  | document (t : TextDocumentItem)
  | position (p : Position)
  | range (r : Range)
  | diagnostic (d : Diagnostic)
  | published (p : PublishedDiagnostics)
  | hover (h : Hover)
  | token (t : SemanticToken)
  | tokens (t : SemanticTokens)
  | lifecycle (r : LifecycleResult)

namespace Model

/-- A model that is read, or the fault that its members do not fit. -/
def fitted {α : Type} (make : α → Model) (r : Except Misfit α) : Except Fault Model :=
  match r with
  | .ok a => .ok (make a)
  | .error m => .error (.misfit m)

/-- The fault of a name that no model has. -/
def unknown (name : String) : Fault := .plain .missingAttribute ("no model " ++ name)

/-- Reads a model with a name from its members. -/
def ofMembers (name : String) (m : Members) : Except Fault Model :=
  match name with
  | "JSONRPCRequest" => fitted .request (Request.ofMembers m)
  | "JSONRPCNotification" => fitted .notification (Notification.ofMembers m)
  | "JSONRPCError" => fitted .error (ResponseError.ofMembers m)
  | "JSONRPCResponse" => fitted .response (Response.ofMembers m)
  | "DocumentFilter" =>
    (DocumentFilter.ofEntries (m.map fun p => (.str p.1, .ofJson p.2))).map .filter
  | "ClientInfo" => fitted .peer (PeerInfo.ofMembers name m)
  | "ServerInfo" => fitted .peer (PeerInfo.ofMembers name m)
  | "InitializeParams" => fitted .initializeParams (InitializeParams.ofMembers m)
  | "InitializeResult" => fitted .initializeResult (InitializeResult.ofMembers m)
  | "SemanticTokensLegend" => fitted .legend (Legend.ofMembers m)
  | "TextDocumentItem" => fitted .document (TextDocumentItem.ofMembers m)
  | "Position" => fitted .position (Position.ofMembers m)
  | "Range" => fitted .range (Range.ofMembers m)
  | "Diagnostic" => fitted .diagnostic (Diagnostic.ofMembers m)
  | "PublishDiagnosticsParams" => fitted .published (PublishedDiagnostics.ofMembers m)
  | "Hover" => fitted .hover (Hover.ofMembers m)
  | "SemanticToken" => fitted .token (SemanticToken.ofMembers m)
  | "SemanticTokens" => fitted .tokens (SemanticTokens.ofMembers m)
  | "LifecycleResult" => fitted .lifecycle (LifecycleResult.ofMembers m)
  | name => .error (unknown name)

/-- The members of a model. -/
def toMembers (g : Gaps) : Model → Members
  | .request r => r.toMembers g
  | .notification n => n.toMembers g
  | .error e => e.toMembers g
  | .response r =>
    match g with
    | .shown => r.toMembers
    | .omitted => r.wireMembers
  | .filter f => f.toMembers g
  | .peer p => p.toMembers g
  | .initializeParams p => p.toMembers g
  | .initializeResult r => r.toMembers g
  | .legend l => l.toMembers
  | .document t => t.toMembers
  | .position p => p.toMembers
  | .range r => r.toMembers
  | .diagnostic d => d.toMembers g
  | .published p => p.toMembers g
  | .hover h => h.toMembers g
  | .token t => t.toMembers
  | .tokens t => t.toMembers g
  | .lifecycle r => r.toMembers g

/-- The members that are sent: those that are there. -/
def sent (m : Model) : Members := m.toMembers .omitted

end Model

end LspHost

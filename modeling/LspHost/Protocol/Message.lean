import LspHost.Schema

/-!
The messages of the protocol: requests, notifications and responses.

`Message.ofJson` tells them apart by their members: what has a `method` is a request if it has an
`id` and a notification if not, everything else is a response. `Message.toMembers` writes them; a
response without an error always shows its result.
-/

namespace LspHost

/-- What identifies a request: a number or a text. -/
inductive RequestId where
  | number (n : Int)
  | name (s : String)
  deriving DecidableEq, Repr

namespace RequestId

/-- A text is a name; everything that can be read as an integer is a number. -/
def ofJson? : Json → Option RequestId
  | .str s => some (.name s)
  | v => (Schema.integer? v).map .number

def toJson : RequestId → Json
  | .number n => .int n
  | .name s => .str s

end RequestId

/-- The parameters of a request or notification, by name or by position. -/
inductive Params where
  | named (m : Members)
  | positional (items : List Json)
  deriving DecidableEq

namespace Params

def ofJson? : Json → Option Params
  | .obj m => some (.named m)
  | .arr items => some (.positional items)
  | _ => none

def toJson : Params → Json
  | .named m => .obj m
  | .positional items => .arr items

end Params

/-- Reads the protocol version, which is always the same text. -/
def protocolVersion? : Json → Option Unit
  | .str s => if s = "2.0" then some () else none
  | _ => none

/-- A message that asks for a response. -/
structure Request where
  id : RequestId
  method : String
  params : Option Params
  deriving DecidableEq

namespace Request

def ofMembers (m : Members) : Except Misfit Request :=
  ((((Checked.start fun (_ : Unit) => Request.mk).ap
    (Schema.withDefault m "jsonrpc" protocolVersion? ())).ap
    (Schema.required m "id" RequestId.ofJson?)).ap
    (Schema.required m "method" Schema.text?)).ap
    (Schema.optional m "params" Params.ofJson?) |>.under "JSONRPCRequest"

def toMembers (r : Request) (g : Gaps) : Members :=
  [("jsonrpc", .str "2.0"), ("id", r.id.toJson), ("method", .str r.method)]
    ++ g.field "params" (r.params.map Params.toJson)

end Request

/-- A message that asks for nothing. -/
structure Notification where
  method : String
  params : Option Params
  deriving DecidableEq

namespace Notification

def ofMembers (m : Members) : Except Misfit Notification :=
  (((Checked.start fun (_ : Unit) => Notification.mk).ap
    (Schema.withDefault m "jsonrpc" protocolVersion? ())).ap
    (Schema.required m "method" Schema.text?)).ap
    (Schema.optional m "params" Params.ofJson?) |>.under "JSONRPCNotification"

def toMembers (n : Notification) (g : Gaps) : Members :=
  [("jsonrpc", .str "2.0"), ("method", .str n.method)]
    ++ g.field "params" (n.params.map Params.toJson)

end Notification

/-- Why a request was refused by the other side. -/
structure ResponseError where
  code : Int
  message : String
  data : Option Json
  deriving DecidableEq

namespace ResponseError

def ofMembers (m : Members) : Except Misfit ResponseError :=
  (((Checked.start ResponseError.mk).ap (Schema.required m "code" Schema.integer?)).ap
    (Schema.required m "message" Schema.text?)).ap
    (Schema.optional m "data" Schema.any?) |>.under "JSONRPCError"

def ofJson? (v : Json) : Option ResponseError :=
  (Schema.members? v).bind fun m => (ofMembers m).toOption

def toMembers (e : ResponseError) (g : Gaps) : Members :=
  [("code", .int e.code), ("message", .str e.message)] ++ g.field "data" e.data

end ResponseError

/-- The answer to a request; a result of `null` and none at all are the same. -/
structure Response where
  id : Option RequestId
  result : Option Json
  error : Option ResponseError
  deriving DecidableEq

namespace Response

def ofMembers (m : Members) : Except Misfit Response :=
  ((((Checked.start fun (_ : Unit) => Response.mk).ap
    (Schema.withDefault m "jsonrpc" protocolVersion? ())).ap
    (Schema.optional m "id" RequestId.ofJson?)).ap
    (Schema.optional m "result" Schema.any?)).ap
    (Schema.optional m "error" ResponseError.ofJson?) |>.under "JSONRPCResponse"

/-- The members that are sent: absent fields are left out, but for the result of a response without
an error. -/
def wireMembers (r : Response) : Members :=
  let resultGap := match r.error with
    | none => Gaps.shown
    | some _ => Gaps.omitted
  [("jsonrpc", .str "2.0")] ++ Gaps.omitted.field "id" (r.id.map RequestId.toJson)
    ++ resultGap.field "result" r.result
    ++ Gaps.omitted.field "error" (r.error.map fun e => .obj (e.toMembers .omitted))

/-- All members, absent ones as null. -/
def toMembers (r : Response) : Members :=
  [("jsonrpc", .str "2.0"), ("id", (r.id.map RequestId.toJson).getD .null),
    ("result", r.result.getD .null),
    ("error", (r.error.map fun e => .obj (e.toMembers .shown)).getD .null)]

end Response

/-- A message. -/
inductive Message where
  | request (r : Request)
  | notification (n : Notification)
  | response (r : Response)
  deriving DecidableEq

/-- Why a value is no message: it is no object, or an object that does not fit. -/
inductive MessageFault where
  | notObject (kind : String)
  | misfit (m : Misfit)
  deriving DecidableEq, Repr

/-- The name of a value's kind. -/
def Json.kind : Json → String
  | .null => "NoneType"
  | .bool _ => "bool"
  | .int _ => "int"
  | .float _ => "float"
  | .str _ => "str"
  | .arr _ => "list"
  | .obj _ => "dict"

namespace Message

/-- The message that an object holds. -/
def ofMembers (m : Members) : Except Misfit Message :=
  if (m.get? "method").isSome then
    if (m.get? "id").isSome then (Request.ofMembers m).map .request
    else (Notification.ofMembers m).map .notification
  else (Response.ofMembers m).map .response

/-- The message that a value holds. -/
def ofJson : Json → Except MessageFault Message
  | .obj m => (ofMembers m).mapError .misfit
  | v => .error (.notObject v.kind)

/-- The members of a message as it is sent. -/
def wireMembers : Message → Members
  | .request r => r.toMembers .omitted
  | .notification n => n.toMembers .omitted
  | .response r => r.wireMembers

/-- The kind of a message, by name. -/
def kind : Message → String
  | .request _ => "JSONRPCRequest"
  | .notification _ => "JSONRPCNotification"
  | .response _ => "JSONRPCResponse"

/-- All members of a message, absent ones as null. -/
def toMembers : Message → Members
  | .request r => r.toMembers .shown
  | .notification n => n.toMembers .shown
  | .response r => r.toMembers

end Message

namespace ResponseError

/-- The code for a method that the receiver does not know. -/
def methodNotFound : Int := -32601

/-- The code for a fault of the receiver itself. -/
def internalError : Int := -32603

end ResponseError

end LspHost

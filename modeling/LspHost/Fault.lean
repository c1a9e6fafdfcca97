import LspHost.Protocol.Framing
import LspHost.Text.Quoted

/-!
Everything that can go wrong, as causes; `Fault.message` is the one place that puts them into words.
-/

namespace LspHost

/-- Faults that no part of this library raises by name: misuse of values and failures of files. -/
inductive PlainKind where
  | wrongType
  | missingAttribute
  | outOfRange
  | unknownKey
  | badValue
  | overflow
  | undecodable
  | runtime
  | markup
  | osFault
  | isDirectory
  deriving DecidableEq, Repr

/-- Why a process could not be started. -/
inductive SpawnFault where
  | notFound (command : String)
  | notPermitted (command : String)
  | refused (reason : String)
  deriving DecidableEq, Repr

/-- Why a connection cannot be used. -/
inductive ClosedReason where
  | notConnected
  | endOfOutput
  | writeFailed (reason : String)
  | sessionLost (session : String)
  | sessionClosed (session : String)
  | sessionAborted (session : String)
  deriving DecidableEq, Repr

/-- What goes wrong between the client and the process of a server. -/
inductive TransportFault where
  | spawn (f : SpawnFault)
  | closed (r : ClosedReason)
  | undecodableBody (f : Framing.BodyFault)
  | badHeader (header : List UInt8)
  | overlongHeader (separatorFound : Bool)
  | alreadyUsed
  deriving DecidableEq, Repr

/-- What is wrong with a configuration. -/
inductive ConfigFault where
  | emptyCommand
  | busyPolicy (value : String)
  | timeout (name value : String)
  | noFilter
  | badFilter (value : String)
  | unknownFilterFields (names : String)
  | logLevel (name : String)
  | notYaml
  | notMapping
  | serverNotMapping
  | argsNotList
  | envNotMapping
  deriving DecidableEq, Repr

/-- Why the parts of an answer do not make the object that was asked for. -/
inductive AnswerFault where
  | misfit (m : Misfit)
  | notMapping (model kind : String)
  deriving DecidableEq, Repr

/-- What goes wrong. -/
inductive Fault where
  | plain (kind : PlainKind) (text : String)
  | answer (f : AnswerFault)
  | notObject (kind : String)
  | tokenCount (count : Nat)
  | timeout
  | cancelled
  | transport (f : TransportFault)
  | reopened (session : String)
  | notRunning (session state : String)
  | handshakeTimeout (seconds : String)
  | handshakeFailed (reason : String)
  | shutdownFailed (problems : List String)
  | refused (message : String) (code : Int)
  | badAnswer (what reason : String)
  | config (f : ConfigFault)
  | noConfigFile (path : String)
  deriving DecidableEq, Repr

namespace SpawnFault

def message : SpawnFault → String
  | .notFound command => "找不到命令: " ++ command
  | .notPermitted command => "没有执行权限: " ++ command
  | .refused reason => "启动服务器失败: " ++ reason

end SpawnFault

namespace ClosedReason

def message : ClosedReason → String
  | .notConnected => "未连接到服务器"
  | .endOfOutput => "服务器连接已关闭"
  | .writeFailed reason => "发送消息失败: " ++ reason
  | .sessionLost session => "会话 " ++ session ++ " 的连接已断开"
  | .sessionClosed session => "会话 " ++ session ++ " 已关闭"
  | .sessionAborted session => "会话 " ++ session ++ " 已中止"

end ClosedReason

/-- The words for a value that is no object where a message should be. -/
def notObjectText (kind : String) : String := "消息必须是 JSON 对象，实际为 " ++ kind

/-- The words for a value that does not fit a model. -/
def Misfit.message (m : Misfit) : String := "ValidationError(" ++ m.model ++ ")"

/-- The words for a piece of a stream that is longer than allowed. -/
def overlongText (separatorFound : Bool) : String :=
  if separatorFound then "Separator is found, but chunk is longer than limit"
  else "Separator is not found, and chunk exceed the limit"

namespace TransportFault

def bodyMessage : Framing.BodyFault → String
  | .notText => "无效的 UTF-8"
  | .notJson _ => "无效的 JSON"
  | .notMessage (.notObject kind) => notObjectText kind
  | .notMessage (.misfit m) => m.message

def message : TransportFault → String
  | .spawn f => f.message
  | .closed r => r.message
  | .undecodableBody f => "JSON 解析失败: " ++ bodyMessage f
  | .badHeader header => "无效的消息头: " ++ String.ofList (Text.quotedOctets header)
  | .overlongHeader separatorFound => "消息头过长: " ++ overlongText separatorFound
  | .alreadyUsed => "传输已被使用，不能重复启动"

end TransportFault

namespace ConfigFault

def message : ConfigFault → String
  | .emptyCommand => "server.command 不能为空"
  | .busyPolicy value => "busy_policy 必须是 queue, reject 之一，当前为: " ++ value
  | .timeout name value => "timeouts." ++ name ++ " 必须为正数，当前为: " ++ value
  | .noFilter => "document_selector 至少需要一个过滤器"
  | .badFilter value => "无效的文档过滤器: " ++ value
  | .unknownFilterFields names => "文档过滤器包含未知字段: " ++ names
  | .logLevel name => "未知的日志级别: " ++ name
  | .notYaml => "配置文件解析失败"
  | .notMapping => "配置文件顶层必须是映射"
  | .serverNotMapping => "server 必须是映射"
  | .argsNotList => "server.args 必须是列表"
  | .envNotMapping => "server.env 必须是映射"

end ConfigFault

namespace AnswerFault

def message : AnswerFault → String
  | .misfit m => m.message
  | .notMapping model kind =>
    "deval_client.lsp.protocol." ++ model ++ "() argument after ** must be a mapping, not " ++ kind

end AnswerFault

namespace Fault

/-- A fault in words. -/
def message : Fault → String
  | .plain _ text => text
  | .answer f => f.message
  | .notObject kind => notObjectText kind
  | .tokenCount count => "语义 token 数据长度必须是 5 的倍数: " ++ toString count
  | .timeout => ""
  | .cancelled => ""
  | .transport f => f.message
  | .reopened session => "会话 " ++ session ++ " 不能重复启动"
  | .notRunning session state => "会话 " ++ session ++ " 未运行 (" ++ state ++ ")"
  | .handshakeTimeout seconds => "initialize 超时 (" ++ seconds ++ "s)"
  | .handshakeFailed reason => "initialize 失败: " ++ reason
  | .shutdownFailed problems => "; ".intercalate problems
  | .refused text _ => "LSP 错误: " ++ text
  | .badAnswer what reason => "无效的" ++ what ++ "响应: " ++ reason
  | .config f => f.message
  | .noConfigFile path => "配置文件未找到: " ++ path

/-- A fault of the connection, which ends the use of a transport. -/
def closed (r : ClosedReason) : Fault := .transport (.closed r)

/-- A value that does not fit a model. -/
def misfit (m : Misfit) : Fault := .answer (.misfit m)

/-- Faults of a session: of its state, its handshake, its shutdown or an answer it got. -/
def isSession : Fault → Bool
  | .reopened _ => true
  | .notRunning _ _ => true
  | .handshakeTimeout _ => true
  | .handshakeFailed _ => true
  | .shutdownFailed _ => true
  | .refused _ _ => true
  | .badAnswer _ _ => true
  | _ => false

/-- Faults of the connection to a server's process. -/
def isTransport : Fault → Bool
  | .transport _ => true
  | _ => false

/-- Faults of the handshake. -/
def isHandshake : Fault → Bool
  | .handshakeTimeout _ => true
  | .handshakeFailed _ => true
  | _ => false

/-- Faults of the operating world, a timeout among them. -/
def isOs : Fault → Bool
  | .plain .osFault _ => true
  | .plain .isDirectory _ => true
  | .timeout => true
  | .noConfigFile _ => true
  | _ => false

end Fault

end LspHost

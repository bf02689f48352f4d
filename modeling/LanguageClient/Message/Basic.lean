import LanguageClient.ClientError
import LanguageClient.Json.Printer
import LanguageClient.Json.Reader
import LanguageClient.Schema.Basic
namespace LanguageClient

/-!
# JSON-RPC messages

Requests, notifications and responses. `OutgoingMessage.body` is the text of a message that the
client sends, `IncomingMessage.parse` reads and classifies one from the server: an id and a method
make a request, a method alone a notification, an id alone a response.
-/

inductive RequestId where
  | number (n : Int)
  | string (s : String)
deriving DecidableEq, Repr

/-- The error object of a response. -/
structure RpcError where
  code : Int
  message : String
  data : Option Json
deriving DecidableEq

/-- What a request came to. -/
abbrev RpcOutcome := Except RpcError Json

inductive OutgoingMessage where
  | request (id : RequestId) (method : String) (params : Option Json)
  | notification (method : String) (params : Option Json)
  | response (id : RequestId) (outcome : RpcOutcome)

inductive IncomingMessage where
  | request (id : RequestId) (method : String) (params : Json)
  | notification (method : String) (params : Json)
  | response (id : RequestId) (outcome : RpcOutcome)

namespace RequestId

def toJson : RequestId → Json
  | number n => .int n
  | string s => .str s

def ofJson? : Json → Option RequestId
  | .int n => some (number n)
  | .str s => some (string s)
  | _ => none

def shape : Shape := Shape.oneOf [Shape.i64, Shape.string]

end RequestId

namespace RpcError

def methodNotFoundCode : Int := -32601
def invalidParamsCode : Int := -32602

def new (code : Int) (message : String) : RpcError := ⟨code, message, none⟩

def methodNotFound (method : String) : RpcError :=
  new methodNotFoundCode s!"Unhandled method {method}"

def invalidParams (reason : String) : RpcError := new invalidParamsCode reason

/-- The object in the order its members are written. -/
def toJson (e : RpcError) : Json :=
  .obj ([("code", .int e.code), ("message", .str e.message)] ++
    (e.data.map fun d => ("data", d)).toList)

def outline : Json.Outline := .ofNames ["code", "message", "data"]

def shape : Shape :=
  Shape.record
    [Shape.required "code" Shape.i64, Shape.required "message" Shape.string,
      Shape.optional "data" Shape.any]

/-- Reads the normal form. -/
def ofNormal (j : Json) : RpcError :=
  ⟨(j.get "code").int?.getD 0, (j.get "message").str?.getD "", j.get? "data"⟩

def toClientError (e : RpcError) : ClientError := .rpc e.code e.message

end RpcError

namespace OutgoingMessage

/-- The message as an object, its members in the order they are written. -/
def toJson : OutgoingMessage → Json
  | request id method params =>
    .obj ([("jsonrpc", .str "2.0"), ("id", id.toJson), ("method", .str method)] ++
      (params.map fun p => ("params", p)).toList)
  | notification method params =>
    .obj ([("jsonrpc", .str "2.0"), ("method", .str method)] ++
      (params.map fun p => ("params", p)).toList)
  | response id (.ok result) =>
    .obj [("jsonrpc", .str "2.0"), ("id", id.toJson), ("result", result)]
  | response id (.error e) =>
    .obj [("jsonrpc", .str "2.0"), ("id", id.toJson), ("error", e.toJson)]

def body (m : OutgoingMessage) : Text := m.toJson.print

end OutgoingMessage

namespace IncomingMessage

def outline : Json.Outline :=
  .record
    [("id", .whole), ("method", .whole), ("params", .whole), ("result", .whole),
      ("error", RpcError.outline)]

def shape : Shape :=
  Shape.record
    [Shape.omittable "id" RequestId.shape, Shape.omittable "method" Shape.string,
      Shape.omittable "params" Shape.any, Shape.omittable "result" Shape.any,
      Shape.omittable "error" RpcError.shape]

/-- Classifies a message by the members it has. -/
def classify (j : Json) : Except ClientError IncomingMessage :=
  match (j.get? "id").bind RequestId.ofJson?, (j.get? "method").bind Json.str? with
  | some id, some method => .ok (request id method (j.get "params"))
  | none, some method => .ok (notification method (j.get "params"))
  | some id, none =>
    match j.get? "error" with
    | some e => .ok (response id (.error (RpcError.ofNormal e)))
    | none => .ok (response id (.ok (j.get "result")))
  | none, none => .error (.protocol "Message has neither id nor method")

/-- Reads the body of a message. -/
def parse (body : Text) : Except ClientError IncomingMessage :=
  match (Json.readOutline? outline body).bind shape with
  | none => .error (.protocol "Invalid message: ")
  | some j => classify j

end IncomingMessage

end LanguageClient

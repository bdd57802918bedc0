import LedgerFlow.Codec.Json.Encoding
import LedgerFlow.Fault

/-!
# Replies to remote calls

What a reply to a remote call says: its result, or an error.  A reply that is no JSON text, no
object, or has neither a result nor an error is an error of the call as well.  Errors of the node
are objects with a code, a message and data; anything else in their place is taken as the message.
-/

namespace LedgerFlow

namespace RpcError

/-- The error that an error object describes. -/
def ofObject (object : Value) (method : Option String) (requestId : Value)
    (httpStatus : Option Int) : Value.Read RpcError := do
  let code ← (← object.getD "code" (.int RpcCode.serverError.number)).toInt
  let message ← (← object.getD "message" (.text "Unknown JSON-RPC error")).toText
  let data ← object.get "data"
  pure { method, code, message, data, requestId, httpStatus }

/-- The error object for an error member. -/
def objectOf (error : Value) : Value.Read Value :=
  match error with
  | .map entries => .ok (.map entries)
  | other => return .record [("message", .text (← other.toText))]

/-- Whether a text mentions an error. -/
def isMentioned (s : String) : Bool := 1 < (s.splitOn "error").length

/-- The error that a reply reports, if it does.  A list or a text reports none, but may not hold
the word either. -/
def ofReply? (reply : Value) (method : Option String) (httpStatus : Option Int) :
    Value.Read (Option RpcError) :=
  match reply with
  | .map entries =>
    match (Value.lookup "error" entries).filter fun e => !e.isNull with
    | none => pure none
    | some error => do
      some <$> ofObject (← objectOf error) method
        ((Value.lookup "id" entries).getD .null) httpStatus
  | .list items => if items.any fun v => v == .text "error" then .error .wrongType else pure none
  | .text s => if isMentioned s then .error .wrongType else pure none
  | _ => .error .wrongType

end RpcError

namespace Rpc

/-- The name of the type of a value. -/
def typeName : Value → String
  | .null => "NoneType"
  | .bool _ => "bool"
  | .int _ => "int"
  | .float _ => "float"
  | .text _ => "str"
  | .bytes _ => "bytes"
  | .list _ => "list"
  | .map _ => "dict"

/-- A reply that cannot be used. -/
def unusable (method message : String) (data : Value) (httpStatus : Option Int) : Fault :=
  .pipeline (.rpc ⟨some method, RpcCode.internalError.number, message, data, .null, httpStatus⟩)

/-- How an unreadable body is reported. -/
def bodyExcerpt (status : Int) (body : String) : String :=
  "HTTP " ++ toString status ++ ": " ++ String.ofList (body.toList.take 256)

/-- The result in the body of a reply. -/
def result (method : String) (status : Int) (body : String) : Except Fault Value :=
  match Json.parseBytes (Utf8.encode body) with
  | .error .tooDeep => .error .tooDeep
  | .error .illFormed =>
    .error (unusable method "Non-JSON response from RPC" (.text (bodyExcerpt status body))
      (some status))
  | .ok (.map entries) => do
    match ← RpcError.ofReply? (.map entries) (some method) (some status) with
    | some e => .error (.pipeline (.rpc e))
    | none =>
      match Value.lookup "result" entries with
      | some v => .ok v
      | none =>
        .error (unusable method "Malformed JSON-RPC response" (.map entries) (some status))
  | .ok other =>
    .error (unusable method "Invalid JSON-RPC response type" (.text (typeName other))
      (some status))

end Rpc
end LedgerFlow

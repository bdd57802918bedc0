import LedgerFlow.Codec.Json.Writer
import LedgerFlow.Config
import LedgerFlow.Rpc.Address
import LedgerFlow.Rpc.Reply
import LedgerFlow.Session

/-!
# Remote calls

Calls to a node: a numbered request is posted as JSON text, and its reply is read.  A transport
failure or a passing refusal by the server is tried again, as often as the settings allow, after a
delay that grows with every attempt; any other answer is final.  All attempts of one call post the
same text.
-/

namespace LedgerFlow

/-- A request on its way. -/
structure HttpRequest (τ : Type) where
  url : String
  headers : List (String × String)
  body : String
  timeout : Option τ
  deriving Inhabited

/-- What comes of a request: an answer, or a failure of the transport.  That nothing else leaves the client
that carries requests is assumed of it. -/
inductive HttpResult where
  | answered (status : Int) (body : String)
  /-- No answer; the kind of failure and its description. -/
  | failed (kind text : String)
  deriving DecidableEq, Repr, Inhabited

/-- What carries requests, and lets time pass between them. -/
structure Carrier (ω τ : Type) where
  post : HttpRequest τ → ω → HttpResult × ω
  /-- Waits.  It is assumed to return, also from a negative duration, which a system's own wait refuses. -/
  sleep : τ → ω → ω
  /-- A random number, from zero up to but not including one. -/
  jitter : ω → τ × ω

/-- How a node is called. -/
structure RpcSettings (τ : Type) where
  url : Option String
  /-- The timeout of a call that brings none of its own. -/
  timeout : Option τ
  maxRetries : Int
  backoffBase : τ
  backoffFactor : τ
  backoffJitter : τ
  headers : List (String × String)

/-- A client of a node: whether it may still be used, and the number of its last request. -/
structure Connection (ω : Type) where
  isOpen : Bool := true
  lastId : Nat := 0
  outside : ω

namespace RpcSettings

variable {τ : Type} [Measure τ]

/-- The settings for an address when nothing else is said. -/
def default (url : Option String) : RpcSettings τ where
  url
  timeout := some (Timeline.ofInt 30)
  maxRetries := 0
  backoffBase := Measure.ofBinary64 ⟨0x3FC3333333333333⟩
  backoffFactor := Measure.ofBinary64 ⟨0x3FFCCCCCCCCCCCCD⟩
  backoffJitter := Measure.ofBinary64 ⟨0x3FC999999999999A⟩
  headers := []

/-- The settings of a configuration. -/
def ofConfig (c : Config τ) : RpcSettings τ :=
  { default c.rpcUrl with
    timeout := some c.requestTimeout
    maxRetries := c.maxRetries
    backoffFactor := 1 + c.backoffFactor
    headers := c.headers }

/-- The headers that every request starts from. -/
def standardHeaders : List (String × String) :=
  [("Content-Type", "application/json"), ("Accept", "application/json"),
    ("User-Agent", defaultUserAgent)]

/-- Headers with one more: a header of exactly that name takes the new value. -/
def withHeader (headers : List (String × String)) (h : String × String) : List (String × String) :=
  if headers.any fun x => x.1 == h.1 then
    headers.map fun x => if x.1 == h.1 then h else x
  else headers ++ [h]

/-- The headers of every request. -/
def allHeaders (s : RpcSettings τ) : List (String × String) :=
  s.headers.foldl withHeader standardHeaders

/-- Whether a text can stand in a header. -/
def isHeaderText (s : String) : Bool := s.toList.all fun c => c.toNat < 0x80

/-- Refuses headers that cannot be sent. -/
def checkHeaders (s : RpcSettings τ) : Except Fault Unit :=
  if s.allHeaders.all fun h => isHeaderText h.1 && isHeaderText h.2 then .ok ()
  else .error .invalidHeader

/-- Whether the headers tell the host themselves. -/
def namesHost (s : RpcSettings τ) : Bool :=
  s.headers.any fun h => Text.lowerAscii h.1 == "host"

/-- The address of requests: it has to be valid, and a request has to be able to tell its host. -/
def address (s : RpcSettings τ) (url : String) : Except Fault Address := do
  match Address.parse? url with
  | none => .error .invalidAddress
  | some a =>
    if s.namesHost then pure a
    else
      match a.checkHost with
      | .ok () => pure a
      | .error (.unreadable fault) => .error (.unreadableHost fault)
      | .error .notAscii => .error .invalidHeader

/-- The delay after a failed attempt, with a random part. -/
def delay (s : RpcSettings τ) (attempt : Nat) (random : τ) : Value.Read τ :=
  match Timeline.power? s.backoffFactor (attempt - 1) with
  | some p => .ok (s.backoffBase * p + random * s.backoffJitter)
  | none => .error .tooLarge

end RpcSettings

namespace Rpc

variable {ω τ : Type} [Measure τ]

/-- Statuses of refusals that may pass. -/
def isPassing (status : Int) : Bool := [429, 500, 502, 503, 504].contains status

/-- The parameters of a call as they are sent; a single value becomes a list. -/
def paramsOf : Value → Value
  | .map entries => .map entries
  | .list items => .list items
  | v => .list [v]

/-- The body of a request. -/
def payload (id : Nat) (method : String) (params : Value) : Value :=
  let call := [("jsonrpc", .text "2.0"), ("id", .int id), ("method", .text method)]
  if params.isNull then .record call else .record (call ++ [("params", paramsOf params)])

/-- Changes what is outside a connection. -/
def outside {α : Type} (f : ω → α × ω) : Stage (Connection ω) α :=
  modifyGet fun s =>
    let (a, w) := f s.world.outside
    (a, { s with world := { s.world with outside := w } })

/-- A passing failure of a call. -/
def unreachable {α : Type} (method message : String) (httpStatus : Option Int) :
    Stage (Connection ω) α :=
  Stage.fail (.unreachable message (some method) httpStatus)

/-- What an answer to a request to an address means. -/
def ofResult (method : String) (address : Address) : HttpResult → Stage (Connection ω) Value
  | .failed kind text => unreachable method (kind ++ ": " ++ text) none
  | .answered status body =>
    if !address.takesReplies then throw (.malformed (.outOfRange "unknown url type"))
    else if isPassing status then
      unreachable method ("HTTP " ++ toString status) (some status)
    else Stage.ofExcept (result method status body)

/-- The text of a payload.  Parameters are the only part of one that may have no text. -/
def bodyOf (payload : Value) : Value.Read String :=
  match Json.refusal? ((payload.field? "params").getD .null) with
  | some m => .error m
  | none => .ok ((Json.write? .compact 0 payload).getD "")

/-- What every attempt of a call posts, and the address it goes to. -/
def prepare (s : RpcSettings τ) (payload : Value) (timeout : Option τ) :
    Except Fault (Address × HttpRequest τ) := do
  let body ← bodyOf payload
  match s.url with
  | none => .error (.malformed .wrongType)
  | some url =>
    let address ← s.address url
    pure (address, { url := address.text, headers := s.allHeaders, body,
                     timeout := timeout <|> s.timeout })

/-- One attempt of a call. -/
def attempt (s : RpcSettings τ) (carrier : Carrier ω τ) (method : String) (payload : Value)
    (timeout : Option τ) : Stage (Connection ω) Value := do
  if !(← Stage.world).isOpen then unreachable method "client is closed" none
  else
    let (address, request) ← Stage.ofExcept (prepare s payload timeout)
    let answer ← outside (carrier.post request)
    ofResult method address answer

/-- The log line for another attempt. -/
def retryMessage (method : String) (fault : Fault) (number : Nat) (delay : τ) : String :=
  "retrying " ++ method ++ " after " ++ fault.message ++ " (attempt " ++ toString number
    ++ ", delay " ++ Measure.fixedTwo delay ++ "s)"

/-- The attempts of a call, the first of them with the given number; the first argument is how
often a failure may be tried again. -/
def attempts (s : RpcSettings τ) (carrier : Carrier ω τ) (method : String) (payload : Value)
    (timeout : Option τ) : Nat → Nat → Stage (Connection ω) Value
  | 0, _ => attempt s carrier method payload timeout
  | left + 1, number => do
    match ← Stage.attempt (attempt s carrier method payload timeout) with
    | .ok v => pure v
    | .error fault =>
      if fault.isUnreachable then
        let delay ← Stage.ofExcept ((s.delay number (← outside carrier.jitter)).mapError .malformed)
        Stage.record .debug (retryMessage method fault number delay)
        outside fun w => ((), carrier.sleep delay w)
        attempts s carrier method payload timeout left (number + 1)
      else throw fault

/-- The number of the next request. -/
def nextId : Stage (Connection ω) Nat :=
  modifyGet fun s =>
    let id := s.world.lastId + 1
    (id, { s with world := { s.world with lastId := id } })

/-- Calls a method and answers with its result. -/
def request (s : RpcSettings τ) (carrier : Carrier ω τ) (method : String) (params : Value)
    (timeout : Option τ) : Stage (Connection ω) Value := do
  let id ← nextId
  attempts s carrier method (payload id method params) timeout s.maxRetries.toNat 1

/-- Ends the use of a connection. -/
def close : Stage (Connection ω) Unit :=
  modify fun s => { s with world := { s.world with isOpen := false } }

/-- Runs a stage on a new connection, and goes on with what is outside of it. -/
def onConnection {α : Type} (body : Stage (Connection ω) α) : Stage ω α := fun s =>
  let (r, t) := body.run.run { world := { outside := s.world }, log := s.log }
  pure (r, { world := t.world.outside, log := t.log })

/-- Runs a stage on a new connection with the given settings. -/
def connected {α : Type} (s : RpcSettings τ) (body : Stage (Connection ω) α) : Stage ω α := do
  Stage.ofExcept s.checkHeaders
  onConnection body

end Rpc
end LedgerFlow

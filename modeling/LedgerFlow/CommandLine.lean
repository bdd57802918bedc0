import LedgerFlow.CommandLine.Command
import LedgerFlow.Pipeline
import LedgerFlow.Rpc.Node

/-!
# The command line

Runs a command and reports what it printed and how it ended: zero for success, one for a failure or
an error, two for wrong usage and for a transaction whose outcome is not known yet.  Settings come
from the options, else from environment variables, else from the defaults.

An error that callers are expected to handle is printed; any other fault escapes and is reported as
such.
-/

namespace LedgerFlow
namespace CommandLine

/-- How a command ended. -/
structure Report where
  exit : Nat
  out : String := ""
  err : String := ""
  escaped : Option Fault := none
  deriving Inhabited

namespace Report

/-- The line that says how the program is used. -/
def usageLine : String := "Usage: soroban-tx [OPTIONS] COMMAND [ARGS]...\n"

def ofRefusal : Refusal → Report
  | .misused => { exit := 2, err := usageLine }
  | .helpWanted => { exit := 0, out := usageLine }

/-- A command that ended with an error message. -/
def failed (message : String) : Report := { exit := 1, err := "Error: " ++ message ++ "\n" }

/-- A command that ended with a fault that it does not handle. -/
def ofEscaped (f : Fault) : Report := { exit := 1, escaped := some f }

/-- A command that printed a line and succeeded. -/
def printed (line : String) : Report := { exit := 0, out := line ++ "\n" }

end Report

/-- What a command runs on besides the network: a clock and a way to wait. -/
structure Host (ω τ : Type) where
  carrier : Carrier ω τ
  now : ω → τ
  sleep : τ → ω → ω

/-- A command in a session; it may end early with a report. -/
abbrev Running (ω : Type) := ExceptT Report (StateM (Session ω))

/-- The report of a fault that is printed.  To word one with a number that has no text is a fault of its
own. -/
def ofHandled (f : Fault) : Report :=
  if f.isTellable then .failed f.message else .ofEscaped (.malformed .badNumber)

/-- A result, or the end of the command: a fault of some sort is printed, any other escapes. -/
def orReport {α : Type} (isHandled : Fault → Bool) : Except Fault α → Except Report α
  | .ok a => .ok a
  | .error f => .error (if isHandled f then ofHandled f else .ofEscaped f)

/-- Whether a fault is one of the pipeline. -/
def isOfPipeline : Fault → Bool
  | .pipeline _ => true
  | _ => false

/-- The wire text of a command, from the command line or from the input. -/
def wireText (wire : Option String) (input : String) : Except Report String :=
  let given := if Command.meansInput wire then input else wire.getD ""
  let text := Text.trim given
  if text.isEmpty then .error (.failed "no wire input given") else .ok text

/-- The model in the wire text of a command. -/
def model (wire : Option String) (input : String) : Except Report Model := do
  orReport Fault.isBadValue ((Model.ofAnyWire (← wireText wire input)).mapError .malformed)

def transactionOf : Model → Except Report Transaction
  | .envelope e => .ok e.tx
  | .transaction tx => .ok tx
  | m => .error (.failed ("expected a transaction, got " ++ m.typeName))

def envelopeOf : Model → Except Report Envelope
  | .envelope e => .ok e
  | .transaction tx => .ok { tx }
  | m => .error (.failed ("expected a transaction envelope, got " ++ m.typeName))

/-- The keys that a command signs with. -/
def keystore (secretKeys : List String) : Except Report Keystore :=
  orReport Fault.isBadValue (Keystore.ofSeeds secretKeys)

/-- The JSON text of a report. -/
def jsonLine (v : Value) : String := (Json.write? (.printed (some 2)) 0 v).getD "" ++ "\n"

/-- The report of an outcome. -/
def ofOutcome (o : Outcome) : Report :=
  let out := jsonLine o.toValue
  match o with
  | .timeout hash attempts _ => { exit := 2, out, err := Outcome.advice hash attempts ++ "\n" }
  | .failed _ => { exit := 1, out }
  | _ => { exit := 0, out }

/-- The report of a call that was not submitted. -/
def ofView (sim : Simulation) : Report :=
  { exit := 0
    out := jsonLine (.record [("status", .text "view"),
      ("results", .list (sim.results.map (·.returned)))]) }

/-- The report of a transaction that was looked up. -/
def ofStatus (txHash : String) (reply : StatusReply) : Report :=
  { exit := if reply.status == "FAILED" then 1 else 0
    out := jsonLine (.record [("status", .text reply.status), ("hash", .text txHash),
      ("latestLedger", .int reply.latestLedger), ("ledger", .ofOption .int reply.ledger),
      ("result", reply.result), ("resultMeta", reply.resultMeta),
      ("events", .ofTexts reply.events)]) }

variable {ω τ : Type} [Measure τ]

/-- The configuration of a command. -/
def configOf (env : Environment) (g : Globals) : Except Fault (Config τ) := do
  let config ← Config.ofEnvironment env "SOROBAN_"
  config.override [("rpc_url", .ofOption .text g.rpcUrl),
    ("network_passphrase", .ofOption .text g.networkPassphrase)]

/-- The configuration of a command, or its end. -/
def configOrReport (env : Environment) (g : Globals) : Except Report (Config τ) :=
  match configOf env g with
  | .ok config => .ok config
  | .error f =>
    .error (if f.isBadValue then .failed ("invalid configuration: " ++ f.message) else .ofEscaped f)

/-- The configuration with another fee floor, if one is given. -/
def withFee (config : Config τ) (fee : Option Int) : Except Report (Config τ) :=
  orReport (fun _ => false) (config.override [("base_fee", .ofOption .int fee)])

/-- The pipeline of a command on a connection. -/
def pipeline (host : Host ω τ) (config : Config τ) (keys : Keystore) :
    Pipeline (Connection ω) τ where
  config
  env := {
    node := Rpc.node (.ofConfig config) host.carrier
    signer := keys.sign
    now := fun c => host.now c.outside
    cancellation := fun _ => none
    sleep := fun d c => { c with outside := host.sleep d c.outside } }

/-- Runs a stage; errors of the pipeline are printed. -/
def staged {α : Type} (body : Stage ω α) : Running ω α := do
  let r ← ExceptT.lift body.run
  ExceptT.mk (pure (orReport isOfPipeline r))

/-- Runs a stage on a connection to the node. -/
def onNode {α : Type} (config : Config τ) (body : Stage (Connection ω) α) : Running ω α :=
  staged (Rpc.connected (.ofConfig config) body)

/-- The result of a step that needs no node. -/
def known {α : Type} (r : Except Report α) : Running ω α := ExceptT.mk (pure r)

def simulate (host : Host ω τ) (config : Config τ) (input : String) (wire : Option String)
    (instructions fee : Option Int) : Running ω Report := do
  let config ← known (withFee config fee)
  let draft ← known (model wire input >>= transactionOf)
  let p := pipeline host config {}
  let assembled ← onNode config do
    let sim ← p.simulate draft
    p.assemble draft sim (.ok instructions)
  pure (.printed assembled.wire)

def sign (config : Config τ) (input : String) (wire : Option String) (secretKey : String) :
    Running ω Report := do
  let envelope ← known (model wire input >>= envelopeOf)
  let keys ← known (keystore [secretKey])
  let address := keys.addresses.headD ""
  let signed ← staged (envelope.sign keys.sign address config.networkPassphrase)
  pure (.printed signed.wire)

def send (host : Host ω τ) (config : Config τ) (input : String) (wire : Option String) :
    Running ω Report := do
  let envelope ← known (model wire input >>= envelopeOf)
  let p := pipeline host config {}
  let outcome ← onNode config do
    let submission ← p.submit envelope
    let (_, ending) ← p.poll submission
    Stage.ofExcept ending
  pure (ofOutcome outcome)

def run (host : Host ω τ) (config : Config τ) (input : String) (wire : Option String)
    (secretKeys : List String) (options : RunOptions) (fee : Option Int) : Running ω Report := do
  let config ← known (withFee config fee)
  let draft ← known (model wire input >>= transactionOf)
  let keys ← known (keystore secretKeys)
  let result ← onNode config ((pipeline host config keys).run draft options)
  match result.submission with
  | none => pure (ofView result.simulation)
  | some submission => pure (ofOutcome submission.outcome)

def fetch (host : Host ω τ) (config : Config τ) (txHash : String) : Running ω Report := do
  let node := Rpc.node (RpcSettings.ofConfig config) host.carrier
  let reply ← onNode config (node.status txHash (some config.requestTimeout))
  pure (ofStatus txHash reply)

/-- Runs a command. -/
def execute (host : Host ω τ) (config : Config τ) (input : String) : Command → Running ω Report
  | .version => pure (.printed ("soroban-tx " ++ LedgerFlow.version))
  | .simulate wire instructions fee => simulate host config input wire instructions fee
  | .hash wire => do
    let tx ← known (model wire input >>= transactionOf)
    pure (.printed (tx.hash config.networkPassphrase))
  | .sign wire secretKey => sign config input wire secretKey
  | .send wire => send host config input wire
  | .run wire secretKeys expirationLedger instructions skipView fee =>
    run host config input wire secretKeys
      { expirationLedger, instructions := .ok instructions, skipView } fee
  | .fetch txHash => fetch host config txHash
  | .decode wire => do
    let m ← known (model wire input)
    known (orReport (fun _ => false) (.printed <$> (m.toValue.toJson (some 2)).mapError .malformed))

/-- The level from which records are logged. -/
def thresholdOf (g : Globals) (config : Config τ) : Int :=
  if g.verbose then Level.debug.number else Level.threshold config.logLevel

/-- Runs the command after the options before it.  Its configuration is checked before its own
words are read. -/
def runCommand (host : Host ω τ) (env : Environment) (input : String) (g : Globals)
    (words : List String) : StateM (Session ω) Report := fun s =>
  match (configOrReport env g : Except Report (Config τ)) with
  | .error report => (report, s)
  | .ok config =>
    match Command.read env words with
    | .error refusal => (.ofRefusal refusal, s)
    | .ok command =>
      let (ending, t) := (execute host config input command).run.run { s with log := [] }
      let report := match ending with
        | .ok report => report
        | .error report => report
      (report, { t with log := s.log ++ shownRecords (thresholdOf g config) t.log })

/-- Why words that name no command are refused; they may still ask for help. -/
def refusalOf (env : Environment) (words : List String) : Refusal :=
  match readGlobals env words with
  | .error refusal => refusal
  | .ok _ => .misused

/-- Runs a command line. -/
def runWords (host : Host ω τ) (env : Environment) (input : String) (words : List String) :
    StateM (Session ω) Report :=
  match readGlobals env words with
  | .error refusal => pure (.ofRefusal refusal)
  | .ok (g, rest) =>
    if Command.isKnown rest then runCommand host env input g rest
    else pure (.ofRefusal (refusalOf env rest))

/-- Whether a command line reads the input. -/
def readsInput (env : Environment) (words : List String) : Bool :=
  match readGlobals env words with
  | .error _ => false
  | .ok (_, rest) =>
    match Command.read env rest with
    | .ok command => command.readsInput
    | .error _ => false

end CommandLine
end LedgerFlow

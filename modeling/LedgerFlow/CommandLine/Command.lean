import LedgerFlow.CommandLine.Options
import LedgerFlow.Config
import LedgerFlow.Text.Blank

/-!
# Commands

What the words of a command line ask for.  Options that are not given may come from environment
variables; a variable that is empty counts as not set.
-/

namespace LedgerFlow
namespace CommandLine

/-- The options that stand before the command. -/
structure Globals where
  rpcUrl : Option String := none
  networkPassphrase : Option String := none
  verbose : Bool := false
  deriving DecidableEq, Repr, Inhabited

/-- A command.  Wire text that is not given comes from the input. -/
inductive Command where
  | version
  /-- Simulate a draft and print the assembled transaction. -/
  | simulate (wire : Option String) (instructions fee : Option Int)
  /-- Print the hash of a transaction. -/
  | hash (wire : Option String)
  /-- Sign an envelope and print it. -/
  | sign (wire : Option String) (secretKey : String)
  /-- Submit an envelope and wait for its outcome. -/
  | send (wire : Option String)
  /-- Run the whole pipeline on a draft. -/
  | run (wire : Option String) (secretKeys : List String)
      (expirationLedger instructions : Option Int) (skipView : Bool) (fee : Option Int)
  /-- Look a transaction up by its hash. -/
  | fetch (txHash : String)
  /-- Print wire text as JSON. -/
  | decode (wire : Option String)
  deriving DecidableEq, Repr, Inhabited

namespace Command

/-- The wire text that a command is given; nothing for a command without one. -/
def wire? : Command → Option (Option String)
  | .simulate wire _ _ | .hash wire | .sign wire _ | .send wire | .run wire _ _ _ _ _
  | .decode wire => some wire
  | .version | .fetch _ => none

/-- Whether wire text stands for the input. -/
def meansInput (wire : Option String) : Bool := wire.all fun w => w == "-"

/-- Whether a command reads the input. -/
def readsInput (c : Command) : Bool := c.wire?.any meansInput

end Command

/-- A variable that is set and not empty. -/
def nonempty? (env : Environment) (name : String) : Option String :=
  (env.lookup name).filter fun s => !s.isEmpty

/-- The value of an option, or of the variable behind it. -/
def textOption (env : Environment) (w : Words) (name : String) (variableName : Option String) :
    Option String :=
  w.value? name <|> variableName.bind (nonempty? env)

/-- A whole number, if one is given; it may be written with a fraction of zeros. -/
def wholeNumber (given : Option String) : Except Refusal (Option Int) :=
  match given with
  | none => .ok none
  | some s =>
    match Number.integral? s.toList with
    | some n => .ok (some n)
    | none => .error .misused

/-- The only argument, if there is one. -/
def soleArgument (w : Words) : Except Refusal (Option String) :=
  match w.arguments with
  | [] => .ok none
  | [word] => .ok (some word)
  | _ => .error .misused

/-- The variable that holds secret keys. -/
def secretKeyVariable : String := "SOROBAN_SECRET_KEY"

/-- The variable that holds the fee floor. -/
def feeVariable : String := "SOROBAN_FEE"

/-- The options before the command, and the words from the command on. -/
def readGlobals (env : Environment) (words : List String) :
    Except Refusal (Globals × List String) := do
  if words.isEmpty then .error .misused
  else
    let w ← readWords
      [{ name := "--rpc-url" }, { name := "--network-passphrase" },
        .flag "--verbose" (some 'v')] true words
    pure (
      { rpcUrl := textOption env w "--rpc-url" (some "SOROBAN_RPC_URL")
        networkPassphrase :=
          textOption env w "--network-passphrase" (some "SOROBAN_NETWORK_PASSPHRASE")
        verbose := w.has "--verbose" }, w.arguments)

namespace Command

/-- The command that prints the version. -/
def readVersion (words : List String) : Except Refusal Command := do
  let w ← readWords [] false words
  if w.arguments.isEmpty then pure .version else .error .misused

def readSimulate (env : Environment) (words : List String) : Except Refusal Command := do
  let w ← readWords [{ name := "--instructions" }, { name := "--fee" }] false words
  let instructions ← wholeNumber (textOption env w "--instructions" none)
  let fee ← wholeNumber (textOption env w "--fee" (some feeVariable))
  pure (.simulate (← soleArgument w) instructions fee)

def readSign (env : Environment) (words : List String) : Except Refusal Command := do
  let w ← readWords [{ name := "--secret-key" }] false words
  match textOption env w "--secret-key" (some secretKeyVariable) with
  | some secretKey => pure (.sign (← soleArgument w) secretKey)
  | none => .error .misused

def readRun (env : Environment) (words : List String) : Except Refusal Command := do
  let w ← readWords
    [{ name := "--secret-key" }, { name := "--expiration-ledger" }, { name := "--instructions" },
      .flag "--skip-view" none, { name := "--fee" }] false words
  let given := w.values "--secret-key"
  let secretKeys :=
    if given.isEmpty then ((nonempty? env secretKeyVariable).map Text.words).getD [] else given
  let expirationLedger ← wholeNumber (textOption env w "--expiration-ledger" none)
  let instructions ← wholeNumber (textOption env w "--instructions" none)
  let fee ← wholeNumber (textOption env w "--fee" (some feeVariable))
  pure (.run (← soleArgument w) secretKeys expirationLedger instructions (w.has "--skip-view") fee)

def readFetch (words : List String) : Except Refusal Command := do
  match ← soleArgument (← readWords [] false words) with
  | some txHash => pure (.fetch txHash)
  | none => .error .misused

/-- A command that takes wire text and nothing else. -/
def readWireOnly (make : Option String → Command) (words : List String) :
    Except Refusal Command := do
  pure (make (← soleArgument (← readWords [] false words)))

/-- A command on transactions.  Words that name none may still ask for help. -/
def readTransactionCommand (env : Environment) (words : List String) :
    Except Refusal Command := do
  match (← readWords [] true words).arguments with
  | "simulate" :: rest => readSimulate env rest
  | "hash" :: rest => readWireOnly .hash rest
  | "sign" :: rest => readSign env rest
  | "send" :: rest => readWireOnly .send rest
  | "run" :: rest => readRun env rest
  | "fetch" :: rest => readFetch rest
  | "decode" :: rest => readWireOnly .decode rest
  | others => do
    let _ ← readWords [] true others
    .error .misused

/-- The command that words ask for. -/
def read (env : Environment) : List String → Except Refusal Command
  | "version" :: rest => readVersion rest
  | "tx" :: rest => readTransactionCommand env rest
  | _ => .error .misused

/-- Whether the first word names a command or a group of commands. -/
def isKnown : List String → Bool
  | "version" :: _ | "tx" :: _ => true
  | _ => false

end Command
end CommandLine
end LedgerFlow

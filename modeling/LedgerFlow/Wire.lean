import LedgerFlow.Codec.Base64
import LedgerFlow.Codec.Cbor.Decoder
import LedgerFlow.Codec.Hex
import LedgerFlow.Hash.Sha2
import LedgerFlow.Text.Blank
import LedgerFlow.Transaction

/-!
# Wire text and hashes

A model travels as the base-64 text of its canonical payload, so equal models have equal text.
`ofWire` reads a model of a known type, `Model.ofAnyWire` finds the type by its fields.

The hash of a transaction and the payload of an authorization entry mix in the network, so nothing
signed for one network is valid on another.
-/

namespace LedgerFlow

variable {ο : Type}

namespace Wire

/-- The wire text of a value. -/
def encode [Objects ο] (v : Value ο) : String := Base64.encode (Cbor.encode v)

/-- The map that a wire text holds; blanks around the text do not matter. -/
def payload [Objects ο] [Cbor.Library ο] (text : String) : Value.Read (Value ο) :=
  let trimmed := Text.trim text
  if trimmed.isEmpty then .error .emptyWire
  else match Base64.decode? trimmed with
    | none => .error .wireText
    | some raw =>
      match Cbor.decode? raw with
      | .error .illFormed => .error .wirePayload
      | .error .foreign => .error .foreign
      | .ok (.map entries) => .ok (.map entries)
      | .ok _ => .error .wireNotMap

/-- Missing fields and wrong types become the failure to describe the named model. -/
def asModel {α : Type} (model : String) : Value.Read α → Value.Read α
  | .error (.missing key) => .error (.wireModel model (some key))
  | .error .wrongType => .error (.wireModel model none)
  | r => r

/-- Reads the wire text of a named model. -/
def decode [Objects ο] [Cbor.Library ο] {α : Type} (model : String) (read : Value ο → Value.Read α)
    (text : String) : Value.Read α := do
  asModel model (read (← payload text))

/-- Wire text given as a value: anything but text is no wire text. -/
def textOf (v : Value) : Value.Read String :=
  match v with
  | .text s => .ok s
  | _ => .error .emptyWire

end Wire

def SorobanData.wire [Objects ο] (d : SorobanData ο) : String := Wire.encode d.toValue

def SorobanData.ofWire [Objects ο] [Cbor.Library ο] (text : String) : Value.Read (SorobanData ο) :=
  Wire.decode "SorobanData" SorobanData.ofValue text

def AuthEntry.wire [Objects ο] (e : AuthEntry ο) : String := Wire.encode e.toValue

def AuthEntry.ofWire [Objects ο] [Cbor.Library ο] (text : String) : Value.Read (AuthEntry ο) :=
  Wire.decode "AuthorizationEntry" AuthEntry.ofValue text

def Transaction.wire [Objects ο] (tx : Transaction ο) : String := Wire.encode tx.toValue

def Transaction.ofWire [Objects ο] [Cbor.Library ο] (text : String) : Value.Read (Transaction ο) :=
  Wire.decode "Transaction" Transaction.ofValue text

def Envelope.wire [Objects ο] (e : Envelope ο) : String := Wire.encode e.toValue

def Envelope.ofWire [Objects ο] [Cbor.Library ο] (text : String) : Value.Read (Envelope ο) :=
  Wire.decode "TransactionEnvelope" Envelope.ofValue text

/-- The models that are recognized by their fields. -/
inductive Model (ο : Type := Empty) where
  | envelope (e : Envelope ο)
  | transaction (tx : Transaction ο)
  | authEntry (e : AuthEntry ο)
  | sorobanData (d : SorobanData ο)
  deriving Inhabited

namespace Model

/-- The name of the type of a model. -/
def typeName : Model ο → String
  | .envelope _ => "TransactionEnvelope"
  | .transaction _ => "Transaction"
  | .authEntry _ => "AuthorizationEntry"
  | .sorobanData _ => "SorobanData"

def toValue : Model ο → Value ο
  | .envelope e => e.toValue
  | .transaction tx => tx.toValue
  | .authEntry e => e.toValue
  | .sorobanData d => d.toValue

def wire [Objects ο] (m : Model ο) : String := Wire.encode m.toValue

/-- The model of a map: the first of four marking fields decides. -/
def ofValue [Objects ο] (v : Value ο) : Value.Read (Model ο) :=
  if (v.field? "tx").isSome then
    .envelope <$> Wire.asModel "TransactionEnvelope" (Envelope.ofValue v)
  else if (v.field? "seqNum").isSome then
    .transaction <$> Wire.asModel "Transaction" (Transaction.ofValue v)
  else if (v.field? "rootInvocation").isSome then
    .authEntry <$> Wire.asModel "AuthorizationEntry" (AuthEntry.ofValue v)
  else if (v.field? "resources").isSome then
    .sorobanData <$> Wire.asModel "SorobanData" (SorobanData.ofValue v)
  else do
    let keys ← (← v.toItems).mapM Value.toText
    .error (.wireUnrecognized (keys.mergeSort fun a b => decide (a ≤ b)))

/-- Reads wire text without knowing its type. -/
def ofAnyWire [Objects ο] [Cbor.Library ο] (text : String) : Value.Read (Model ο) := do
  ofValue (← Wire.payload text)

end Model

/-- The identifier of a network. -/
def networkId (passphrase : String) : Bytes := sha256 (Utf8.encode passphrase)

namespace Transaction

/-- What the hash of a transaction is made of. -/
def preimage (tx : Transaction ο) (passphrase : String) : Value ο :=
  .record [("networkId", .bytes (networkId passphrase)), ("tx", tx.toValue)]

/-- The hash of a transaction on a network; signatures do not enter it. -/
def hashBytes [Objects ο] (tx : Transaction ο) (passphrase : String) : Bytes :=
  sha256 (Cbor.encode (tx.preimage passphrase))

/-- The hash as hexadecimal text. -/
def hash [Objects ο] (tx : Transaction ο) (passphrase : String) : String :=
  Hex.encode (tx.hashBytes passphrase)

end Transaction

namespace AuthEntry

/-- What an address signs to authorize an entry up to a ledger. -/
def preimage (e : AuthEntry ο) (passphrase : String) (expiration : Int) : Value ο :=
  .record [("networkId", .bytes (networkId passphrase)), ("nonce", .int e.nonce),
    ("signatureExpirationLedger", .int expiration), ("invocation", e.invocation.toValue)]

/-- The hash that an address signs. -/
def payload [Objects ο] (e : AuthEntry ο) (passphrase : String) (expiration : Int) : Bytes :=
  sha256 (Cbor.encode (e.preimage passphrase expiration))

/-- What makes two entries the same requirement: all but expiration and signature. -/
def identity [Objects ο] (e : AuthEntry ο) : Bytes :=
  Cbor.encode (.record [("address", e.address), ("nonce", .int e.nonce),
    ("invocation", e.invocation.toValue)])

end AuthEntry
end LedgerFlow

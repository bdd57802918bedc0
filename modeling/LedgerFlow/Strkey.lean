import LedgerFlow.Codec.Base32
import LedgerFlow.Hash.Crc16
import LedgerFlow.Text.Quoted
import LedgerFlow.Text.Upper

/-!
# Strkeys

The text form of keys and contract identifiers: base-32 of a version byte, a payload, and the
checksum of both with its low byte first, without padding.  The version byte selects the leading
letter and the length of the payload.  Each key has exactly one spelling: a text is accepted only
if its bytes are written as that text again.
-/

namespace LedgerFlow
namespace Strkey

/-- What a strkey stands for. -/
inductive Kind where
  | account
  | seed
  | contract
  | muxed
  deriving DecidableEq, Repr, Inhabited

namespace Kind

/-- The kinds in the order in which they are tried. -/
def all : List Kind := [.account, .seed, .contract, .muxed]

def name : Kind → String
  | .account => "account"
  | .seed => "seed"
  | .contract => "contract"
  | .muxed => "muxed"

def versionByte : Kind → UInt8
  | .account => 48
  | .seed => 144
  | .contract => 16
  | .muxed => 96

/-- A muxed account holds a key and an eight-byte identifier, every other kind 32 bytes. -/
def payloadLength : Kind → Nat
  | .muxed => 40
  | _ => 32

def letter : Kind → Char
  | .account => 'G'
  | .seed => 'S'
  | .contract => 'C'
  | .muxed => 'M'

/-- The kind of a name. -/
def ofName? (s : String) : Option Kind := all.find? fun k => k.name == s

/-- The kind of a version byte. -/
def ofVersion? (b : UInt8) : Option Kind := all.find? fun k => k.versionByte == b

end Kind

/-- Why a text is no strkey, or a payload cannot become one. -/
inductive Error where
  | unknownKind (name : String)
  | payloadLength (kind : Kind) (got : Nat)
  | empty
  | notUpperCase
  | notBase32
  | tooShort
  | checksum
  | nonCanonical
  | unknownVersion (byte : UInt8)
  | kindLength (kind : Kind)
  | wrongLetter (kind : Kind)
  | wrongVersion (kind : Kind)
  | wrongLength (kind : Kind)
  deriving DecidableEq, Repr, Inhabited

/-- The wording of an error. -/
def Error.message : Error → String
  | .unknownKind name => "unknown strkey kind: " ++ Text.quote name
  | .payloadLength kind got =>
    kind.name ++ " payload must be " ++ toString kind.payloadLength ++ " bytes, got " ++ toString got
  | .empty => "strkey must be a non-empty string"
  | .notUpperCase => "strkey must be upper-case"
  | .notBase32 => "invalid base32: "
  | .tooShort => "strkey too short"
  | .checksum => "checksum mismatch"
  | .nonCanonical => "non-canonical strkey encoding"
  | .unknownVersion byte => "unknown version byte " ++ toString byte.toNat
  | .kindLength kind => "bad payload length for " ++ kind.name
  | .wrongLetter kind =>
    "expected a " ++ kind.name ++ " strkey starting with "
      ++ Text.quote (String.singleton kind.letter)
  | .wrongVersion kind => "version byte mismatch for " ++ kind.name
  | .wrongLength kind =>
    kind.name ++ " payload must be " ++ toString kind.payloadLength ++ " bytes"

/-- The text of a version byte and a payload. -/
def spell (body : Bytes) : List Char := Base32.encode (body ++ Crc16.littleEndian body)

/-- The strkey of a payload. -/
def encode (kind : Kind) (payload : Bytes) : Except Error String :=
  if payload.length = kind.payloadLength then
    .ok (String.ofList (spell (kind.versionByte :: payload)))
  else .error (.payloadLength kind payload.length)

/-- The version byte and the payload of a text, checksum and spelling verified. -/
def body (text : String) : Except Error (UInt8 × Bytes) :=
  if text.isEmpty then .error .empty
  else if text ≠ Text.upper text then .error .notUpperCase
  else match Base32.decode? text.toList with
    | none => .error .notBase32
    | some raw =>
      match raw.take (raw.length - 2) with
      | [] => .error .tooShort
      | version :: payload =>
        if Crc16.littleEndian (version :: payload) ≠ raw.drop (raw.length - 2) then .error .checksum
        else if Base32.encode raw ≠ text.toList then .error .nonCanonical
        else .ok (version, payload)

/-- The kind of a strkey. -/
def kindOf (text : String) : Except Error Kind := do
  let (version, payload) ← body text
  match Kind.ofVersion? version with
  | none => .error (.unknownVersion version)
  | some kind =>
    if payload.length = kind.payloadLength then .ok kind else .error (.kindLength kind)

/-- The payload of a strkey of the given kind. -/
def decode (kind : Kind) (text : String) : Except Error Bytes :=
  if text.toList.head? ≠ some kind.letter then .error (.wrongLetter kind)
  else do
    let (version, payload) ← body text
    if version ≠ kind.versionByte then .error (.wrongVersion kind)
    else if payload.length = kind.payloadLength then .ok payload
    else .error (.wrongLength kind)

/-- Whether a text is a strkey, of one of some kinds if they are given. -/
def isValid (text : String) (kinds : Option (List Kind)) : Bool :=
  match kindOf text with
  | .error _ => false
  | .ok kind => kinds.elim true fun ks => ks.contains kind

/-- The key behind an account or muxed account. -/
def publicKey (address : String) : Except Error Bytes :=
  if address.toList.head? = some Kind.muxed.letter then
    (decode .muxed address).map fun payload => payload.take 32
  else decode .account address

/-- The account behind an address; a muxed account loses its identifier. -/
def accountId (address : String) : Except Error String := do
  encode .account (← publicKey address)

/-- The last four bytes of the key behind an address, which mark its signatures. -/
def hint (address : String) : Except Error Bytes :=
  (publicKey address).map fun key => key.drop (key.length - 4)

end Strkey
end LedgerFlow

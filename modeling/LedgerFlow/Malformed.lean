import LedgerFlow.Text.Quoted

/-!
# Malformed input

What keeps a dynamic value or a payload from being read.
-/

namespace LedgerFlow

/-- What keeps a value from being read. -/
inductive Malformed where
  /-- A value of this type cannot be used here. -/
  | wrongType
  /-- The value has no named fields. -/
  | noFields
  /-- The number is too large. -/
  | tooLarge
  /-- There is no room for so many bytes. -/
  | noRoom
  /-- The text is no number, or the number has no text. -/
  | badNumber
  /-- The value is out of range. -/
  | outOfRange (why : String)
  /-- A field is missing. -/
  | missing (key : String)
  | unknownMemoKind (kind : String)
  | unknownOperationKind (kind : String)
  | emptyWire
  /-- The wire text is not base64. -/
  | wireText
  /-- The wire bytes are no payload. -/
  | wirePayload
  /-- The payload holds an item that stands for an object.  Nothing is said of what becomes of it. -/
  | foreign
  | wireNotMap
  /-- The payload does not describe the model; the name of a missing field, if that is why. -/
  | wireModel (model : String) (lacking : Option String)
  /-- The payload describes no known model. -/
  | wireUnrecognized (keys : List String)
  deriving Inhabited

namespace Malformed

/-- The kind of failure, as messages name it. -/
def kind : Malformed → String
  | .wrongType => "TypeError"
  | .noFields => "AttributeError"
  | .tooLarge => "OverflowError"
  | .noRoom => "MemoryError"
  | .missing _ => "KeyError"
  | .foreign => "NotImplementedError"
  | _ => "ValueError"

/-- The names of the memo kinds, shown as a sequence. -/
def memoKindNames : String := "('text', 'id', 'hash', 'return')"

/-- The wording of a failure.  Text after a colon that only describes the input is left out. -/
def message : Malformed → String
  | .wrongType => "value of an unsuitable type"
  | .noFields => "value without fields"
  | .tooLarge => "number too large"
  | .noRoom => "too many bytes"
  | .badNumber => "<number>"
  | .outOfRange why => why
  | .missing key => Text.quote key
  | .unknownMemoKind kind =>
    "unknown memo kind " ++ Text.quote kind ++ "; expected one of " ++ memoKindNames
  | .unknownOperationKind kind => "unknown operation kind: " ++ kind
  | .emptyWire => "wire text must be a non-empty string"
  | .wireText => "invalid base64 wire text: "
  | .wirePayload => "invalid CBOR payload: "
  | .foreign => "item that stands for an object"
  | .wireNotMap => "wire payload must decode to a CBOR map"
  | .wireModel model lacking =>
    "wire payload is not a valid " ++ model ++ ": " ++ lacking.elim "" Text.quote
  | .wireUnrecognized keys =>
    "unrecognized wire payload with keys [" ++ ", ".intercalate (keys.map Text.quote) ++ "]"

/-- Whether a value is bad, in contrast to a wrong type, a missing field or a size. -/
def isBadValue : Malformed → Bool
  | .wrongType | .noFields | .tooLarge | .noRoom | .missing _ | .foreign => false
  | _ => true

/-- Whether the failure is one of the wording of this library, and not of a number or a type. -/
def hasMessage : Malformed → Bool
  | .wrongType | .noFields | .tooLarge | .noRoom | .badNumber | .outOfRange _ | .foreign => false
  | _ => true

end Malformed

end LedgerFlow

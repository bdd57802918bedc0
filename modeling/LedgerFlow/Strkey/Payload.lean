import LedgerFlow.Fault

/-!
# Strkeys of values

The payload of a strkey may be given as a dynamic value.
-/

namespace LedgerFlow
namespace Strkey

/-- The strkey of a payload.  An integer asks for so many zero bytes, which are made only if they
are as many as the kind needs. -/
def encodeValue (kind : Kind) (payload : Value) : Except Fault String :=
  match payload with
  | .int n => do
    let count ← (Value.zeroCount n).mapError Fault.malformed
    if count = kind.payloadLength then
      (encode kind (List.replicate count 0)).mapError .strkey
    else .error (.strkey (.payloadLength kind count))
  | v => do
    let bytes ← v.toBytes.mapError Fault.malformed
    (encode kind bytes).mapError .strkey

end Strkey
end LedgerFlow

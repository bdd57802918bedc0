import LedgerFlow.Value.Reader

/-!
# Authorization entries

An entry says who has to authorize which contract call.  Without an address it is covered by the
signature of the transaction; with one it is resolved by a signature of its own, valid up to a
ledger.
-/

namespace LedgerFlow

/-- A contract call and the calls it makes. -/
inductive Invocation (ο : Type := Empty) where
  | mk (contractId functionName : String) (args : List (Value ο)) (subInvocations : List (Invocation ο))
  deriving Inhabited

/-- A signature with the key it verifies under. -/
structure AuthSignature where
  publicKey : Bytes
  signature : Bytes
  deriving DecidableEq, Inhabited

/-- One authorization requirement.  A null address stands for the source account. -/
structure AuthEntry (ο : Type := Empty) where
  invocation : Invocation ο
  address : Value ο := .null
  nonce : Int := 0
  expiration : Int := 0
  signature : Option AuthSignature := none
  deriving Inhabited

variable {ο : Type}

namespace Invocation

mutual

def toValue : Invocation ο → Value ο
  | .mk contractId functionName args subs =>
    .record [("contractId", .text contractId), ("functionName", .text functionName),
      ("args", .list args), ("subInvocations", .list (toValues subs))]

/-- The values of several invocations. -/
def toValues : List (Invocation ο) → List (Value ο)
  | [] => []
  | i :: rest => toValue i :: toValues rest

end

/-- Reads an invocation from a value that nests less deep than the first argument says. -/
def ofValueWithin [Objects ο] : Nat → Value ο → Value.Read (Invocation ο)
  | 0, _ => .error .wrongType
  | depth + 1, v => do
    let contractId ← (← v.require "contractId").toText
    let functionName ← (← v.require "functionName").toText
    let args ← (← v.get "args").toItemsOrNone
    let subs ← (← v.get "subInvocations").toItemsIfPresent
    let subs ← subs.mapM (ofValueWithin depth)
    pure (.mk contractId functionName args subs)

/-- Reads an invocation; the contract and the function are taken as text. -/
def ofValue [Objects ο] (v : Value ο) : Value.Read (Invocation ο) := ofValueWithin (v.depth + 1) v

end Invocation

namespace AuthSignature

def toValue (s : AuthSignature) : Value ο :=
  .record [("publicKey", .bytes s.publicKey), ("signature", .bytes s.signature)]

def ofValue [Objects ο] (v : Value ο) : Value.Read AuthSignature := do
  let publicKey ← (← v.require "publicKey").toBytes
  let signature ← (← v.require "signature").toBytes
  pure { publicKey, signature }

end AuthSignature

namespace AuthEntry

/-- Whether the signature of the transaction covers the entry. -/
def usesSourceAccount (e : AuthEntry ο) : Bool := e.address.isNull

/-- Whether the entry needs no further signature. -/
def isResolved (e : AuthEntry ο) : Bool := e.address.isNull || e.signature.isSome

/-- The field `signature` is there only if the entry is signed. -/
def toValue (e : AuthEntry ο) : Value ο :=
  .record ([("rootInvocation", e.invocation.toValue), ("address", e.address),
    ("nonce", .int e.nonce), ("signatureExpirationLedger", .int e.expiration)]
    ++ (match e.signature with
      | some s => [("signature", s.toValue)]
      | none => []))

def ofValue [Objects ο] (v : Value ο) : Value.Read (AuthEntry ο) := do
  let signed ← v.get "signature"
  let invocation ← Invocation.ofValue (← v.require "rootInvocation")
  let address ← v.get "address"
  let nonce ← (← v.getD "nonce" (.int 0)).toInt
  let expiration ← (← v.getD "signatureExpirationLedger" (.int 0)).toInt
  let signature ← if signed.isNull then pure none else some <$> AuthSignature.ofValue signed
  pure { invocation, address, nonce, expiration, signature }

/-- Equality of entries, values compared as values. -/
def same [Objects ο] (a b : AuthEntry ο) : Bool := a.toValue.same b.toValue

/-- Equality of lists of entries. -/
def sameAll [Objects ο] : List (AuthEntry ο) → List (AuthEntry ο) → Bool
  | [], [] => true
  | a :: as, b :: bs => same a b && sameAll as bs
  | _, _ => false

end AuthEntry
end LedgerFlow

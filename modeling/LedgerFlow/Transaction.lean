import LedgerFlow.Transaction.Operation
import LedgerFlow.Transaction.Resources

/-!
# Transactions and envelopes

A transaction is a draft until a simulation is assembled into it.  Its identity is its source
account and sequence number; its fee is the total of inclusion fee and resource fee.  An envelope
is a transaction with signatures.

Every type here reads a dynamic value leniently with `ofValue` and writes its one normal form with
`toValue`.
-/

namespace LedgerFlow

/-- The transaction version that can carry resource data. -/
def currentVersion : Int := 1

/-- When a transaction is valid; a maximum of zero is no bound. -/
structure TimeBounds where
  minTime : Int := 0
  maxTime : Int := 0
  deriving DecidableEq, Inhabited

/-- What a memo holds. -/
inductive MemoKind where
  | text
  | id
  | hash
  | returnHash
  deriving DecidableEq, Repr, Inhabited

/-- A note on a transaction. -/
structure Memo (ο : Type := Empty) where
  kind : MemoKind
  value : Value ο
  deriving Inhabited

/-- A transaction, either a draft or assembled. -/
structure Transaction (ο : Type := Empty) where
  sourceAccount : String
  seqNum : Int
  operations : List (Operation ο) := []
  fee : Int := 100
  timeBounds : Option TimeBounds := none
  memo : Option (Memo ο) := none
  version : Int := currentVersion
  sorobanData : Option (SorobanData ο) := none
  deriving Inhabited

/-- An envelope signature, marked by the last four bytes of its key. -/
structure DecoratedSignature where
  hint : Bytes
  signature : Bytes
  deriving DecidableEq, Inhabited

/-- A transaction with signatures. -/
structure Envelope (ο : Type := Empty) where
  tx : Transaction ο
  signatures : List DecoratedSignature := []
  deriving Inhabited

variable {ο : Type}

namespace TimeBounds

def toValue (b : TimeBounds) : Value ο :=
  .record [("minTime", .int b.minTime), ("maxTime", .int b.maxTime)]

def ofValue [Objects ο] (v : Value ο) : Value.Read TimeBounds := do
  let minTime ← (← v.getD "minTime" (.int 0)).toInt
  let maxTime ← (← v.getD "maxTime" (.int 0)).toInt
  pure { minTime, maxTime }

end TimeBounds

namespace MemoKind

def name : MemoKind → String
  | .text => "text"
  | .id => "id"
  | .hash => "hash"
  | .returnHash => "return"

def all : List MemoKind := [.text, .id, .hash, .returnHash]

def ofName? (s : String) : Option MemoKind := all.find? fun k => k.name == s

theorem ofName?_name (k : MemoKind) : ofName? k.name = some k := by cases k <;> decide

end MemoKind

namespace Memo

def toValue (m : Memo ο) : Value ο :=
  .record [("kind", .text m.kind.name), ("value", m.value)]

def ofValue [Objects ο] (v : Value ο) : Value.Read (Memo ο) := do
  let kind ← (← v.require "kind").toText
  let value ← v.require "value"
  match MemoKind.ofName? kind with
  | some kind => pure { kind, value }
  | none => .error (.unknownMemoKind kind)

end Memo

namespace Transaction

/-- Source account and sequence number. -/
def identity (tx : Transaction ο) : String × Int := (tx.sourceAccount, tx.seqNum)

/-- The declared fee for resources; a draft has none. -/
def resourceFee (tx : Transaction ο) : Int := tx.sorobanData.elim 0 (·.resourceFee)

/-- What is left of the fee for inclusion in a ledger. -/
def inclusionFee (tx : Transaction ο) : Int := tx.fee - tx.resourceFee

/-- The operations that run on simulated resources, with their positions. -/
def sorobanOperations (tx : Transaction ο) : List (Nat × Operation ο) :=
  (tx.operations.zipIdx.filter fun p => p.1.isSoroban).map fun p => (p.2, p.1)

def toValue (tx : Transaction ο) : Value ο :=
  .record [("sourceAccount", .text tx.sourceAccount), ("seqNum", .int tx.seqNum),
    ("fee", .int tx.fee), ("timeBounds", .ofOption TimeBounds.toValue tx.timeBounds),
    ("memo", .ofOption Memo.toValue tx.memo),
    ("operations", .list (tx.operations.map Operation.toValue)), ("version", .int tx.version),
    ("sorobanData", .ofOption SorobanData.toValue tx.sorobanData)]

/-- Reads a part that counts as absent unless its value is present. -/
def optional [Objects ο] {α : Type} (read : Value ο → Value.Read α) (v : Value ο) :
    Value.Read (Option α) :=
  if v.isTruthy then some <$> read v else pure none

def ofValue [Objects ο] (v : Value ο) : Value.Read (Transaction ο) := do
  let bounds ← v.get "timeBounds"
  let note ← v.get "memo"
  let declared ← v.get "sorobanData"
  let sourceAccount ← (← v.require "sourceAccount").toText
  let seqNum ← (← v.require "seqNum").toInt
  let fee ← (← v.getD "fee" (.int 100)).toInt
  let timeBounds ← optional TimeBounds.ofValue bounds
  let memo ← optional Memo.ofValue note
  let operations ← (← (← v.get "operations").toItemsIfPresent).mapM Operation.ofValue
  let version ← (← v.getD "version" (.int currentVersion)).toInt
  let sorobanData ← optional SorobanData.ofValue declared
  pure { sourceAccount, seqNum, operations, fee, timeBounds, memo, version, sorobanData }

/-- Equality of transactions, values compared as values. -/
def same [Objects ο] (a b : Transaction ο) : Bool := a.toValue.same b.toValue

/-- All authorization entries, in order. -/
def authEntries (tx : Transaction ο) : List (AuthEntry ο) :=
  tx.operations.flatMap fun op => op.body.auth

/-- Whether some authorization entry still needs a signature. -/
def requiresAuth (tx : Transaction ο) : Bool := tx.authEntries.any fun e => !e.isResolved

/-- Whether the transaction only reads: an assembled contract call that writes nothing and needs
nobody but the source account. -/
def isView (tx : Transaction ο) : Bool :=
  match tx.sorobanData with
  | none => false
  | some data =>
    tx.operations.any (fun op => op.body.isInvocation)
      && data.resources.footprint.readWrite.isEmpty
      && tx.authEntries.all AuthEntry.usesSourceAccount

end Transaction

namespace DecoratedSignature

def toValue (s : DecoratedSignature) : Value ο :=
  .record [("hint", .bytes s.hint), ("signature", .bytes s.signature)]

def ofValue [Objects ο] (v : Value ο) : Value.Read DecoratedSignature := do
  let hint ← (← v.require "hint").toBytes
  let signature ← (← v.require "signature").toBytes
  pure { hint, signature }

end DecoratedSignature

namespace Envelope

def toValue (e : Envelope ο) : Value ο :=
  .record [("tx", e.tx.toValue), ("signatures", .list (e.signatures.map DecoratedSignature.toValue))]

def ofValue [Objects ο] (v : Value ο) : Value.Read (Envelope ο) := do
  let tx ← Transaction.ofValue (← v.require "tx")
  let signatures ← (← (← v.get "signatures").toItemsIfPresent).mapM DecoratedSignature.ofValue
  pure { tx, signatures }

end Envelope
end LedgerFlow

import LedgerFlow.Transaction.Authorization

/-!
# Operations

An operation is one of fifteen bodies, three of which need a simulation, and may name a source
account of its own.  `Body.kinds` lists the kinds in their order of registration; a body of any
other kind is not read.
-/

namespace LedgerFlow

/-- What an operation does. -/
inductive Body (ο : Type := Empty) where
  | invokeContract (contractId functionName args : Value ο) (auth : List (AuthEntry ο))
  | extendFootprintTtl (extendTo : Value ο)
  | restoreFootprint (keys : Value ο)
  | payment (destination asset amount : Value ο)
  | createAccount (destination startingBalance : Value ο)
  | changeTrust (asset limit : Value ο)
  | manageData (name value : Value ο)
  | accountMerge (destination : Value ο)
  | bumpSequence (bumpTo : Value ο)
  | createClaimableBalance (asset amount claimants : Value ο)
  | claimClaimableBalance (balanceId : Value ο)
  | clawbackClaimableBalance (balanceId : Value ο)
  | beginSponsoringFutureReserves (sponsoredId : Value ο)
  | endSponsoringFutureReserves
  | revokeSponsorship (ledgerKey : Value ο)
  deriving Inhabited

/-- A body, and the account it acts for when that is not the source of the transaction. -/
structure Operation (ο : Type := Empty) where
  body : Body ο
  sourceAccount : Value ο := .null
  deriving Inhabited

variable {ο : Type}

namespace Body

/-- The tag of a body. -/
def kind : Body ο → String
  | .invokeContract .. => "invoke_contract"
  | .extendFootprintTtl .. => "extend_footprint_ttl"
  | .restoreFootprint .. => "restore_footprint"
  | .payment .. => "payment"
  | .createAccount .. => "create_account"
  | .changeTrust .. => "change_trust"
  | .manageData .. => "manage_data"
  | .accountMerge .. => "account_merge"
  | .bumpSequence .. => "bump_sequence"
  | .createClaimableBalance .. => "create_claimable_balance"
  | .claimClaimableBalance .. => "claim_claimable_balance"
  | .clawbackClaimableBalance .. => "clawback_claimable_balance"
  | .beginSponsoringFutureReserves .. => "begin_sponsoring_future_reserves"
  | .endSponsoringFutureReserves => "end_sponsoring_future_reserves"
  | .revokeSponsorship .. => "revoke_sponsorship"

/-- All tags, in order of registration. -/
def kinds : List String :=
  ["invoke_contract", "extend_footprint_ttl", "restore_footprint", "payment", "create_account",
    "change_trust", "manage_data", "account_merge", "bump_sequence", "create_claimable_balance",
    "claim_claimable_balance", "clawback_claimable_balance", "begin_sponsoring_future_reserves",
    "end_sponsoring_future_reserves", "revoke_sponsorship"]

/-- The tags of bodies that run on simulated resources, sorted. -/
def sorobanKinds : List String :=
  ["extend_footprint_ttl", "invoke_contract", "restore_footprint"]

/-- Whether a body runs on simulated resources. -/
def isSoroban (b : Body ο) : Bool := sorobanKinds.contains b.kind

/-- Whether a body is a contract call. -/
def isInvocation : Body ο → Bool
  | .invokeContract .. => true
  | _ => false

/-- The authorization entries of a contract call; other bodies have none. -/
def auth : Body ο → List (AuthEntry ο)
  | .invokeContract _ _ _ auth => auth
  | _ => []

/-- A contract call with other authorization entries; other bodies stay as they are. -/
def withAuth (auth : List (AuthEntry ο)) : Body ο → Body ο
  | .invokeContract contractId functionName args _ =>
    .invokeContract contractId functionName args auth
  | b => b

/-- The named fields of a body. -/
def fields : Body ο → List (String × Value ο)
  | .invokeContract contractId functionName args auth =>
    [("contract_id", contractId), ("function_name", functionName), ("args", args),
      ("auth", .list (auth.map AuthEntry.toValue))]
  | .extendFootprintTtl extendTo => [("extend_to", extendTo)]
  | .restoreFootprint keys => [("keys", keys)]
  | .payment destination asset amount =>
    [("destination", destination), ("asset", asset), ("amount", amount)]
  | .createAccount destination startingBalance =>
    [("destination", destination), ("starting_balance", startingBalance)]
  | .changeTrust asset limit => [("asset", asset), ("limit", limit)]
  | .manageData name value => [("name", name), ("value", value)]
  | .accountMerge destination => [("destination", destination)]
  | .bumpSequence bumpTo => [("bump_to", bumpTo)]
  | .createClaimableBalance asset amount claimants =>
    [("asset", asset), ("amount", amount), ("claimants", claimants)]
  | .claimClaimableBalance balanceId => [("balance_id", balanceId)]
  | .clawbackClaimableBalance balanceId => [("balance_id", balanceId)]
  | .beginSponsoringFutureReserves sponsoredId => [("sponsored_id", sponsoredId)]
  | .endSponsoringFutureReserves => []
  | .revokeSponsorship ledgerKey => [("ledger_key", ledgerKey)]

def toValue (b : Body ο) : Value ο := .record (("kind", .text b.kind) :: b.fields)

/-- A field that a body has to have; the value is known to be a map. -/
def needed [Objects ο] (v : Value ο) (key : String) : Value.Read (Value ο) :=
  match v.field? key with
  | some x => .ok x
  | none => .error .wrongType

/-- A contract call.  Bad entries are reported before missing fields. -/
def invocationOfValue [Objects ο] (v : Value ο) : Value.Read (Body ο) := do
  let auth ← match v.field? "auth" with
    | some entries => do (← entries.toItemsIfPresent).mapM AuthEntry.ofValue
    | none => pure []
  let contractId ← needed v "contract_id"
  let functionName ← needed v "function_name"
  pure (.invokeContract contractId functionName ((v.field? "args").getD (.list [])) auth)

/-- The body of a known kind. -/
def ofKind [Objects ο] (kind : String) (v : Value ο) : Value.Read (Body ο) :=
  let listed := fun key => (v.field? key).getD (.list [])
  match kind with
  | "invoke_contract" => invocationOfValue v
  | "extend_footprint_ttl" => .extendFootprintTtl <$> needed v "extend_to"
  | "restore_footprint" => .ok (.restoreFootprint (listed "keys"))
  | "payment" => do
    pure (.payment (← needed v "destination") (← needed v "asset") (← needed v "amount"))
  | "create_account" => do
    pure (.createAccount (← needed v "destination") (← needed v "starting_balance"))
  | "change_trust" => do pure (.changeTrust (← needed v "asset") (← needed v "limit"))
  | "manage_data" => do
    pure (.manageData (← needed v "name") ((v.field? "value").getD .null))
  | "account_merge" => .accountMerge <$> needed v "destination"
  | "bump_sequence" => .bumpSequence <$> needed v "bump_to"
  | "create_claimable_balance" => do
    pure (.createClaimableBalance (← needed v "asset") (← needed v "amount") (listed "claimants"))
  | "claim_claimable_balance" => .claimClaimableBalance <$> needed v "balance_id"
  | "clawback_claimable_balance" => .clawbackClaimableBalance <$> needed v "balance_id"
  | "begin_sponsoring_future_reserves" =>
    .beginSponsoringFutureReserves <$> needed v "sponsored_id"
  | "end_sponsoring_future_reserves" => .ok .endSponsoringFutureReserves
  | "revoke_sponsorship" => .revokeSponsorship <$> needed v "ledger_key"
  | _ => .error (.unknownOperationKind (Text.quote kind))

def ofValue [Objects ο] (v : Value ο) : Value.Read (Body ο) := do
  match ← v.get "kind" with
  | .text kind => ofKind kind v
  | .list _ | .map _ => .error .wrongType
  | kind =>
    .error (if kind.hasLongNumber then .badNumber else .unknownOperationKind kind.shown)

end Body

namespace Operation

def kind (op : Operation ο) : String := op.body.kind

def isSoroban (op : Operation ο) : Bool := op.body.isSoroban

def toValue (op : Operation ο) : Value ο :=
  .record [("body", op.body.toValue), ("sourceAccount", op.sourceAccount)]

def ofValue [Objects ο] (v : Value ο) : Value.Read (Operation ο) := do
  let body ← Body.ofValue (← v.require "body")
  let sourceAccount ← v.get "sourceAccount"
  pure { body, sourceAccount }

/-- Equality of operations, values compared as values. -/
def same [Objects ο] (a b : Operation ο) : Bool := a.toValue.same b.toValue

end Operation
end LedgerFlow

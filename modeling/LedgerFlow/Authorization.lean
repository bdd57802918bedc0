import LedgerFlow.Keystore

/-!
# Resolving authorizations

Gets a signature for every requirement that needs one and puts the signed entries on the contract
call.  Entries of the source account and entries that are signed already are kept.  The expiration
is an explicit target or the latest ledger plus a horizon; the ledger is asked for at most once and
only when something needs a signature.  The same payload is signed once for the same address.  If
any signer fails, nothing is attached.
-/

namespace LedgerFlow

/-- How long signed authorizations are valid. -/
structure ExpirationPolicy where
  horizon : Int := 60
  target : Option Int := none
  deriving DecidableEq, Repr, Inhabited

namespace ExpirationPolicy

/-- A policy with a positive horizon and a positive target. -/
def make (horizon : Int) (target : Option Int) : Except Fault ExpirationPolicy :=
  if horizon ≤ 0 then .error .invalidHorizon
  else if target.any (fun t => decide (t ≤ 0)) then .error .invalidTarget
  else .ok { horizon, target }

end ExpirationPolicy

namespace Transaction

/-- The operations with other entries on the first contract call; nothing without one. -/
def replaceAuth? (entries : List AuthEntry) : List Operation → Option (List Operation)
  | [] => none
  | op :: rest =>
    if op.body.isInvocation then some ({ op with body := op.body.withAuth entries } :: rest)
    else (replaceAuth? entries rest).map (op :: ·)

/-- The entries of the first contract call. -/
def firstAuth? (tx : Transaction) : Option (List AuthEntry) :=
  (tx.operations.find? fun op => op.body.isInvocation).map fun op => op.body.auth

/-- The transaction with the given entries on its first contract call.  It stays as it is when it
has them already. -/
def withAuth (tx : Transaction) (entries : List AuthEntry) : Except Fault Transaction :=
  match tx.firstAuth? with
  | some present =>
    if AuthEntry.sameAll present entries then .ok tx
    else .ok { tx with operations := (replaceAuth? entries tx.operations).getD tx.operations }
  | none =>
    if entries.isEmpty then .ok tx
    else .error (.pipeline (.invalidDraft
      "authorization entries given but no invoke_contract operation" (some "operations")))

/-- The signed entry of a transaction for the same requirement; of several the last. -/
def signedEntry? (tx : Transaction) (e : AuthEntry) : Option AuthEntry :=
  (tx.authEntries.filter fun x => x.signature.isSome).reverse.find?
    fun x => x.identity == e.identity

/-- Whether a requirement still needs a signature. -/
def needsSignature (tx : Transaction) (e : AuthEntry) : Bool :=
  !e.isResolved && (tx.signedEntry? e).isNone

end Transaction

namespace Authorization

variable {ω : Type}

/-- The key that an address signs with. -/
def publicKey (address : String) : Except Fault Bytes :=
  if address.toList.head? = some Strkey.Kind.contract.letter then
    (Strkey.decode .contract address).mapError .strkey
  else (Strkey.publicKey address).mapError .strkey

/-- The ledger up to which signatures are valid. -/
def expiration (policy : ExpirationPolicy) (ledger : Stage ω Value) (knownLedger : Option Int)
    (firstSigner : String) : Stage ω Int :=
  match policy.target with
  | some target =>
    match knownLedger with
    | some known =>
      if target < known then
        Stage.fail (.authorizationDenied firstSigner
          ("expiration ledger " ++ toString target ++ " is below current ledger "
            ++ toString known))
      else pure target
    | none => pure target
  | none => do
    let current ← Stage.ofExcept ((← ledger).toInt.mapError .malformed)
    pure (current + policy.horizon)

/-- Signatures made so far, by address and payload. -/
abbrev Made := List ((String × Bytes) × AuthSignature)

/-- Asks the signer for a signature; any failure is a refusal by that address. -/
def askSigner (signer : Signer ω) (payload : Bytes) (address : String) : Stage ω Value := do
  match ← Stage.attempt (signer payload address) with
  | .ok answer => pure answer
  | .error (.pipeline (.signingDenied _ reason)) =>
    Stage.record .warning ("signer " ++ address ++ " denied authorization: " ++ reason)
    Stage.fail (.authorizationDenied address reason)
  | .error fault =>
    Stage.record .warning ("signer " ++ address ++ " failed: " ++ fault.message)
    Stage.fail (.authorizationDenied address (fault.kind ++ ": " ++ fault.message))

/-- The signature for a payload: one made before, or a new one. -/
def signatureFor (signer : Signer ω) (made : Made) (payload : Bytes) (address : String) :
    Stage ω (AuthSignature × Made) :=
  match made.lookup (address, payload) with
  | some sig => pure (sig, made)
  | none => do
    let answer ← askSigner signer payload address
    let publicKey ← Stage.ofExcept (publicKey address)
    let signature ← Stage.ofExcept (answer.toBytes.mapError .malformed)
    let sig : AuthSignature := { publicKey, signature }
    pure (sig, made ++ [((address, payload), sig)])

/-- Resolves the requirements one after another. -/
def resolveEntries (tx : Transaction) (signer : Signer ω) (passphrase : String)
    (expiration : Int) : Made → List AuthEntry → Stage ω (List AuthEntry)
  | _, [] => pure []
  | made, e :: rest =>
    if e.isResolved then do
      pure (e :: (← resolveEntries tx signer passphrase expiration made rest))
    else match tx.signedEntry? e with
      | some prior => do
        pure (prior :: (← resolveEntries tx signer passphrase expiration made rest))
      | none => do
        let address ← Stage.ofExcept (e.address.toText.mapError .malformed)
        let (sig, made) ← signatureFor signer made (e.payload passphrase expiration) address
        let out := { e with expiration, signature := some sig }
        pure (out :: (← resolveEntries tx signer passphrase expiration made rest))

/-- The transaction with every requirement resolved.  Requirements default to the entries on the
transaction. -/
def resolve (tx : Transaction) (requirements : Option (List AuthEntry)) (signer : Signer ω)
    (policy : ExpirationPolicy) (passphrase : String) (ledger : Stage ω Value)
    (knownLedger : Option Int) : Stage ω Transaction := do
  let requirements := requirements.getD tx.authEntries
  match requirements.filter tx.needsSignature with
  | [] =>
    Stage.ofExcept (tx.withAuth (requirements.map fun e => (tx.signedEntry? e).getD e))
  | first :: more =>
    let address ← Stage.ofExcept (first.address.toText.mapError .malformed)
    let limit ← expiration policy ledger knownLedger address
    let count := more.length + 1
    Stage.record .debug ("resolving " ++ toString count ++ " authorization " ++ entriesWord count
      ++ ", expiration ledger " ++ toString limit)
    let entries ← resolveEntries tx signer passphrase limit [] requirements
    Stage.ofExcept (tx.withAuth entries)

end Authorization
end LedgerFlow

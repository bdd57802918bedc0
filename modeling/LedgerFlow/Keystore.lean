import LedgerFlow.Curve.Ed25519
import LedgerFlow.Node

/-!
# Key store

Signing keys in memory, found by the exact text of their account address, in the order in which
they were first added.
-/

namespace LedgerFlow

/-- Seeds by address. -/
structure Keystore where
  keys : List (String × Bytes) := []
  deriving Inhabited

namespace Keystore

/-- The raw seed of a seed strkey. -/
def rawSeed (seed : String) : Except Fault Bytes :=
  (Strkey.decode .seed seed).mapError .invalidSeed

/-- The address of a raw seed. -/
def address (raw : Bytes) : Except Fault String :=
  (Strkey.encode .account (Ed25519.publicKey raw)).mapError .strkey

/-- The address of the key behind a seed strkey. -/
def addressForSeed (seed : String) : Except Fault String := do address (← rawSeed seed)

/-- Adds the key of a seed strkey and answers with its address. -/
def add (store : Keystore) (seed : String) : Except Fault (String × Keystore) := do
  let raw ← rawSeed seed
  let name ← address raw
  let keys :=
    if store.keys.any (fun k => k.1 == name) then
      store.keys.map fun k => if k.1 == name then (name, raw) else k
    else store.keys ++ [(name, raw)]
  pure (name, { keys })

/-- A store with the keys of several seed strkeys. -/
def ofSeeds (seeds : List String) : Except Fault Keystore :=
  seeds.foldlM (fun store seed => (·.2) <$> store.add seed) {}

/-- The addresses, in the order of their first addition. -/
def addresses (store : Keystore) : List String := store.keys.map (·.1)

/-- The seed behind an address. -/
def seed (store : Keystore) (signer : String) : Except Fault Bytes :=
  match store.keys.lookup signer with
  | some raw => .ok raw
  | none => .error (.pipeline (.signingDenied signer "no key for this address"))

/-- The public key behind an address. -/
def publicKey (store : Keystore) (signer : String) : Except Fault Bytes :=
  Ed25519.publicKey <$> store.seed signer

/-- The signature of a payload under the key of an address. -/
def signature (store : Keystore) (payload : Bytes) (signer : String) : Except Fault Bytes :=
  (fun raw => Ed25519.sign raw payload) <$> store.seed signer

/-- Signing as a capability. -/
def sign {ω : Type} (store : Keystore) : Signer ω := fun payload signer => do
  let sig ← Stage.ofExcept (store.signature payload signer)
  Stage.record .debug
    ("signing " ++ toString payload.length ++ "-byte payload for " ++ signer)
  pure (.bytes sig)

/-- Whether a signature of a payload is one by the account behind an address. -/
def verify (signer : String) (payload signature : Bytes) : Except Fault Bool :=
  match Strkey.publicKey signer with
  | .ok key => .ok (Ed25519.verify key payload signature)
  | .error e => .error (.strkey e)

end Keystore

namespace Envelope

variable {ω : Type}

/-- The envelope with one more signature by an address, over the hash of its transaction. -/
def sign (e : Envelope) (signer : Signer ω) (address passphrase : String) : Stage ω Envelope := do
  let answer ← signer (e.tx.hashBytes passphrase) address
  let hint ← Stage.ofExcept ((Strkey.hint address).mapError .strkey)
  let signature ← Stage.ofExcept (answer.toBytes.mapError .malformed)
  pure { e with signatures := e.signatures ++ [{ hint, signature }] }

end Envelope
end LedgerFlow

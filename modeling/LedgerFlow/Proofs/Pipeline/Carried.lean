import LedgerFlow.Proofs.Authorization.Carried
import LedgerFlow.Proofs.Pipeline.Frame

/-!
# Signed entries of a draft

An entry that is signed in the draft survives assembly, which gives entries only to a call that has none.
Authorization goes by the requirements of the simulation, so whether the entry is in the envelope that is
sent is up to what the node answered: `signed_carried_iff` says when it is, for a resolution on its own and
for a whole run, and `signed_lost` is a resolution that loses one.
-/

namespace LedgerFlow
namespace Transaction

/-- A call that has entries keeps them in assembly. -/
theorem mem_auth_attachAuth_of_mem {auth : List AuthEntry} {op : Operation} {a : AuthEntry}
    (h : a ∈ op.body.auth) : a ∈ (attachAuth auth op).body.auth := by
  have hsome : op.body.auth.isEmpty = false :=
    List.isEmpty_eq_false_iff.2 (List.ne_nil_of_mem h)
  rw [attachAuth, hsome, Bool.and_false, if_neg Bool.false_ne_true]
  exact h

theorem mem_authEntries_assembled_of_mem {tx : Transaction} {a : AuthEntry} (h : a ∈ tx.authEntries)
    (sim : Simulation) (base : Int) (budget : Option Int) :
    a ∈ (tx.assembled sim base budget).authEntries := by
  show a ∈ (withRestore _ (tx.operations.map _)).flatMap _
  rw [flatMap_auth_withRestore, List.flatMap_map]
  obtain ⟨op, hop, ha⟩ := List.mem_flatMap.1 h
  exact List.mem_flatMap.2 ⟨op, hop, mem_auth_attachAuth_of_mem ha⟩

end Transaction

namespace Pipeline

variable {ω τ : Type} [Timeline τ]

/-- **When a signed entry is still there.**  Resolving requirements keeps an entry that was signed on the
transaction before exactly when it is carried over.  A run hands every signed entry of the draft to the
resolution, and sends exactly those that are carried over under the requirements of the simulation. -/
theorem signed_carried_iff :
    (∀ (signer : Signer ω) (tx out : Transaction) (required : Option (List AuthEntry))
      (policy : ExpirationPolicy) (passphrase : String) (ledger : Stage ω Value) (known : Option Int)
      (s s' : Session ω),
      (Authorization.resolve tx required signer policy passphrase ledger known).outcome s =
        (.ok out, s') →
      ∀ a ∈ tx.authEntries, a.signature.isSome = true →
        (a ∈ out.authEntries ↔ tx.CarriesOver (required.getD tx.authEntries) out a)) ∧
    ∀ (p : Pipeline ω τ) (draft : Transaction) (options : RunOptions) (w before : ω)
      (log : List LogRecord) (e : Envelope) (timeout : Option τ) (reply : Except Fault SendReply),
      .send before e timeout reply ∈ p.calls draft options w log →
      ∃ sim assembled, (∃ before timeout,
          .simulate before draft timeout (.ok sim) ∈ p.calls draft options w log) ∧
        draft.assembleReading sim (.ok p.config.baseFee) options.instructions = .ok assembled ∧
        ∀ a ∈ draft.authEntries, a.signature.isSome = true → a ∈ assembled.authEntries ∧
          (a ∈ e.tx.authEntries ↔
            assembled.CarriesOver ((requirements sim).getD assembled.authEntries) e.tx a) := by
  constructor
  · intro signer tx out required policy passphrase ledger known s s' h a ha hsigned
    exact Authorization.mem_authEntries_resolve_iff h ha hsigned
  · intro p draft options w before log e timeout reply hsend
    obtain ⟨sim, budget, hsimulated, -, hassembled, policy, ledger, s, s', hresolve⟩ :=
      resolved_of_send hsend
    refine ⟨sim, _, hsimulated, hassembled, fun a ha hsigned => ?_⟩
    have hmem := Transaction.mem_authEntries_assembled_of_mem ha sim p.config.baseFee budget
    exact ⟨hmem, Authorization.mem_authEntries_resolve_iff hresolve hmem hsigned⟩

/-- An entry that is signed already. -/
def signedEntry : AuthEntry :=
  { invocation := .mk "C" "f" [.int 1] [], address := .text "G", nonce := 1, expiration := 500
    signature := some ⟨[1], [2]⟩ }

/-- An entry that the source account covers. -/
def coveredEntry : AuthEntry := { invocation := .mk "C" "f" [.int 1] [], nonce := 2 }

/-- A contract call with given entries. -/
def callWith (entries : List AuthEntry) : Transaction :=
  { sourceAccount := "G", seqNum := 1
    operations := [{ body := .invokeContract (.text "C") (.text "f") (.list [.int 1]) entries }] }

/-- The signed entry is kept when it is required beside another one. -/
theorem signed_carried_iff_required :
    let unsigned : AuthEntry := { signedEntry with expiration := 0, signature := none }
    let out := callWith [coveredEntry, signedEntry]
    (Authorization.resolve (callWith [signedEntry]) (some [coveredEntry, unsigned])
      agreeable.env.signer {} "test" (pure (.int 100)) none).outcome ⟨(), []⟩ = (.ok out, ⟨(), []⟩) ∧
    signedEntry ∈ (callWith [signedEntry]).authEntries ∧ signedEntry.signature.isSome = true ∧
    signedEntry ∈ out.authEntries ∧ (signedEntry ∈ out.authEntries ↔
      (callWith [signedEntry]).CarriesOver [coveredEntry, unsigned] out signedEntry) := by
  intro unsigned out
  have hresolve : (Authorization.resolve (callWith [signedEntry]) (some [coveredEntry, unsigned])
      agreeable.env.signer {} "test" (pure (.int 100)) none).outcome ⟨(), []⟩ =
        (.ok out, ⟨(), []⟩) := by
    with_unfolding_all rfl
  exact ⟨hresolve, List.mem_cons_self, rfl, List.mem_cons_of_mem _ List.mem_cons_self,
    (signed_carried_iff (τ := Rat)).1 _ _ _ _ _ _ _ _ _ _ hresolve signedEntry List.mem_cons_self rfl⟩

/-- The signed entry is lost when only another one is required: requirements replace the entries that
assembly kept. -/
theorem signed_lost :
    let tx := callWith [signedEntry]
    let out := callWith [coveredEntry]
    (Authorization.resolve tx (some [coveredEntry]) agreeable.env.signer {} "test" (pure (.int 100))
      none).outcome ⟨(), []⟩ = (.ok out, ⟨(), []⟩) ∧
    signedEntry ∈ tx.authEntries ∧ signedEntry.signature.isSome = true ∧
      signedEntry ∉ out.authEntries := by
  intro tx out
  refine ⟨by with_unfolding_all rfl, List.mem_cons_self, rfl, fun hin => ?_⟩
  have hsame : signedEntry = coveredEntry := List.mem_singleton.1 hin
  cases congrArg AuthEntry.nonce hsame

end Pipeline
end LedgerFlow

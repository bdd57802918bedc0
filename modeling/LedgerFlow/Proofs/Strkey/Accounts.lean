import LedgerFlow.Pipeline
import LedgerFlow.Proofs.Draft
import LedgerFlow.Proofs.Keystore

/-!
# The account behind an address

An account and every muxed account of it stand for one key, and the account behind an address spells
that key.  So it is an account, its own account, and has the same key and the same hint; and there is one
exactly for what a draft may have as its source.

The main statement is `accounts_agree`.  It ties the check of a draft to the signing stage: a source
account is let through exactly when the signing stage finds an address to sign for.
-/

namespace LedgerFlow

variable {ω τ : Type}

namespace Strkey

variable {text address : String}

/-- An address and the account behind it have one key. -/
theorem publicKey_of_accountId (h : accountId text = .ok address) :
    publicKey address = publicKey text := by
  obtain ⟨key, hkey, hdecode⟩ := accountId_eq_ok_iff.1 h
  rw [hkey, publicKey_of_decode hdecode]

/-- A muxed account of a key has the account of that key behind it. -/
theorem accountId_of_muxed {key id : Bytes} (hkey : key.length = 32) (hid : id.length = 8) :
    ∃ muxed address, encode .muxed (key ++ id) = .ok muxed ∧ encode .account key = .ok address ∧
      accountId muxed = .ok address := by
  have hlength : (key ++ id).length = Kind.muxed.payloadLength := by
    rw [List.length_append, hkey, hid]
    rfl
  have hfront : (key ++ id).take 32 = key := by
    rw [← hkey, List.take_left]
  refine ⟨_, _, encode_eq_ok_iff.2 ⟨hlength, rfl⟩, encode_eq_ok_iff.2 ⟨hkey, rfl⟩, ?_⟩
  refine accountId_eq_ok_iff.2 ⟨key, ?_, decode_eq_ok_iff.2 ⟨hkey, rfl⟩⟩
  exact publicKey_eq_ok_iff.2 (.inr ⟨key ++ id, decode_eq_ok_iff.2 ⟨hlength, rfl⟩, hfront⟩)

end Strkey

namespace Transaction

variable {tx : Transaction}

/-- The refusal of a source account. -/
def sourceRefusal (account : String) : PipelineError :=
  .invalidDraft ("invalid source account " ++ Text.quote account) (some "source_account")

/-- Of all refusals of a draft, that of its source says what the account is. -/
theorem validate_eq_sourceRefusal_iff (hoperations : tx.operations ≠ []) :
    tx.validate = .error (sourceRefusal tx.sourceAccount) ↔
      isAccount (.text tx.sourceAccount) = false := by
  have hplace : ∀ i : Nat,
      ("operations[" ++ toString i ++ "].source_account" : String) ≠ "source_account" := by
    intro i h
    have hfirst := congrArg (fun s => s.toList.head?) h
    simp at hfirst
  unfold validate sourceRefusal
  rw [if_neg (by simpa using hoperations)]
  cases hsource : isAccount (.text tx.sourceAccount) with
  | false => simp
  | true =>
      rw [if_neg (by simp)]
      split
      · simpa using fun _ => hplace _
      · dsimp only
        split <;> simp

/-- A source account is admitted when some draft with it is valid. -/
def Admits (account : String) : Prop :=
  ∃ tx : Transaction, tx.sourceAccount = account ∧ tx.validate = .ok ()

theorem admits_iff {account : String} : Admits account ↔ isAccount (.text account) = true := by
  constructor
  · rintro ⟨tx, rfl, hvalid⟩
    exact (validate_eq_ok_iff.1 hvalid).1.source
  · intro h
    let tx : Transaction :=
      { sourceAccount := account, seqNum := 0,
        operations := [{ body := .endSponsoringFutureReserves }] }
    refine ⟨tx, rfl, validate_eq_ok_iff.2 ⟨⟨List.cons_ne_nil _ _, h, ?_⟩, ?_⟩⟩
    · exact List.forall_mem_singleton.2 (.inl rfl)
    · rw [show tx.soroban = [] from rfl]
      exact Nat.zero_le 1

end Transaction

namespace Pipeline

variable {p : Pipeline ω τ} {tx : Transaction}

/-- Without a named signer the envelope is signed for the account behind the source. -/
theorem sign_of_accountId {address : String} (h : Strkey.accountId tx.sourceAccount = .ok address) :
    p.sign tx none = Envelope.sign { tx } p.env.signer address p.config.networkPassphrase := by
  unfold sign
  rw [h]
  rfl

/-- Without an account behind the source nothing is signed, and the signer is not asked. -/
theorem sign_of_refused {e : Strkey.Error} (h : Strkey.accountId tx.sourceAccount = .error e)
    (s : Session ω) : (p.sign tx none).outcome s = (.error (.strkey e), s) := by
  unfold sign
  rw [h]
  rfl

end Pipeline

namespace Strkey

/-- What stands behind a text, and who relies on it. -/
structure Account (ω τ : Type) (text : String) : Prop where
  exists_iff : (∃ address, accountId text = .ok address) ↔ isValid text (some [.account, .muxed]) = true
  refused_iff : (∃ e, accountId text = .error e) ↔ isValid text (some [.account, .muxed]) = false
  isValid_address : ∀ address, accountId text = .ok address → isValid address (some [.account]) = true
  /-- The account behind an account is itself. -/
  idempotent : ∀ address, accountId text = .ok address → accountId address = .ok address
  publicKey_eq : ∀ address, accountId text = .ok address → publicKey address = publicKey text
  hint_eq : ∀ address, accountId text = .ok address → hint address = hint text
  /-- As the source of a draft the text is let through exactly if there is an account behind it. -/
  admits_iff : Transaction.Admits text ↔ ∃ address, accountId text = .ok address
  /-- Every draft that is not empty is refused for such a source exactly if there is none. -/
  refusal_iff : ∀ tx : Transaction, tx.sourceAccount = text → tx.operations ≠ [] →
    (tx.validate = .error (Transaction.sourceRefusal text) ↔ ∃ e, accountId text = .error e)
  /-- Then, and only then, the signing stage finds an address to sign for. -/
  sign_eq : ∀ (p : Pipeline ω τ) (tx : Transaction) (address : String), tx.sourceAccount = text →
    accountId text = .ok address →
      p.sign tx none = Envelope.sign { tx } p.env.signer address p.config.networkPassphrase
  sign_refused : ∀ (p : Pipeline ω τ) (tx : Transaction) (e : Error) (s : Session ω),
    tx.sourceAccount = text → accountId text = .error e →
      (p.sign tx none).outcome s = (.error (.strkey e), s)

/-- **Muxed and plain accounts agree.**  Exactly the accounts and the muxed accounts have an account
behind them, which is an account with the same key; they are the sources that a draft may have, and
those that an envelope can be signed for.  The account behind a muxed account is that of its key,
whatever the identifier. -/
theorem accounts_agree (text : String) :
    Account ω τ text ∧ ∀ key id : Bytes, key.length = 32 → id.length = 8 →
      ∃ muxed address, encode .muxed (key ++ id) = .ok muxed ∧ encode .account key = .ok address ∧
        accountId muxed = .ok address := by
  have hrefused : (∃ e, accountId text = .error e) ↔
      isValid text (some [.account, .muxed]) = false := by
    rw [Bool.eq_false_iff, ne_eq, ← exists_accountId_iff]
    cases accountId text <;> simp
  refine ⟨?_, fun key id => accountId_of_muxed⟩
  constructor
  case exists_iff => exact exists_accountId_iff
  case refused_iff => exact hrefused
  case isValid_address =>
    intro address h
    obtain ⟨key, -, hdecode⟩ := accountId_eq_ok_iff.1 h
    exact isValid_some_iff.2 ⟨.account, List.mem_singleton_self _, key, hdecode⟩
  case idempotent =>
    intro address h
    obtain ⟨key, -, hdecode⟩ := accountId_eq_ok_iff.1 h
    exact accountId_eq_ok_iff.2 ⟨key, publicKey_of_decode hdecode, hdecode⟩
  case publicKey_eq => exact fun _ => publicKey_of_accountId
  case hint_eq =>
    intro address h
    rw [hint, hint, publicKey_of_accountId h]
  case admits_iff => exact Transaction.admits_iff.trans exists_accountId_iff.symm
  case refusal_iff =>
    rintro tx rfl hoperations
    exact (Transaction.validate_eq_sourceRefusal_iff hoperations).trans hrefused.symm
  case sign_eq =>
    rintro p tx address rfl h
    exact Pipeline.sign_of_accountId h
  case sign_refused =>
    rintro p tx e s rfl h
    exact Pipeline.sign_of_refused h s

/-- A muxed account, whose last bytes are an identifier. -/
theorem accounts_agree_muxed :
    let key : Bytes := List.replicate 32 5
    let id : Bytes := [0, 0, 0, 0, 0, 0, 4, 210]
    key.length = 32 ∧ id.length = 8 ∧
      ∃ muxed address, encode .muxed (key ++ id) = .ok muxed ∧ encode .account key = .ok address ∧
        accountId muxed = .ok address :=
  ⟨rfl, rfl, (accounts_agree (ω := Unit) (τ := Rat) "").2 _ _ rfl rfl⟩

end Strkey
end LedgerFlow

import LedgerFlow.Proofs.Keystore
import LedgerFlow.Proofs.Pipeline.Frame
import LedgerFlow.Proofs.Pipeline.Parts
import LedgerFlow.Proofs.Rpc.Answers
import LedgerFlow.Proofs.Submission.Lifecycle

/-!
# Faults of a run

A stage that fails is expected to end with an error of the family that callers of the pipeline handle.
`Pipeline.Escapes` lists every other fault that a run on remote calls with a key store can end with, each
with what causes it: an answer of the node that is no readable reply, options and settings that are only
looked at where they are needed, and numbers that have no text.

There is one rule for each stage, in terms of `Stage.EndsWithin`, and `run_endsWithin` follows them.
-/

namespace LedgerFlow

variable {ω τ : Type} {isFault : Fault → Prop}

/-! ## Parts of stages -/

namespace Draft

/-- What is made of a simulation: nothing if it reports an error, else itself. -/
theorem accept_endsWithin (hfamily : ∀ e, isFault (.pipeline e)) (sim : Simulation) :
    (accept sim : Stage ω Simulation).EndsWithin (fun out => out = sim) isFault := by
  unfold accept
  cases sim.error with
  | some message =>
      exact (Stage.EndsWithin.record _ _).bind fun _ _ => (Stage.EndsWithin.recordEvents _ _ _).bind
        fun _ _ => .throw (hfamily _)
  | none =>
      have hrecord : (recordSimulation sim : Stage ω Unit).EndsWithin (fun _ => True) isFault := by
        refine (Stage.EndsWithin.recordEvents _ _ _).bind fun _ _ =>
          (Stage.EndsWithin.record _ _).bind fun _ _ => ?_
        cases sim.restorePreamble with
        | some preamble => exact .record _ _
        | none => exact .pure trivial
      exact hrecord.bind fun _ _ => .pure rfl

end Draft

namespace Authorization

/-- Values that a signer of accounts may answer with. -/
def IsSigned (address : String) (v : Value) : Prop :=
  (∃ b, v = .bytes b) ∧ ∃ key, Strkey.decode .account address = .ok key

variable {signer : Signer ω}
  (hsigner : ∀ payload address, (signer payload address).EndsWithin (IsSigned address) Fault.InFamily)
  (hfamily : ∀ e, isFault (.pipeline e))

include hsigner hfamily

/-- A refusal by the signer is one of the authorization. -/
theorem askSigner_endsWithin (payload : Bytes) (address : String) :
    (askSigner signer payload address).EndsWithin (IsSigned address) isFault := by
  unfold askSigner
  refine (hsigner payload address).attempt.bind fun r hr => ?_
  split
  · exact .pure (hr.1 _ rfl)
  · exact (Stage.EndsWithin.record _ _).bind fun _ _ => .throw (hfamily _)
  · exact (Stage.EndsWithin.record _ _).bind fun _ _ => .throw (hfamily _)

/-- What an account signs has a key to be verified with. -/
theorem signatureFor_endsWithin (made : Made) (payload : Bytes) (address : String) :
    (signatureFor signer made payload address).EndsWithin (fun _ => True) isFault := by
  unfold signatureFor
  split
  · exact .pure trivial
  · refine (askSigner_endsWithin hsigner hfamily payload address).bind ?_
    rintro _ ⟨⟨b, rfl⟩, key, hkey⟩
    -- The public key is looked for after the signature; an address without one would be a fault.
    have hpublic : publicKey address = .ok key := by
      have hletter : address.toList.head? = some Strkey.Kind.account.letter := by
        rw [(Strkey.decode_eq_ok_iff.1 hkey).2, String.toList_ofList, Strkey.head?_spell]
      rw [publicKey, if_neg (by rw [hletter]; decide), Strkey.publicKey_of_decode hkey]
      rfl
    rw [hpublic]
    exact .pure trivial

omit hsigner hfamily in
/-- An address is told as a text unless its number has none. -/
theorem told_endsWithin {address : Value}
    (h : address.hasLongNumber = true → isFault (.malformed .badNumber)) :
    (Stage.ofExcept (address.toText.mapError .malformed) : Stage ω String).EndsWithin (fun _ => True)
      isFault := by
  unfold Value.toText
  split
  · exact .pure trivial
  · next o => cases o
  · split
    · next hlong => exact .throw (h hlong)
    · exact .pure trivial

theorem resolveEntries_endsWithin (tx : Transaction) (passphrase : String) (limit : Int)
    {entries : List AuthEntry}
    (haddress : ∀ e ∈ entries, e.address.hasLongNumber = true → isFault (.malformed .badNumber))
    (made : Made) :
    (resolveEntries tx signer passphrase limit made entries).EndsWithin (fun _ => True) isFault := by
  induction entries generalizing made with
  | nil => exact .pure trivial
  | cons e rest ih =>
      have hrest := ih fun e' he' => haddress e' (List.mem_cons_of_mem e he')
      unfold resolveEntries
      split
      · exact (hrest made).bind fun _ _ => .pure trivial
      · split
        · exact (hrest made).bind fun _ _ => .pure trivial
        · exact (told_endsWithin (haddress e List.mem_cons_self)).bind fun address _ =>
            (signatureFor_endsWithin hsigner hfamily made _ address).bind fun _ _ =>
              (hrest _).bind fun _ _ => .pure trivial

omit hsigner in
/-- The ledger is a number, and a target that has passed is refused. -/
theorem expiration_endsWithin (policy : ExpirationPolicy) {ledger : Stage ω Value}
    (hledger : ledger.EndsWithin (fun v => ∃ n, v = .int n) isFault) (known : Option Int)
    (address : String) :
    (expiration policy ledger known address).EndsWithin (fun _ => True) isFault := by
  unfold expiration
  split
  · split
    · split
      · exact .throw (hfamily _)
      · exact .pure trivial
    · exact .pure trivial
  · refine hledger.bind ?_
    rintro _ ⟨n, rfl⟩
    exact .pure trivial

omit hsigner in
/-- Entries without a contract call are refused; whatever takes them keeps its source account. -/
theorem withAuth_endsWithin (tx : Transaction) (entries : List AuthEntry) :
    (Stage.ofExcept (tx.withAuth entries) : Stage ω Transaction).EndsWithin
      (fun out => out.sourceAccount = tx.sourceAccount) isFault := by
  refine .ofExcept (fun out hout => ?_) fun f hf => ?_
  · rw [(Transaction.withAuth_eq_ok_frame hout).1]
  · unfold Transaction.withAuth at hf
    split at hf
    · split at hf <;> cases hf
    · split at hf
      · cases hf
      · cases hf
        exact hfamily _

theorem resolve_endsWithin (tx : Transaction) (requirements : Option (List AuthEntry))
    (policy : ExpirationPolicy) (passphrase : String) {ledger : Stage ω Value}
    (hledger : ledger.EndsWithin (fun v => ∃ n, v = .int n) isFault) (known : Option Int)
    (haddress : ∀ e ∈ requirements.getD tx.authEntries, e.address.hasLongNumber = true →
      isFault (.malformed .badNumber)) :
    (resolve tx requirements signer policy passphrase ledger known).EndsWithin
      (fun out => out.sourceAccount = tx.sourceAccount) isFault := by
  unfold resolve
  dsimp only
  split
  · exact withAuth_endsWithin hfamily tx _
  · next first more hneeds =>
      have hfirst : first ∈ requirements.getD tx.authEntries := by
        have hmem : first ∈ first :: more := List.mem_cons_self
        rw [← hneeds] at hmem
        exact (List.mem_filter.1 hmem).1
      exact (told_endsWithin (haddress first hfirst)).bind fun address _ =>
        (expiration_endsWithin hfamily policy hledger known address).bind fun limit _ =>
          (Stage.EndsWithin.record _ _).bind fun _ _ =>
            (resolveEntries_endsWithin hsigner hfamily tx passphrase limit haddress []).bind
              fun entries _ => withAuth_endsWithin hfamily tx entries

end Authorization

namespace Envelope

/-- An account signs an envelope, and its key marks the signature. -/
theorem sign_endsWithin {signer : Signer ω}
    (hsigner : ∀ payload address,
      (signer payload address).EndsWithin (Authorization.IsSigned address) Fault.InFamily)
    (hfamily : ∀ e, isFault (.pipeline e)) (e : Envelope) (address passphrase : String) :
    (e.sign signer address passphrase).EndsWithin (fun _ => True) isFault := by
  unfold sign
  refine ((hsigner _ address).mono (fun _ => id) ?_).bind ?_
  · rintro _ ⟨e, rfl⟩
    exact hfamily e
  · rintro _ ⟨⟨b, rfl⟩, key, hkey⟩
    rw [Strkey.hint, Strkey.publicKey_of_decode hkey]
    exact .pure trivial

end Envelope

namespace Submission

/-- What is not accepted is refused with an error of the family. -/
theorem classify_endsWithin (hfamily : ∀ e, isFault (.pipeline e)) (e : Envelope) (hash : String)
    (reply : SendReply) :
    (classify e hash reply : Stage ω Submission).EndsWithin
      (fun s => s = fresh hash (some e) (some reply)) isFault := by
  unfold classify
  split
  · exact (Stage.EndsWithin.record _ _).bind fun _ _ => (Stage.EndsWithin.recordEvents _ _ _).bind
      fun _ _ => .throw (hfamily _)
  · exact .throw (hfamily _)
  · split
    · exact .throw (hfamily _)
    · split
      · exact .throw (hfamily _)
      · split <;> exact (Stage.EndsWithin.record _ _).bind fun _ _ => .pure rfl

end Submission

namespace Poll

/-- What an answer ends a poll with is its own fault or an error of the family. -/
theorem isFault_of_conclusion (hfamily : ∀ e, isFault (.pipeline e)) {hash : String}
    {answer : Except Fault StatusReply} (hanswer : ∀ f, answer = .error f → isFault f) {f : Fault}
    (h : conclusion hash answer = .error f) : isFault f := by
  cases answer with
  | error fault =>
      cases h
      exact hanswer f rfl
  | ok reply =>
      unfold conclusion at h
      dsimp only at h
      split at h
      · cases h
      · cases h
        exact hfamily _

variable [Timeline τ] {env : Surroundings ω τ} {settings : PollSettings τ} {budget : Cancellation τ}

/-- Rounds end with a fault of a call, or with an error of the family. -/
theorem isFault_of_rounds (hfamily : ∀ e, isFault (.pipeline e))
    (hstatus : ∀ hash timeout, (env.node.status hash timeout).EndsWithin (fun _ => True) isFault)
    {left : Nat} {number : Int} {p : Progress} {w w' : ω} {calls : List (Event ω τ)} {e : Ending}
    (h : Rounds env settings budget left number p w calls w' e)
    (hpending : p.submission.isTerminal = false) {f : Fault} (hf : e.2 = .error f) : isFault f := by
  -- A round that goes on leaves the submission pending, which is what giving up relies on.
  induction h with
  | exhausted =>
      rw [giveUp_eq_concluded hpending] at hf
      cases hf
  | stopped hover =>
      rw [giveUp_eq_concluded hpending] at hf
      cases hf
  | @ended left number p w w' answer e hstart hcall hend =>
      obtain ⟨log, log', hout⟩ := hcall
      obtain ⟨-, rfl⟩ := Progress.eq_of_after_ended hend
      have hanswer : ∀ f', answer = .error f' → isFault f' := fun f' hf' =>
        (hstatus _ _).of_error ((congrArg Prod.fst hout).trans hf')
      rw [result_concluded] at hf
      exact isFault_of_conclusion hfamily hanswer hf
  | again hstart hcall hnext hrest ih =>
      obtain ⟨-, rfl⟩ := Progress.eq_of_after_goOn hnext
      exact ih hpending hf

end Poll

namespace Submission

variable [Timeline τ] {env : Surroundings ω τ} {settings : PollSettings τ}

/-- A poll of a pending submission makes it final, or ends with a fault of a call, with an error of the
family, or because its settings are refused. -/
theorem poll_endsWithin (hfamily : ∀ e, isFault (.pipeline e))
    (hstatus : ∀ hash timeout, (env.node.status hash timeout).EndsWithin (fun _ => True) isFault)
    (hrefused : ∀ fault, settings.refusal? = some fault → isFault fault) {s : Submission}
    (hpending : s.isTerminal = false) :
    (liftM (s.poll env settings) : Stage ω Poll.Ending).EndsWithin
      (fun e => (∀ o, e.2 = .ok o → e.1.outcome = o ∧ o.isTerminal = true) ∧
        ∀ f, e.2 = .error f → isFault f) isFault := by
  refine .lift fun start => ⟨fun o ho => poll_answers_final s env settings start ho, fun f hf => ?_⟩
  cases hsettings : settings.refusal? with
  | none =>
      obtain ⟨w, log⟩ := start
      exact Poll.isFault_of_rounds hfamily hstatus
        (rounds_poll env settings s w log hsettings hpending) hpending hf
  | some fault =>
      rw [run_poll_of_refused env hpending hsettings] at hf
      obtain rfl := Except.error.inj hf
      exact hrefused _ hsettings

end Submission

/-! ## Stages -/

namespace Pipeline

section

variable (p : Pipeline ω τ)

/-- Only instructions that cannot be read keep an assembly from an error of the family. -/
theorem assemble_endsWithin (hfamily : ∀ e, isFault (.pipeline e)) (tx : Transaction)
    (sim : Simulation) {instructions : Value.Read (Option Int)}
    (hbudget : ∀ m, instructions = .error m → isFault (.malformed m)) :
    (p.assemble tx sim instructions).EndsWithin
      (fun out => ∃ budget, out = tx.assembled sim p.config.baseFee budget) isFault := by
  have hread : (Stage.ofExcept (tx.assembleReading sim (.ok p.config.baseFee) instructions) :
      Stage ω Transaction).EndsWithin
        (fun out => ∃ budget, out = tx.assembled sim p.config.baseFee budget) isFault := by
    refine .ofExcept (fun out hout => ?_) fun f hf => ?_
    · obtain ⟨-, -, base, budget, hbase, -, -, rfl⟩ := Transaction.assembleReading_eq_ok_iff.1 hout
      cases hbase
      exact ⟨budget, rfl⟩
    · rcases Transaction.assembleReading_eq_error hf with ⟨e, rfl⟩ | ⟨m, hm, rfl⟩
      · exact hfamily e
      · exact hbudget m hm
  exact hread.bind fun out hout => (Stage.EndsWithin.record _ _).bind fun _ _ => .pure hout

/-- The account behind the source signs. -/
theorem sign_endsWithin (hfamily : ∀ e, isFault (.pipeline e))
    (hsigner : ∀ payload address, (p.env.signer payload address).EndsWithin
      (Authorization.IsSigned address) Fault.InFamily) {tx : Transaction}
    (hsource : isAccount (.text tx.sourceAccount) = true) :
    (p.sign tx none).EndsWithin (fun _ => True) isFault := by
  obtain ⟨address, haddress⟩ := Strkey.exists_accountId_iff.2 hsource
  have hknown : (Stage.ofExcept ((Strkey.accountId tx.sourceAccount).mapError .strkey) :
      Stage ω String).EndsWithin (fun _ => True) isFault := by
    rw [haddress]
    exact .pure trivial
  exact hknown.bind fun address _ => Envelope.sign_endsWithin hsigner hfamily _ address _

variable [Timeline τ]

theorem timeout_endsWithin : (p.timeout : Stage ω (Option τ)).EndsWithin (fun _ => True) isFault :=
  Stage.EndsWithin.world.bind fun _ _ => .pure trivial

theorem checkpoint_endsWithin (hfamily : ∀ e, isFault (.pipeline e)) (stage : String)
    (txHash : Option String) : (p.checkpoint stage txHash).EndsWithin (fun _ => True) isFault := by
  refine Stage.EndsWithin.world.bind fun w _ => ?_
  split
  · exact .throw (hfamily _)
  · exact .pure trivial

theorem cancellable_endsWithin {α : Type} {isResult : α → Prop}
    (hfamily : ∀ e, isFault (.pipeline e)) (stage : String) (txHash : Option String)
    {body : Stage ω α} (h : body.EndsWithin isResult isFault) :
    (p.cancellable stage txHash body).EndsWithin isResult isFault := by
  unfold cancellable
  refine h.attempt.bind fun r hr => ?_
  split
  · exact .pure (hr.1 _ rfl)
  · refine Stage.EndsWithin.world.bind fun w _ => ?_
    split
    · exact .throw (hfamily _)
    · exact .throw (hr.2 _ rfl)

/-- A refused draft is an error of the family, unless an override in it has no text. -/
theorem simulate_endsWithin (hfamily : ∀ e, isFault (.pipeline e)) {tx : Transaction}
    {isSimulation : Simulation → Prop}
    (hoverride : tx.hasUntoldOverride = true → isFault (.malformed .badNumber))
    (hnode : ∀ timeout, (p.env.node.simulate tx timeout).EndsWithin isSimulation isFault) :
    (p.simulate tx).EndsWithin (fun sim => tx.validate = .ok () ∧ isSimulation sim) isFault := by
  refine (p.checkpoint_endsWithin hfamily _ _).bind fun _ _ => p.cancellable_endsWithin hfamily _ _ ?_
  refine p.timeout_endsWithin.bind fun timeout _ => ?_
  cases hvalid : tx.validate with
  | error e =>
      rw [Draft.simulate_of_invalid hvalid, Draft.refusal]
      split
      · next hlong => exact .throw (hoverride hlong)
      · exact .throw (hfamily _)
  | ok _ =>
      rw [Draft.simulate_of_valid hvalid]
      refine (hnode timeout).bind fun sim hsim => (Draft.accept_endsWithin hfamily sim).mono ?_
        fun _ => id
      rintro _ rfl
      exact ⟨rfl, hsim⟩

/-- The policy and the addresses of the requirements decide on what else than an error of the family an
authorization ends with. -/
theorem authorize_endsWithin (hfamily : ∀ e, isFault (.pipeline e))
    (hsigner : ∀ payload address, (p.env.signer payload address).EndsWithin
      (Authorization.IsSigned address) Fault.InFamily)
    (hledger : ∀ timeout, (p.env.node.latestLedger timeout).EndsWithin (fun _ => True) isFault)
    (hhorizon : p.config.authHorizon ≤ 0 → isFault .invalidHorizon) {expirationLedger : Option Int}
    (htarget : ∀ t, expirationLedger = some t → t ≤ 0 → isFault .invalidTarget) {tx : Transaction}
    {sim : Simulation}
    (haddress : ∀ e ∈ (requirements sim).getD tx.authEntries, e.address.hasLongNumber = true →
      isFault (.malformed .badNumber)) :
    (p.authorize tx sim expirationLedger).EndsWithin
      (fun out => out.sourceAccount = tx.sourceAccount) isFault := by
  refine (p.checkpoint_endsWithin hfamily _ _).bind fun _ _ => ?_
  have hpolicy : (Stage.ofExcept (ExpirationPolicy.make p.config.authHorizon expirationLedger) :
      Stage ω ExpirationPolicy).EndsWithin (fun _ => True) isFault := by
    unfold ExpirationPolicy.make
    split
    · next hle => exact .throw (hhorizon hle)
    · split
      · next hany =>
          obtain ⟨t, ht, hle⟩ := (Option.any_eq_true _ _).1 hany
          exact .throw (htarget t ht (by simpa using hle))
      · exact .pure trivial
  refine hpolicy.bind fun policy _ => p.cancellable_endsWithin hfamily _ _ ?_
  have hnumber : (do
      let latest ← p.env.node.latestLedger (← p.timeout)
      pure (.int latest.sequence) : Stage ω Value).EndsWithin (fun v => ∃ n, v = .int n) isFault :=
    p.timeout_endsWithin.bind fun timeout _ => (hledger timeout).bind fun latest _ => .pure ⟨_, rfl⟩
  exact Authorization.resolve_endsWithin hsigner hfamily tx _ policy _ hnumber _ haddress

theorem submit_endsWithin (hfamily : ∀ e, isFault (.pipeline e)) (e : Envelope)
    (hnode : ∀ timeout, (p.env.node.send e timeout).EndsWithin (fun _ => True) isFault) :
    (p.submit e).EndsWithin (fun s => s.isTerminal = false) isFault := by
  refine (p.checkpoint_endsWithin hfamily _ _).bind fun _ _ => p.cancellable_endsWithin hfamily _ _ ?_
  refine p.timeout_endsWithin.bind fun timeout _ => ?_
  rw [Submission.submit_eq]
  refine (hnode timeout).bind fun reply _ =>
    (Submission.classify_endsWithin hfamily e _ reply).mono ?_ fun _ => id
  rintro _ rfl
  rfl

theorem poll_endsWithin (hfamily : ∀ e, isFault (.pipeline e))
    (hstatus : ∀ hash timeout, (p.env.node.status hash timeout).EndsWithin (fun _ => True) isFault)
    (hrefused : ∀ fault, p.config.pollSettings.refusal? = some fault → isFault fault) {s : Submission}
    (hpending : s.isTerminal = false) :
    (liftM (p.poll s) : Stage ω Poll.Ending).EndsWithin
      (fun e => (∀ o, e.2 = .ok o → e.1.outcome = o ∧ o.isTerminal = true) ∧
        ∀ f, e.2 = .error f → isFault f) isFault :=
  Submission.poll_endsWithin hfamily hstatus hrefused hpending

end

/-! ## Runs -/

theorem isAccount_of_validate {tx : Transaction} (h : tx.validate = .ok ()) :
    isAccount (.text tx.sourceAccount) = true :=
  (Transaction.hasAccounts_of_validate h).source

/-- Whether a requirement is one of a draft, or of a simulation that the node may answer with. -/
def IsRequired (isAnswer : String → Value → Prop) (draft : Transaction) (e : AuthEntry) : Prop :=
  e ∈ draft.authEntries ∨ ∃ entries sim, isAnswer "simulateTransaction" (.map entries) ∧
    Simulation.ofReply (.map entries) = .ok sim ∧ e ∈ sim.auth

/-- What the draft requires, and what the simulation does, is required of the run. -/
theorem isRequired_of_assembled {isAnswer : String → Value → Prop} {draft : Transaction}
    {sim : Simulation} {entries : List (Value × Value)}
    (hanswer : isAnswer "simulateTransaction" (.map entries))
    (hread : Simulation.ofReply (.map entries) = .ok sim) {base : Int} {budget : Option Int}
    {e : AuthEntry}
    (h : e ∈ (requirements sim).getD (draft.assembled sim base budget).authEntries) :
    IsRequired isAnswer draft e := by
  unfold requirements at h
  split at h
  · rcases Transaction.mem_authEntries_assembled h with hdraft | hsim
    · exact .inl hdraft
    · exact .inr ⟨entries, sim, hanswer, hread, hsim⟩
  · exact .inr ⟨entries, sim, hanswer, hread, h⟩

/-- The faults outside the family that a run can end with, by what causes them. -/
inductive Escapes [Timeline τ] (config : Config τ) (isAnswer : String → Value → Prop) (draft : Transaction)
    (options : RunOptions) : Fault → Prop where
  /-- The node answers a call with an object that is no readable reply to it. -/
  | reply {m : Malformed} (h : Rpc.Unreadable isAnswer m) :
      Escapes config isAnswer draft options (.malformed m)
  | instructions {m : Malformed} (h : options.instructions = .error m) :
      Escapes config isAnswer draft options (.malformed m)
  /-- A refused override has no text. -/
  | override (h : draft.hasUntoldOverride = true) :
      Escapes config isAnswer draft options (.malformed .badNumber)
  /-- An address that has to authorize has no text. -/
  | address {e : AuthEntry} (h : IsRequired isAnswer draft e) (hlong : e.address.hasLongNumber = true) :
      Escapes config isAnswer draft options (.malformed .badNumber)
  | target {t : Int} (h : options.expirationLedger = some t) (hle : t ≤ 0) :
      Escapes config isAnswer draft options .invalidTarget
  | horizon (h : config.authHorizon ≤ 0) : Escapes config isAnswer draft options .invalidHorizon
  | attempts (h : config.pollAttempts < 1) : Escapes config isAnswer draft options .invalidAttempts
  /-- The time that all attempts together may take is too large to be computed. -/
  | budget (h : config.pollSettings.isTooLong = true) :
      Escapes config isAnswer draft options (.malformed .tooLarge)

theorem Escapes.of_refusal [Timeline τ] {config : Config τ} {isAnswer : String → Value → Prop}
    {draft : Transaction} {options : RunOptions} {fault : Fault}
    (h : config.pollSettings.refusal? = some fault) : Escapes config isAnswer draft options fault := by
  rcases PollSettings.refusal?_eq_some h with ⟨hless, rfl⟩ | ⟨-, hlong, rfl⟩
  · exact .attempts hless
  · exact .budget hlong

section

variable [Measure τ] {p : Pipeline (Connection ω) τ} {settings : RpcSettings τ}
  {carrier : Carrier ω τ} {isAnswer : String → Value → Prop} {keys : Keystore}
  (hnode : p.env.node = Rpc.node settings carrier) (hanswers : Rpc.Answers settings carrier isAnswer)

include hnode hanswers

/-- A simulated draft is valid, and so is its simulation. -/
theorem simulate_endsWithin_answer (draft : Transaction) (options : RunOptions) :
    (p.simulate draft).EndsWithin
      (fun sim => draft.validate = .ok () ∧ ∃ entries, isAnswer "simulateTransaction" (.map entries) ∧
        Simulation.ofReply (.map entries) = .ok sim)
      fun f => f.InFamily ∨ Escapes p.config isAnswer draft options f := by
  refine p.simulate_endsWithin (fun e => .inl ⟨e, rfl⟩) (fun h => .inr (.override h)) fun timeout => ?_
  rw [hnode]
  exact Rpc.callAndRead_endsWithin hanswers (.simulate _) (fun e => .inl ⟨e, rfl⟩)
    (fun entries m h hm => .inr (.reply (.simulate h hm))) timeout

/-- A submitted envelope is pending. -/
theorem submit_endsWithin_answer (hfamily : ∀ e, isFault (.pipeline e))
    (hreply : ∀ m, Rpc.Unreadable isAnswer m → isFault (.malformed m)) (e : Envelope) :
    (p.submit e).EndsWithin (fun s => s.isTerminal = false) isFault := by
  refine p.submit_endsWithin hfamily e fun timeout => ?_
  rw [hnode]
  exact (Rpc.callAndRead_endsWithin hanswers (.send _) hfamily
    (fun entries m h hm => hreply m (.send h hm)) timeout).mono (fun _ _ => trivial) fun _ => id

theorem poll_endsWithin_answer (hfamily : ∀ e, isFault (.pipeline e))
    (hreply : ∀ m, Rpc.Unreadable isAnswer m → isFault (.malformed m))
    (hrefused : ∀ fault, p.config.pollSettings.refusal? = some fault → isFault fault) {s : Submission}
    (hpending : s.isTerminal = false) :
    (liftM (p.poll s) : Stage (Connection ω) Poll.Ending).EndsWithin
      (fun e => (∀ o, e.2 = .ok o → e.1.outcome = o ∧ o.isTerminal = true) ∧
        ∀ f, e.2 = .error f → isFault f) isFault := by
  refine p.poll_endsWithin hfamily (fun hash timeout => ?_) hrefused hpending
  rw [hnode]
  exact (Rpc.callAndRead_endsWithin hanswers (.status _) hfamily
    (fun entries m h hm => hreply m (.status h hm)) timeout).mono (fun _ _ => trivial) fun _ => id

/-- An envelope is sent and followed to its final outcome, unless an answer cannot be read. -/
theorem send_endsWithin_answer (hfamily : ∀ e, isFault (.pipeline e))
    (hreply : ∀ m, Rpc.Unreadable isAnswer m → isFault (.malformed m))
    (hrefused : ∀ fault, p.config.pollSettings.refusal? = some fault → isFault fault) (e : Envelope) :
    (do let submission ← p.submit e
        let (_, ending) ← p.poll submission
        Stage.ofExcept ending : Stage (Connection ω) Outcome).EndsWithin
      (fun o => o.isTerminal = true) isFault :=
  (submit_endsWithin_answer hnode hanswers hfamily hreply e).bind fun _ hpending =>
    (poll_endsWithin_answer hnode hanswers hfamily hreply hrefused hpending).bind fun _ hend =>
      .ofExcept (fun o ho => (hend.1 o ho).2) hend.2

/-- A run returns with a final outcome, if it submits anything, or ends with an error of the family or
one of the listed faults. -/
theorem run_endsWithin (hkeys : keys.IsAddressed) (hsigner : p.env.signer = keys.sign)
    (draft : Transaction) (options : RunOptions) :
    (p.run draft options).EndsWithin
      (fun r => ∀ s, r.submission = some s → s.isTerminal = true)
      fun f => f.InFamily ∨ Escapes p.config isAnswer draft options f := by
  have hfamily : ∀ e, Fault.InFamily (.pipeline e) ∨
      Escapes p.config isAnswer draft options (.pipeline e) := fun e => .inl ⟨e, rfl⟩
  have hreply : ∀ m, Rpc.Unreadable isAnswer m → Fault.InFamily (.malformed m) ∨
      Escapes p.config isAnswer draft options (.malformed m) := fun m h => .inr (.reply h)
  have hsigns : ∀ payload address, (p.env.signer payload address).EndsWithin
      (Authorization.IsSigned address) Fault.InFamily := by
    rw [hsigner]
    exact Keystore.sign_endsWithin hkeys
  have hledger : ∀ timeout, (p.env.node.latestLedger timeout).EndsWithin (fun _ => True)
      fun f => f.InFamily ∨ Escapes p.config isAnswer draft options f := by
    intro timeout
    rw [hnode]
    exact (Rpc.callAndRead_endsWithin hanswers .latestLedger hfamily
      (fun entries m h hm => hreply m (.latestLedger h hm)) timeout).mono (fun _ _ => trivial)
        fun _ => id
  unfold run
  refine (simulate_endsWithin_answer hnode hanswers draft options).bind ?_
  rintro sim ⟨hvalid, entries, hanswer, hread⟩
  -- The source account is valid in the draft, and no stage before the signature changes it.
  have hdraft := isAccount_of_validate hvalid
  refine (p.assemble_endsWithin hfamily draft sim fun m h => .inr (.instructions h)).bind ?_
  rintro _ ⟨budget, rfl⟩
  split
  · exact (Stage.EndsWithin.record _ _).bind fun _ _ =>
      .pure fun _ hs => absurd hs.symm (Option.some_ne_none _)
  · refine (p.authorize_endsWithin hfamily hsigns hledger (fun h => .inr (.horizon h))
      (fun t h hle => .inr (.target h hle)) fun e he hlong => .inr (.address
        (isRequired_of_assembled hanswer hread he) hlong)).bind fun tx hsource => ?_
    have haccount : isAccount (.text tx.sourceAccount) = true := hsource ▸ hdraft
    refine (p.sign_endsWithin hfamily hsigns haccount).bind fun e _ => ?_
    refine (submit_endsWithin_answer hnode hanswers hfamily hreply e).bind fun s hpending => ?_
    refine (poll_endsWithin_answer hnode hanswers hfamily hreply
      (fun fault h => .inr (.of_refusal h)) hpending).bind ?_
    rintro ⟨polled, ending⟩ ⟨hok, herror⟩
    refine (Stage.EndsWithin.ofExcept (fun o ho => hok o ho) herror).bind ?_
    rintro o ⟨hpolled, hterminal⟩
    refine .pure fun s hs => ?_
    obtain rfl := Option.some.inj hs
    rw [Submission.isTerminal, hpolled]
    exact hterminal

end

end Pipeline

end LedgerFlow

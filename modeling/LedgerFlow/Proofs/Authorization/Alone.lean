import LedgerFlow.Proofs.Authorization.Carried
import LedgerFlow.Proofs.Keystore

/-!
# Requirements resolved one at a time

`Transaction.resolvedAlone` is what a single requirement is resolved to when something needs a signature:
it asks the signer for this requirement only and knows of no signatures made before.  Resolving a list
keeps the signatures that it makes and asks once for each payload of an address.  It gives the
requirements of the list resolved one at a time, faults included, and the questions it asks are the
distinct ones of the requirements that need a signature, up to the first without a usable answer
(`outcome_resolveEntries`).  The invariant is that the signatures at hand are those that the signer would
give again (`Faithful`).
-/

namespace LedgerFlow

/-- The members of a list up to the first with a property, which is included. -/
def upTo {α : Type} (stops : α → Bool) : List α → List α
  | [] => []
  | a :: as => a :: if stops a then [] else upTo stops as

/-- Where no member has the property, the list is taken as a whole. -/
theorem upTo_eq_self {α : Type} {stops : α → Bool} {l : List α} (h : ∀ x ∈ l, stops x = false) :
    upTo stops l = l := by
  induction l with
  | nil => rfl
  | cons x xs ih =>
      rw [List.forall_mem_cons] at h
      rw [upTo, if_neg (by simp [h.1]), ih h.2]

/-- The first member with the property is the last that is taken. -/
theorem upTo_append_cons {α : Type} {stops : α → Bool} {front back : List α} {a : α}
    (hfront : ∀ x ∈ front, stops x = false) (ha : stops a = true) :
    upTo stops (front ++ a :: back) = front ++ [a] := by
  induction front with
  | nil => rw [List.nil_append, upTo, if_pos ha, List.nil_append]
  | cons x xs ih =>
      rw [List.forall_mem_cons] at hfront
      rw [List.cons_append, upTo, if_neg (by simp [hfront.1]), ih hfront.2, List.cons_append]

/-- Where every member of a list has a result, the results are those of the members. -/
theorem forall₂_of_mapM_eq_ok {ε α β : Type} {f : α → Except ε β} {xs : List α} {ys : List β}
    (h : xs.mapM f = .ok ys) : List.Forall₂ (fun x y => f x = .ok y) xs ys := by
  induction xs generalizing ys with
  | nil =>
      cases h
      exact .nil
  | cons x xs ih =>
      rw [List.mapM_cons] at h
      obtain ⟨y, hy, h⟩ := exists_of_bind_eq_ok h
      obtain ⟨rest, hrest, h⟩ := exists_of_bind_eq_ok h
      cases h
      exact .cons hy (ih hrest)

/-- What a signer would answer in a session. -/
def Signer.answersIn {ω : Type} (signer : Signer ω) (s : Session ω) (payload : Bytes) (address : String) :
    Except Fault Value :=
  ((signer payload address).outcome s).1

theorem Signer.Answers.answersIn_eq {ω : Type} {signer : Signer ω}
    {answer : Bytes → String → Except Fault Value} (h : signer.Answers answer) (s : Session ω) :
    signer.answersIn s = answer :=
  funext fun payload => funext fun address => h payload address s

namespace Authorization

variable {ω : Type} {signer : Signer ω} {answer : Bytes → String → Except Fault Value}

/-! ## Keys of addresses -/

/-- An address has a key exactly when it is a strkey of a kind other than a seed. -/
theorem exists_publicKey_iff {address : String} : (∃ key, publicKey address = .ok key) ↔
    ∃ kind payload, kind ≠ .seed ∧ Strkey.decode kind address = .ok payload := by
  constructor
  · rintro ⟨key, h⟩
    unfold publicKey at h
    split at h
    · exact ⟨.contract, key, nofun, eq_ok_of_mapError h⟩
    · rcases Strkey.publicKey_eq_ok_iff.1 (eq_ok_of_mapError h) with hdecode | ⟨payload, hdecode, -⟩
      · exact ⟨.account, key, nofun, hdecode⟩
      · exact ⟨.muxed, payload, nofun, hdecode⟩
  · rintro ⟨kind, payload, hkind, hdecode⟩
    have hletter := Strkey.head?_of_decode hdecode
    unfold publicKey
    rw [hletter]
    cases kind with
    | seed => exact absurd rfl hkind
    | contract =>
        rw [if_pos rfl, hdecode]
        exact ⟨payload, rfl⟩
    | account =>
        rw [if_neg (by decide), Strkey.publicKey_of_decode hdecode]
        exact ⟨payload, rfl⟩
    | muxed =>
        rw [if_neg (by decide), Strkey.publicKey_of_decode_muxed hdecode]
        exact ⟨_, rfl⟩

/-! ## One signature -/

/-- Why an address refuses, when its signer fails. -/
def refusalReason : Fault → String
  | .pipeline (.signingDenied _ reason) => reason
  | fault => fault.kind ++ ": " ++ fault.message

/-- A failure of the signer is a refusal by the address that should have signed. -/
def refusal (address : String) (fault : Fault) : Fault :=
  .pipeline (.authorizationDenied address (refusalReason fault))

/-- The signature for a payload, from what the signer answers. -/
def signatureAlone (answer : Bytes → String → Except Fault Value) (payload : Bytes) (address : String) :
    Except Fault AuthSignature := do
  let given ← (answer payload address).mapError (refusal address)
  let publicKey ← publicKey address
  let signature ← given.toBytes.mapError .malformed
  pure { publicKey, signature }

/-- A requirement with a signature up to a limit. -/
def signedAlone (answer : Bytes → String → Except Fault Value) (passphrase : String) (limit : Int)
    (e : AuthEntry) : Except Fault AuthEntry := do
  let address ← e.address.toText.mapError .malformed
  let signature ← signatureAlone answer (e.payload passphrase limit) address
  pure { e with expiration := limit, signature := some signature }

theorem signedAlone_of_text {passphrase : String} {limit : Int} {e : AuthEntry} {address : String}
    (haddress : e.address.toText = .ok address) :
    signedAlone answer passphrase limit e =
      (signatureAlone answer (e.payload passphrase limit) address).map fun signature =>
        { e with expiration := limit, signature := some signature } := by
  rw [signedAlone, haddress]
  show (signatureAlone answer (e.payload passphrase limit) address >>= _) = _
  cases signatureAlone answer (e.payload passphrase limit) address <;> rfl

/-- Whether there is no signature to be had for a payload of an address. -/
def refuses (answer : Bytes → String → Except Fault Value) (p : String × Bytes) : Bool :=
  !(signatureAlone answer p.2 p.1).isOk

/-! ## Signatures on file -/

/-- A signature that is filed is found under its key, unless another was there before. -/
theorem lookup_append_singleton (made : Made) (p k : String × Bytes) (sig : AuthSignature) :
    (made ++ [(p, sig)]).lookup k = (made.lookup k).or (if k == p then some sig else none) := by
  rw [List.lookup_append, List.lookup_cons, List.lookup_nil]
  cases k == p <;> rfl

theorem eq_some_of_lookup_append {made : Made} {p k : String × Bytes} {sig found : AuthSignature}
    (h : (made ++ [(p, sig)]).lookup k = some found) :
    made.lookup k = some found ∨ k = p ∧ found = sig := by
  rw [lookup_append_singleton] at h
  rcases Option.or_eq_some_iff.1 h with hold | ⟨-, hnew⟩
  · exact .inl hold
  · obtain ⟨hkey, hsig⟩ := Option.ite_none_right_eq_some.1 hnew
    exact .inr ⟨beq_iff_eq.1 hkey, (Option.some.inj hsig).symm⟩

/-- The signatures at hand are those that the signer would give again. -/
def Faithful (answer : Bytes → String → Except Fault Value) (made : Made) : Prop :=
  ∀ address payload sig, made.lookup (address, payload) = some sig →
    signatureAlone answer payload address = .ok sig

theorem faithful_nil : Faithful answer [] := nofun

/-- A signature that is filed keeps the signatures at hand faithful. -/
theorem Faithful.append {made : Made} {payload : Bytes} {address : String} {sig : AuthSignature}
    (hmade : Faithful answer made) (hsig : signatureAlone answer payload address = .ok sig) :
    Faithful answer (made ++ [((address, payload), sig)]) := by
  intro address' payload' sig' h
  rcases eq_some_of_lookup_append h with hold | ⟨hkey, rfl⟩
  · exact hmade _ _ _ hold
  · cases hkey
    exact hsig

/-- The signer is asked once, and its failure is a refusal. -/
theorem outcome_askSigner (payload : Bytes) (address : String) (s : Session ω) :
    ∃ log, (askSigner signer payload address).outcome s =
      ((signer.answersIn s payload address).mapError (refusal address),
        ⟨((signer payload address).outcome s).2.world, log⟩) := by
  unfold askSigner Signer.answersIn
  rw [Stage.outcome_bind_of_ok (Stage.outcome_attempt _ _)]
  cases ((signer payload address).outcome s).1 with
  | ok v => exact ⟨_, rfl⟩
  | error fault =>
      cases fault with
      | pipeline e => cases e <;> exact ⟨_, rfl⟩
      | _ => exact ⟨_, rfl⟩

/-- A signature that is at hand is used again, without a question. -/
theorem outcome_signatureFor_of_made {made : Made} {payload : Bytes} {address : String}
    {sig : AuthSignature} (hmade : made.lookup (address, payload) = some sig) (s : Session ω) :
    (signatureFor signer made payload address).outcome s = (.ok (sig, made), s) := by
  rw [signatureFor, hmade]
  rfl

/-- A signature that is not at hand is asked for, and filed. -/
theorem outcome_signatureFor_of_new {made : Made} {payload : Bytes} {address : String}
    (hnew : made.lookup (address, payload) = none) (s : Session ω) :
    ∃ log, (signatureFor signer made payload address).outcome s =
      ((signatureAlone (signer.answersIn s) payload address).map fun sig =>
          (sig, made ++ [((address, payload), sig)]),
        ⟨((signer payload address).outcome s).2.world, log⟩) := by
  obtain ⟨log, hasked⟩ : ∃ log, (askSigner signer payload address).outcome s = _ :=
    outcome_askSigner payload address s
  refine ⟨log, ?_⟩
  rw [signatureFor, hnew]
  dsimp only
  unfold signatureAlone
  cases hgiven : (signer.answersIn s payload address).mapError (refusal address) with
  | error fault =>
      rw [hgiven] at hasked
      rw [Stage.outcome_bind_of_error hasked]
      rfl
  | ok given =>
      rw [hgiven] at hasked
      rw [Stage.outcome_bind_of_ok hasked]
      cases publicKey address with
      | error fault => rfl
      | ok key =>
          show (Stage.ofExcept (given.toBytes.mapError .malformed) >>= _).outcome _ =
            (Except.map _ (given.toBytes.mapError .malformed >>= _), _)
          cases given.toBytes with
          | error m => rfl
          | ok bytes => rfl

end Authorization

/-! ## One requirement -/

namespace Transaction

variable {tx : Transaction} {answer : Bytes → String → Except Fault Value} {passphrase : String}
  {limit : Int} {e prior : AuthEntry}

/-- What a requirement is resolved to on its own when something needs a signature. -/
def resolvedAlone (tx : Transaction) (answer : Bytes → String → Except Fault Value)
    (passphrase : String) (limit : Int) (e : AuthEntry) : Except Fault AuthEntry :=
  if e.isResolved then .ok e
  else match tx.signedEntry? e with
    | some prior => .ok prior
    | none => Authorization.signedAlone answer passphrase limit e

theorem resolvedAlone_of_isResolved (h : e.isResolved = true) :
    tx.resolvedAlone answer passphrase limit e = .ok e := if_pos h

theorem resolvedAlone_of_signedEntry? (h : e.isResolved = false)
    (hprior : tx.signedEntry? e = some prior) :
    tx.resolvedAlone answer passphrase limit e = .ok prior := by
  rw [resolvedAlone, h, if_neg Bool.false_ne_true, hprior]

theorem resolvedAlone_of_needsSignature (h : tx.needsSignature e = true) :
    tx.resolvedAlone answer passphrase limit e =
      Authorization.signedAlone answer passphrase limit e := by
  obtain ⟨hopen, hnone⟩ := Bool.and_eq_true_iff.1 h
  rw [resolvedAlone, if_neg (by simpa using hopen), Option.isNone_iff_eq_none.1 hnone]

end Transaction

/-! ## Lists of requirements -/

namespace Authorization

variable {ω : Type} {signer : Signer ω} {answer : Bytes → String → Except Fault Value}

/-- What the signer is asked about a requirement. -/
def questionFor (passphrase : String) (limit : Int) (e : AuthEntry) : String × Bytes :=
  (e.address.plainText, e.payload passphrase limit)

/-- The questions that are asked about requirements, given the signatures at hand. -/
def questionsFor (tx : Transaction) (answer : Bytes → String → Except Fault Value)
    (passphrase : String) (limit : Int) (made : Made) (requirements : List AuthEntry) :
    List (String × Bytes) :=
  upTo (refuses answer)
    ((((requirements.filter tx.needsSignature).map (questionFor passphrase limit)).filter fun p =>
      (made.lookup p).isNone).eraseDups)

section Questions

variable {tx : Transaction} {passphrase : String} {limit : Int} {made : Made} {e : AuthEntry}
  {rest : List AuthEntry}

theorem questionsFor_cons_of_not_needed (h : tx.needsSignature e = false) :
    questionsFor tx answer passphrase limit made (e :: rest) =
      questionsFor tx answer passphrase limit made rest := by
  rw [questionsFor, List.filter_cons_of_neg (by simp [h]), questionsFor]

theorem questionsFor_cons_of_made (h : tx.needsSignature e = true)
    (hmade : (made.lookup (questionFor passphrase limit e)).isNone = false) :
    questionsFor tx answer passphrase limit made (e :: rest) =
      questionsFor tx answer passphrase limit made rest := by
  rw [questionsFor, List.filter_cons_of_pos h, List.map_cons, List.filter_cons_of_neg (by simp [hmade]),
    questionsFor]

/-- A new question is asked first, and its answer is at hand for the others. -/
theorem questionsFor_cons_of_new (h : tx.needsSignature e = true)
    (hnew : made.lookup (questionFor passphrase limit e) = none) (sig : AuthSignature) :
    questionsFor tx answer passphrase limit made (e :: rest) =
      questionFor passphrase limit e ::
        if refuses answer (questionFor passphrase limit e) then []
        else questionsFor tx answer passphrase limit
          (made ++ [(questionFor passphrase limit e, sig)]) rest := by
  have hothers : ∀ p, ((made ++ [(questionFor passphrase limit e, sig)]).lookup p).isNone =
      (!(p == questionFor passphrase limit e) && (made.lookup p).isNone) := by
    intro p
    rw [lookup_append_singleton]
    cases p == questionFor passphrase limit e <;> cases made.lookup p <;> rfl
  rw [questionsFor, List.filter_cons_of_pos h, List.map_cons,
    List.filter_cons_of_pos (by rw [hnew]; rfl), List.eraseDups_cons, upTo, List.filter_filter,
    questionsFor]
  simp only [hothers]

/-- A requirement that needs no signature is resolved without a question. -/
theorem outcome_resolveEntries_of_not_needed (signer : Signer ω) (h : tx.needsSignature e = false) :
    ∃ x, (∀ answer passphrase limit, tx.resolvedAlone answer passphrase limit e = .ok x) ∧
      ∀ passphrase limit made rest s,
        (resolveEntries tx signer passphrase limit made (e :: rest)).outcome s =
          (((resolveEntries tx signer passphrase limit made rest).outcome s).1.map (x :: ·),
            ((resolveEntries tx signer passphrase limit made rest).outcome s).2) := by
  cases hresolved : e.isResolved with
  | true =>
      refine ⟨e, fun _ _ _ => Transaction.resolvedAlone_of_isResolved hresolved,
        fun passphrase limit made rest s => ?_⟩
      rw [resolveEntries, hresolved, if_pos rfl, Stage.outcome_bind_pure]
  | false =>
      obtain ⟨prior, hprior⟩ : ∃ prior, tx.signedEntry? e = some prior := by
        rw [← Option.isSome_iff_exists, ← Option.not_isNone]
        simpa [Transaction.needsSignature, hresolved] using h
      refine ⟨prior, fun _ _ _ => Transaction.resolvedAlone_of_signedEntry? hresolved hprior,
        fun passphrase limit made rest s => ?_⟩
      rw [resolveEntries, hresolved, if_neg Bool.false_ne_true, hprior]
      exact Stage.outcome_bind_pure _ _ s

theorem outcome_address {address : String} (haddress : e.address.toText = .ok address) (s : Session ω) :
    (Stage.ofExcept (e.address.toText.mapError .malformed) : Stage ω String).outcome s =
      (.ok address, s) := by
  rw [Stage.outcome_ofExcept, haddress]
  rfl

theorem outcome_resolveEntries_of_unreadable (h : tx.needsSignature e = true) {m : Malformed}
    (haddress : e.address.toText = .error m) (s : Session ω) :
    (resolveEntries tx signer passphrase limit made (e :: rest)).outcome s =
      (.error (.malformed m), s) := by
  obtain ⟨hopen, hnone⟩ := Bool.and_eq_true_iff.1 h
  rw [resolveEntries, if_neg (by simpa using hopen), Option.isNone_iff_eq_none.1 hnone]
  dsimp only
  rw [haddress]
  rfl

/-- A requirement that needs a signature gets the one that is at hand, or a new one. -/
theorem outcome_resolveEntries_of_signature (h : tx.needsSignature e = true) {address : String}
    (haddress : e.address.toText = .ok address) {sig : AuthSignature} {made' : Made}
    {s s' : Session ω}
    (hsig : (signatureFor signer made (e.payload passphrase limit) address).outcome s =
      (.ok (sig, made'), s')) :
    (resolveEntries tx signer passphrase limit made (e :: rest)).outcome s =
      (((resolveEntries tx signer passphrase limit made' rest).outcome s').1.map
          ({ e with expiration := limit, signature := some sig } :: ·),
        ((resolveEntries tx signer passphrase limit made' rest).outcome s').2) := by
  obtain ⟨hopen, hnone⟩ := Bool.and_eq_true_iff.1 h
  rw [resolveEntries, if_neg (by simpa using hopen), Option.isNone_iff_eq_none.1 hnone]
  dsimp only
  rw [Stage.outcome_bind_of_ok (outcome_address haddress s), Stage.outcome_bind_of_ok hsig]
  exact Stage.outcome_bind_pure _ _ s'

/-- Without a signature nothing after the requirement is looked at. -/
theorem outcome_resolveEntries_of_refused (h : tx.needsSignature e = true) {address : String}
    (haddress : e.address.toText = .ok address) {fault : Fault} {s s' : Session ω}
    (hsig : (signatureFor signer made (e.payload passphrase limit) address).outcome s =
      (.error fault, s')) :
    (resolveEntries tx signer passphrase limit made (e :: rest)).outcome s = (.error fault, s') := by
  obtain ⟨hopen, hnone⟩ := Bool.and_eq_true_iff.1 h
  rw [resolveEntries, if_neg (by simpa using hopen), Option.isNone_iff_eq_none.1 hnone]
  dsimp only
  rw [Stage.outcome_bind_of_ok (outcome_address haddress s)]
  exact Stage.outcome_bind_of_error hsig

/-- The question about a requirement with an address. -/
theorem questionFor_eq {address : String} (haddress : e.address.toText = .ok address)
    (htext : ∃ t, e.address = .text t) :
    questionFor passphrase limit e = (address, e.payload passphrase limit) := by
  obtain ⟨t, ht⟩ := htext
  rw [ht] at haddress
  rw [questionFor, ht, ← Except.ok.inj haddress]
  rfl

/-- **Resolving a list resolves its requirements one at a time**, and asks the distinct questions of those
that need a signature. -/
theorem outcome_resolveEntries (hsigner : signer.Answers answer) (tx : Transaction)
    (passphrase : String) (limit : Int) {made : Made} (hmade : Faithful answer made)
    (requirements : List AuthEntry) (s : Session ω) :
    ((resolveEntries tx signer passphrase limit made requirements).outcome s).1 =
        requirements.mapM (tx.resolvedAlone answer passphrase limit) ∧
      ∀ (γ : Type) (asked : ω → List γ) (question : String × Bytes → γ),
        (∀ payload address s, asked ((signer payload address).outcome s).2.world =
          asked s.world ++ [question (address, payload)]) →
        (∀ e ∈ requirements, tx.needsSignature e = true → ∃ t, e.address = .text t) →
        asked ((resolveEntries tx signer passphrase limit made requirements).outcome s).2.world =
          asked s.world ++
            (questionsFor tx answer passphrase limit made requirements).map question := by
  -- Later requirements find the signatures that earlier ones made, so these vary in the induction.
  induction requirements generalizing made s with
  | nil => exact ⟨rfl, fun _ asked _ _ _ => (List.append_nil _).symm⟩
  | cons e rest ih =>
      rw [List.mapM_cons]
      cases hneeds : tx.needsSignature e with
      | false =>
          obtain ⟨x, hx, hrest⟩ := outcome_resolveEntries_of_not_needed signer hneeds
          obtain ⟨hresult, hasked⟩ := ih hmade s
          rw [hrest, hx, hresult, questionsFor_cons_of_not_needed hneeds]
          exact ⟨rfl, fun γ asked question htell htext => hasked γ asked question htell fun y hy =>
            htext y (List.mem_cons_of_mem _ hy)⟩
      | true =>
          rw [Transaction.resolvedAlone_of_needsSignature hneeds]
          cases haddress : e.address.toText with
          | error m =>
              rw [outcome_resolveEntries_of_unreadable hneeds haddress, signedAlone, haddress]
              refine ⟨rfl, fun γ asked question htell htext => ?_⟩
              obtain ⟨t, ht⟩ := htext e List.mem_cons_self hneeds
              rw [ht] at haddress
              cases haddress
          | ok address =>
              rw [signedAlone_of_text haddress]
              cases hlookup : made.lookup (address, e.payload passphrase limit) with
              | some sig =>
                  obtain ⟨hresult, hasked⟩ := ih hmade s
                  rw [outcome_resolveEntries_of_signature hneeds haddress
                    (outcome_signatureFor_of_made hlookup s), hresult, hmade _ _ _ hlookup]
                  refine ⟨rfl, fun γ asked question htell htext => ?_⟩
                  rw [← questionFor_eq haddress (htext e List.mem_cons_self hneeds)] at hlookup
                  rw [questionsFor_cons_of_made hneeds (by rw [hlookup]; rfl)]
                  exact hasked γ asked question htell fun y hy => htext y (List.mem_cons_of_mem _ hy)
              | none =>
                  obtain ⟨log, hnew⟩ : ∃ log, (signatureFor signer made (e.payload passphrase limit)
                      address).outcome s = _ := outcome_signatureFor_of_new hlookup s
                  rw [hsigner.answersIn_eq] at hnew
                  cases hsig : signatureAlone answer (e.payload passphrase limit) address with
                  | error fault =>
                      rw [hsig] at hnew
                      rw [outcome_resolveEntries_of_refused hneeds haddress hnew]
                      refine ⟨rfl, fun γ asked question htell htext => ?_⟩
                      have hquestion : questionFor passphrase limit e = _ :=
                        questionFor_eq haddress (htext e List.mem_cons_self hneeds)
                      rw [← hquestion] at hlookup
                      rw [questionsFor_cons_of_new hneeds hlookup default, hquestion,
                        if_pos (by rw [refuses, hsig]; rfl)]
                      exact htell _ _ s
                  | ok sig =>
                      obtain ⟨hresult, hasked⟩ := ih (hmade.append hsig)
                        ⟨((signer (e.payload passphrase limit) address).outcome s).2.world, log⟩
                      rw [hsig] at hnew
                      rw [outcome_resolveEntries_of_signature hneeds haddress hnew, hresult]
                      refine ⟨rfl, fun γ asked question htell htext => ?_⟩
                      have hquestion : questionFor passphrase limit e = _ :=
                        questionFor_eq haddress (htext e List.mem_cons_self hneeds)
                      rw [← hquestion] at hlookup
                      rw [questionsFor_cons_of_new hneeds hlookup sig, hquestion,
                        if_neg (by rw [refuses, hsig]; exact Bool.false_ne_true),
                        hasked γ asked question htell fun y hy => htext y (List.mem_cons_of_mem _ hy),
                        htell, List.map_cons, List.append_assoc, List.singleton_append]

end Questions

/-! ## Resolutions -/

section Resolutions

variable {tx : Transaction} {requirements : Option (List AuthEntry)} {policy : ExpirationPolicy}
  {passphrase : String} {ledger : Stage ω Value} {known : Option Int} {first : AuthEntry}
  {more : List AuthEntry} {address : String} {s s' : Session ω}

/-- When nothing needs a signature, nobody is asked. -/
theorem outcome_resolve_of_nothing_needed
    (h : (requirements.getD tx.authEntries).filter tx.needsSignature = []) (s : Session ω) :
    (resolve tx requirements signer policy passphrase ledger known).outcome s =
      (tx.withAuth ((requirements.getD tx.authEntries).map fun e => (tx.signedEntry? e).getD e), s) := by
  unfold resolve
  dsimp only
  rw [h]
  exact Stage.outcome_ofExcept _ s

/-- Without an expiration nothing is signed. -/
theorem outcome_resolve_of_no_limit
    (h : (requirements.getD tx.authEntries).filter tx.needsSignature = first :: more)
    (haddress : first.address.toText = .ok address) {fault : Fault}
    (hlimit : (expiration policy ledger known address).outcome s = (.error fault, s')) :
    (resolve tx requirements signer policy passphrase ledger known).outcome s = (.error fault, s') := by
  unfold resolve
  dsimp only
  rw [h]
  dsimp only
  rw [Stage.outcome_bind_of_ok (outcome_address haddress s)]
  exact Stage.outcome_bind_of_error hlimit

/-- With an expiration the requirements are resolved one after another, and all of them are put on the
transaction at once. -/
theorem outcome_resolve_of_limit
    (h : (requirements.getD tx.authEntries).filter tx.needsSignature = first :: more)
    (haddress : first.address.toText = .ok address) {limit : Int}
    (hlimit : (expiration policy ledger known address).outcome s = (.ok limit, s')) :
    ∃ log, (resolve tx requirements signer policy passphrase ledger known).outcome s =
      (((resolveEntries tx signer passphrase limit [] (requirements.getD tx.authEntries)).outcome
          ⟨s'.world, log⟩).1 >>= tx.withAuth,
        ((resolveEntries tx signer passphrase limit [] (requirements.getD tx.authEntries)).outcome
          ⟨s'.world, log⟩).2) := by
  unfold resolve
  dsimp only
  rw [h]
  dsimp only
  rw [Stage.outcome_bind_of_ok (outcome_address haddress s), Stage.outcome_bind_of_ok hlimit,
    Stage.outcome_bind_of_ok (Stage.outcome_record _ _ _)]
  exact ⟨_, Stage.outcome_bind_ofExcept _ _ _⟩

/-- What a resolution with an expiration ends with. -/
theorem result_resolve_of_limit (hsigner : signer.Answers answer)
    (h : (requirements.getD tx.authEntries).filter tx.needsSignature = first :: more)
    (haddress : first.address.toText = .ok address) {limit : Int}
    (hlimit : (expiration policy ledger known address).outcome s = (.ok limit, s')) :
    ((resolve tx requirements signer policy passphrase ledger known).outcome s).1 =
      (requirements.getD tx.authEntries).mapM (tx.resolvedAlone answer passphrase limit) >>=
        tx.withAuth := by
  obtain ⟨log, hresolve⟩ := outcome_resolve_of_limit h haddress hlimit
  rw [hresolve, (outcome_resolveEntries hsigner tx passphrase limit faithful_nil _ _).1]

end Resolutions

end Authorization
end LedgerFlow

import LedgerFlow.Proofs.Authorization.Neighbours

/-!
# Resolving requirements twice

A second resolution of the same requirements finds for every one of them the entry that the first has put
on the transaction, so it asks nobody and changes nothing (`resolve_again`).  `Transaction.Fills` says how
the first fills the place of a requirement; two places of the same requirement are filled with equal
entries (`Fills.same`), because a signature that was made for one is at hand for the other.

Entries are found by their canonical bytes but compared as values, and the two differ: `1` is equal to `1.0`
and to a truth value, and the two zeros are equal to each other.  So it is assumed that the values involved
are equal exactly when their bytes are (`Transaction.Requires`).  Without that the second resolution asks
again (`asked_again`).
-/

namespace LedgerFlow

/-- Whether two entries have equal addresses and calls exactly where these have the same bytes. -/
def AuthEntry.ComparesAsEncoded (a b : AuthEntry) : Prop :=
  (a.address.same b.address = true ↔ Cbor.encode a.address = Cbor.encode b.address) ∧
    (a.invocation.toValue.same b.invocation.toValue = true ↔
      Cbor.encode a.invocation.toValue = Cbor.encode b.invocation.toValue)

namespace Authorization

variable {ω : Type} {signer : Signer ω}

/-- Addresses that agree and have a key are the same text. -/
theorem toText_eq_of_agree {v w : Value} {t t' : String} {key : Bytes} (h : v.Agree w)
    (ht : v.toText = .ok t) (ht' : w.toText = .ok t') (hkey : publicKey t = .ok key) : t = t' := by
  obtain ⟨kind, payload, -, hdecode⟩ := exists_publicKey_iff.1 ⟨key, hkey⟩
  have hletter := Strkey.head?_of_decode hdecode
  -- What is shown in brackets has no key.
  have hbracket : ∀ (u : Value) (c : Char), u.shown.toList.head? = some c → c ≠ kind.letter →
      (if u.hasLongNumber then (.error .badNumber : Value.Read String) else .ok u.shown) ≠ .ok t := by
    intro u c hshown hc hu
    split at hu
    · cases hu
    · cases hu
      rw [hshown] at hletter
      exact hc (Option.some.inj hletter)
  cases h with
  | nan hx hy =>
      have hshown : ∀ x : Binary64, x.isNaN = true → (Value.float x).toText = .ok "nan" := by
        intro x hx
        simp [Value.toText, Value.hasLongNumber, Value.shown, Binary64.text, hx]
      rw [hshown _ hx] at ht
      rw [hshown _ hy] at ht'
      exact Except.ok.inj (ht.symm.trans ht')
  | list h => exact absurd ht (hbracket _ '[' (by simp [Value.shown]) (by cases kind <;> decide))
  | map hkeys hvalues hperm =>
      exact absurd ht (hbracket _ '\x7b' (by simp [Value.shown]) (by cases kind <;> decide))
  | @object o => cases o
  | _ => exact Except.ok.inj (ht.symm.trans ht')

/-- Signatures are filed under addresses that have their key. -/
def Keyed (made : Made) : Prop :=
  ∀ address payload sig, made.lookup (address, payload) = some sig →
    publicKey address = .ok sig.publicKey

theorem keyed_nil : Keyed [] := nofun

/-- The signature that is given is on file afterwards, with all that were before. -/
theorem signatureFor_files {made made' : Made} {payload : Bytes} {address : String}
    {sig : AuthSignature} {s s' : Session ω} (hmade : Keyed made)
    (h : (signatureFor signer made payload address).outcome s = (.ok (sig, made'), s')) :
    made'.lookup (address, payload) = some sig ∧ Keyed made' ∧
      ∀ key old, made.lookup key = some old → made'.lookup key = some old := by
  rcases signatureFor_cases h with ⟨hlookup, rfl⟩ | ⟨hlookup, rfl, hkey, -⟩
  · exact ⟨hlookup, hmade, fun _ _ => id⟩
  · refine ⟨?_, ?_, ?_⟩
    · rw [lookup_append_singleton, hlookup, beq_self_eq_true]
      rfl
    · intro address' payload' sig' hsig
      rcases eq_some_of_lookup_append hsig with hold | ⟨hfiled, rfl⟩
      · exact hmade _ _ _ hold
      · cases hfiled
        exact hkey
    · intro k old hold
      rw [lookup_append_singleton, hold]
      rfl

end Authorization

namespace Transaction

open Authorization

variable {tx out : Transaction} {passphrase : String} {limit : Int} {made made' : Made}
  {e e' a b : AuthEntry} {requirements entries : List AuthEntry}

/-- How the place of a requirement is filled, with the signatures that are on file in the end. -/
inductive Fills (tx : Transaction) (passphrase : String) (limit : Int) (made : Made) :
    AuthEntry → AuthEntry → Prop where
  | kept {e : AuthEntry} (hresolved : e.isResolved = true) : Fills tx passphrase limit made e e
  | carried {e a : AuthEntry} (hfound : tx.signedEntry? e = some a) :
      Fills tx passphrase limit made e a
  | signed {e : AuthEntry} {address : String} {sig : AuthSignature} (hopen : e.isResolved = false)
      (hnone : tx.signedEntry? e = none) (haddress : e.address.toText = .ok address)
      (hkey : publicKey address = .ok sig.publicKey)
      (hsig : made.lookup (address, e.payload passphrase limit) = some sig) :
      Fills tx passphrase limit made e { e with expiration := limit, signature := some sig }

/-- What is assumed of a transaction and of the requirements that are resolved for it. -/
structure Requires (tx : Transaction) (requirements : List AuthEntry) : Prop where
  /-- Only entries with an address are signed. -/
  addressed : ∀ a ∈ tx.authEntries, a.signature.isSome = true → a.address.isNull = false
  unsigned : ∀ e ∈ requirements, e.signature = none
  /-- Values are equal exactly when their bytes are. -/
  compares : ∀ a ∈ tx.authEntries ++ requirements, ∀ b ∈ tx.authEntries ++ requirements,
    a.ComparesAsEncoded b
  /-- Canonical bytes are no more than a length can say. -/
  size : ∀ e ∈ requirements, e.identity.length < 2 ^ 64

theorem Fills.identity_eq (h : tx.Fills passphrase limit made e a) : a.identity = e.identity := by
  cases h with
  | kept => rfl
  | carried hfound => exact identity_of_signedEntry? hfound
  | signed => rfl

end Transaction

namespace Authorization

variable {ω : Type} {signer : Signer ω}

/-- Resolving requirements one after another fills their places from one file of signatures. -/
theorem resolveEntries_fills {tx : Transaction} {passphrase : String} {limit : Int} {made : Made}
    {requirements entries : List AuthEntry} {s s' : Session ω} (hmade : Keyed made)
    (h : (resolveEntries tx signer passphrase limit made requirements).outcome s = (.ok entries, s')) :
    ∃ made', (∀ key old, made.lookup key = some old → made'.lookup key = some old) ∧
      List.Forall₂ (tx.Fills passphrase limit made') requirements entries := by
  induction requirements generalizing made entries s with
  | nil =>
      cases h
      exact ⟨made, fun _ _ => id, .nil⟩
  | cons e rest ih =>
      obtain ⟨a, made₁, s₁, more, hstep, hrest, rfl⟩ := resolveEntries_cons_eq_ok h
      cases hstep with
      | kept hresolved =>
          obtain ⟨made', hold, hfills⟩ := ih hmade hrest
          exact ⟨made', hold, .cons (.kept hresolved) hfills⟩
      | prior hopen hfound =>
          obtain ⟨made', hold, hfills⟩ := ih hmade hrest
          exact ⟨made', hold, .cons (.carried hfound) hfills⟩
      | signed hopen hnone haddress hsig =>
          obtain ⟨hfiled, hkeyed, hold₁⟩ := signatureFor_files hmade hsig
          obtain ⟨made', hold, hfills⟩ := ih hkeyed hrest
          exact ⟨made', fun key old hkey => hold key old (hold₁ key old hkey),
            .cons (.signed hopen hnone haddress (hkeyed _ _ _ hfiled) (hold _ _ hfiled)) hfills⟩

/-- A resolution that succeeds fills the places of its requirements. -/
theorem resolve_fills {tx out : Transaction} {requirements : List AuthEntry}
    {policy : ExpirationPolicy} {passphrase : String} {ledger : Stage ω Value} {known : Option Int}
    {s s' : Session ω}
    (h : (resolve tx (some requirements) signer policy passphrase ledger known).outcome s =
      (.ok out, s')) :
    ∃ limit made entries, tx.withAuth entries = .ok out ∧
      List.Forall₂ (tx.Fills passphrase limit made) requirements entries := by
  obtain ⟨entries, hwith, hresolved⟩ := resolve_eq_ok h
  rcases hresolved with ⟨hnone, rfl⟩ | ⟨-, first, limit, s₁, line, -, hentries⟩
  · refine ⟨0, [], _, hwith, ?_⟩
    refine (Transaction.becomes_of_nothing_needed hnone).imp fun e a ha => ?_
    cases ha with
    | carried hopen hfound => exact .carried hfound
    | kept hresolved hfound => exact .kept hresolved
    | signed hneeded => cases hneeded
  · obtain ⟨made, -, hfills⟩ := resolveEntries_fills keyed_nil hentries
    exact ⟨limit, made, entries, hwith, hfills⟩

end Authorization

namespace Transaction

open Authorization

variable {tx out : Transaction} {passphrase : String} {limit : Int} {made : Made}
  {e e' a b : AuthEntry} {requirements entries : List AuthEntry}

/-- What is signed in the place of a requirement is carried over or signed now. -/
theorem Fills.cases_of_signed (h : tx.Fills passphrase limit made e a) (hunsigned : e.signature = none)
    (hsigned : a.signature.isSome = true) :
    tx.signedEntry? e = some a ∨ tx.signedEntry? e = none ∧ e.isResolved = false ∧
      ∃ address sig, e.address.toText = .ok address ∧ publicKey address = .ok sig.publicKey ∧
        made.lookup (address, e.payload passphrase limit) = some sig ∧
        a = { e with expiration := limit, signature := some sig } := by
  cases h with
  | kept => rw [hunsigned] at hsigned; cases hsigned
  | carried hfound => exact .inl hfound
  | signed hopen hnone haddress hkey hsig =>
      exact .inr ⟨hnone, hopen, _, _, haddress, hkey, hsig, rfl⟩

/-- Two places of one requirement are filled with equal entries. -/
theorem Fills.same (hrequires : tx.Requires requirements) (he : e ∈ requirements)
    (he' : e' ∈ requirements) (hidentity : e.identity = e'.identity)
    (h : tx.Fills passphrase limit made e a) (h' : tx.Fills passphrase limit made e' b)
    (ha : a.signature.isSome = true) (hb : b.signature.isSome = true) : a.same b = true := by
  have hsize := hrequires.size e he
  have hprior : tx.signedEntry? e = tx.signedEntry? e' := signedEntry?_congr hidentity
  rcases h.cases_of_signed (hrequires.unsigned e he) ha with
    hfound | ⟨hnone, -, address, sig, haddress, hkey, hsig, rfl⟩
  · rcases h'.cases_of_signed (hrequires.unsigned e' he') hb with hfound' | ⟨hnone', -⟩
    · rw [hprior, hfound'] at hfound
      obtain rfl := Option.some.inj hfound
      exact Value.same_refl _
    · rw [hprior, hnone'] at hfound
      cases hfound
  · rcases h'.cases_of_signed (hrequires.unsigned e' he') hb with
      hfound' | ⟨-, -, address', sig', haddress', -, hsig', rfl⟩
    · rw [hprior, hfound'] at hnone
      cases hnone
    · -- The same payload of the same address, so the signature on file is the same.
      obtain rfl := toText_eq_of_agree (AuthEntry.agree_address_of_identity_eq hsize hidentity)
        haddress haddress' hkey
      rw [AuthEntry.payload_eq_of_identity_eq hsize hidentity, hsig'] at hsig
      obtain ⟨hnonce, hbytes, hcall⟩ := (AuthEntry.identity_eq_iff hsize).1 hidentity
      obtain ⟨hsameAddress, hsameCall⟩ := hrequires.compares e (List.mem_append_right _ he) e'
        (List.mem_append_right _ he')
      exact AuthEntry.same_iff.2
        ⟨hsameCall.2 hcall, hsameAddress.2 hbytes, hnonce, rfl, hsig.symm⟩

/-- The place of a requirement with an address is filled with a signed entry. -/
theorem Fills.isSome_signature (h : tx.Fills passphrase limit made e a)
    (hunsigned : e.signature = none) (haddress : e.address.isNull = false) :
    a.signature.isSome = true := by
  cases h with
  | kept hresolved =>
      rw [AuthEntry.isResolved, haddress, hunsigned] at hresolved
      cases hresolved
  | carried hfound =>
      obtain ⟨-, hsigned⟩ := mem_of_signedEntry? hfound
      exact hsigned
  | signed => rfl

/-- The last entry of a requirement among those that are signed. -/
def lastSigned (entries : List AuthEntry) (e : AuthEntry) : Option AuthEntry :=
  (entries.filter fun x => x.signature.isSome).reverse.find? fun x => x.identity == e.identity

theorem signedEntry?_eq_or (tx : Transaction) (e : AuthEntry) : tx.signedEntry? e =
    (lastSigned tx.laterAuth e).or (lastSigned (tx.firstAuth?.getD []) e) := by
  unfold signedEntry?
  rw [authEntries_split, List.filter_append, List.reverse_append, List.find?_append]
  rfl

theorem mem_of_lastSigned (h : lastSigned entries e = some a) :
    a ∈ entries ∧ a.signature.isSome = true ∧ a.identity = e.identity := by
  have hmem := List.mem_filter.1 (List.mem_reverse.1 (List.mem_of_find?_eq_some h))
  have hidentity := List.find?_some (p := fun x : AuthEntry => x.identity == e.identity) h
  exact ⟨hmem.1, hmem.2, beq_iff_eq.1 hidentity⟩

theorem exists_lastSigned (ha : a ∈ entries) (hsigned : a.signature.isSome = true)
    (hidentity : a.identity = e.identity) : ∃ b, lastSigned entries e = some b := by
  rw [← Option.isSome_iff_exists, lastSigned, List.find?_isSome]
  exact ⟨a, List.mem_reverse.2 (List.mem_filter.2 ⟨ha, hsigned⟩), beq_iff_eq.2 hidentity⟩

section After

variable (hrequires : tx.Requires requirements) (hfirst : out.firstAuth? = some entries)
  (hlater : out.laterAuth = tx.laterAuth)
  (hfills : List.Forall₂ (tx.Fills passphrase limit made) requirements entries)

include hrequires hfirst hlater hfills

/-- The signed entry for a requirement is equal to what fills its place. -/
theorem exists_signedEntry?_after (he : e ∈ requirements) (haddress : e.address.isNull = false) :
    ∃ b, out.signedEntry? e = some b ∧
      ∀ a, tx.Fills passphrase limit made e a → a.same b = true := by
  have hunsigned := hrequires.unsigned e he
  rw [signedEntry?_eq_or, hlater, hfirst, Option.getD_some]
  cases hlast : lastSigned tx.laterAuth e with
  | some c =>
      -- An entry of a later call has been there before, and it comes first both times.
      have hprior : tx.signedEntry? e = some c := by
        rw [signedEntry?_eq_or, hlast]
        rfl
      refine ⟨c, rfl, fun a ha => ?_⟩
      rcases ha.cases_of_signed hunsigned (ha.isSome_signature hunsigned haddress) with
        hfound | ⟨hnone, -⟩
      · rw [hprior] at hfound
        rw [Option.some.inj hfound]
        exact Value.same_refl _
      · rw [hprior] at hnone
        cases hnone
  | none =>
      obtain ⟨own, hown, hownFills⟩ := exists_mem_of_forall₂ hfills he
      obtain ⟨b, hb⟩ := exists_lastSigned hown (hownFills.isSome_signature hunsigned haddress)
        hownFills.identity_eq
      obtain ⟨hmem, hsigned, hidentity⟩ := mem_of_lastSigned hb
      obtain ⟨e', he', hb'⟩ := exists_mem_of_forall₂ hfills.flip hmem
      refine ⟨b, hb, fun a ha => ?_⟩
      exact ha.same hrequires he he' (hidentity.symm.trans hb'.identity_eq) hb'
        (ha.isSome_signature hunsigned haddress) hsigned

/-- There is still no signed entry without an address. -/
theorem addressed_after :
    ∀ x ∈ out.authEntries, x.signature.isSome = true → x.address.isNull = false := by
  intro x hx hsigned
  rw [authEntries_split, hfirst, hlater, Option.getD_some] at hx
  rcases List.mem_append.1 hx with hx | hx
  · obtain ⟨e, he, hfill⟩ := exists_mem_of_forall₂ hfills.flip hx
    rcases hfill.cases_of_signed (hrequires.unsigned e he) hsigned with
      hfound | ⟨-, hopen, _, _, -, -, -, rfl⟩
    · obtain ⟨hmem, -⟩ := mem_of_signedEntry? hfound
      exact hrequires.addressed x hmem hsigned
    · exact (Bool.or_eq_false_iff.1 hopen).1
  · refine hrequires.addressed x ?_ hsigned
    rw [authEntries_split]
    exact List.mem_append_right _ hx

end After

/-- A requirement of the source account fills its own place. -/
theorem Fills.eq_of_isNull (hrequires : tx.Requires requirements) (he : e ∈ requirements)
    (hnull : e.address.isNull = true) (h : tx.Fills passphrase limit made e a) : a = e := by
  cases h with
  | kept => rfl
  | carried hfound =>
      rw [signedEntry?_eq_none_of_isNull hrequires.addressed (hrequires.size e he) hnull] at hfound
      cases hfound
  | signed hopen =>
      rw [AuthEntry.isResolved, hnull] at hopen
      cases hopen

/-- Where every requirement with an address has a signed entry, nothing needs a signature. -/
theorem needsSignature_eq_false
    (h : e.address.isNull = false → ∃ b, tx.signedEntry? e = some b) : tx.needsSignature e = false := by
  rw [needsSignature, AuthEntry.isResolved]
  cases haddress : e.address.isNull with
  | true => rfl
  | false =>
      obtain ⟨b, hb⟩ := h haddress
      rw [hb]
      exact Bool.and_false _

/-- A transaction that had equal entries already had a signed one for each requirement with an address. -/
theorem exists_signedEntry?_of_sameAll (hrequires : tx.Requires requirements)
    (hfills : List.Forall₂ (tx.Fills passphrase limit made) requirements entries)
    (hsame : AuthEntry.sameAll (tx.firstAuth?.getD []) entries = true) (he : e ∈ requirements)
    (haddress : e.address.isNull = false) : ∃ b, tx.signedEntry? e = some b := by
  have hunsigned := hrequires.unsigned e he
  obtain ⟨a, ha, hfill⟩ := exists_mem_of_forall₂ hfills he
  have hsigned := hfill.isSome_signature hunsigned haddress
  rcases hfill.cases_of_signed hunsigned hsigned with hfound | ⟨-, -, _, sig, -, -, -, rfl⟩
  · exact ⟨a, hfound⟩
  · -- A signature made now is on an entry that is equal to one of the transaction.
    obtain ⟨p, hp, hpsame⟩ := exists_mem_of_forall₂ (AuthEntry.sameAll_iff.1 hsame).flip ha
    obtain ⟨hcall, hpaddress, hnonce, -, hpsigned⟩ := AuthEntry.same_iff.1 hpsame
    have hmem : p ∈ tx.authEntries := by
      rw [authEntries_split]
      exact List.mem_append_left _ hp
    obtain ⟨hsameAddress, hsameCall⟩ := hrequires.compares p (List.mem_append_left _ hmem) e
      (List.mem_append_right _ he)
    have hidentity : e.identity = p.identity := (AuthEntry.identity_eq_iff (hrequires.size e he)).2
      ⟨hnonce.symm, (hsameAddress.1 hpaddress).symm, (hsameCall.1 hcall).symm⟩
    exact Option.ne_none_iff_exists'.1
      (signedEntry?_ne_none hmem (by rw [hpsigned]; rfl) hidentity.symm)

/-- Once the entries of requirements are on a transaction, none of these needs a signature, and what stands
for them are the entries that it has. -/
theorem settled_after (hrequires : tx.Requires requirements)
    (hfills : List.Forall₂ (tx.Fills passphrase limit made) requirements entries)
    (hwith : tx.withAuth entries = .ok out) :
    (∀ e ∈ requirements, out.needsSignature e = false) ∧
      out.withAuth (requirements.map fun e => (out.signedEntry? e).getD e) = .ok out := by
  rcases firstAuth?_of_withAuth hwith with ⟨hfirst, hlater⟩ | ⟨rfl, hsame⟩
  · constructor
    · intro e he
      refine needsSignature_eq_false fun haddress => ?_
      obtain ⟨b, hb, -⟩ := exists_signedEntry?_after hrequires hfirst hlater hfills he haddress
      exact ⟨b, hb⟩
    · have hplaces : List.Forall₂ (fun e a => a.same ((out.signedEntry? e).getD e) = true)
          requirements entries := by
        refine Value.forall₂_imp_of_mem (fun e he a ha => ?_) hfills
        cases haddress : e.address.isNull with
        | true =>
            rw [signedEntry?_eq_none_of_isNull (addressed_after hrequires hfirst hlater hfills)
              (hrequires.size e he) haddress, ha.eq_of_isNull hrequires he haddress]
            exact Value.same_refl _
        | false =>
            obtain ⟨b, hb, hsame⟩ :=
              exists_signedEntry?_after hrequires hfirst hlater hfills he haddress
            rw [hb]
            exact hsame a ha
      refine withAuth_of_sameAll hfirst (AuthEntry.sameAll_iff.2 ?_)
      rw [List.forall₂_map_right_iff]
      exact hplaces.flip
  · have hprior := fun e he => exists_signedEntry?_of_sameAll (e := e) hrequires hfills hsame he
    refine ⟨fun e he => needsSignature_eq_false (hprior e he), ?_⟩
    -- Nothing was signed, so the same entries stand for the requirements again.
    have hplaces : requirements.map (fun e => (out.signedEntry? e).getD e) = entries.map id := by
      refine Value.map_eq_map_of_forall₂ (fun e he a ha => ?_) hfills
      cases haddress : e.address.isNull with
      | true =>
          rw [signedEntry?_eq_none_of_isNull hrequires.addressed (hrequires.size e he) haddress,
            ha.eq_of_isNull hrequires he haddress]
          rfl
      | false =>
          obtain ⟨b, hb⟩ := hprior e he haddress
          rcases ha.cases_of_signed (hrequires.unsigned e he)
            (ha.isSome_signature (hrequires.unsigned e he) haddress) with hfound | ⟨hnone, -⟩
          · rw [hfound]
            rfl
          · rw [hb] at hnone
            cases hnone
    rw [hplaces, List.map_id]
    exact hwith

end Transaction

namespace Authorization

variable {ω ω' : Type} {signer : Signer ω}

/-- **Resolving again changes nothing and asks nobody.**  Where only entries with an address are signed, no
requirement is signed, and values are equal exactly when their canonical bytes are: the transaction that a
resolution ends with is what every further resolution of the same requirements ends with, whatever signer,
policy, network, ledger and known ledger it is given, and the session is as before. -/
theorem resolve_again {tx out : Transaction} {requirements : List AuthEntry}
    (hrequires : tx.Requires requirements) {policy : ExpirationPolicy} {passphrase : String}
    {ledger : Stage ω Value} {known : Option Int} {s s' : Session ω}
    (h : (resolve tx (some requirements) signer policy passphrase ledger known).outcome s =
      (.ok out, s'))
    (signer' : Signer ω') (policy' : ExpirationPolicy) (passphrase' : String)
    (ledger' : Stage ω' Value) (known' : Option Int) (t : Session ω') :
    (resolve out (some requirements) signer' policy' passphrase' ledger' known').outcome t =
      (.ok out, t) := by
  obtain ⟨limit, made, entries, hwith, hfills⟩ := resolve_fills h
  obtain ⟨hneeds, hagain⟩ := Transaction.settled_after hrequires hfills hwith
  have hnothing : requirements.filter out.needsSignature = [] :=
    List.filter_eq_nil_iff.2 fun e he => by simp [hneeds e he]
  rw [outcome_resolve_of_nothing_needed hnothing, Option.getD_some, hagain]

/-- A signer that counts what it is asked and always answers the same. -/
def counting : Signer Nat := fun _ _ => do
  modify fun s => { s with world := s.world + 1 }
  pure (.bytes [2])

/-- A requirement that is given twice is signed once and then found twice. -/
theorem resolve_again_duplicate : ∃ out s',
    resolvedUpTo700 [otherUnsigned, otherUnsigned] = (.ok out, s') ∧
      (callCarrying [firstSigned]).Requires [otherUnsigned, otherUnsigned] ∧
      (resolve out (some [otherUnsigned, otherUnsigned]) counting {} "other" (pure .null) (some 5)).outcome
        ⟨0, []⟩ = (.ok out, ⟨0, []⟩) := by
  have hfilter : [otherUnsigned, otherUnsigned].filter (callCarrying [firstSigned]).needsSignature =
      [otherUnsigned, otherUnsigned] := by
    rw [List.filter_cons_of_pos needsSignature_otherUnsigned,
      List.filter_cons_of_pos needsSignature_otherUnsigned, List.filter_nil]
  have hsigner : repeating.Answers fun payload _ => .ok (.bytes payload) := fun _ _ _ => rfl
  obtain ⟨sig, hsig⟩ := exists_signedAlone
  have hrun : (resolvedUpTo700 [otherUnsigned, otherUnsigned]).1 = .ok (callCarrying
      (List.replicate 2 { otherUnsigned with expiration := 700, signature := some sig })) := by
    refine (result_resolve_of_limit hsigner hfilter rfl rfl).trans ?_
    rw [Option.getD_some, List.mapM_cons, List.mapM_cons, hsig]
    rfl
  have hrequires : (callCarrying [firstSigned]).Requires [otherUnsigned, otherUnsigned] := by
    -- All three entries are about the same call by the same account.
    have hcall : ∀ a ∈ [firstSigned, otherUnsigned, otherUnsigned],
        a.address = .text someAccount ∧ a.invocation = .mk "C" "f" [] [] := by
      simp [firstSigned, otherUnsigned]
    refine ⟨fun a ha _ => ?_, fun e he => ?_, fun a ha b hb => ?_, fun e he => ?_⟩
    · rw [(hcall a (List.mem_append_left [otherUnsigned, otherUnsigned] ha)).1]
      rfl
    · rw [List.eq_of_mem_replicate (n := 2) he]
      rfl
    · obtain ⟨ha, ha'⟩ := hcall a ha
      obtain ⟨hb, hb'⟩ := hcall b hb
      rw [AuthEntry.ComparesAsEncoded, ha, hb, ha', hb']
      exact ⟨iff_of_true (Value.same_refl _) rfl, iff_of_true (Value.same_refl _) rfl⟩
    · rw [List.eq_of_mem_replicate (n := 2) he, AuthEntry.identity, Cbor.length_encode]
      decide
  exact ⟨_, _, Prod.ext hrun rfl, hrequires, resolve_again hrequires (Prod.ext hrun rfl) _ _ _ _ _ _⟩

/-- A call with a floating point zero, of either sign, that an account has to authorize. -/
def zeroEntry (negative : Bool) : AuthEntry :=
  { invocation := .mk "C" "f" [.float (Binary64.zero negative)] [], address := .text someAccount }

/-- The entry with the positive zero, signed up to ledger 700. -/
def zeroSigned : AuthEntry :=
  { zeroEntry false with expiration := 700, signature := some ⟨List.replicate 32 1, [2]⟩ }

/-- The two zeros are equal but do not agree. -/
theorem not_agree_zero :
    ¬Value.Agree (.float (Binary64.zero false)) (.float (Binary64.zero true)) := by
  intro h
  generalize hx : Value.float (Binary64.zero false) = x at h
  cases h with
  | float => cases hx
  | nan hnan =>
      cases hx
      exact absurd hnan (by decide)

/-- The entry with the negative zero is another requirement. -/
theorem signedEntry?_zeroEntry :
    Transaction.signedEntry? (callCarrying [zeroSigned]) (zeroEntry true) = none := by
  refine Transaction.signedEntry?_eq_none fun a ha _ hidentity => ?_
  obtain rfl : a = zeroSigned := List.mem_singleton.1 ha
  have hsize : zeroSigned.identity.length < 2 ^ 64 := by
    rw [AuthEntry.identity, Cbor.length_encode]
    decide +kernel
  obtain ⟨-, -, hbytes⟩ := (AuthEntry.identity_eq_iff hsize).1 hidentity
  have hcall := Cbor.agree_of_encode_eq (by rw [Cbor.length_encode]; decide +kernel) hbytes
  change Value.Agree (.record _) (.record _) at hcall
  rw [Value.agree_record_iff (by rfl) (by simp)] at hcall
  simp only [List.map_cons, List.map_nil, List.forall₂_cons, Value.agree_list_iff] at hcall
  obtain ⟨-, -, ⟨hzero, -⟩, -⟩ := hcall
  exact absurd hzero not_agree_zero

/-- The signer is asked for the entry with the negative zero, and its signature is dropped because the entry
is equal to the one with the positive zero. -/
theorem outcome_resolve_zero (n : Nat) (log : List LogRecord) : ∃ log',
    (resolve (callCarrying [zeroSigned]) (some [zeroEntry true]) counting { target := some 700 } "test"
      (pure .null) none).outcome ⟨n, log⟩ = (.ok (callCarrying [zeroSigned]), ⟨n + 1, log'⟩) := by
  have hneeds : (callCarrying [zeroSigned]).needsSignature (zeroEntry true) = true := by
    rw [Transaction.needsSignature, signedEntry?_zeroEntry]
    rfl
  have hfilter : [zeroEntry true].filter (callCarrying [zeroSigned]).needsSignature =
      [zeroEntry true] := by
    rw [List.filter_cons_of_pos hneeds, List.filter_nil]
  obtain ⟨log₁, hresolve⟩ : ∃ log₁, (resolve (callCarrying [zeroSigned]) (some [zeroEntry true])
      counting { target := some 700 } "test" (pure .null) none).outcome ⟨n, log⟩ = _ :=
    outcome_resolve_of_limit hfilter rfl rfl
  have hkey : (publicKey someAccount).toOption.map id = some (List.replicate 32 1) := by decide +kernel
  obtain ⟨key, hkey, rfl⟩ := exists_of_toOption_map hkey
  have hsig : signatureAlone (fun _ _ => .ok (.bytes [2])) ((zeroEntry true).payload "test" 700)
      someAccount = .ok ⟨List.replicate 32 1, [2]⟩ := by
    rw [signatureAlone, hkey]
    rfl
  have hsigner : counting.Answers fun _ _ => .ok (.bytes [2]) := fun _ _ _ => rfl
  obtain ⟨log₂, hnew⟩ : ∃ log₂, (signatureFor counting [] ((zeroEntry true).payload "test" 700)
      someAccount).outcome ⟨n, log₁⟩ = _ := outcome_signatureFor_of_new rfl _
  rw [hsigner.answersIn_eq, hsig] at hnew
  refine ⟨log₂, ?_⟩
  rw [hresolve, Option.getD_some, outcome_resolveEntries_of_signature hneeds rfl hnew]
  have hsame : (callCarrying [zeroSigned]).withAuth [{ zeroEntry true with
      expiration := 700, signature := some ⟨List.replicate 32 1, [2]⟩ }] =
        .ok (callCarrying [zeroSigned]) :=
    Transaction.withAuth_of_sameAll rfl (by decide +kernel)
  exact Prod.ext hsame rfl

/-- Two resolutions one after another, of which the second gets the transaction that the first ends with and
asks the signer once more. -/
theorem asked_again :
    let resolution := resolve (callCarrying [zeroSigned]) (some [zeroEntry true]) counting
      { target := some 700 } "test" (pure .null) none
    zeroSigned.address.isNull = false ∧ (zeroEntry true).signature = none ∧
      ∃ log log', resolution.outcome ⟨0, []⟩ = (.ok (callCarrying [zeroSigned]), ⟨1, log⟩) ∧
        resolution.outcome ⟨1, log⟩ = (.ok (callCarrying [zeroSigned]), ⟨2, log'⟩) := by
  intro resolution
  obtain ⟨log, hfirst⟩ := outcome_resolve_zero 0 []
  obtain ⟨log', hsecond⟩ := outcome_resolve_zero 1 log
  exact ⟨rfl, rfl, log, log', hfirst, hsecond⟩

end Authorization
end LedgerFlow

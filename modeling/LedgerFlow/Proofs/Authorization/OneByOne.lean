import LedgerFlow.Proofs.Authorization.Neighbours

/-!
# Resolving is plain signing

A resolution keeps signed entries, reuses signatures and looks ahead for requirements that need one.  What
it does can be said without any of this (`PlainCourse`): the ledger is read at most once, the signer is
asked about the distinct pairs of address and payload of the open requirements in the order of their first
occurrence, and every requirement is resolved on its own.  The first pair without a signature ends the
resolution.  That is a pair that the signer refuses, or one with the address of a seed, which has no key
that could be put beside the signature: the signer is asked about it and the answer is of no use
(`unsigned_seed`).
-/

namespace LedgerFlow

/-- Leaving out repetitions keeps the first member with a property. -/
theorem find?_eraseDups {α : Type} [BEq α] [LawfulBEq α] (p : α → Bool) (l : List α) :
    l.eraseDups.find? p = l.find? p := by
  match l with
  | [] => rfl
  | a :: as =>
      rw [List.eraseDups_cons, List.find?_cons, List.find?_cons]
      cases ha : p a with
      | true => rfl
      | false =>
          -- What is left out is equal to a member without the property.
          have hskip : ∀ b, decide ((!b == a) = true ∧ p b = true) = p b := by
            intro b
            by_cases hb : b = a
            · rw [hb, ha]
              simp
            · simp [hb]
          dsimp only
          rw [find?_eraseDups p (as.filter fun b => !b == a), List.find?_filter]
          simp only [hskip]
termination_by l.length
decreasing_by exact Nat.lt_succ_of_le (List.length_filter_le _ _)

/-- A list has results where each of its members has one. -/
theorem exists_mapM_eq_ok {ε α β : Type} {f : α → Except ε β} {xs : List α}
    (h : ∀ x ∈ xs, ∃ y, f x = .ok y) : ∃ ys, xs.mapM f = .ok ys := by
  induction xs with
  | nil => exact ⟨[], rfl⟩
  | cons x xs ih =>
      rw [List.forall_mem_cons] at h
      obtain ⟨⟨y, hy⟩, hxs⟩ := h
      obtain ⟨ys, hys⟩ := ih hxs
      exact ⟨y :: ys, by rw [List.mapM_cons, hy, hys]; rfl⟩

namespace Authorization

variable {ω : Type} {signer : Signer ω} {ledger : Stage ω Value}

/-! ## Questions and answers -/

/-- What is asked during a resolution. -/
inductive Question where
  | ledger
  | signature (address : String) (payload : Bytes)
  deriving DecidableEq, Repr

/-- The question for the signature of a pair of address and payload. -/
def Question.ofPair (p : String × Bytes) : Question := .signature p.1 p.2

/-- The answers of a signer that signs with bytes. -/
def asValues (answer : Bytes → String → Except Fault Bytes) (payload : Bytes) (address : String) :
    Except Fault Value :=
  (answer payload address).map .bytes

/-- A signer and a ledger whose answers depend on the question alone, in a world that tells what they were
asked. -/
structure Answering (asked : ω → List Question) (signer : Signer ω) (ledger : Stage ω Value)
    (answer : Bytes → String → Except Fault Bytes) (latest : Except Fault Value) : Prop where
  signer_answers : signer.Answers (asValues answer)
  signer_asked : ∀ payload address s, asked ((signer payload address).outcome s).2.world =
    asked s.world ++ [.signature address payload]
  ledger_answers : ∀ s, (ledger.outcome s).1 = latest
  ledger_asked : ∀ s, asked (ledger.outcome s).2.world = asked s.world ++ [.ledger]

/-- Whether a pair of address and payload gets a signature: the signer answers, for an address other than a
seed. -/
def Signable (answer : Bytes → String → Except Fault Bytes) (p : String × Bytes) : Prop :=
  (∃ sig, answer p.2 p.1 = .ok sig) ∧ Strkey.isValid p.1 (some [.seed]) = false

/-- The ledger is asked only without a target. -/
def ledgerQuestions (policy : ExpirationPolicy) : List Question :=
  if policy.target.isNone then [.ledger] else []

/-- The ledger up to which signatures are valid, from what the ledger answers. -/
def plainLimit (policy : ExpirationPolicy) (latest : Except Fault Value) (known : Option Int)
    (address : String) : Except Fault Int :=
  match policy.target with
  | some target =>
    if known.any (target < ·) then
      .error (.pipeline (.authorizationDenied address ("expiration ledger " ++ toString target
        ++ " is below current ledger " ++ toString (known.getD 0))))
    else .ok target
  | none => do
    let current ← (← latest).toInt.mapError .malformed
    pure (current + policy.horizon)

section Answers

variable {asked : ω → List Question} {answer : Bytes → String → Except Fault Bytes}
  {latest : Except Fault Value} {address : String} {payload sig : Bytes} {p : String × Bytes}

/-- The ledger is asked at most once, and only without a target. -/
theorem outcome_expiration (hanswering : Answering asked signer ledger answer latest)
    (policy : ExpirationPolicy) (known : Option Int) (address : String) (s : Session ω) :
    ∃ s', (expiration policy ledger known address).outcome s =
        (plainLimit policy latest known address, s') ∧
      asked s'.world = asked s.world ++ ledgerQuestions policy := by
  unfold expiration plainLimit ledgerQuestions
  cases policy.target with
  | some target =>
      refine ⟨s, ?_, (List.append_nil _).symm⟩
      cases known with
      | none => rfl
      | some now =>
          by_cases hlate : target < now
          · simp [hlate]
          · simp [hlate]
  | none =>
      refine ⟨(ledger.outcome s).2, ?_, hanswering.ledger_asked s⟩
      have hledger : ledger.outcome s = (latest, (ledger.outcome s).2) :=
        Prod.ext (hanswering.ledger_answers s) rfl
      cases latest with
      | error fault => exact Stage.outcome_bind_of_error hledger
      | ok v =>
          dsimp only
          rw [Stage.outcome_bind_of_ok hledger]
          show (Stage.ofExcept (v.toInt.mapError .malformed) >>= _).outcome _ =
            (v.toInt.mapError .malformed >>= _, _)
          cases v.toInt <;> rfl

theorem signatureAlone_of_error {fault : Fault} (h : answer payload address = .error fault) :
    signatureAlone (asValues answer) payload address = .error (refusal address fault) := by
  rw [signatureAlone, asValues, h]
  rfl

theorem signatureAlone_of_ok (h : answer payload address = .ok sig) :
    signatureAlone (asValues answer) payload address =
      (publicKey address).map fun key => ⟨key, sig⟩ := by
  rw [signatureAlone, asValues, h]
  show (publicKey address >>= _) = _
  cases publicKey address <;> rfl

/-- A seed has no key. -/
theorem publicKey_of_seed (h : Strkey.isValid address (some [.seed]) = true) :
    publicKey address = .error (.strkey (.wrongLetter .account)) := by
  obtain ⟨kind, hkind, key, hdecode⟩ := Strkey.isValid_some_iff.1 h
  obtain rfl := List.mem_singleton.1 hkind
  have hletter := Strkey.head?_of_decode hdecode
  rw [publicKey, if_neg (by rw [hletter]; decide), Strkey.publicKey, if_neg (by rw [hletter]; decide),
    Strkey.decode, if_pos (by rw [hletter]; decide)]
  rfl

/-- Every other strkey has one. -/
theorem exists_publicKey (hvalid : Strkey.isValid address none = true)
    (h : Strkey.isValid address (some [.seed]) = false) : ∃ key, publicKey address = .ok key := by
  obtain ⟨kind, payload, hdecode⟩ := Strkey.isValid_none_iff.1 hvalid
  refine exists_publicKey_iff.2 ⟨kind, payload, ?_, hdecode⟩
  rintro rfl
  rw [Strkey.isValid_some_iff.2 ⟨.seed, List.mem_singleton_self _, payload, hdecode⟩] at h
  cases h

/-- There is a signature exactly for what can be signed. -/
theorem refuses_eq_false_iff (hvalid : Strkey.isValid p.1 none = true) :
    refuses (asValues answer) p = false ↔ Signable answer p := by
  rw [refuses, Bool.not_eq_false', Signable]
  cases hanswer : answer p.2 p.1 with
  | error fault =>
      rw [signatureAlone_of_error hanswer]
      refine iff_of_false Bool.false_ne_true ?_
      rintro ⟨⟨sig, hsig⟩, -⟩
      cases hsig
  | ok sig =>
      rw [signatureAlone_of_ok hanswer]
      cases hseed : Strkey.isValid p.1 (some [.seed]) with
      | true =>
          rw [publicKey_of_seed hseed]
          refine iff_of_false Bool.false_ne_true ?_
          rintro ⟨-, hother⟩
          cases hother
      | false =>
          obtain ⟨key, hkey⟩ := exists_publicKey hvalid hseed
          rw [hkey]
          exact iff_of_true rfl ⟨⟨sig, rfl⟩, rfl⟩

end Answers

end Authorization

/-! ## Open requirements -/

/-- What is assumed of a requirement: it is unsigned, and its address is a strkey unless it is one of the
source account.  Its identity has no more bytes than a length can say. -/
structure AuthEntry.IsPlain (e : AuthEntry) : Prop where
  unsigned : e.signature = none
  address : e.address = .null ∨ ∃ t, e.address = .text t ∧ Strkey.isValid t none = true
  size : e.identity.length < 2 ^ 64

namespace Transaction

open Authorization

variable {tx : Transaction} {answer : Bytes → String → Except Fault Value} {passphrase : String}
  {limit : Int} {e : AuthEntry} {requirements entries : List AuthEntry} {p : String × Bytes}

/-- Whether a requirement with an address has no signed entry on a transaction. -/
def isOpen (tx : Transaction) (e : AuthEntry) : Bool :=
  !e.usesSourceAccount &&
    !tx.authEntries.any fun a => a.signature.isSome && a.identity == e.identity

/-- The distinct pairs of address and payload of the open requirements, by first occurrence. -/
def openPairs (tx : Transaction) (passphrase : String) (limit : Int) (requirements : List AuthEntry) :
    List (String × Bytes) :=
  ((requirements.filter tx.isOpen).map (questionFor passphrase limit)).eraseDups

/-- Whether the entries of the first contract call of a transaction are equal to given ones. -/
def HasAuth (tx : Transaction) (entries : List AuthEntry) : Prop :=
  ∃ auth, tx.firstAuth? = some auth ∧ AuthEntry.sameAll auth entries = true

theorem needsSignature_eq_isOpen (h : e.signature = none) : tx.needsSignature e = tx.isOpen e := by
  have hnone : (tx.signedEntry? e).isNone =
      !tx.authEntries.any fun a => a.signature.isSome && a.identity == e.identity := by
    rw [Bool.eq_iff_iff, Option.isNone_iff_eq_none, signedEntry?, List.find?_eq_none]
    simp
  rw [needsSignature, hnone, AuthEntry.isResolved, h, Option.isSome_none, Bool.or_false, isOpen,
    AuthEntry.usesSourceAccount]

theorem exists_text_of_needsSignature (hplain : e.IsPlain) (h : tx.needsSignature e = true) :
    ∃ t, e.address = .text t ∧ Strkey.isValid t none = true := by
  refine hplain.address.resolve_left fun hnull => ?_
  rw [needsSignature, AuthEntry.isResolved, hnull] at h
  cases h

/-- The entries of a transaction are those that it is given. -/
theorem exists_withAuth (hcall : tx.firstAuth?.isSome = true) (entries : List AuthEntry) :
    ∃ out, tx.withAuth entries = .ok out ∧ out.HasAuth entries := by
  obtain ⟨present, hpresent⟩ := Option.isSome_iff_exists.1 hcall
  obtain ⟨out, hout⟩ : ∃ out, tx.withAuth entries = .ok out := by
    rw [withAuth, hpresent]
    dsimp only
    split <;> exact ⟨_, rfl⟩
  refine ⟨out, hout, ?_⟩
  rcases firstAuth?_of_withAuth hout with ⟨hfirst, -⟩ | ⟨rfl, hsame⟩
  · refine ⟨entries, hfirst, AuthEntry.sameAll_iff.2 ?_⟩
    rw [List.forall₂_same]
    exact fun e _ => Value.same_refl _
  · rw [hpresent] at hsame
    exact ⟨present, hpresent, hsame⟩

/-! ## Requirements on their own -/

/-- Where nothing is to be signed, a requirement stands for itself or is signed already. -/
theorem resolvedAlone_of_not_needed (hplain : e.IsPlain)
    (haddressed : ∀ a ∈ tx.authEntries, a.signature.isSome = true → a.address.isNull = false)
    (h : tx.needsSignature e = false) :
    tx.resolvedAlone answer passphrase limit e = .ok ((tx.signedEntry? e).getD e) := by
  rw [← settledAlone_of_not_needed h, resolvedAlone_eq_settledAlone]
  rintro ⟨hresolved, prior, hprior, -⟩
  have hnull : e.address.isNull = true := by
    simpa [AuthEntry.isResolved, hplain.unsigned] using hresolved
  rw [signedEntry?_eq_none_of_isNull haddressed hplain.size hnull] at hprior
  cases hprior

/-- An open requirement gets the signature of its pair. -/
theorem resolvedAlone_of_question (h : tx.needsSignature e = true) (htext : ∃ t, e.address = .text t) :
    tx.resolvedAlone answer passphrase limit e =
      (signatureAlone answer (questionFor passphrase limit e).2 (questionFor passphrase limit e).1).map
        fun sig => { e with expiration := limit, signature := some sig } := by
  obtain ⟨t, ht⟩ := htext
  have haddress : e.address.toText = .ok t := by rw [ht]; rfl
  rw [resolvedAlone_of_needsSignature h, signedAlone_of_text haddress, questionFor_eq haddress ⟨t, ht⟩]

/-- The first pair without a signature is where the resolution of a list fails. -/
theorem mapM_resolvedAlone_of_refused (hplain : ∀ e ∈ requirements, e.IsPlain)
    (haddressed : ∀ a ∈ tx.authEntries, a.signature.isSome = true → a.address.isNull = false)
    (hp : ((requirements.filter tx.needsSignature).map (questionFor passphrase limit)).find?
      (refuses answer) = some p) :
    ∃ fault, signatureAlone answer p.2 p.1 = .error fault ∧
      requirements.mapM (tx.resolvedAlone answer passphrase limit) = .error fault := by
  induction requirements with
  | nil => cases hp
  | cons e rest ih =>
      rw [List.forall_mem_cons] at hplain
      obtain ⟨hplain, hrest⟩ := hplain
      rw [List.mapM_cons]
      cases hneeds : tx.needsSignature e with
      | false =>
          rw [List.filter_cons_of_neg (by simp [hneeds])] at hp
          obtain ⟨fault, hfault, hmapM⟩ := ih hrest hp
          rw [resolvedAlone_of_not_needed hplain haddressed hneeds, hmapM]
          exact ⟨fault, hfault, rfl⟩
      | true =>
          obtain ⟨t, ht, -⟩ := exists_text_of_needsSignature hplain hneeds
          rw [resolvedAlone_of_question hneeds ⟨t, ht⟩]
          rw [List.filter_cons_of_pos hneeds, List.map_cons, List.find?_cons] at hp
          cases hsig : signatureAlone answer (questionFor passphrase limit e).2
              (questionFor passphrase limit e).1 with
          | error fault =>
              rw [refuses, hsig] at hp
              obtain rfl := Option.some.inj hp
              exact ⟨fault, hsig, rfl⟩
          | ok sig =>
              rw [refuses, hsig] at hp
              obtain ⟨fault, hfault, hmapM⟩ := ih hrest hp
              rw [hmapM]
              exact ⟨fault, hfault, rfl⟩

/-- Where every pair has a signature, every requirement is resolved. -/
theorem exists_mapM_resolvedAlone (hplain : ∀ e ∈ requirements, e.IsPlain)
    (haddressed : ∀ a ∈ tx.authEntries, a.signature.isSome = true → a.address.isNull = false)
    (h : ∀ p ∈ (requirements.filter tx.needsSignature).map (questionFor passphrase limit),
      refuses answer p = false) :
    ∃ entries, requirements.mapM (tx.resolvedAlone answer passphrase limit) = .ok entries := by
  refine exists_mapM_eq_ok fun e he => ?_
  cases hneeds : tx.needsSignature e with
  | false => exact ⟨_, resolvedAlone_of_not_needed (hplain e he) haddressed hneeds⟩
  | true =>
      obtain ⟨t, ht, -⟩ := exists_text_of_needsSignature (hplain e he) hneeds
      have hsigned := h _ (List.mem_map_of_mem (List.mem_filter.2 ⟨he, hneeds⟩))
      rw [refuses, Bool.not_eq_false'] at hsigned
      rw [resolvedAlone_of_question hneeds ⟨t, ht⟩]
      cases hsig : signatureAlone answer (questionFor passphrase limit e).2
          (questionFor passphrase limit e).1 with
      | error fault =>
          rw [hsig] at hsigned
          cases hsigned
      | ok sig => exact ⟨_, rfl⟩

end Transaction

/-! ## The course of a resolution -/

namespace Authorization

variable {ω : Type} {signer : Signer ω} {ledger : Stage ω Value} {asked : ω → List Question}
  {tx : Transaction} {requirements : List AuthEntry} {answer : Bytes → String → Except Fault Bytes}
  {policy : ExpirationPolicy} {passphrase : String} {latest : Except Fault Value} {known : Option Int}

/-- How requirements are resolved by plain signing: what is asked one after another, and the end. -/
inductive PlainCourse (tx : Transaction) (requirements : List AuthEntry)
    (answer : Bytes → String → Except Fault Bytes) (policy : ExpirationPolicy) (passphrase : String)
    (latest : Except Fault Value) (known : Option Int) :
    List Question → Except Fault Transaction → Prop where
  /-- Nothing is open: nobody is asked, and no entry depends on an expiration. -/
  | settled {entries : List AuthEntry} {out : Transaction}
      (hopen : requirements.filter tx.isOpen = [])
      (hentries : ∀ limit,
        requirements.mapM (tx.resolvedAlone (asValues answer) passphrase limit) = .ok entries)
      (hout : out.HasAuth entries) :
      PlainCourse tx requirements answer policy passphrase latest known [] (.ok out)
  /-- There is no expiration: nothing is signed. -/
  | no_limit {first : AuthEntry} {more : List AuthEntry} {fault : Fault}
      (hopen : requirements.filter tx.isOpen = first :: more)
      (hlimit : plainLimit policy latest known first.address.plainText = .error fault) :
      PlainCourse tx requirements answer policy passphrase latest known
        (ledgerQuestions policy) (.error fault)
  /-- The signer fails: the address is named that should have signed. -/
  | refused {first : AuthEntry} {more : List AuthEntry} {limit : Int} {front back : List (String × Bytes)}
      {p : String × Bytes} {fault : Fault}
      (hopen : requirements.filter tx.isOpen = first :: more)
      (hlimit : plainLimit policy latest known first.address.plainText = .ok limit)
      (hpairs : tx.openPairs passphrase limit requirements = front ++ p :: back)
      (hfront : ∀ q ∈ front, Signable answer q) (hanswer : answer p.2 p.1 = .error fault) :
      PlainCourse tx requirements answer policy passphrase latest known
        (ledgerQuestions policy ++ (front ++ [p]).map .ofPair) (.error (refusal p.1 fault))
  /-- The signer answers for a seed. -/
  | keyless {first : AuthEntry} {more : List AuthEntry} {limit : Int} {front back : List (String × Bytes)}
      {p : String × Bytes} {sig : Bytes}
      (hopen : requirements.filter tx.isOpen = first :: more)
      (hlimit : plainLimit policy latest known first.address.plainText = .ok limit)
      (hpairs : tx.openPairs passphrase limit requirements = front ++ p :: back)
      (hfront : ∀ q ∈ front, Signable answer q) (hanswer : answer p.2 p.1 = .ok sig)
      (hseed : Strkey.isValid p.1 (some [.seed]) = true) :
      PlainCourse tx requirements answer policy passphrase latest known
        (ledgerQuestions policy ++ (front ++ [p]).map .ofPair)
        (.error (.strkey (.wrongLetter .account)))
  /-- Every pair is signed. -/
  | signed {first : AuthEntry} {more entries : List AuthEntry} {limit : Int} {out : Transaction}
      (hopen : requirements.filter tx.isOpen = first :: more)
      (hlimit : plainLimit policy latest known first.address.plainText = .ok limit)
      (hpairs : ∀ p ∈ tx.openPairs passphrase limit requirements, Signable answer p)
      (hentries : requirements.mapM (tx.resolvedAlone (asValues answer) passphrase limit) = .ok entries)
      (hout : out.HasAuth entries) :
      PlainCourse tx requirements answer policy passphrase latest known
        (ledgerQuestions policy ++ (tx.openPairs passphrase limit requirements).map .ofPair) (.ok out)

theorem filter_needsSignature_eq (hplain : ∀ e ∈ requirements, e.IsPlain) :
    requirements.filter tx.needsSignature = requirements.filter tx.isOpen :=
  List.filter_congr fun e he => Transaction.needsSignature_eq_isOpen (hplain e he).unsigned

/-- The addresses of the open pairs are strkeys. -/
theorem isValid_of_mem_openPairs (hplain : ∀ e ∈ requirements, e.IsPlain) {limit : Int}
    {p : String × Bytes} (hp : p ∈ tx.openPairs passphrase limit requirements) :
    Strkey.isValid p.1 none = true := by
  rw [Transaction.openPairs, List.mem_eraseDups, ← filter_needsSignature_eq hplain] at hp
  obtain ⟨e, he, rfl⟩ := List.mem_map.1 hp
  obtain ⟨hmem, hneeds⟩ := List.mem_filter.1 he
  obtain ⟨t, ht, hvalid⟩ := Transaction.exists_text_of_needsSignature (hplain e hmem) hneeds
  rw [questionFor, ht]
  exact hvalid

/-- The questions of a list are its open pairs, up to the first without a signature. -/
theorem questionsFor_eq_upTo (hplain : ∀ e ∈ requirements, e.IsPlain) (limit : Int) :
    questionsFor tx (asValues answer) passphrase limit [] requirements =
      upTo (refuses (asValues answer)) (tx.openPairs passphrase limit requirements) := by
  have hall : ∀ p : String × Bytes, (([] : Made).lookup p).isNone = true := fun _ => rfl
  rw [questionsFor, List.filter_eq_self.2 fun p _ => hall p, filter_needsSignature_eq hplain,
    Transaction.openPairs]

/-- With an expiration the open pairs are signed up to the first that cannot be. -/
theorem plainCourse_of_limit (hcall : tx.firstAuth?.isSome = true)
    (haddressed : ∀ a ∈ tx.authEntries, a.signature.isSome = true → a.address.isNull = false)
    (hplain : ∀ e ∈ requirements, e.IsPlain) {first : AuthEntry} {more : List AuthEntry} {limit : Int}
    (hopen : requirements.filter tx.isOpen = first :: more)
    (hlimit : plainLimit policy latest known first.address.plainText = .ok limit) :
    PlainCourse tx requirements answer policy passphrase latest known
      (ledgerQuestions policy ++ (upTo (refuses (asValues answer))
        (tx.openPairs passphrase limit requirements)).map .ofPair)
      (requirements.mapM (tx.resolvedAlone (asValues answer) passphrase limit) >>= tx.withAuth) := by
  have hvalid : ∀ p ∈ tx.openPairs passphrase limit requirements, Strkey.isValid p.1 none = true :=
    fun p hp => isValid_of_mem_openPairs hplain hp
  cases hfind : (tx.openPairs passphrase limit requirements).find? (refuses (asValues answer)) with
  | none =>
      have hall : ∀ p ∈ tx.openPairs passphrase limit requirements,
          refuses (asValues answer) p = false := by
        simpa using List.find?_eq_none.1 hfind
      obtain ⟨entries, hentries⟩ : ∃ entries,
          requirements.mapM (tx.resolvedAlone (asValues answer) passphrase limit) = .ok entries := by
        refine Transaction.exists_mapM_resolvedAlone hplain haddressed fun p hp => hall p ?_
        rwa [Transaction.openPairs, List.mem_eraseDups, ← filter_needsSignature_eq hplain]
      obtain ⟨out, hwith, hout⟩ := Transaction.exists_withAuth hcall entries
      rw [upTo_eq_self hall, hentries]
      show PlainCourse _ _ _ _ _ _ _ _ (tx.withAuth entries)
      rw [hwith]
      exact .signed hopen hlimit (fun p hp => (refuses_eq_false_iff (hvalid p hp)).1 (hall p hp))
        hentries hout
  | some p =>
      obtain ⟨hp, front, back, hpairs, hfront⟩ := List.find?_eq_some_iff_append.1 hfind
      simp only [Bool.not_eq_true'] at hfront
      have hfirst : ((requirements.filter tx.needsSignature).map (questionFor passphrase limit)).find?
          (refuses (asValues answer)) = some p := by
        rw [filter_needsSignature_eq hplain, ← find?_eraseDups]
        exact hfind
      obtain ⟨fault, hfault, hmapM⟩ :=
        Transaction.mapM_resolvedAlone_of_refused hplain haddressed hfirst
      rw [hpairs] at hvalid
      have hsignable : ∀ q ∈ front, Signable answer q := fun q hq =>
        (refuses_eq_false_iff (hvalid q (List.mem_append_left _ hq))).1 (hfront q hq)
      rw [hpairs, upTo_append_cons hfront hp, hmapM]
      -- What has no signature is refused by the signer or has no key.
      cases hanswer : answer p.2 p.1 with
      | error e =>
          rw [signatureAlone_of_error hanswer] at hfault
          cases hfault
          exact .refused hopen hlimit hpairs hsignable hanswer
      | ok sig =>
          cases hseed : Strkey.isValid p.1 (some [.seed]) with
          | true =>
              rw [signatureAlone_of_ok hanswer, publicKey_of_seed hseed] at hfault
              cases hfault
              exact .keyless hopen hlimit hpairs hsignable hanswer hseed
          | false =>
              have hvalidp := hvalid p (List.mem_append_right _ List.mem_cons_self)
              rw [(refuses_eq_false_iff hvalidp).2 ⟨⟨sig, hanswer⟩, hseed⟩] at hp
              cases hp

/-- **A resolution is plain signing, one requirement after another.**  Where only entries with an address
are signed on a transaction with a contract call, and the requirements are unsigned with strkeys for
addresses, a resolution asks what plain signing asks, in the same order, and has the same end: equal
entries on the first contract call, or the same fault. -/
theorem resolve_plainly (hanswering : Answering asked signer ledger answer latest)
    (hcall : tx.firstAuth?.isSome = true)
    (haddressed : ∀ a ∈ tx.authEntries, a.signature.isSome = true → a.address.isNull = false)
    (hplain : ∀ e ∈ requirements, e.IsPlain) (policy : ExpirationPolicy) (passphrase : String)
    (known : Option Int) (s : Session ω) :
    ∃ questions,
      asked ((resolve tx (some requirements) signer policy passphrase ledger known).outcome s).2.world =
        asked s.world ++ questions ∧
      PlainCourse tx requirements answer policy passphrase latest known questions
        ((resolve tx (some requirements) signer policy passphrase ledger known).outcome s).1 := by
  have hfilter : requirements.filter tx.needsSignature = requirements.filter tx.isOpen :=
    filter_needsSignature_eq hplain
  cases hopen : requirements.filter tx.isOpen with
  | nil =>
      rw [hopen] at hfilter
      have hneeds : ∀ e ∈ requirements, tx.needsSignature e = false := by
        simpa using List.filter_eq_nil_iff.1 hfilter
      obtain ⟨out, hwith, hout⟩ := Transaction.exists_withAuth hcall
        (requirements.map fun e => (tx.signedEntry? e).getD e)
      rw [outcome_resolve_of_nothing_needed hfilter, Option.getD_some, hwith]
      exact ⟨[], (List.append_nil _).symm, .settled hopen (fun limit => Value.mapM_eq_ok fun e he =>
        Transaction.resolvedAlone_of_not_needed (hplain e he) haddressed (hneeds e he)) hout⟩
  | cons first more =>
      rw [hopen] at hfilter
      have hfirst : first ∈ requirements.filter tx.needsSignature := by
        rw [hfilter]
        exact List.mem_cons_self
      obtain ⟨hmem, hneeds⟩ := List.mem_filter.1 hfirst
      obtain ⟨t, ht, -⟩ := Transaction.exists_text_of_needsSignature (hplain first hmem) hneeds
      have haddress : first.address.toText = .ok first.address.plainText := by rw [ht]; rfl
      obtain ⟨s', hlimit, hledger⟩ :=
        outcome_expiration hanswering policy known first.address.plainText s
      cases hplainLimit : plainLimit policy latest known first.address.plainText with
      | error fault =>
          rw [hplainLimit] at hlimit
          rw [outcome_resolve_of_no_limit hfilter haddress hlimit]
          exact ⟨_, hledger, .no_limit hopen hplainLimit⟩
      | ok limit =>
          rw [hplainLimit] at hlimit
          obtain ⟨log, hresolve⟩ : ∃ log, (resolve tx (some requirements) signer policy passphrase
              ledger known).outcome s = _ := outcome_resolve_of_limit hfilter haddress hlimit
          have htext : ∀ e ∈ requirements, tx.needsSignature e = true → ∃ t, e.address = .text t := by
            intro e he hneeds
            obtain ⟨t, ht, -⟩ := Transaction.exists_text_of_needsSignature (hplain e he) hneeds
            exact ⟨t, ht⟩
          obtain ⟨hresult, hquestions⟩ := outcome_resolveEntries hanswering.signer_answers tx passphrase
            limit faithful_nil requirements ⟨s'.world, log⟩
          rw [hresolve, Option.getD_some, hresult]
          refine ⟨_, ?_, plainCourse_of_limit hcall haddressed hplain hopen hplainLimit⟩
          rw [hquestions _ asked .ofPair hanswering.signer_asked htext, hledger, List.append_assoc,
            questionsFor_eq_upTo hplain]

/-- A signer that repeats the payload, in a world of questions. -/
def writingDown : Signer (List Question) := fun payload address => do
  modify fun s => { s with world := s.world ++ [.signature address payload] }
  pure (.bytes payload)

/-- A ledger that is at 640, in a world of questions. -/
def at640 : Stage (List Question) Value := do
  modify fun s => { s with world := s.world ++ [.ledger] }
  pure (.int 640)

/-- Two requirements with one pair of address and payload, beside a signed entry. -/
theorem resolve_plainly_duplicate :
    let tx := callCarrying [firstSigned]
    let required := [otherUnsigned, otherUnsigned]
    let run := (resolve tx (some required) writingDown {} "test" at640 (some 5)).outcome ⟨[], []⟩
    Answering id writingDown at640 (fun payload _ => .ok payload) (.ok (.int 640)) ∧
      tx.firstAuth?.isSome = true ∧
      (∀ a ∈ tx.authEntries, a.signature.isSome = true → a.address.isNull = false) ∧
      (∀ e ∈ required, e.IsPlain) ∧
      ∃ questions, id run.2.world = [] ++ questions ∧
        PlainCourse tx required (fun payload _ => .ok payload) {} "test" (.ok (.int 640)) (some 5)
          questions run.1 := by
  intro tx required run
  have hanswering : Answering id writingDown at640 (fun payload _ => .ok payload) (.ok (.int 640)) :=
    ⟨fun _ _ _ => rfl, fun _ _ _ => rfl, fun _ => rfl, fun _ => rfl⟩
  have haddressed : ∀ a ∈ tx.authEntries, a.signature.isSome = true → a.address.isNull = false := by
    intro a ha _
    rw [List.eq_of_mem_singleton (show a ∈ [firstSigned] from ha)]
    rfl
  have hplain : ∀ e ∈ required, e.IsPlain := by
    intro e he
    rw [List.eq_of_mem_replicate (n := 2) he]
    refine ⟨rfl, .inr ⟨someAccount, rfl, by decide +kernel⟩, ?_⟩
    rw [AuthEntry.identity, Cbor.length_encode]
    decide
  exact ⟨hanswering, rfl, haddressed, hplain,
    resolve_plainly hanswering rfl haddressed hplain {} "test" (some 5) ⟨[], []⟩⟩

/-- The seed of 32 bytes from 0 to 31. -/
def someSeed : String := "SAAACAQDAQCQMBYIBEFAWDANBYHRAEISCMKBKFQXDAMRUGY4DUPB6NKI"

/-- An entry that a seed has to authorize. -/
def seedUnsigned : AuthEntry := { otherUnsigned with address := .text someSeed }

/-- A seed is a strkey.  Its entry gets no signature, though the signer answers whatever it is asked. -/
theorem unsigned_seed :
    (callCarrying []).firstAuth?.isSome = true ∧ seedUnsigned.signature = none ∧
      seedUnsigned.address = .text someSeed ∧ Strkey.isValid someSeed none = true ∧
      repeating.Answers (fun payload _ => .ok (.bytes payload)) ∧
      ((resolve (callCarrying []) (some [seedUnsigned]) repeating { target := some 700 } "test"
        (pure .null) none).outcome ⟨(), []⟩).1 = .error (.strkey (.wrongLetter .account)) := by
  have hneeds : (callCarrying []).needsSignature seedUnsigned = true := rfl
  have hfilter : [seedUnsigned].filter (callCarrying []).needsSignature = [seedUnsigned] := by
    rw [List.filter_cons_of_pos hneeds, List.filter_nil]
  have hsigner : repeating.Answers fun payload _ => .ok (.bytes payload) := fun _ _ _ => rfl
  have hkey : publicKey someSeed = .error (.strkey (.wrongLetter .account)) :=
    publicKey_of_seed (by decide +kernel)
  have hsig : signatureAlone (fun payload _ => .ok (.bytes payload)) (seedUnsigned.payload "test" 700)
      someSeed = .error (.strkey (.wrongLetter .account)) := by
    rw [signatureAlone, hkey]
    rfl
  refine ⟨rfl, rfl, rfl, by decide +kernel, hsigner,
    (result_resolve_of_limit hsigner hfilter rfl rfl).trans ?_⟩
  rw [Option.getD_some, List.mapM_cons, Transaction.resolvedAlone_of_needsSignature hneeds,
    signedAlone_of_text rfl, hsig]
  rfl

end Authorization
end LedgerFlow

import LedgerFlow.Proofs.Keystore.Collecting

/-!
# Adding keys

A key store is filled by adding seeds, in any order and any number of times.  In `addAll`, a seed that is
refused leaves the store as it was, and the next one is added to the same store.

An addition answers with the address of its seed, whatever the store holds (`map_fst_add`), and lists it
behind the others unless it is there already (`addresses_of_add`).  So a store lists the addresses of the
valid seeds, each where it came first; and since every seed stays under the address of its own key
(`HoldsOwn`), no address is ever signed for with the key of another (`addAll_serves`).
-/

namespace LedgerFlow

namespace Ed25519

/-- Whether the key of a seed accepts the signature of a payload under that seed. -/
def AcceptsOwn (seed payload : Bytes) : Prop := verify (publicKey seed) payload (sign seed payload) = true

end Ed25519

namespace Keystore

variable {store out : Keystore} {seed name : String} {seeds more : List String}

/-! ## One addition -/

/-- Every raw seed has an address, since a public key is as long as an account says. -/
theorem exists_address (raw : Bytes) : ∃ name, address raw = .ok name := by
  have hlength : (Ed25519.publicKey raw).length = Strkey.Kind.account.payloadLength :=
    Ed25519.length_publicKey raw
  have hencode := Strkey.encode_eq_ok_iff.2 ⟨hlength, rfl⟩
  exact ⟨_, by rw [address, hencode, Except.mapError]⟩

/-- The seeds without an address are those that are no seed strkeys. -/
theorem addressForSeed_eq_error_iff {fault : Fault} :
    addressForSeed seed = .error fault ↔
      ∃ e, Strkey.decode .seed seed = .error e ∧ fault = .invalidSeed e := by
  unfold addressForSeed rawSeed
  cases Strkey.decode .seed seed with
  | error e =>
      constructor
      · intro h
        exact ⟨e, rfl, (Except.error.inj h).symm⟩
      · rintro ⟨_, he, rfl⟩
        rw [← Except.error.inj he]
        rfl
  | ok raw =>
      obtain ⟨name, hname⟩ := exists_address raw
      have hok : (Except.mapError Fault.invalidSeed (.ok raw : Except Strkey.Error Bytes) >>= address) =
          .ok name := hname
      rw [hok]
      exact iff_of_false nofun fun ⟨_, he, _⟩ => nomatch he

/-- An addition answers with the address of the seed, whatever the store holds. -/
theorem map_fst_add (store : Keystore) (seed : String) :
    (store.add seed).map Prod.fst = addressForSeed seed := by
  unfold add addressForSeed
  cases rawSeed seed with
  | error fault => rfl
  | ok raw => cases h : address raw <;> simp [bind, Except.bind, h, Except.map, pure, Except.pure]

/-- What is added is listed behind the others, unless it is listed already. -/
theorem addresses_of_add (h : store.add seed = .ok (name, out)) :
    out.addresses = if name ∈ store.addresses then store.addresses else store.addresses ++ [name] := by
  obtain ⟨raw, -, h⟩ := exists_of_bind_eq_ok h
  obtain ⟨own, -, h⟩ := exists_of_bind_eq_ok h
  cases h
  have hlisted : (store.keys.any fun k => k.1 == name) = true ↔ name ∈ store.addresses := by
    simp [addresses]
  unfold addresses at hlisted ⊢
  by_cases hany : (store.keys.any fun k => k.1 == name) = true
  · have hkept : (fun k : String × Bytes => (if k.1 == name then (name, raw) else k).1) = Prod.fst := by
      funext k
      by_cases hk : (k.1 == name) = true
      · rw [if_pos hk]
        exact (beq_iff_eq.1 hk).symm
      · rw [if_neg hk]
    rw [if_pos (hlisted.1 hany)]
    dsimp only
    rw [if_pos hany, List.map_map]
    exact congrArg (List.map · store.keys) hkept
  · rw [if_neg (mt hlisted.2 hany)]
    dsimp only
    rw [if_neg hany, List.map_append]
    rfl

/-- What is stored after an addition was stored before, or is the seed that has been added. -/
theorem mem_keys_of_add (h : store.add seed = .ok (name, out)) {k : String × Bytes} (hk : k ∈ out.keys) :
    k ∈ store.keys ∨ rawSeed seed = .ok k.2 := by
  obtain ⟨raw, hraw, h⟩ := exists_of_bind_eq_ok h
  obtain ⟨own, -, h⟩ := exists_of_bind_eq_ok h
  cases h
  dsimp only at hk
  split at hk
  · obtain ⟨k', hk', rfl⟩ := List.mem_map.1 hk
    split
    · exact .inr hraw
    · exact .inl hk'
  · rcases List.mem_append.1 hk with hk | hk
    · exact .inl hk
    · obtain rfl := List.mem_singleton.1 hk
      exact .inr hraw

/-! ## Sequences of additions -/

/-- The store after it has been asked to add a seed. -/
def addOrKeep (store : Keystore) (seed : String) : Keystore :=
  match store.add seed with
  | .ok (_, out) => out
  | .error _ => store

/-- The answers to a sequence of additions, and the store at its end.  A seed that is refused leaves the
store as it was. -/
def addAll (store : Keystore) : List String → List (Except Fault String) × Keystore
  | [] => ([], store)
  | seed :: seeds =>
    let (answers, last) := (store.addOrKeep seed).addAll seeds
    ((store.add seed).map Prod.fst :: answers, last)

/-- The addresses of the valid ones among seeds. -/
def addressesOf (seeds : List String) : List String :=
  seeds.filterMap fun seed => (addressForSeed seed).toOption

/-- What every addition keeps is kept by a sequence of additions. -/
theorem addAll_induction (holds : Keystore → Prop)
    (hadd : ∀ store out seed name, seed ∈ seeds → holds store → store.add seed = .ok (name, out) →
      holds out) (hstore : holds store) : holds (store.addAll seeds).2 := by
  induction seeds generalizing store with
  | nil => exact hstore
  | cons seed seeds ih =>
      have hnext : holds (store.addOrKeep seed) := by
        unfold addOrKeep
        cases h : store.add seed with
        | ok added => exact hadd _ _ _ _ List.mem_cons_self hstore h
        | error fault => exact hstore
      exact ih (fun _ _ _ _ hmem => hadd _ _ _ _ (List.mem_cons_of_mem _ hmem)) hnext

theorem addAll_append (store : Keystore) (seeds more : List String) :
    (store.addAll (seeds ++ more)).2 = ((store.addAll seeds).2.addAll more).2 := by
  induction seeds generalizing store with
  | nil => rfl
  | cons seed seeds ih => exact ih _

/-- Every addition of a sequence answers as it would alone. -/
theorem answers_addAll (store : Keystore) (seeds : List String) :
    (store.addAll seeds).1 = seeds.map addressForSeed := by
  induction seeds generalizing store with
  | nil => rfl
  | cons seed seeds ih =>
      rw [List.map_cons, ← map_fst_add store seed, ← ih (store.addOrKeep seed)]
      rfl

theorem addAll_append_singleton (store : Keystore) (seeds : List String) (seed : String) :
    (store.addAll (seeds ++ [seed])).2 = (store.addAll seeds).2.addOrKeep seed :=
  addAll_append store seeds [seed]

theorem eraseDups_append_singleton (names : List String) (name : String) :
    (names ++ [name]).eraseDups =
      if name ∈ names then names.eraseDups else names.eraseDups ++ [name] := by
  have hsingle : [name].eraseDups = [name] := by rw [List.eraseDups_cons]; rfl
  rw [List.eraseDups_append]
  by_cases h : name ∈ names <;> simp [List.removeAll, h, hsingle]

/-- A store lists the addresses of the valid seeds, each where it came first. -/
theorem addresses_addAll (seeds : List String) :
    (({} : Keystore).addAll seeds).2.addresses = (addressesOf seeds).eraseDups := by
  induction seeds using List.reverseRecOn with
  | nil => rfl
  | append_singleton seeds seed ih =>
      have hof : addressesOf (seeds ++ [seed]) = addressesOf seeds ++ addressesOf [seed] :=
        List.filterMap_append
      rw [addAll_append_singleton, hof]
      have hanswer := map_fst_add (({} : Keystore).addAll seeds).2 seed
      unfold addOrKeep
      cases hadd : (({} : Keystore).addAll seeds).2.add seed with
      | error fault =>
          rw [hadd] at hanswer
          have hnone : addressesOf [seed] = [] := by simp [addressesOf, ← hanswer, Except.map, Except.toOption]
          rw [hnone, List.append_nil]
          exact ih
      | ok added =>
          obtain ⟨name, out⟩ := added
          rw [hadd] at hanswer
          have hone : addressesOf [seed] = [name] := by
            simp [addressesOf, ← hanswer, Except.map, Except.toOption]
          rw [hone, eraseDups_append_singleton]
          dsimp only
          rw [addresses_of_add hadd, ih]
          simp only [List.mem_eraseDups]

theorem holdsOwn_addAll (seeds : List String) : (({} : Keystore).addAll seeds).2.HoldsOwn :=
  addAll_induction HoldsOwn (fun _ _ _ _ _ => holdsOwn_add) (List.forall_mem_nil _)

theorem addOrKeep_of_refused {fault : Fault} (h : addressForSeed seed = .error fault) :
    store.addOrKeep seed = store := by
  rw [← map_fst_add store] at h
  rw [addOrKeep, eq_error_of_map h]

/-- A seed that is refused might as well not have been given. -/
theorem addAll_filter (store : Keystore) (seeds : List String) :
    (store.addAll (seeds.filter fun seed => (addressForSeed seed).isOk)).2 = (store.addAll seeds).2 := by
  induction seeds generalizing store with
  | nil => rfl
  | cons seed seeds ih =>
      cases h : addressForSeed seed with
      | ok name =>
          rw [List.filter_cons_of_pos (by rw [h]; rfl)]
          exact ih _
      | error fault =>
          rw [List.filter_cons_of_neg (by rw [h]; exact Bool.false_ne_true), ih store]
          exact congrArg (fun next => (addAll next seeds).2) (addOrKeep_of_refused h).symm

/-- Only seeds that were added are stored. -/
theorem exists_rawSeed_of_mem_addAll (seeds : List String) :
    ∀ k ∈ (({} : Keystore).addAll seeds).2.keys, ∃ seed ∈ seeds, rawSeed seed = .ok k.2 := by
  refine addAll_induction (fun store => ∀ k ∈ store.keys, ∃ seed ∈ seeds, rawSeed seed = .ok k.2)
    (fun store out seed name hseed hstore hadd k hk => ?_) (List.forall_mem_nil _)
  rcases mem_keys_of_add hadd hk with hk | hraw
  · exact hstore k hk
  · exact ⟨seed, hseed, hraw⟩

/-- Additions list what they add behind what is listed already. -/
theorem addresses_prefix_addAll (store : Keystore) (seeds : List String) :
    store.addresses <+: (store.addAll seeds).2.addresses := by
  refine addAll_induction (fun out => store.addresses <+: out.addresses)
    (fun before out seed name _ hbefore hadd => ?_) (List.prefix_refl _)
  rw [addresses_of_add hadd]
  split
  · exact hbefore
  · exact hbefore.trans (List.prefix_append _ _)

/-! ## What a store answers -/

/-- Whether signing a payload for an address ends with a signature, or a fault, and changes nothing but the
log. -/
def Answers (store : Keystore) (payload : Bytes) (address : String) (answer : Except Fault Bytes) : Prop :=
  ∀ (ω : Type) (s : Session ω), ∃ log,
    (store.sign payload address : Stage ω Value).outcome s = (answer.map .bytes, { s with log })

theorem mem_addresses_iff {address : String} :
    address ∈ store.addresses ↔ ∃ raw, store.keys.lookup address = some raw := by
  rw [← Option.isSome_iff_exists, ← isSome_mark_iff store [], mark, Option.isSome_map]

/-- For an address on its list, a store has the key of that address, and signs with it. -/
theorem answers_of_mem (hstore : store.HoldsOwn) {address : String} (h : address ∈ store.addresses)
    (payload : Bytes) :
    ∃ raw, (address, raw) ∈ store.keys ∧ store.publicKey address = .ok (Ed25519.publicKey raw) ∧
      Strkey.publicKey address = .ok (Ed25519.publicKey raw) ∧
      store.Answers payload address (.ok (Ed25519.sign raw payload)) := by
  obtain ⟨raw, hraw⟩ := mem_addresses_iff.1 h
  have hmem := mem_keys_of_lookup hraw
  refine ⟨raw, hmem, publicKey_of_lookup hraw, Strkey.publicKey_of_decode (hstore _ hmem), fun ω s => ?_⟩
  unfold sign signature seed
  rw [hraw]
  exact ⟨_, rfl⟩

/-- For any other text it refuses. -/
theorem answers_of_not_mem {address : String} (h : address ∉ store.addresses) (payload : Bytes) :
    store.publicKey address = .error (.pipeline (.signingDenied address "no key for this address")) ∧
      store.Answers payload address
        (.error (.pipeline (.signingDenied address "no key for this address"))) := by
  have hnone : store.keys.lookup address = none := by
    cases hraw : store.keys.lookup address with
    | none => rfl
    | some raw => exact absurd (mem_addresses_iff.2 ⟨raw, hraw⟩) h
  constructor
  · rw [publicKey, Keystore.seed, hnone]
    rfl
  · intro ω s
    unfold sign signature Keystore.seed
    rw [hnone]
    exact ⟨s.log, rfl⟩

/-- A new key store that was asked to add seeds. -/
def added (seeds : List String) : Keystore := (({} : Keystore).addAll seeds).2

/-- **Every address is answered for with its own key.**  Whatever seeds a key store is asked to add, each is
answered with its own address, or refused for not being a seed, and those that are refused leave no trace.
The store lists the address of every valid seed once, where it came first.  For an address on the list, and
however many seeds are added after it, the store answers with the key that the address spells, and with a
signature that verifies under the address if keys accept the signatures of their seeds.  For any other text it
refuses, and names it. -/
theorem addAll_serves (seeds more : List String) :
    (({} : Keystore).addAll seeds).1 = seeds.map addressForSeed ∧
      (∀ seed fault, addressForSeed seed = .error fault ↔
        ∃ e, Strkey.decode .seed seed = .error e ∧ fault = .invalidSeed e) ∧
      added seeds = added (seeds.filter fun seed => (addressForSeed seed).isOk) ∧
      (added seeds).addresses = (addressesOf seeds).eraseDups ∧
      (added seeds).addresses <+: (added (seeds ++ more)).addresses ∧
      (∀ address payload, address ∈ (added seeds).addresses → ∃ key signature,
        Strkey.publicKey address = .ok key ∧ (added seeds).publicKey address = .ok key ∧
          (added (seeds ++ more)).publicKey address = .ok key ∧
          (added (seeds ++ more)).Answers payload address (.ok signature) ∧
          ((∀ seed ∈ seeds ++ more, ∀ raw, rawSeed seed = .ok raw → Ed25519.AcceptsOwn raw payload) →
            verify address payload signature = .ok true)) ∧
      ∀ address payload, address ∉ (added seeds).addresses →
        (added seeds).publicKey address =
            .error (.pipeline (.signingDenied address "no key for this address")) ∧
          (added seeds).Answers payload address
            (.error (.pipeline (.signingDenied address "no key for this address"))) := by
  have hfront : (added seeds).addresses <+: (added (seeds ++ more)).addresses := by
    have := addresses_prefix_addAll (added seeds) more
    rwa [added, ← addAll_append] at this
  refine ⟨answers_addAll {} seeds, fun _ _ => addressForSeed_eq_error_iff, (addAll_filter {} seeds).symm,
    addresses_addAll seeds, hfront, fun address payload hlisted => ?_,
    fun address payload hnot => answers_of_not_mem hnot payload⟩
  obtain ⟨raw, -, hfirst, hkey, -⟩ := answers_of_mem (holdsOwn_addAll seeds) hlisted payload
  obtain ⟨raw', hmem, hlater, hkey', hanswers⟩ :=
    answers_of_mem (holdsOwn_addAll (seeds ++ more)) (hfront.subset hlisted) payload
  -- Both stores have the key that the address spells, though not necessarily from the same seed.
  have hsame : Ed25519.publicKey raw = Ed25519.publicKey raw' := Except.ok.inj (hkey.symm.trans hkey')
  refine ⟨_, _, hkey', hsame ▸ hfirst, hlater, hanswers, fun haccepts => ?_⟩
  obtain ⟨seed, hseed, hraw⟩ := exists_rawSeed_of_mem_addAll (seeds ++ more) _ hmem
  rw [verify, hkey']
  exact congrArg Except.ok (haccepts seed hseed raw' hraw)

/-- The only key is added twice, with a text in between that is no seed, and signs after another such text. -/
theorem addAll_serves_repeated :
    let seeds := [soleSeed, "alice", soleSeed]
    (added seeds).addresses = [soleAddress] ∧
      (∀ seed ∈ seeds ++ ["bob"], ∀ raw, rawSeed seed = .ok raw → Ed25519.AcceptsOwn raw noteHash) ∧
      ∃ signature, (added (seeds ++ ["bob"])).Answers noteHash soleAddress (.ok signature) ∧
        verify soleAddress noteHash signature = .ok true := by
  intro seeds
  have hsole : addressForSeed soleSeed = .ok soleAddress := by
    rw [addressForSeed, rawSeed_soleSeed]
    exact address_soleRaw
  have halice : rawSeed "alice" = .error (.invalidSeed (.wrongLetter .seed)) := rfl
  have hbob : rawSeed "bob" = .error (.invalidSeed (.wrongLetter .seed)) := rfl
  obtain ⟨-, -, -, hlisted, -, hserves, -⟩ := addAll_serves seeds ["bob"]
  have haddresses : (added seeds).addresses = [soleAddress] := by
    have halone : addressForSeed "alice" = .error (.invalidSeed (.wrongLetter .seed)) := rfl
    rw [hlisted]
    simp [addressesOf, seeds, hsole, halone, Except.toOption, List.eraseDups_cons]
  have haccepts : ∀ seed ∈ seeds ++ ["bob"], ∀ raw, rawSeed seed = .ok raw →
      Ed25519.AcceptsOwn raw noteHash := by
    have hown : Ed25519.AcceptsOwn soleRaw noteHash := by
      rw [Ed25519.AcceptsOwn, publicKey_soleRaw, sign_noteHash]
      exact verify_noteSignature
    simp [seeds, rawSeed_soleSeed, halice, hbob, hown]
  obtain ⟨-, signature, -, -, -, hanswers, hverifies⟩ :=
    hserves soleAddress noteHash (haddresses ▸ List.mem_singleton_self _)
  exact ⟨haddresses, haccepts, signature, hanswers, hverifies haccepts⟩

end Keystore
end LedgerFlow

import LedgerFlow.Draft
import LedgerFlow.Proofs.Authorization
import LedgerFlow.Proofs.Session
import LedgerFlow.Proofs.Strkey.Grammar

/-!
# Accounts that sign

An account and every muxed account of it stand for one key (`Strkey.publicKey_eq_ok_iff`), and the
account that spells this key is the one behind them (`Strkey.exists_accountId_iff`).  So the source
account of a valid draft has an account behind it.  Every key of a key store is stored under the address
of an account; so whatever a key store signs, it signs for an account, and a signature by it can be
marked with the end of the key.
-/

namespace LedgerFlow

variable {ω : Type}

namespace Strkey

variable {text address : String} {key payload : Bytes}

/-- The key of an account is the one that it spells. -/
theorem publicKey_of_decode (h : decode .account text = .ok key) :
    publicKey text = .ok key := by
  have hletter : text.toList.head? ≠ some Kind.muxed.letter := by
    rw [head?_of_decode h]
    decide
  rw [publicKey, if_neg hletter]
  exact h

/-- The key of a muxed account is the first part of its payload. -/
theorem publicKey_of_decode_muxed (h : decode .muxed text = .ok payload) :
    publicKey text = .ok (payload.take 32) := by
  rw [publicKey, if_pos (head?_of_decode h), h]
  rfl

/-- A key belongs to the account that spells it, and to every muxed account whose payload starts with
it. -/
theorem publicKey_eq_ok_iff :
    publicKey text = .ok key ↔ decode .account text = .ok key ∨
      ∃ payload, decode .muxed text = .ok payload ∧ payload.take 32 = key := by
  constructor
  · intro h
    unfold publicKey at h
    split at h
    · exact .inr (exists_of_map_eq_ok h)
    · exact .inl h
  · rintro (haccount | ⟨payload, hmuxed, rfl⟩)
    · exact publicKey_of_decode haccount
    · exact publicKey_of_decode_muxed hmuxed

theorem length_of_publicKey (h : publicKey text = .ok key) :
    key.length = Kind.account.payloadLength := by
  rcases publicKey_eq_ok_iff.1 h with haccount | ⟨payload, hmuxed, rfl⟩
  · exact (decode_eq_ok_iff.1 haccount).1
  · rw [List.length_take, (decode_eq_ok_iff.1 hmuxed).1]
    rfl

/-- The account behind an address spells the key of the address. -/
theorem accountId_eq_ok_iff :
    accountId text = .ok address ↔
      ∃ key, publicKey text = .ok key ∧ decode .account address = .ok key := by
  constructor
  · intro h
    obtain ⟨key, hkey, hencode⟩ := exists_of_bind_eq_ok h
    exact ⟨key, hkey, decode_eq_ok_iff.2 (encode_eq_ok_iff.1 hencode)⟩
  · rintro ⟨key, hkey, hdecode⟩
    rw [accountId, hkey]
    exact encode_eq_ok_iff.2 (decode_eq_ok_iff.1 hdecode)

/-- There is an account behind the accounts and the muxed accounts, and behind nothing else. -/
theorem exists_accountId_iff :
    (∃ address, accountId text = .ok address) ↔ isValid text (some [.account, .muxed]) = true := by
  constructor
  · rintro ⟨address, h⟩
    obtain ⟨key, hkey, -⟩ := accountId_eq_ok_iff.1 h
    refine isValid_some_iff.2 ?_
    rcases publicKey_eq_ok_iff.1 hkey with haccount | ⟨payload, hmuxed, -⟩
    · exact ⟨.account, List.mem_cons_self, key, haccount⟩
    · exact ⟨.muxed, List.mem_cons_of_mem _ List.mem_cons_self, payload, hmuxed⟩
  · intro h
    obtain ⟨kind, hkind, payload, hdecode⟩ := isValid_some_iff.1 h
    obtain ⟨key, hkey⟩ : ∃ key, publicKey text = .ok key := by
      rcases List.mem_cons.1 hkind with rfl | hkind
      · exact ⟨payload, publicKey_of_decode hdecode⟩
      · obtain rfl := List.mem_singleton.1 hkind
        exact ⟨payload.take 32, publicKey_of_decode_muxed hdecode⟩
    have haddress := decode_eq_ok_iff.2 ⟨length_of_publicKey hkey, rfl⟩
    exact ⟨_, accountId_eq_ok_iff.2 ⟨key, hkey, haddress⟩⟩

end Strkey

namespace Keystore

/-- Every key is stored under the address of an account. -/
def IsAddressed (store : Keystore) : Prop :=
  ∀ k ∈ store.keys, ∃ key, Strkey.decode .account k.1 = .ok key

/-- Every seed is stored under the address of its own key. -/
def HoldsOwn (store : Keystore) : Prop :=
  ∀ k ∈ store.keys, Strkey.decode .account k.1 = .ok (Ed25519.publicKey k.2)

theorem HoldsOwn.isAddressed {store : Keystore} (h : store.HoldsOwn) : store.IsAddressed :=
  fun k hk => ⟨_, h k hk⟩

theorem holdsOwn_add {store out : Keystore} {seed name : String} (hstore : store.HoldsOwn)
    (h : store.add seed = .ok (name, out)) : out.HoldsOwn := by
  obtain ⟨raw, -, h⟩ := exists_of_bind_eq_ok h
  obtain ⟨own, hname, h⟩ := exists_of_bind_eq_ok h
  cases h
  have hown : Strkey.decode .account name = .ok (Ed25519.publicKey raw) :=
    Strkey.decode_eq_ok_iff.2 (Strkey.encode_eq_ok_iff.1 (eq_ok_of_mapError hname))
  intro k hk
  dsimp only at hk
  split at hk
  · obtain ⟨k', hk', rfl⟩ := List.mem_map.1 hk
    split
    · exact hown
    · exact hstore k' hk'
  · rcases List.mem_append.1 hk with hk | hk
    · exact hstore k hk
    · obtain rfl := List.mem_singleton.1 hk
      exact hown

/-- The keys of seeds are stored under the addresses of their accounts. -/
theorem holdsOwn_ofSeeds {store : Keystore} {seeds : List String} (h : ofSeeds seeds = .ok store) :
    store.HoldsOwn := by
  have hall : ∀ (seeds : List String) (start : Keystore), start.HoldsOwn →
      seeds.foldlM (fun store seed => (·.2) <$> store.add seed) start = .ok store →
        store.HoldsOwn := by
    intro seeds
    induction seeds with
    | nil =>
        intro start hstart h
        cases h
        exact hstart
    | cons seed seeds ih =>
        intro start hstart h
        rw [List.foldlM_cons] at h
        obtain ⟨next, hnext, h⟩ := exists_of_bind_eq_ok h
        obtain ⟨added, hadd, rfl⟩ := exists_of_map_eq_ok hnext
        exact ih added.2 (holdsOwn_add hstart hadd) h
  exact hall seeds {} (List.forall_mem_nil _) h

theorem isAddressed_ofSeeds {store : Keystore} {seeds : List String} (h : ofSeeds seeds = .ok store) :
    store.IsAddressed :=
  (holdsOwn_ofSeeds h).isAddressed

/-- What is found under an address has been stored there. -/
theorem mem_keys_of_lookup {store : Keystore} {address : String} {raw : Bytes}
    (h : store.keys.lookup address = some raw) : (address, raw) ∈ store.keys := by
  obtain ⟨before, after, hkeys, -⟩ := List.lookup_eq_some_iff.1 h
  rw [hkeys]
  exact List.mem_append_right _ List.mem_cons_self

/-- A seed without a key is no error of the pipeline but a bad value. -/
theorem isBadValue_of_add {store : Keystore} {seed : String} {f : Fault} (h : store.add seed = .error f) :
    f.isBadValue = true ∧ f.isTellable = true := by
  unfold add at h
  rcases error_of_bind_eq_error h with h | ⟨raw, -, h⟩
  · obtain ⟨e, -, rfl⟩ := exists_of_mapError_eq_error h
    exact ⟨rfl, rfl⟩
  · rcases error_of_bind_eq_error h with h | ⟨name, -, h⟩
    · obtain ⟨e, -, rfl⟩ := exists_of_mapError_eq_error h
      exact ⟨rfl, rfl⟩
    · cases h

theorem isBadValue_of_ofSeeds {seeds : List String} {f : Fault} (h : ofSeeds seeds = .error f) :
    f.isBadValue = true ∧ f.isTellable = true := by
  have hall : ∀ (seeds : List String) (start : Keystore),
      seeds.foldlM (fun store seed => (·.2) <$> store.add seed) start = .error f →
        f.isBadValue = true ∧ f.isTellable = true := by
    intro seeds
    induction seeds with
    | nil => exact fun _ => nofun
    | cons seed seeds ih =>
        intro start h
        rw [List.foldlM_cons] at h
        rcases error_of_bind_eq_error h with h | ⟨next, -, h⟩
        · cases hadd : start.add seed with
          | ok added =>
              rw [hadd] at h
              cases h
          | error f' =>
              rw [hadd] at h
              cases h
              exact isBadValue_of_add hadd
        · exact ih next h
  exact hall seeds {} h

/-- A key store signs in bytes, and for accounts only; else it refuses. -/
theorem sign_endsWithin {store : Keystore} (hstore : store.IsAddressed) (payload : Bytes)
    (address : String) :
    (store.sign payload address : Stage ω Value).EndsWithin
      (fun v => (∃ b, v = .bytes b) ∧ ∃ key, Strkey.decode .account address = .ok key)
      Fault.InFamily := by
  have hknown : (Stage.ofExcept (store.signature payload address) : Stage ω Bytes).EndsWithin
      (fun _ => ∃ key, Strkey.decode .account address = .ok key) Fault.InFamily := by
    unfold signature seed
    cases hkey : store.keys.lookup address with
    | none => exact .throw ⟨_, rfl⟩
    | some raw => exact .pure (hstore _ (mem_keys_of_lookup hkey))
  unfold sign
  exact hknown.bind fun sig hsig => (Stage.EndsWithin.record _ _).bind fun _ _ => .pure ⟨⟨sig, rfl⟩, hsig⟩

end Keystore
end LedgerFlow

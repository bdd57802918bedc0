import LedgerFlow.Proofs.Codec.Cbor.Injective
import LedgerFlow.Proofs.Codec.Hex
import LedgerFlow.Proofs.Transaction.Reading
import LedgerFlow.Wire
import Mathlib.Data.List.Dedup

/-!
# What hashes bind

The hash of a transaction stands for the network and the content of the transaction, and the payload
of an authorization entry for the network, the expiration, the nonce and the call.  Neither can be
taken for the other.  All of it holds as far as the hash has no collision on the few inputs that are
compared, which is the one assumption about it.

Content is compared by agreement: the order in which the entries of a map were written does not
change a hash, and everything else does.
-/

namespace LedgerFlow

/-- No two of the given inputs have the same hash. -/
def CollisionFree (inputs : List Bytes) : Prop :=
  ∀ x ∈ inputs, ∀ y ∈ inputs, sha256 x = sha256 y → x = y

/-- Whether inputs are free of collisions is seen on each input once. -/
theorem collisionFree_of_nodup {inputs : List Bytes} (h : (inputs.dedup.map sha256).Nodup) :
    CollisionFree inputs := by
  intro x hx y hy hxy
  exact List.inj_on_of_nodup_map h (List.mem_dedup.2 hx) (List.mem_dedup.2 hy) hxy

theorem Utf8.encode_injective {s t : String} (h : Utf8.encode s = Utf8.encode t) : s = t := by
  have hback := congrArg Utf8.decode? h
  simpa using hback

/-! ## Invocations that agree -/

namespace Invocation

/-- The same calls with arguments that agree. -/
inductive Agrees : Invocation → Invocation → Prop where
  | mk {contractId functionName : String} {args args' : List Value} {subs subs' : List Invocation}
      (hargs : List.Forall₂ Value.Agree args args') (hsubs : List.Forall₂ Agrees subs subs') :
      Agrees (.mk contractId functionName args subs) (.mk contractId functionName args' subs')

/-- Calls have agreeing values when their parts have. -/
theorem agree_toValue_mk {contractId contractId' functionName functionName' : String}
    {args args' : List Value} {subs subs' : List Invocation} :
    (toValue (.mk contractId functionName args subs)).Agree
        (toValue (.mk contractId' functionName' args' subs')) ↔
      contractId = contractId' ∧ functionName = functionName' ∧
        List.Forall₂ Value.Agree args args' ∧
        List.Forall₂ (fun i j => i.toValue.Agree j.toValue) subs subs' := by
  rw [toValue, toValue, Value.agree_record_iff (by rfl) (by simp)]
  simp only [List.map_cons, List.map_nil, List.forall₂_cons, List.forall₂_nil_left_iff, and_true,
    Value.agree_list_iff, Value.agree_text_iff, toValues_eq_map, List.forall₂_map_left_iff,
    List.forall₂_map_right_iff]

theorem agree_toValue_iff {i j : Invocation} : i.toValue.Agree j.toValue ↔ i.Agrees j := by
  induction i using structural generalizing j with
  | mk contractId functionName args subs ih =>
      obtain ⟨contractId', functionName', args', subs'⟩ := j
      rw [agree_toValue_mk]
      constructor
      · rintro ⟨rfl, rfl, hargs, hsubs⟩
        exact .mk hargs (Value.forall₂_imp_of_mem (fun i hi j h => (ih i hi).1 h) hsubs)
      · intro h
        cases h with
        | mk hargs hsubs =>
            exact ⟨rfl, rfl, hargs, Value.forall₂_imp_of_mem (fun i hi j h => (ih i hi).2 h) hsubs⟩

end Invocation

/-! ## Transactions -/

/-- A network is identified by its passphrase. -/
theorem networkId_eq_iff {p p' : String} {inputs : List Bytes} (hfree : CollisionFree inputs)
    (hp : Utf8.encode p ∈ inputs) (hp' : Utf8.encode p' ∈ inputs) :
    networkId p = networkId p' ↔ p = p' := by
  constructor
  · intro h
    exact Utf8.encode_injective (hfree _ hp _ hp' h)
  · rintro rfl
    rfl

namespace Transaction

variable {t t' : Transaction} {p p' : String}

theorem agree_preimage_iff : (t.preimage p).Agree (t'.preimage p') ↔
    networkId p = networkId p' ∧ t.toValue.Agree t'.toValue := by
  rw [preimage, preimage, Value.agree_record_iff (by rfl) (by simp)]
  simp only [List.map_cons, List.map_nil, List.forall₂_cons, List.forall₂_nil_left_iff, and_true,
    Value.agree_bytes_iff]

theorem unambiguous_preimage (h : Cbor.unambiguous t.toValue = true) :
    Cbor.unambiguous (t.preimage p) = true := by
  rw [preimage, Value.record, Cbor.unambiguous_map]
  constructor
  · change [Cbor.encode (.text "networkId"), Cbor.encode (.text "tx")].Nodup
    decide
  · simp [h, Cbor.unambiguous]

theorem hash_eq_iff (hfree : CollisionFree [Utf8.encode p, Utf8.encode p',
      Cbor.encode (t.preimage p), Cbor.encode (t'.preimage p')])
    (hkeys : Cbor.unambiguous t.toValue = true)
    (hsize : (Cbor.encode (t.preimage p)).length < 2 ^ 64) :
    t.hash p = t'.hash p' ↔ p = p' ∧ t.toValue.Agree t'.toValue := by
  have hbytes : t.hash p = t'.hash p' ↔
      Cbor.encode (t.preimage p) = Cbor.encode (t'.preimage p') := by
    constructor
    · intro h
      exact hfree _ (by simp) _ (by simp) (Hex.encode_injective h)
    · intro h
      rw [hash, hash, hashBytes, hashBytes, h]
  rw [hbytes, Cbor.encode_eq_iff_agree (unambiguous_preimage hkeys) hsize, agree_preimage_iff,
    networkId_eq_iff hfree (by simp) (by simp)]

end Transaction

/-! ## Authorization entries -/

namespace AuthEntry

variable {e e' : AuthEntry} {p p' : String} {n n' : Int}

theorem agree_preimage_iff : (e.preimage p n).Agree (e'.preimage p' n') ↔
    networkId p = networkId p' ∧ e.nonce = e'.nonce ∧ n = n' ∧
      e.invocation.Agrees e'.invocation := by
  rw [preimage, preimage, Value.agree_record_iff (by rfl) (by simp)]
  simp only [List.map_cons, List.map_nil, List.forall₂_cons, List.forall₂_nil_left_iff, and_true,
    Value.agree_bytes_iff, Value.agree_int_iff, Invocation.agree_toValue_iff]

theorem unambiguous_preimage (h : Cbor.unambiguous e.invocation.toValue = true) :
    Cbor.unambiguous (e.preimage p n) = true := by
  rw [preimage, Value.record, Cbor.unambiguous_map]
  constructor
  · change [Cbor.encode (.text "networkId"), Cbor.encode (.text "nonce"),
      Cbor.encode (.text "signatureExpirationLedger"), Cbor.encode (.text "invocation")].Nodup
    decide
  · simp [h, Cbor.unambiguous]

theorem payload_eq_iff (hfree : CollisionFree [Utf8.encode p, Utf8.encode p',
      Cbor.encode (e.preimage p n), Cbor.encode (e'.preimage p' n')])
    (hkeys : Cbor.unambiguous e.invocation.toValue = true)
    (hsize : (Cbor.encode (e.preimage p n)).length < 2 ^ 64) :
    e.payload p n = e'.payload p' n' ↔
      p = p' ∧ n = n' ∧ e.nonce = e'.nonce ∧ e.invocation.Agrees e'.invocation := by
  have hbytes : e.payload p n = e'.payload p' n' ↔
      Cbor.encode (e.preimage p n) = Cbor.encode (e'.preimage p' n') := by
    constructor
    · intro h
      exact hfree _ (by simp) _ (by simp) h
    · intro h
      rw [payload, payload, h]
  rw [hbytes, Cbor.encode_eq_iff_agree (unambiguous_preimage hkeys) hsize, agree_preimage_iff,
    networkId_eq_iff hfree (by simp) (by simp)]
  exact and_congr_right fun _ => and_left_comm

end AuthEntry

/-- A transaction is hashed as a map of two fields and an authorization entry as one of four. -/
theorem preimage_ne_preimage (t : Transaction) (e : AuthEntry) (p p' : String) (n : Int) :
    Cbor.encode (t.preimage p) ≠ Cbor.encode (e.preimage p' n) := by
  intro h
  rw [Transaction.preimage, AuthEntry.preimage, Value.record, Value.record, Cbor.encode_map,
    Cbor.encode_map] at h
  -- The first byte of a map says how many fields follow.
  have hhead : (0xA2 : UInt8) = 0xA4 := (List.cons.inj h).1
  exact absurd hhead (by decide)

/-- **What hashes bind.**  As far as the hash has no collision on the inputs considered, two
transactions have the same hash exactly on the same network and with the same content, and two
authorization payloads are the same exactly for the same network, expiration, nonce and call; content
is compared up to the order of map entries.  What is hashed for a transaction is never what is
hashed for an authorization, so no signature of one is a signature of the other. -/
theorem hashes_bind :
    (∀ (t t' : Transaction) (p p' : String),
      CollisionFree [Utf8.encode p, Utf8.encode p', Cbor.encode (t.preimage p),
        Cbor.encode (t'.preimage p')] →
      Cbor.unambiguous t.toValue = true → (Cbor.encode (t.preimage p)).length < 2 ^ 64 →
      (t.hash p = t'.hash p' ↔ p = p' ∧ t.toValue.Agree t'.toValue)) ∧
    (∀ (e e' : AuthEntry) (p p' : String) (x x' : Value) (n n' : Int),
      x.toInt = .ok n → x'.toInt = .ok n' →
      CollisionFree [Utf8.encode p, Utf8.encode p', Cbor.encode (e.preimage p n),
        Cbor.encode (e'.preimage p' n')] →
      Cbor.unambiguous e.invocation.toValue = true →
      (Cbor.encode (e.preimage p n)).length < 2 ^ 64 →
      (e.payload p n = e'.payload p' n' ↔
        p = p' ∧ x.toInt = x'.toInt ∧ e.nonce = e'.nonce ∧ e.invocation.Agrees e'.invocation)) ∧
    (∀ (t : Transaction) (e : AuthEntry) (p p' : String) (n : Int),
      Cbor.encode (t.preimage p) ≠ Cbor.encode (e.preimage p' n) ∧
      (CollisionFree [Cbor.encode (t.preimage p), Cbor.encode (e.preimage p' n)] →
        t.hashBytes p ≠ e.payload p' n)) := by
  refine ⟨?_, ?_, ?_⟩
  · intro t t' p p' hfree hkeys hsize
    exact Transaction.hash_eq_iff hfree hkeys hsize
  · intro e e' p p' x x' n n' hx hx' hfree hkeys hsize
    rw [hx, hx', Except.ok.injEq]
    exact AuthEntry.payload_eq_iff hfree hkeys hsize
  · intro t e p p' n
    have hne := preimage_ne_preimage t e p p' n
    exact ⟨hne, fun hfree h => hne (hfree _ (by simp) _ (by simp) h)⟩

/-- A transaction with a map in two orders on one network, and an authorization entry on two
networks, with its expiration once as a number and once as text. -/
theorem hashes_bind_reordered :
    let t : Transaction :=
      { sourceAccount := "G", seqNum := 7
        operations := [{ body := .manageData (.text "k") (.map [(.int 1, .float .nan),
          (.text "b", .null)]) }] }
    let t' : Transaction :=
      { t with operations := [{ body := .manageData (.text "k") (.map [(.text "b", .null),
          (.int 1, .float .nan)]) }] }
    let e : AuthEntry := { invocation := .mk "C" "f" [.bool true] [], address := .text "G" }
    (t.hash "a" = t'.hash "a" ↔ "a" = "a" ∧ t.toValue.Agree t'.toValue) ∧
      (e.payload "a" 9 = e.payload "b" 9 ↔ "a" = "b" ∧ Value.toInt (.int 9) =
        Value.toInt (.text "9") ∧ e.nonce = e.nonce ∧ e.invocation.Agrees e.invocation) ∧
      t.hashBytes "a" ≠ e.payload "a" 9 := by
  intro t t' e
  have hida : networkId "a" = [0xCA, 0x97, 0x81, 0x12, 0xCA, 0x1B, 0xBD, 0xCA, 0xFA, 0xC2, 0x31,
      0xB3, 0x9A, 0x23, 0xDC, 0x4D, 0xA7, 0x86, 0xEF, 0xF8, 0x14, 0x7C, 0x4E, 0x72, 0xB9, 0x80,
      0x77, 0x85, 0xAF, 0xEE, 0x48, 0xBB] := by decide +kernel
  have hidb : networkId "b" = [0x3E, 0x23, 0xE8, 0x16, 0x00, 0x39, 0x59, 0x4A, 0x33, 0x89, 0x4F,
      0x65, 0x64, 0xE1, 0xB1, 0x34, 0x8B, 0xBD, 0x7A, 0x00, 0x88, 0xD4, 0x2C, 0x4A, 0xCB, 0x73,
      0xEE, 0xAE, 0xD5, 0x9C, 0x00, 0x9D] := by decide +kernel
  have htx : CollisionFree [Utf8.encode "a", Utf8.encode "a", Cbor.encode (t.preimage "a"),
      Cbor.encode (t'.preimage "a")] := by
    rw [Transaction.preimage, Transaction.preimage, hida]
    exact collisionFree_of_nodup (by decide +kernel)
  have hentry : CollisionFree [Utf8.encode "a", Utf8.encode "b", Cbor.encode (e.preimage "a" 9),
      Cbor.encode (e.preimage "b" 9)] := by
    rw [AuthEntry.preimage, AuthEntry.preimage, hida, hidb]
    exact collisionFree_of_nodup (by decide +kernel)
  have hboth : CollisionFree [Cbor.encode (t.preimage "a"), Cbor.encode (e.preimage "a" 9)] := by
    rw [Transaction.preimage, AuthEntry.preimage, hida]
    exact collisionFree_of_nodup (by decide +kernel)
  have hsize : (Cbor.encode (t.preimage "a")).length < 2 ^ 64 ∧
      (Cbor.encode (e.preimage "a" 9)).length < 2 ^ 64 := by
    rw [Cbor.length_encode, Cbor.length_encode]
    decide
  exact ⟨hashes_bind.1 t t' "a" "a" htx (by decide) hsize.1,
    hashes_bind.2.1 e e "a" "b" (.int 9) (.text "9") 9 9 rfl rfl hentry
      (by decide) hsize.2,
    (hashes_bind.2.2 t e "a" "a" 9).2 hboth⟩

end LedgerFlow

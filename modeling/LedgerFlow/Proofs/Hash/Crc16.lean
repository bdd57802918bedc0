import LedgerFlow.Hash.Crc16
import LedgerFlow.Proofs.Codec.Bits

/-!
# The checksum bit by bit

The remainder of a byte sequence takes in one bit after another (`remainder_eq_run`).  One shift is
linear in exclusive or and loses nothing, so two sequences of equal length differ in their remainders
by the remainder of their difference (`run_xor`), and what follows a difference does not undo it
(`run_injective`).

A strkey writes the checksum with its low byte first, so a mistake that runs from the body into the
checksum is no burst of the cyclic code.  `eq_of_short_change` covers such mistakes as well: of ten
adjacent bits, those in the body are seen in a part of the checksum that is not among the ten.
-/

namespace LedgerFlow
namespace Crc16

variable {a b c : BitVec 16} {bits bits' : List Bool}

/-! ## Shifts -/

theorem shift_xor (a b : BitVec 16) : shift (a ^^^ b) = shift a ^^^ shift b := by
  have hcancel : ∀ x y z : BitVec 16, x ^^^ y = (x ^^^ z) ^^^ (y ^^^ z) := by
    intro x y z
    rw [BitVec.xor_assoc, BitVec.xor_comm z, BitVec.xor_assoc y, BitVec.xor_self, BitVec.xor_zero]
  unfold shift
  rw [BitVec.msb_xor, BitVec.shiftLeft_xor_distrib]
  cases a.msb with
  | false =>
      cases b.msb with
      | false => rfl
      | true => exact BitVec.xor_assoc _ _ _
  | true =>
      cases b.msb with
      | false =>
          show (a <<< 1 ^^^ b <<< 1) ^^^ generator = (a <<< 1 ^^^ generator) ^^^ b <<< 1
          ac_rfl
      | true => exact hcancel _ _ generator

/-- The generator has a constant term, so a shift shows whether it was reduced. -/
theorem eq_zero_of_shift_eq_zero (h : shift a = 0) : a = 0 := by
  unfold shift at h
  split at h
  · next =>
      have hlow := congrArg (fun x : BitVec 16 => x.getLsbD 0) h
      simp [generator] at hlow
  · next hmsb =>
      have htop : a.toNat < 2 ^ 15 := by
        have := BitVec.msb_eq_decide a
        simp_all
      have hdouble := congrArg BitVec.toNat h
      rw [BitVec.toNat_shiftLeft, Nat.shiftLeft_eq] at hdouble
      apply BitVec.eq_of_toNat_eq
      simp at hdouble ⊢
      omega

theorem shift_injective (h : shift a = shift b) : a = b := by
  rw [← BitVec.xor_eq_zero_iff, ← shift_xor] at h
  exact BitVec.xor_eq_zero_iff.1 (eq_zero_of_shift_eq_zero h)

/-! ## One bit after another -/

/-- The remainder after one more bit. -/
def feed (c : BitVec 16) (bit : Bool) : BitVec 16 := shift (c ^^^ if bit then 0x8000 else 0)

/-- The remainder after several bits. -/
def run (c : BitVec 16) (bits : List Bool) : BitVec 16 := bits.foldl feed c

@[simp] theorem run_nil : run c [] = c := rfl

@[simp] theorem run_cons (bit : Bool) : run c (bit :: bits) = run (feed c bit) bits := rfl

theorem run_append : run c (bits ++ bits') = run (run c bits) bits' := List.foldl_append

theorem feed_xor (a b : BitVec 16) (x y : Bool) : feed (a ^^^ b) (x ^^ y) = feed a x ^^^ feed b y := by
  have hbit : (if x ^^ y then 0x8000 else 0 : BitVec 16) =
      (if x then 0x8000 else 0) ^^^ if y then 0x8000 else 0 := by
    cases x <;> cases y <;> rfl
  rw [feed, hbit, feed, feed, ← shift_xor]
  ac_rfl

/-- Remainders are linear in exclusive or. -/
theorem run_xor (hlength : bits.length = bits'.length) :
    run (a ^^^ b) (bits.zipWith (· ^^ ·) bits') = run a bits ^^^ run b bits' := by
  induction bits generalizing a b bits' with
  | nil =>
      cases bits' with
      | nil => rfl
      | cons y ys => cases hlength
  | cons x xs ih =>
      cases bits' with
      | nil => cases hlength
      | cons y ys =>
          rw [List.zipWith_cons_cons, run_cons, feed_xor, ih (Nat.succ.inj hlength)]
          rfl

/-- Bits that follow do not hide a difference. -/
theorem run_injective (h : run a bits = run b bits) : a = b := by
  induction bits generalizing a b with
  | nil => exact h
  | cons x xs ih =>
      have hfeed : feed a x = feed b x := ih h
      exact (BitVec.xor_left_inj _).1 (shift_injective hfeed)

theorem shifts_xor (n : Nat) (a b : BitVec 16) : shifts n (a ^^^ b) = shifts n a ^^^ shifts n b := by
  induction n generalizing a b with
  | zero => rfl
  | succ n ih => rw [shifts, shift_xor, ih]; rfl

/-- Bits move the remainder on and add a part of their own. -/
theorem run_eq_shifts_xor (c : BitVec 16) (bits : List Bool) :
    run c bits = shifts bits.length c ^^^ run 0 bits := by
  induction bits generalizing c with
  | nil => exact BitVec.xor_zero.symm
  | cons x xs ih =>
      have hfeed : feed c x = shift c ^^^ feed 0 x := by
        simp [feed, shift_xor]
      rw [run_cons, run_cons, ih, hfeed, shifts_xor, BitVec.xor_assoc, ← ih]
      rfl

theorem step_zero : ∀ n < 256, step 0 (UInt8.ofNat n) = run 0 (Bits.ofNat 8 n) := by
  decide +kernel

/-- A byte is taken in by its bits. -/
theorem step_eq_run (c : BitVec 16) (b : UInt8) : step c b = run c (Bits.ofNat 8 b.toNat) := by
  have hbyte : step 0 b = run 0 (Bits.ofNat 8 b.toNat) := by
    have := step_zero b.toNat b.toNat_lt
    rwa [UInt8.ofNat_toNat] at this
  rw [run_eq_shifts_xor, Bits.length_ofNat, ← hbyte, step, step, ← shifts_xor]
  simp

/-- The remainder of a byte sequence is that of its bits. -/
theorem remainder_eq_run (bs : Bytes) : remainder bs = run 0 (Bits.ofBytes bs) := by
  have hfold : ∀ c, bs.foldl step c = run c (Bits.ofBytes bs) := by
    induction bs with
    | nil => exact fun _ => rfl
    | cons b bs ih =>
        intro c
        rw [List.foldl_cons, ih, step_eq_run, Bits.ofBytes_cons, run_append]
  exact hfold 0

/-! ## The checksum as it is written -/

/-- The places of the bits of a checksum in the order in which they are written: the low byte first,
each byte from its highest bit. -/
def places : List Nat := [7, 6, 5, 4, 3, 2, 1, 0, 15, 14, 13, 12, 11, 10, 9, 8]

/-- The bits of a checksum as they are written. -/
def written (c : BitVec 16) : List Bool := places.map c.getLsbD

theorem length_written (c : BitVec 16) : (written c).length = 16 := rfl

theorem ofBytes_littleEndian (bs : Bytes) :
    Bits.ofBytes (littleEndian bs) = written (remainder bs) := by
  have hlow : ∀ n, (UInt8.ofNat (n % 256)).toNat = n % 2 ^ 8 := by
    intro n
    simp
  have hhigh : ∀ n < 2 ^ 16, (UInt8.ofNat (n / 256)).toNat = n / 2 ^ 8 := by
    intro n hn
    simp
    omega
  rw [littleEndian, Bits.ofBytes_cons, Bits.ofBytes_cons, Bits.ofBytes_nil, List.append_nil, hlow,
    hhigh _ (checksum_lt bs), Bits.ofNat_eq_map_testBit, Bits.ofNat_eq_map_testBit]
  show [7, 6, 5, 4, 3, 2, 1, 0].map _ ++ [7, 6, 5, 4, 3, 2, 1, 0].map _ = _
  simp only [List.map_cons, List.map_nil, Nat.testBit_mod_two_pow, Nat.testBit_div_two_pow]
  rfl

theorem written_injective (h : written a = written b) : a = b := by
  apply BitVec.eq_of_getLsbD_eq
  intro i hi
  have hplaces : ∀ i < 16, i ∈ places := by decide
  exact List.map_inj_left.1 h i (hplaces i hi)

/-- What is left of a written checksum once its first bits are taken off. -/
theorem drop_written_append {first rest filling : List Bool} (hfirst : first.length ≤ 10)
    (h : written c ++ filling = first ++ rest) :
    (written c).drop first.length ++ filling = rest := by
  have hdrop := congrArg (List.drop first.length) h
  rwa [List.drop_left, List.drop_append_of_le_length (by rw [length_written]; omega)] at hdrop

/-- Whether a difference of remainders shows among the written bits after the first few. -/
def shows (skipped : Nat) (c : BitVec 16) : Bool := (places.drop skipped).any c.getLsbD

theorem shows_xor (skipped : Nat) (a b : BitVec 16) :
    shows skipped (a ^^^ b) = false ↔ (written a).drop skipped = (written b).drop skipped := by
  rw [shows, written, written, ← List.map_drop, ← List.map_drop, List.map_inj_left, List.any_eq_false]
  simp

/-! ## Short changes -/

/-- Whether a difference shows after every continuation by at most `left` bits, outside of the bits that
are left then. -/
def showsThrough : Nat → BitVec 16 → Bool
  | 0, c => shows 0 c
  | left + 1, c =>
    shows (left + 1) c && showsThrough left (feed c false) && showsThrough left (feed c true)

theorem shows_of_showsThrough {left : Nat} (h : showsThrough left c = true) (bits : List Bool)
    (hlength : bits.length ≤ left) : shows (left - bits.length) (run c bits) = true := by
  induction left generalizing c bits with
  | zero =>
      obtain rfl := List.length_eq_zero_iff.1 (Nat.le_zero.1 hlength)
      exact h
  | succ left ih =>
      rw [showsThrough, Bool.and_eq_true, Bool.and_eq_true] at h
      cases bits with
      | nil => exact h.1.1
      | cons x xs =>
          rw [List.length_cons, Nat.add_sub_add_right, run_cons]
          have hxs : xs.length ≤ left := Nat.le_of_succ_le_succ hlength
          cases x with
          | false => exact ih h.1.2 xs hxs
          | true => exact ih h.2 xs hxs

/-- One wrong bit, and up to nine more that may be wrong as well. -/
theorem showsThrough_generator : showsThrough 9 generator = true := by decide

/-- Two ways to go on by at most ten bits are told apart by the checksum, even if as many of its bits
are not looked at as there are left of the ten. -/
theorem eq_of_short_change (hlength : bits.length = bits'.length) (hshort : bits.length ≤ 10)
    (h : (written (run c bits)).drop (10 - bits.length) =
      (written (run c bits')).drop (10 - bits.length)) : bits = bits' := by
  induction bits generalizing c bits' with
  | nil => exact (List.length_eq_zero_iff.1 hlength.symm).symm
  | cons x xs ih =>
      cases bits' with
      | nil => cases hlength
      | cons y ys =>
          have hrest : xs.length = ys.length := Nat.succ.inj hlength
          rw [List.length_cons] at hshort h
          by_cases hxy : x = y
          · subst hxy
            -- The rest may leave one bit more of the checksum out.
            have hdrop := congrArg (List.drop 1) h
            rw [List.drop_drop, List.drop_drop, show 10 - (xs.length + 1) + 1 = 10 - xs.length by omega]
              at hdrop
            rw [ih hrest (by omega) hdrop]
          · -- Here the difference begins: with it the remainders differ by the generator.
            have hbegin : feed c x ^^^ feed c y = generator := by
              have hbit : (x ^^ y) = true := by simpa using hxy
              rw [← feed_xor, hbit, BitVec.xor_self]
              rfl
            have hdiffer : (xs.zipWith (· ^^ ·) ys).length = xs.length := by
              rw [List.length_zipWith, ← hrest, Nat.min_self]
            have hshows := shows_of_showsThrough showsThrough_generator (xs.zipWith (· ^^ ·) ys)
              (by omega)
            have hsame := (shows_xor _ (run (feed c x) xs) (run (feed c y) ys)).2 h
            rw [← hbegin, run_xor hrest, hdiffer, show 9 - xs.length = 10 - (xs.length + 1) by omega,
              hsame] at hshows
            cases hshows

/-- **Short changes are noticed.**  Two bodies of equal length, each written with its checksum and the
same filling behind it, differ in more than ten adjacent bits or not at all. -/
theorem eq_of_adjacent_change {body body' front middle middle' back filling : List Bool}
    (hbody : body.length = body'.length) (hmiddle : middle.length = middle'.length)
    (hshort : middle.length ≤ 10)
    (h : body ++ (written (run 0 body) ++ filling) = front ++ (middle ++ back))
    (h' : body' ++ (written (run 0 body') ++ filling) = front ++ (middle' ++ back)) :
    body = body' := by
  rcases Nat.le_total body.length front.length with hle | hle
  · -- The change is behind both bodies.
    have hpre : body <+: front := List.prefix_of_prefix_length_le ⟨_, h⟩ ⟨_, rfl⟩ hle
    have hpre' : body' <+: front := List.prefix_of_prefix_length_le ⟨_, h'⟩ ⟨_, rfl⟩ (hbody ▸ hle)
    exact (List.prefix_of_prefix_length_le hpre hpre' (Nat.le_of_eq hbody)).eq_of_length hbody
  · obtain ⟨tail, rfl⟩ : front <+: body := List.prefix_of_prefix_length_le ⟨_, rfl⟩ ⟨_, h⟩ hle
    obtain ⟨tail', rfl⟩ : front <+: body' :=
      List.prefix_of_prefix_length_le ⟨_, rfl⟩ ⟨_, h'⟩ (hbody ▸ hle)
    have htail : tail.length = tail'.length := by simpa using hbody
    rw [List.append_assoc, List.append_cancel_left_eq] at h h'
    congr 1
    rw [run_append] at h h'
    rcases Nat.le_total tail.length middle.length with hcut | hcut
    · -- The change begins in the body and may run into the checksum.
      obtain ⟨rest, rfl⟩ : tail <+: middle := List.prefix_of_prefix_length_le ⟨_, h⟩ ⟨_, rfl⟩ hcut
      obtain ⟨rest', rfl⟩ : tail' <+: middle' :=
        List.prefix_of_prefix_length_le ⟨_, h'⟩ ⟨_, rfl⟩ (by omega)
      rw [List.append_assoc, List.append_cancel_left_eq] at h h'
      simp only [List.length_append] at hmiddle hshort
      have hrest : rest.length = rest'.length := by omega
      have hsame := (drop_written_append (by omega) h).trans (drop_written_append (by omega) h').symm
      rw [← hrest, List.append_cancel_right_eq] at hsame
      refine eq_of_short_change (c := run 0 front) htail (by omega) ?_
      have hdrop := congrArg (List.drop (10 - tail.length - rest.length)) hsame
      rwa [List.drop_drop, List.drop_drop,
        show rest.length + (10 - tail.length - rest.length) = 10 - tail.length by omega] at hdrop
    · -- The change is followed by more of the body.
      obtain ⟨more, rfl⟩ : middle <+: tail := List.prefix_of_prefix_length_le ⟨_, rfl⟩ ⟨_, h⟩ hcut
      obtain ⟨more', rfl⟩ : middle' <+: tail' :=
        List.prefix_of_prefix_length_le ⟨_, rfl⟩ ⟨_, h'⟩ (by omega)
      rw [List.append_assoc, List.append_cancel_left_eq] at h h'
      have hmore : more.length = more'.length := by
        simp only [List.length_append] at htail
        omega
      obtain ⟨rfl, hrest⟩ := List.append_inj (h.trans h'.symm) hmore
      have hrun := written_injective (List.append_cancel_right hrest)
      rw [run_append, run_append] at hrun
      rw [eq_of_short_change hmiddle hshort (by rw [run_injective hrun])]

end Crc16
end LedgerFlow

import LedgerFlow.Proofs.Clock
import LedgerFlow.Proofs.Rpc.Attempts
import Mathlib.Data.Rat.Cast.Order
import Mathlib.Order.Bounds.Basic
import Mathlib.Tactic.ByContra

/-!
# How often a call is tried

In a `Script`, the answers to all requests are written down beforehand, whatever the requests are.  So the
attempts of a call can be counted by looking at the script: a call makes attempts until one is answered for
good, or it may not be repeated any more, or the delay before another attempt is too large for the arithmetic
of the clock (`Course.isLeast_attempts`).

The main statement puts this together with what is on record of a call, after any other calls on the same
connection (`Call.retried`).
-/

namespace LedgerFlow

variable {ω τ : Type}

namespace Rpc

variable [Measure τ] {s : RpcSettings τ} {method : String} {address : Address} {request : HttpRequest τ}
  {left number : Nat} {script script' : Script τ} {first : HttpResult} {later : List (Again τ)}
  {stop : Except Fault Value}

namespace Course

/-- The posts of a call are answered as the script says. -/
theorem answers_eq (h : Course s Script.carrier method address request left number script first later stop
    script') :
    first :: later.map Again.answer = (List.range (later.length + 1)).map script.answers := by
  induction h with
  | ended hpost =>
      obtain ⟨rfl, -⟩ := Prod.mk.inj hpost
      rfl
  | undelayed hpost =>
      obtain ⟨rfl, -⟩ := Prod.mk.inj hpost
      rfl
  | again hpost _ hjitter _ _ ih =>
      obtain ⟨rfl, rfl⟩ := Prod.mk.inj hpost
      obtain ⟨rfl, rfl⟩ := Prod.mk.inj hjitter
      rw [List.map_cons, ih, List.length_cons, List.range_succ_eq_map (n := _ + 1), List.map_cons, List.map_map]
      rfl

theorem lastAnswer_eq (h : Course s Script.carrier method address request left number script first later stop
    script') : lastAnswer first later = script.answers later.length := by
  induction h with
  | ended hpost => exact (Prod.mk.inj hpost).1.symm
  | undelayed hpost => exact (Prod.mk.inj hpost).1.symm
  | again hpost _ hjitter _ _ ih =>
      obtain ⟨-, rfl⟩ := Prod.mk.inj hpost
      obtain ⟨-, rfl⟩ := Prod.mk.inj hjitter
      exact ih

/-- A call makes no more attempts than it may and stops at the first that is answered for good or has no delay
after it; and it stops for nothing else. -/
theorem isLeast_attempts (h : Course s Script.carrier method address request left number script first later
    stop script') :
    IsLeast {m | m = left + 1 ∨ ∃ k, m = k + 1 ∧
      ((script.answers k).isTransient address = false ∨ s.hasDelay (number + k) = false)}
        (later.length + 1) := by
  induction h with
  | ended hpost hend =>
      obtain ⟨rfl, -⟩ := Prod.mk.inj hpost
      refine ⟨hend.imp (fun hleft => by rw [hleft]; rfl) fun hfinal => ⟨0, rfl, .inl hfinal⟩, ?_⟩
      rintro m (rfl | ⟨k, rfl, -⟩) <;> exact Nat.succ_le_succ (Nat.zero_le _)
  | undelayed _ _ _ hdelay =>
      refine ⟨.inr ⟨0, rfl, .inr hdelay⟩, ?_⟩
      rintro m (rfl | ⟨k, rfl, -⟩) <;> exact Nat.succ_le_succ (Nat.zero_le _)
  | @again left number _ _ _ _ _ _ random delay _ _ hpost htransient hjitter hdelay _ ih =>
      obtain ⟨rfl, rfl⟩ := Prod.mk.inj hpost
      obtain ⟨rfl, rfl⟩ := Prod.mk.inj hjitter
      have hcan : s.hasDelay number = true := by
        by_contra hnot
        rw [RpcSettings.delay_of_not_hasDelay (Bool.eq_false_of_not_eq_true hnot)] at hdelay
        cases hdelay
      have hshift : ∀ k, number + 1 + k = number + (k + 1) := fun k => by omega
      obtain ⟨hmem, hlower⟩ := ih
      constructor
      · rcases hmem with hleft | ⟨k, hk, hreason⟩
        · exact .inl (congrArg (· + 1) hleft)
        · exact .inr ⟨k + 1, congrArg (· + 1) hk, by rwa [hshift] at hreason⟩
      · rintro m (rfl | ⟨_ | k, rfl, hreason⟩)
        · exact Nat.succ_le_succ (hlower (.inl rfl))
        · -- The first attempt is not the last one.
          rw [Nat.add_zero, htransient, hcan] at hreason
          simp at hreason
        · refine Nat.succ_le_succ (hlower (.inr ⟨k, rfl, ?_⟩))
          rwa [hshift]

end Course

/-! ## Calls after one another -/

/-- The session after calls, whatever comes of them. -/
def afterCalls (s : RpcSettings τ) (carrier : Carrier ω τ) (calls : List (Call τ))
    (session : Session (Connection ω)) : Session (Connection ω) :=
  calls.foldl (fun session call => ((call.make s carrier).outcome session).2) session

/-- Whatever comes of calls, they leave the connection open, and each has taken one number. -/
theorem connection_afterCalls (s : RpcSettings τ) (carrier : Carrier ω τ) (calls : List (Call τ))
    {session : Session (Connection (ω × List (HttpEvent τ)))} (hopen : session.world.isOpen = true) :
    (afterCalls s carrier.recording calls session).world.isOpen = true ∧
      (afterCalls s carrier.recording calls session).world.lastId =
        session.world.lastId + calls.length := by
  induction calls generalizing session with
  | nil => exact ⟨hopen, rfl⟩
  | cons call calls ih =>
      have hkept : ((call.make s carrier.recording).outcome session).2.world.isOpen = true ∧
          ((call.make s carrier.recording).outcome session).2.world.lastId = session.world.lastId + 1 := by
        cases hprepare : prepare s (call.payload (session.world.lastId + 1)) call.timeout with
        | error fault =>
            rw [Call.outcome_make_of_unprepared hopen hprepare]
            exact ⟨hopen, rfl⟩
        | ok prepared =>
            obtain ⟨_, _, _, _, _, -, hout⟩ := Call.exists_course_make _ hopen hprepare
            rw [hout]
            exact ⟨hopen, rfl⟩
      obtain ⟨hopen', hlast⟩ := ih hkept.1
      refine ⟨hopen', hlast.trans ?_⟩
      rw [hkept.2, List.length_cons, Nat.add_assoc, Nat.add_comm 1]

/-- **A call is tried until it is answered for good, as often as it may be.**  On a new connection, and after
any other calls on it, the number of a call is its place among them, whatever has become of those before it.

A call that cannot be posted ends at once.  Any other call posts the same request, which carries its number,
once and then after one sleep each, and takes the answers in their order.  The number of its posts is the least
of three: one more than the retries that are allowed, the place of the first answer that is neither a transport
failure nor a passing refusal, and the place of the first post after which the delay is too large.  Only in the
last of these cases, it ends with another fault than its last answer says.

So where every delay can be computed, a call makes as many posts as its answers and the settings ask for, and
ends as its last answer says. -/
theorem Call.retried (s : RpcSettings τ) (script : Script τ) (log : List LogRecord)
    (earlier : List (Call τ)) (call : Call τ) :
    let before := afterCalls s Script.carrier.recording earlier { world := { outside := (script, []) }, log }
    let after := (call.make s Script.carrier.recording).outcome before
    let answers := before.world.outside.1.answers
    let content := Rpc.payload (earlier.length + 1) call.method call.params
    (∀ fault, prepare s content call.timeout = .error fault →
        after.1 = .error fault ∧ after.2.world.outside = before.world.outside) ∧
      ∀ address request, prepare s content call.timeout = .ok (address, request) →
        bodyOf content = .ok request.body ∧
          ∃ first later, after.2.world.outside.2 = before.world.outside.2 ++ recordOf request first later ∧
            first :: later.map Again.answer = (List.range (later.length + 1)).map answers ∧
            IsLeast {m | m = s.maxRetries.toNat + 1 ∨ ∃ k, m = k + 1 ∧
              ((answers k).isTransient address = false ∨ s.hasDelay (k + 1) = false)} (later.length + 1) ∧
            (after.1 = meaning call.method address (answers later.length) ∨
              after.1 = .error (.malformed .tooLarge) ∧ later.length < s.maxRetries.toNat ∧
                (answers later.length).isTransient address = true ∧ s.hasDelay (later.length + 1) = false) ∧
            ((∀ k < s.maxRetries.toNat, s.hasDelay (k + 1) = true) →
              IsLeast {m | m = s.maxRetries.toNat + 1 ∨ ∃ k, m = k + 1 ∧
                (answers k).isTransient address = false} (later.length + 1) ∧
              after.1 = meaning call.method address (answers later.length)) := by
  intro before after answers content
  obtain ⟨hopen, hlast⟩ : before.world.isOpen = true ∧ before.world.lastId = 0 + earlier.length :=
    connection_afterCalls s Script.carrier earlier rfl
  have hcontent : content = call.payload (before.world.lastId + 1) := by
    rw [hlast, Nat.zero_add]
    rfl
  constructor
  · intro fault hprepare
    rw [hcontent] at hprepare
    have hout : after = _ := Call.outcome_make_of_unprepared hopen hprepare
    rw [hout]
    exact ⟨rfl, rfl⟩
  · intro address request hprepare
    refine ⟨(prepare_eq_ok hprepare).1, ?_⟩
    rw [hcontent] at hprepare
    obtain ⟨first, later, stop, w, log', hcourse, hout⟩ := Call.exists_course_make _ hopen hprepare
    have hout : after = _ := hout
    rw [hout]
    have hleast := hcourse.isLeast_attempts
    have hstop := hcourse.stop_cases
    rw [hcourse.lastAnswer_eq] at hstop
    simp only [Nat.add_comm 1] at hleast hstop
    refine ⟨first, later, rfl, hcourse.answers_eq, hleast, ?_, ?_⟩
    · exact hstop.imp And.left fun ⟨h, hlt, htransient, hdelay⟩ => ⟨h, hlt, htransient, hdelay⟩
    · intro hdelays
      constructor
      · refine ⟨?_, fun m hm => hleast.2 (hm.imp_right fun ⟨k, hk, hfinal⟩ => ⟨k, hk, .inl hfinal⟩)⟩
        obtain hall | ⟨k, hk, hfinal | hdelay⟩ := hleast.1
        · exact .inl hall
        · exact .inr ⟨k, hk, hfinal⟩
        · have hle := hleast.2 (.inl rfl)
          by_cases hlt : k < s.maxRetries.toNat
          · rw [hdelays k hlt] at hdelay
            cases hdelay
          · exact .inl (by omega)
      · obtain ⟨h, -⟩ | ⟨-, hlt, -, hdelay⟩ := hstop
        · exact h
        · rw [hdelays _ hlt] at hdelay
          cases hdelay

/-! ## Delays that are too large -/

instance : Measure Limited where
  ofBinary64 x := ⟨x.toRat⟩
  text x := Measure.text x.value
  fixedTwo x := Measure.fixedTwo x.value
  truncate x := Measure.truncate x.value

/-- With the usual delays and 1300 retries allowed, a call to a node that is always busy is given up earlier,
and not because the node is busy. -/
theorem retries_cut_short :
    let s : RpcSettings Limited :=
      { RpcSettings.default (some "http://node.test/rpc") with maxRetries := 1300 }
    let busy : Script Limited := { answers := fun _ => .answered 503 "", randoms := fun _ => ⟨1 / 2⟩ }
    let call : Call Limited := { method := "getHealth", params := .null, timeout := none }
    let before : Session (Connection _) := { world := { outside := (busy, []) } }
    let after := (call.make s Script.carrier.recording).outcome before
    ∃ address request first later, prepare s (call.payload 1) none = .ok (address, request) ∧
      (∀ k, (busy.answers k).isTransient address = true) ∧
      after.2.world.outside.2 = recordOf request first later ∧ later.length + 1 ≠ 1301 ∧
      after.1 = .error (.malformed .tooLarge) := by
  intro s busy call before after
  have hknown : ((s.address "http://node.test/rpc").toOption.any Address.takesReplies) = true := by decide
  obtain ⟨address, haddress, htakes⟩ := (Option.any_eq_true _ _).1 hknown
  have haddress : s.address "http://node.test/rpc" = .ok address := by
    cases h : s.address "http://node.test/rpc" with
    | error fault =>
        rw [h] at haddress
        cases haddress
    | ok a =>
        rw [h] at haddress
        cases haddress
        rfl
  obtain ⟨request, hprepare⟩ : ∃ request, prepare s (call.payload 1) none = .ok (address, request) :=
    exists_prepare rfl rfl haddress none
  have hopen : before.world.isOpen = true := rfl
  obtain ⟨first, later, stop, w, log, hcourse, hout⟩ :=
    Call.exists_course_make Script.carrier hopen hprepare
  have hout : after = _ := hout
  have htransient : ∀ k, (busy.answers k).isTransient address = true := fun k => by
    show (address.takesReplies && isPassing 503) = true
    rw [htakes]
    rfl
  have hdelay : s.hasDelay 1209 = false := by decide +kernel
  have hle : later.length + 1 ≤ 1209 := hcourse.isLeast_attempts.2 (.inr ⟨1208, rfl, .inr hdelay⟩)
  refine ⟨address, request, first, later, hprepare, htransient, by rw [hout]; rfl, by omega, ?_⟩
  obtain ⟨-, hend⟩ | ⟨hstop, -⟩ := hcourse.stop_cases
  · -- No answer is final, so that all attempts would have to be made.
    have hall : later.length = 1300 := hend.resolve_right fun hfinal => by
      rw [hcourse.lastAnswer_eq] at hfinal
      exact Bool.false_ne_true (hfinal.symm.trans (htransient _))
    omega
  · rw [hout, hstop]

end Rpc
end LedgerFlow

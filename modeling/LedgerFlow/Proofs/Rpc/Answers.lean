import LedgerFlow.Proofs.Rpc.Attempts
import LedgerFlow.Proofs.Transaction.Reading
import LedgerFlow.Rpc.Node

/-!
# What comes of the calls to a node

`Rpc.Answers` says which answers a carrier brings to the calls that a pipeline makes, and that calls
without an answer end with an error of the family that callers of the pipeline handle.  What is read of
an answer is not in that family: an answer that is no readable reply ends the call with the failure to
read it (`callAndRead_endsWithin`).

Answers are Unicode text here.  Only a hash is sent to the node again, so it is the hashes that have to be
such text in the first place (`Answers.spelled`).
-/

namespace LedgerFlow

namespace Rpc

section

variable {ω τ : Type} [Measure τ]

/-- The calls that a pipeline makes, with their parameters. -/
inductive IsCall : String → Value → Prop where
  | simulate (wire : String) : IsCall "simulateTransaction" (wireParams wire)
  | send (wire : String) : IsCall "sendTransaction" (wireParams wire)
  | status (hash : String) : IsCall "getTransaction" (.record [("hash", .text hash)])
  | latestLedger : IsCall "getLatestLedger" .null

/-- What a carrier brings to the calls of a pipeline. -/
structure Answers (s : RpcSettings τ) (carrier : Carrier ω τ) (isAnswer : String → Value → Prop) :
    Prop where
  /-- Every call ends with an answer that its method may have, or with an error of the family. -/
  ends : ∀ method params timeout, IsCall method params →
    (request s carrier method params timeout).EndsWithin (isAnswer method) Fault.InFamily
  /-- The hashes in answers are text that can be sent again.  The reader of JSON puts the replacement
  character in the place of half a surrogate pair, which cannot. -/
  spelled : ∀ entries reply, isAnswer "sendTransaction" (.map entries) →
    SendReply.ofReply (.map entries) = .ok reply → '\ufffd' ∉ reply.hash.toList

/-- An object that some call may be answered with, but that is no readable reply to it.  One of these
failures, `Malformed.foreign`, only says that the reply carries wire text whose payload holds an object. -/
inductive Unreadable (isAnswer : String → Value → Prop) : Malformed → Prop where
  | simulate {entries : List (Value × Value)} {m : Malformed}
      (hanswer : isAnswer "simulateTransaction" (.map entries))
      (hread : Simulation.ofReply (.map entries) = .error m) : Unreadable isAnswer m
  | send {entries : List (Value × Value)} {m : Malformed}
      (hanswer : isAnswer "sendTransaction" (.map entries))
      (hread : SendReply.ofReply (.map entries) = .error m) : Unreadable isAnswer m
  | status {entries : List (Value × Value)} {m : Malformed}
      (hanswer : isAnswer "getTransaction" (.map entries))
      (hread : StatusReply.ofReply (.map entries) = .error m) : Unreadable isAnswer m
  | latestLedger {entries : List (Value × Value)} {m : Malformed}
      (hanswer : isAnswer "getLatestLedger" (.map entries))
      (hread : LatestLedger.ofReply (.map entries) = .error m) : Unreadable isAnswer m

variable {s : RpcSettings τ} {carrier : Carrier ω τ} {isAnswer : String → Value → Prop}
  {isFault : Fault → Prop} {method : String} {params : Value}

/-- An answer that is no object is an error of the family. -/
theorem callForObject_endsWithin (h : Answers s carrier isAnswer) (hcall : IsCall method params)
    (timeout : Option τ) :
    (callForObject s carrier method params timeout).EndsWithin
      (fun v => ∃ entries, v = .map entries ∧ isAnswer method (.map entries)) Fault.InFamily := by
  unfold callForObject
  refine (Stage.EndsWithin.record _ _).bind fun _ _ => (h.ends method params timeout hcall).bind ?_
  intro v hv
  cases v with
  | map entries => exact .pure ⟨entries, rfl, hv⟩
  | _ => exact .throw ⟨_, rfl⟩

theorem callAndRead_endsWithin {α : Type} {read : Value → Value.Read α}
    (h : Answers s carrier isAnswer) (hcall : IsCall method params)
    (hfamily : ∀ e, isFault (.pipeline e))
    (hread : ∀ entries m, isAnswer method (.map entries) → read (.map entries) = .error m →
      isFault (.malformed m)) (timeout : Option τ) :
    (callAndRead s carrier read method params timeout).EndsWithin
      (fun a => ∃ entries, isAnswer method (.map entries) ∧ read (.map entries) = .ok a) isFault := by
  unfold callAndRead
  refine ((callForObject_endsWithin h hcall timeout).mono (fun _ => id) ?_).bind ?_
  · rintro _ ⟨e, rfl⟩
    exact hfamily e
  · rintro _ ⟨entries, rfl, hanswer⟩
    refine .ofExcept (fun a ha => ⟨entries, hanswer, eq_ok_of_mapError ha⟩) fun e he => ?_
    obtain ⟨m, hm, rfl⟩ := exists_of_mapError_eq_error he
    exact hread entries m hanswer hm

end

/-! ## A carrier that always answers the same -/

/-- A carrier that brings the same answer to every request, in no time. -/
def steadyCarrier (body : String) : Carrier Unit Rat where
  post _ w := (.answered 200 body, w)
  sleep _ w := w
  jitter w := (0, w)

/-- The parameters of a call can be written, so a request has a body. -/
theorem isOk_bodyOf_payload {method : String} {params : Value} (h : IsCall method params) (id : Nat) :
    (bodyOf (payload id method params)).isOk = true := by
  cases h <;> rfl

variable {s : RpcSettings Rat} {url body : String} {address : Address}

/-- Every attempt of a call is answered, or the connection is closed. -/
theorem attempt_steady (hurl : s.url = some url) (haddress : s.address url = .ok address)
    (htakes : address.takesReplies = true) {method : String} {payload v : Value}
    (htext : (bodyOf payload).isOk = true) (hbody : result method 200 body = .ok v)
    (timeout : Option Rat) :
    (attempt s (steadyCarrier body) method payload timeout).EndsWithin
      (fun v => result method 200 body = .ok v) Fault.InFamily := by
  obtain ⟨request, hprepare⟩ := exists_prepare htext hurl haddress timeout
  intro c
  cases hopen : c.world.isOpen with
  | false =>
      rw [outcome_attempt_of_closed hopen]
      exact ⟨_, rfl⟩
  | true =>
      have hmeaning : meaning method address ((steadyCarrier body).post request c.world.outside).1 =
          .ok v := by
        show (if (!address.takesReplies) = true then _ else result method 200 body) = _
        rw [htakes]
        exact hbody
      rw [outcome_attempt_of_prepared hopen hprepare, hmeaning]
      exact hbody

/-- A carrier that always answers the same brings that answer to every call. -/
theorem answers_steady (hurl : s.url = some url) (haddress : s.address url = .ok address)
    (htakes : address.takesReplies = true) (hretries : s.maxRetries.toNat = 0)
    (hbody : ∀ method params, IsCall method params → ∃ v, result method 200 body = .ok v)
    (hspelled : ∀ v reply, result "sendTransaction" 200 body = .ok v →
      SendReply.ofReply v = .ok reply → '\ufffd' ∉ reply.hash.toList) :
    Answers s (steadyCarrier body) fun method v => result method 200 body = .ok v := by
  refine ⟨fun method params timeout hcall => ?_, fun entries reply => hspelled (.map entries) reply⟩
  obtain ⟨v, hv⟩ := hbody method params hcall
  unfold request
  -- Without retries a call is one attempt.
  rw [hretries]
  have hid : (nextId : Stage (Connection Unit) Nat).EndsWithin (fun _ => True) Fault.InFamily :=
    fun _ => trivial
  exact hid.bind fun id _ =>
    attempt_steady hurl haddress htakes (isOk_bodyOf_payload hcall id) hv timeout

end Rpc
end LedgerFlow

import LedgerFlow.Proofs.Codec.Json
import LedgerFlow.Proofs.Rpc.Attempts

/-!
# What the reply to a call is taken for

A reply has a result, or is taken for an error of the call.  There are two kinds of replies for which this
fails, so that something else comes of the call: a body that nests too deeply, and an error object whose code
is no integer (`Unclassified`).  Whatever else the members of a reply are, they have a text, because the reply
was read from one.

The main statement is that a call ends with a result, an error of the call or a failure to reach the node, for
all replies but these, if there is something to be posted and a delay between two posts
(`Call.typed_unless_unclassified`).
-/

namespace LedgerFlow

/-- Whether a fault is one that callers of a method expect: an error in place of a result, or no answer at all.
Either tells the method. -/
def Fault.isOfCall (method : String) : Fault → Bool
  | .pipeline (.rpc e) => e.method == some method
  | .pipeline (.unreachable _ m _) => m == some method
  | _ => false

theorem Fault.isOfCall_unreachable (method message : String) (httpStatus : Option Int) :
    (Fault.pipeline (.unreachable message (some method) httpStatus)).isOfCall method = true :=
  beq_self_eq_true (some method)

namespace Rpc

variable {method body : String} {status : Int} {v : Value} {fault : Fault}

/-! ## One reply -/

/-- A reply without an error that has a result. -/
def HasResult (body : String) (v : Value) : Prop :=
  ∃ entries, Json.parseBytes (Utf8.encode body) = .ok (.map entries) ∧
    (∀ error, Value.lookup "error" entries = some error → error.isNull = true) ∧
    Value.lookup "result" entries = some v

/-- The code of an error object. -/
def codeOf (object : List (Value × Value)) : Value.Read Int :=
  ((Value.lookup "code" object).getD (.int RpcCode.serverError.number)).toInt

/-- A reply that is neither a result nor an error of the call, and what comes of it. -/
inductive Unclassified (body : String) : Fault → Prop where
  | tooDeep (hbody : Json.parseBytes (Utf8.encode body) = .error .tooDeep) : Unclassified body .tooDeep
  | badCode {entries object : List (Value × Value)} {m : Malformed}
      (hbody : Json.parseBytes (Utf8.encode body) = .ok (.map entries))
      (herror : Value.lookup "error" entries = some (.map object)) (hcode : codeOf object = .error m) :
      Unclassified body (.malformed m)

theorem Unclassified.not_isOfCall (h : Unclassified body fault) : fault.isOfCall method = false := by
  cases h <;> rfl

theorem ofObject_map (object : List (Value × Value)) (method : Option String) (requestId : Value)
    (httpStatus : Option Int) :
    RpcError.ofObject (.map object) method requestId httpStatus =
      (codeOf object >>= fun code =>
        ((Value.lookup "message" object).getD (.text "Unknown JSON-RPC error")).toText >>= fun message =>
          .ok ⟨method, code, message, (Value.lookup "data" object).getD .null, requestId, httpStatus⟩) := rfl

/-- An error object is an error of the call as soon as its code is a number. -/
theorem exists_ofObject {object : List (Value × Value)} {code : Int}
    (hshort : (Value.map object).hasLongNumber = false) (hcode : codeOf object = .ok code)
    (method : Option String) (requestId : Value) (httpStatus : Option Int) :
    ∃ e : RpcError, RpcError.ofObject (.map object) method requestId httpStatus = .ok e ∧
      e.method = method := by
  have hmessage : ((Value.lookup "message" object).getD
      (.text "Unknown JSON-RPC error")).hasLongNumber = false := by
    cases hlookup : Value.lookup "message" object with
    | none => rfl
    | some message => exact Value.hasLongNumber_of_lookup hshort hlookup
  obtain ⟨message, htext⟩ := Value.exists_toText hmessage
  rw [ofObject_map, hcode, htext]
  exact ⟨_, rfl, rfl⟩

/-- What stands in place of an error object is its message, so that the code is the usual one. -/
theorem exists_objectOf {error : Value} (hshort : error.hasLongNumber = false)
    (hcode : ∀ object m, error = .map object → codeOf object ≠ .error m) :
    ∃ object code, RpcError.objectOf error = .ok (.map object) ∧
      (Value.map object).hasLongNumber = false ∧ codeOf object = .ok code := by
  have hother : (∀ object, error ≠ .map object) →
      RpcError.objectOf error = (error.toText >>= fun s => .ok (.record [("message", .text s)])) := by
    intro hne
    cases error with
    | map object => exact absurd rfl (hne object)
    | _ => rfl
  by_cases hmap : ∃ object, error = .map object
  · obtain ⟨object, rfl⟩ := hmap
    cases hread : codeOf object with
    | error m => exact absurd hread (hcode object m rfl)
    | ok code => exact ⟨object, code, rfl, hshort, hread⟩
  · obtain ⟨s, htext⟩ := Value.exists_toText hshort
    rw [hother (not_exists.1 hmap), htext]
    exact ⟨_, _, rfl, rfl, rfl⟩

/-- A reply reports an error as soon as there is something in its place. -/
theorem ofReply?_of_error {entries object : List (Value × Value)} {error : Value}
    (herror : Value.lookup "error" entries = some error) (hnull : error.isNull = false)
    (hobject : RpcError.objectOf error = .ok (.map object)) (method : Option String) (httpStatus : Option Int) :
    RpcError.ofReply? (.map entries) method httpStatus =
      (RpcError.ofObject (.map object) method ((Value.lookup "id" entries).getD .null) httpStatus).map some := by
  have hreported : ((Value.lookup "error" entries).filter fun e => !e.isNull) = some error := by
    rw [herror, Option.filter_some, if_pos (by rw [hnull]; rfl)]
  unfold RpcError.ofReply?
  dsimp only
  rw [hreported]
  dsimp only
  rw [hobject]
  rfl

theorem ofReply?_of_no_error {entries : List (Value × Value)}
    (herror : ∀ error, Value.lookup "error" entries = some error → error.isNull = true)
    (method : Option String) (httpStatus : Option Int) :
    RpcError.ofReply? (.map entries) method httpStatus = .ok none := by
  have hreported : ((Value.lookup "error" entries).filter fun e => !e.isNull) = none := by
    refine Option.filter_eq_none_iff.2 fun error h => ?_
    rw [herror error h]
    decide
  unfold RpcError.ofReply?
  dsimp only
  rw [hreported]
  rfl

section Entries

variable {entries : List (Value × Value)} (hbody : Json.parseBytes (Utf8.encode body) = .ok (.map entries))

include hbody

theorem result_of_map (method : String) (status : Int) :
    result method status body =
      ((RpcError.ofReply? (.map entries) (some method) (some status)).mapError .malformed >>= fun error? =>
        match error? with
        | some e => .error (.pipeline (.rpc e))
        | none =>
          match Value.lookup "result" entries with
          | some v => .ok v
          | none =>
            .error (unusable method "Malformed JSON-RPC response" (.map entries) (some status))) := by
  unfold result
  rw [hbody]
  rfl

/-- A code that is no number is what ends a call that is answered with an error. -/
theorem result_of_bad_code {object : List (Value × Value)} {m : Malformed}
    (herror : Value.lookup "error" entries = some (.map object)) (hcode : codeOf object = .error m)
    (method : String) (status : Int) : result method status body = .error (.malformed m) := by
  rw [result_of_map hbody, ofReply?_of_error herror rfl rfl, ofObject_map, hcode]
  rfl

/-- Any other error ends it as an error of the call. -/
theorem result_of_error {error : Value} (herror : Value.lookup "error" entries = some error)
    (hnull : error.isNull = false) (hcode : ∀ object m, error = .map object → codeOf object ≠ .error m)
    (method : String) (status : Int) :
    ∃ e : RpcError, result method status body = .error (.pipeline (.rpc e)) ∧ e.method = some method := by
  have hshort := Value.hasLongNumber_of_lookup (Json.hasLongNumber_of_parseBytes hbody) herror
  obtain ⟨object, code, hobject, hshort, hcode⟩ := exists_objectOf hshort hcode
  obtain ⟨e, he, hmethod⟩ := exists_ofObject hshort hcode (some method)
    ((Value.lookup "id" entries).getD .null) (some status)
  refine ⟨e, ?_, hmethod⟩
  rw [result_of_map hbody, ofReply?_of_error herror hnull hobject, he]
  rfl

theorem result_of_no_error (herror : ∀ error, Value.lookup "error" entries = some error → error.isNull = true)
    (method : String) (status : Int) :
    result method status body =
      match Value.lookup "result" entries with
      | some v => .ok v
      | none => .error (unusable method "Malformed JSON-RPC response" (.map entries) (some status)) := by
  rw [result_of_map hbody, ofReply?_of_no_error herror]
  rfl

end Entries

/-- A reply is a result, an error of the call, or cannot be classified. -/
theorem result_cases (method : String) (status : Int) (body : String) :
    (∃ v, result method status body = .ok v ∧ HasResult body v) ∨
      (∃ e : RpcError, result method status body = .error (.pipeline (.rpc e)) ∧ e.method = some method) ∨
      ∃ fault, result method status body = .error fault ∧ Unclassified body fault := by
  cases hbody : Json.parseBytes (Utf8.encode body) with
  | error refusal =>
      cases refusal with
      | illFormed => exact .inr (.inl ⟨_, by rw [result, hbody]; rfl, rfl⟩)
      | tooDeep => exact .inr (.inr ⟨_, by rw [result, hbody], .tooDeep hbody⟩)
  | ok reply =>
      cases reply with
      | map entries =>
          by_cases hnone : ∀ error, Value.lookup "error" entries = some error → error.isNull = true
          · rw [result_of_no_error hbody hnone]
            cases hresult : Value.lookup "result" entries with
            | some v => exact .inl ⟨v, rfl, entries, hbody, hnone, hresult⟩
            | none => exact .inr (.inl ⟨_, rfl, rfl⟩)
          · push Not at hnone
            obtain ⟨error, herror, hnull⟩ := hnone
            by_cases hbad : ∃ object m, error = .map object ∧ codeOf object = .error m
            · obtain ⟨object, m, rfl, hcode⟩ := hbad
              exact .inr (.inr ⟨_, result_of_bad_code hbody herror hcode method status,
                .badCode hbody herror hcode⟩)
            · push Not at hbad
              exact .inr (.inl (result_of_error hbody herror (Bool.eq_false_of_not_eq_true hnull) hbad
                method status))
      | _ => exact .inr (.inl ⟨_, by rw [result, hbody]; rfl, rfl⟩)

/-- What cannot be classified is what comes of the call. -/
theorem result_of_unclassified (h : Unclassified body fault) (method : String) (status : Int) :
    result method status body = .error fault := by
  cases h with
  | tooDeep hbody => rw [result, hbody]
  | badCode hbody herror hcode => exact result_of_bad_code hbody herror hcode method status

theorem result_of_hasResult (h : HasResult body v) (method : String) (status : Int) :
    result method status body = .ok v := by
  obtain ⟨entries, hbody, hnone, hresult⟩ := h
  rw [result_of_no_error hbody hnone, hresult]

/-! ## Calls -/

variable {ω τ : Type} [Measure τ] {s : RpcSettings τ} {carrier : Carrier ω τ} {content : Value}
  {timeout : Option τ}

/-- Why a call ends with a fault that its callers do not expect, after what is on record of it. -/
inductive Escapes (s : RpcSettings τ) (content : Value) (timeout : Option τ) :
    List (HttpEvent τ) → Fault → Prop where
  /-- There is nothing that could be posted. -/
  | unprepared {fault : Fault} (hprepare : prepare s content timeout = .error fault) :
      Escapes s content timeout [] fault
  /-- The power in a delay is too large. -/
  | undelayed {events : List (HttpEvent τ)} {k : Nat} (hk : k < s.maxRetries.toNat)
      (hdelay : s.hasDelay (k + 1) = false) : Escapes s content timeout events (.malformed .tooLarge)
  /-- The scheme of the address is one that replies are not taken from. -/
  | untaken {events : List (HttpEvent τ)} {address : Address} {request : HttpRequest τ}
      (hprepare : prepare s content timeout = .ok (address, request))
      (htakes : address.takesReplies = false) :
      Escapes s content timeout events (.malformed (.outOfRange "unknown url type"))
  /-- The last reply cannot be classified. -/
  | unclassified {events : List (HttpEvent τ)} {request : HttpRequest τ} {status : Int} {body : String}
      {fault : Fault} (hlast : events.getLast? = some (.posted request (.answered status body)))
      (hpassing : isPassing status = false) (hreply : Unclassified body fault) :
      Escapes s content timeout events fault

theorem meaning_of_reply {address : Address} (htakes : address.takesReplies = true)
    (hpassing : isPassing status = false) (method : String) (body : String) :
    meaning method address (.answered status body) = result method status body := by
  unfold meaning
  dsimp only
  rw [htakes, hpassing]
  rfl

/-- What a call comes to by its last answer. -/
theorem meaning_cases {events : List (HttpEvent τ)} {address : Address} {request : HttpRequest τ}
    {answer : HttpResult} (hprepare : prepare s content timeout = .ok (address, request))
    (hlast : events.getLast? = some (.posted request answer)) (method : String) :
    (∃ status body v, answer = .answered status body ∧ meaning method address answer = .ok v ∧
        isPassing status = false ∧ HasResult body v) ∨
      ∃ fault, meaning method address answer = .error fault ∧
        (fault.isOfCall method = true ∨ Escapes s content timeout events fault) := by
  cases answer with
  | failed kind text => exact .inr ⟨_, rfl, .inl (Fault.isOfCall_unreachable ..)⟩
  | answered status body =>
      cases htakes : address.takesReplies with
      | false =>
          refine .inr ⟨_, ?_, .inr (.untaken hprepare htakes)⟩
          rw [meaning, htakes]
          rfl
      | true =>
          cases hpassing : isPassing status with
          | true =>
              refine .inr ⟨_, ?_, .inl (Fault.isOfCall_unreachable method ("HTTP " ++ toString status)
                (some status))⟩
              rw [meaning, htakes, hpassing]
              rfl
          | false =>
              rw [meaning_of_reply htakes hpassing]
              obtain ⟨v, hv, hresult⟩ | ⟨e, he, hmethod⟩ | ⟨fault, hfault, hreply⟩ :=
                result_cases method status body
              · exact .inl ⟨status, body, v, rfl, hv, hpassing, hresult⟩
              · exact .inr ⟨_, he, .inl (beq_iff_eq.2 hmethod)⟩
              · exact .inr ⟨fault, hfault, .inr (.unclassified hlast hpassing hreply)⟩

/-- How a call ends, after what is on record of it. -/
structure EndsAs (s : RpcSettings τ) (method : String) (content : Value) (timeout : Option τ)
    (events : List (HttpEvent τ)) (outcome : Except Fault Value) : Prop where
  /-- A result is the one in the reply to the last post. -/
  result : ∀ v, outcome = .ok v → ∃ request status body,
    events.getLast? = some (.posted request (.answered status body)) ∧ isPassing status = false ∧ HasResult body v
  /-- A fault is one of the call, but for the reasons that are listed. -/
  fault : ∀ fault, outcome = .error fault →
    fault.isOfCall method = true ∨ Escapes s content timeout events fault
  /-- The reply to the last post ends the call with its result, and if it cannot be classified, with another
  fault. -/
  reply : ∀ address request status body, prepare s content timeout = .ok (address, request) →
    address.takesReplies = true →
    events.getLast? = some (.posted request (.answered status body)) → isPassing status = false →
      (∀ v, HasResult body v → outcome = .ok v) ∧
      ∀ fault, Unclassified body fault → outcome = .error fault ∧ fault.isOfCall method = false

namespace EndsAs

theorem of_unprepared (hprepare : prepare s content timeout = .error fault) (method : String) :
    EndsAs s method content timeout [] (.error fault) where
  result := nofun
  fault _ h := by
    cases h
    exact .inr (.unprepared hprepare)
  reply := nofun

/-- A call without a post ends as one that cannot reach the node, or for want of a delay. -/
theorem of_delays (delays : List τ) (hfault : fault.isOfCall method = true ∨
      fault = .malformed .tooLarge ∧ ∃ k < s.maxRetries.toNat, s.hasDelay (k + 1) = false) :
    EndsAs s method content timeout (delays.map .slept) (.error fault) where
  result := nofun
  fault _ h := by
    cases h
    refine hfault.imp_right ?_
    rintro ⟨rfl, k, hk, hdelay⟩
    exact .undelayed hk hdelay
  reply _ _ _ _ _ _ hlast := by
    obtain ⟨delay, -, hslept⟩ := List.mem_map.1 (List.mem_of_getLast? hlast)
    cases hslept

variable {address : Address} {request : HttpRequest τ} {events : List (HttpEvent τ)} {answer : HttpResult}
  (hlast : events.getLast? = some (.posted request answer))

include hlast

/-- A call that ends as its last answer says. -/
theorem of_meaning (hprepare : prepare s content timeout = .ok (address, request)) (method : String) :
    EndsAs s method content timeout events (meaning method address answer) where
  result v hv := by
    obtain ⟨status, body, v', rfl, hv', hpassing, hresult⟩ | ⟨fault, hfault, -⟩ :=
      meaning_cases hprepare hlast method
    · cases hv.symm.trans hv'
      exact ⟨request, status, body, hlast, hpassing, hresult⟩
    · cases hv.symm.trans hfault
  fault fault hfault := by
    obtain ⟨_, _, v, -, hv, -⟩ | ⟨fault', hfault', hreason⟩ := meaning_cases hprepare hlast method
    · cases hfault.symm.trans hv
    · cases hfault.symm.trans hfault'
      exact hreason
  reply address' request' status body hprepare' htakes hreply hpassing := by
    cases hprepare.symm.trans hprepare'
    cases hlast.symm.trans hreply
    rw [meaning_of_reply htakes hpassing]
    exact ⟨fun v h => result_of_hasResult h _ _, fun fault h => ⟨result_of_unclassified h _ _, h.not_isOfCall⟩⟩

/-- A call that ends for want of a delay after a passing refusal. -/
theorem of_undelayed {k : Nat} (hk : k < s.maxRetries.toNat) (hdelay : s.hasDelay (k + 1) = false)
    (htransient : answer.isTransient address = true) (method : String) :
    EndsAs s method content timeout events (.error (.malformed .tooLarge)) where
  result := nofun
  fault _ h := by
    cases h
    exact .inr (.undelayed hk hdelay)
  reply address' request' status body _ _ hreply hpassing := by
    cases hlast.symm.trans hreply
    rw [HttpResult.isTransient, hpassing, Bool.and_false] at htransient
    cases htransient

end EndsAs

/-- However a call goes, it ends accordingly. -/
theorem Call.Runs.endsAs {call : Call τ} {session : Session (Connection (ω × List (HttpEvent τ)))}
    {stop : Except Fault Value} {events : List (HttpEvent τ)} (h : call.Runs s carrier session stop events) :
    EndsAs s call.method (call.payload (session.world.lastId + 1)) call.timeout events stop := by
  cases h with
  | @closed _ delays _ _ hend =>
      refine .of_delays delays ?_
      obtain ⟨rfl, -⟩ | ⟨rfl, hlt, hdelay⟩ := hend
      · exact .inl (Fault.isOfCall_unreachable ..)
      · exact .inr ⟨rfl, delays.length, hlt, by rwa [Nat.add_comm 1] at hdelay⟩
  | unprepared _ hprepare => exact .of_unprepared hprepare call.method
  | @posted _ request first later _ _ _ hprepare hcourse =>
      have hlast := getLast?_recordOf request first later
      obtain ⟨rfl, -⟩ | ⟨rfl, hlt, htransient, hdelay⟩ := hcourse.stop_cases
      · exact .of_meaning hlast hprepare call.method
      · rw [Nat.add_comm 1] at hdelay
        exact .of_undelayed hlast hlt hdelay htransient call.method

/-- **A call ends with a result, an error of the call or a failure to reach the node, unless its last reply
cannot be classified.**

Whatever is asked for in whatever session, and whatever becomes of the posts: if the call has a result, it is
the result in the reply to the last post.  If the call fails, then with an error of the call or as unreachable,
but for the reasons that `Escapes` lists: there is nothing to be posted, a delay is too large, the address is
none that replies are taken from, or the last reply nests too deeply or is an error object whose code is no
integer.  And each reply of the last kind does end the call with that other fault, as each with a result ends it
with that. -/
theorem Call.typed_unless_unclassified (s : RpcSettings τ) (carrier : Carrier ω τ) (call : Call τ)
    (session : Session (Connection (ω × List (HttpEvent τ)))) :
    let after := (call.make s carrier.recording).outcome session
    ∃ events, after.2.world.outside.2 = session.world.outside.2 ++ events ∧
      EndsAs s call.method (call.payload (session.world.lastId + 1)) call.timeout events after.1 := by
  intro after
  obtain ⟨events, hrecord, hruns⟩ := call.exists_runs s carrier session
  exact ⟨events, hrecord, hruns.endsAs⟩

/-- Whether the outcome of a call is one that its callers expect. -/
def isTyped (method : String) : Except Fault Value → Bool
  | .ok _ => true
  | .error fault => fault.isOfCall method

/-- A reply with null in place of the code of its error is one that cannot be classified. -/
theorem null_code_escapes :
    let s : RpcSettings Rat := RpcSettings.default (some "http://node.test/rpc")
    let body := "\x7b\"jsonrpc\":\"2.0\",\"id\":1,\"error\":\x7b\"code\":null,\"message\":\"m\"\x7d\x7d"
    let failing : Script Rat := { answers := fun _ => .answered 200 body, randoms := fun _ => 1 / 2 }
    let call : Call Rat := { method := "getHealth", params := .null, timeout := none }
    let before : Session (Connection _) := { world := { outside := (failing, []) } }
    isTyped call.method ((call.make s Script.carrier.recording).outcome before).1 = false := by
  decide +kernel

end Rpc
end LedgerFlow

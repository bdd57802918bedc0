import LedgerFlow.Proofs.Session
import LedgerFlow.Rpc.Client

/-!
# The attempts of a call

An attempt on an open connection posts one request, if it can be prepared, and means what the answer means
(`outcome_attempt_of_prepared`).  `Course` says how the attempts of a call go: it has one constructor for each
way in which an attempt can be the last one, and one for an attempt after which the call goes on.  On a closed
connection there are only delays, which are those of `Delays` on any connection.

`Carrier.recording` is a carrier that also writes down what is posted and what is slept.  The attempts of a call
go as a `Course` says, and this leaves one post on record, and then a sleep and a post for each further attempt,
and nothing else (`exists_course`).  The main statement, `Call.exists_runs`, has all the ways in which a call can
go.
-/

namespace LedgerFlow

variable {ω τ α : Type}

/-- What a client does to the world around it. -/
inductive HttpEvent (τ : Type) where
  | posted (request : HttpRequest τ) (answer : HttpResult)
  | slept (delay : τ)

/-- A carrier that also writes down what is posted and what is slept. -/
def Carrier.recording (carrier : Carrier ω τ) : Carrier (ω × List (HttpEvent τ)) τ where
  post request w :=
    let (answer, after) := carrier.post request w.1
    (answer, after, w.2 ++ [.posted request answer])
  sleep delay w := (carrier.sleep delay w.1, w.2 ++ [.slept delay])
  jitter w :=
    let (random, after) := carrier.jitter w.1
    (random, after, w.2)

/-- A world in which the answers to requests and the random numbers are written down beforehand. -/
structure Script (τ : Type) where
  answers : Nat → HttpResult
  randoms : Nat → τ

/-- Every post takes the next answer of a script, and every delay the next random number. -/
def Script.carrier : Carrier (Script τ) τ where
  post _ script := (script.answers 0, { script with answers := fun i => script.answers (i + 1) })
  sleep _ script := script
  jitter script := (script.randoms 0, { script with randoms := fun i => script.randoms (i + 1) })

/-- Whether a call may be repeated for what comes of a request to an address: it failed, or was refused for
the time being. -/
def HttpResult.isTransient (address : Address) : HttpResult → Bool
  | .failed .. => true
  | .answered status _ => address.takesReplies && Rpc.isPassing status

namespace RpcSettings

variable [Measure τ] {s : RpcSettings τ} {number : Nat} {random : τ}

/-- Whether there is a delay after the attempt with a number; its power may be too large. -/
def hasDelay (s : RpcSettings τ) (number : Nat) : Bool :=
  (Timeline.power? s.backoffFactor (number - 1)).isSome

theorem delay_of_hasDelay (h : s.hasDelay number = true) (random : τ) :
    ∃ delay, s.delay number random = .ok delay := by
  obtain ⟨power, hpower⟩ := Option.isSome_iff_exists.1 h
  exact ⟨_, by rw [delay, hpower]⟩

theorem delay_of_not_hasDelay (h : s.hasDelay number = false) (random : τ) :
    s.delay number random = .error .tooLarge := by
  have hpower : Timeline.power? s.backoffFactor (number - 1) = none := by
    simpa [hasDelay] using h
  rw [delay, hpower]

end RpcSettings

namespace Rpc

/-! ## One attempt -/

/-- The session with another world outside of its connection. -/
def goTo (session : Session (Connection ω)) (w : ω) : Session (Connection ω) :=
  { session with world := { session.world with outside := w } }

@[simp]
theorem outcome_outside (f : ω → α × ω) (session : Session (Connection ω)) :
    (outside f).outcome session =
      (.ok (f session.world.outside).1, goTo session (f session.world.outside).2) := rfl

/-- What an answer to a request to an address means. -/
def meaning (method : String) (address : Address) : HttpResult → Except Fault Value
  | .failed kind text => .error (.pipeline (.unreachable (kind ++ ": " ++ text) (some method) none))
  | .answered status body =>
    if !address.takesReplies then .error (.malformed (.outOfRange "unknown url type"))
    else if isPassing status then
      .error (.pipeline (.unreachable ("HTTP " ++ toString status) (some method) (some status)))
    else result method status body

theorem ofResult_eq (method : String) (address : Address) (answer : HttpResult) :
    (ofResult method address answer : Stage (Connection ω) Value) =
      Stage.ofExcept (meaning method address answer) := by
  cases answer with
  | failed kind text => rfl
  | answered status body =>
      unfold ofResult meaning
      dsimp only
      cases address.takesReplies with
      | false => rfl
      | true =>
          cases isPassing status with
          | true => rfl
          | false => rfl

variable {s : RpcSettings τ} {carrier : Carrier ω τ} {method : String} {content : Value}
  {timeout : Option τ} {address : Address} {request : HttpRequest τ} {fault : Fault}
  {session : Session (Connection ω)}

/-- The reading of a reply is never a reason for another attempt. -/
theorem isUnreachable_of_result {status : Int} {body : String}
    (h : result method status body = .error fault) : fault.isUnreachable = false := by
  unfold result at h
  split at h
  · cases h
    rfl
  · cases h
    rfl
  · next entries _ =>
      rcases error_of_bind_eq_error h with h | ⟨error?, -, h⟩
      · obtain ⟨m, -, rfl⟩ := exists_of_mapError_eq_error h
        rfl
      · split at h
        · cases h
          rfl
        · split at h <;> cases h
          rfl
  · cases h
    rfl

/-- A call may be repeated exactly for a transport failure. -/
theorem isTransient_of_meaning_error {answer : HttpResult}
    (h : meaning method address answer = .error fault) : fault.isUnreachable = answer.isTransient address := by
  cases answer with
  | failed kind text =>
      cases h
      rfl
  | answered status body =>
      unfold meaning at h
      unfold HttpResult.isTransient
      dsimp only at h ⊢
      cases htakes : address.takesReplies with
      | false =>
          rw [htakes] at h
          cases h
          rfl
      | true =>
          rw [htakes] at h
          cases hpassing : isPassing status with
          | true =>
              rw [hpassing] at h
              cases h
              rfl
          | false =>
              rw [hpassing] at h
              exact isUnreachable_of_result h

theorem isTransient_of_meaning_ok {answer : HttpResult} {v : Value}
    (h : meaning method address answer = .ok v) : answer.isTransient address = false := by
  cases answer with
  | failed kind text => cases h
  | answered status body =>
      unfold meaning at h
      unfold HttpResult.isTransient
      dsimp only at h ⊢
      cases htakes : address.takesReplies with
      | false => rfl
      | true =>
          rw [htakes] at h
          cases hpassing : isPassing status with
          | true =>
              rw [hpassing] at h
              cases h
          | false => rfl

/-- What keeps a request from being prepared is no transport failure. -/
theorem isUnreachable_of_prepare (h : prepare s content timeout = .error fault) :
    fault.isUnreachable = false := by
  rcases error_of_bind_eq_error h with h | ⟨body, -, h⟩
  · obtain ⟨m, -, rfl⟩ := exists_of_mapError_eq_error h
    rfl
  · split at h
    · cases h
      rfl
    · rcases error_of_bind_eq_error h with h | ⟨address, -, h⟩
      · unfold RpcSettings.address at h
        split at h
        · cases h
          rfl
        · split at h
          · cases h
          · split at h <;> cases h <;> rfl
      · cases h

/-- A request can be prepared for text that can be written and an address that can be called. -/
theorem exists_prepare {url : String} (hbody : (bodyOf content).isOk = true) (hurl : s.url = some url)
    (haddress : s.address url = .ok address) (timeout : Option τ) :
    ∃ request, prepare s content timeout = .ok (address, request) := by
  unfold prepare
  cases htext : bodyOf content with
  | error m =>
      rw [htext] at hbody
      cases hbody
  | ok body =>
      rw [hurl]
      simp only [haddress]
      exact ⟨_, rfl⟩

/-- The request carries the text of what was to be posted, and the timeout of the call or of the settings. -/
theorem prepare_eq_ok (h : prepare s content timeout = .ok (address, request)) :
    bodyOf content = .ok request.body ∧ request.timeout = (timeout <|> s.timeout) := by
  obtain ⟨body, hbody, h⟩ := exists_of_bind_eq_ok h
  split at h
  · cases h
  · obtain ⟨address, -, h⟩ := exists_of_bind_eq_ok h
    cases h
    exact ⟨eq_ok_of_mapError hbody, rfl⟩

theorem outcome_attempt_of_closed (hclosed : session.world.isOpen = false) :
    (attempt s carrier method content timeout).outcome session =
      (.error (.pipeline (.unreachable "client is closed" (some method) none)), session) := by
  unfold attempt
  rw [Stage.outcome_bind_of_ok (Stage.outcome_world session), hclosed]
  rfl

theorem outcome_attempt_of_unprepared (hopen : session.world.isOpen = true)
    (h : prepare s content timeout = .error fault) :
    (attempt s carrier method content timeout).outcome session = (.error fault, session) := by
  unfold attempt
  rw [Stage.outcome_bind_of_ok (Stage.outcome_world session), hopen, h]
  rfl

/-- An attempt posts the request that was prepared, and means what the answer to it means. -/
theorem outcome_attempt_of_prepared (hopen : session.world.isOpen = true)
    (h : prepare s content timeout = .ok (address, request)) :
    (attempt s carrier method content timeout).outcome session =
      (meaning method address (carrier.post request session.world.outside).1,
        goTo session (carrier.post request session.world.outside).2) := by
  unfold attempt
  rw [Stage.outcome_bind_of_ok (Stage.outcome_world session), hopen, h]
  have hpost := outcome_outside (carrier.post request) session
  have hread : (outside (carrier.post request) >>= fun answer => ofResult method address answer).outcome
      session = _ := Stage.outcome_bind_of_ok hpost
  rw [ofResult_eq, Stage.outcome_ofExcept] at hread
  exact hread

/-! ## One attempt after the other -/

variable [Measure τ] {left number : Nat} {session₁ : Session (Connection ω)}

/-- A call is over with the first attempt that it may not be repeated for. -/
theorem outcome_attempts_of_final {r : Except Fault Value}
    (hattempt : (attempt s carrier method content timeout).outcome session = (r, session₁))
    (hfinal : left = 0 ∨ ∀ fault, r = .error fault → fault.isUnreachable = false) :
    (attempts s carrier method content timeout left number).outcome session = (r, session₁) := by
  cases left with
  | zero => exact hattempt
  | succ left =>
      have hfinal : ∀ fault, r = .error fault → fault.isUnreachable = false :=
        hfinal.resolve_left (Nat.succ_ne_zero left)
      unfold attempts
      rw [Stage.outcome_bind, Stage.outcome_attempt, hattempt]
      cases r with
      | ok v => rfl
      | error fault =>
          dsimp only
          rw [hfinal fault rfl]
          rfl

/-- Otherwise a delay is slept before the other attempts. -/
theorem outcome_attempts_of_delayed {random delay : τ} {drawn : ω}
    (hattempt : (attempt s carrier method content timeout).outcome session = (.error fault, session₁))
    (hfault : fault.isUnreachable = true) (hjitter : carrier.jitter session₁.world.outside = (random, drawn))
    (hdelay : s.delay number random = .ok delay) :
    (attempts s carrier method content timeout (left + 1) number).outcome session =
      (attempts s carrier method content timeout left (number + 1)).outcome
        { goTo session₁ (carrier.sleep delay drawn) with
          log := session₁.log ++ [⟨.debug, retryMessage method fault number delay⟩] } := by
  rw [attempts, Stage.outcome_bind, Stage.outcome_attempt, hattempt]
  dsimp only
  rw [if_pos hfault, Stage.outcome_bind_of_ok (outcome_outside carrier.jitter session₁), hjitter,
    Stage.outcome_bind, Stage.outcome_ofExcept, hdelay]
  rfl

/-- A delay that is too large ends the call as well. -/
theorem outcome_attempts_of_undelayed {random : τ} {drawn : ω}
    (hattempt : (attempt s carrier method content timeout).outcome session = (.error fault, session₁))
    (hfault : fault.isUnreachable = true) (hjitter : carrier.jitter session₁.world.outside = (random, drawn))
    (hdelay : s.hasDelay number = false) :
    (attempts s carrier method content timeout (left + 1) number).outcome session =
      (.error (.malformed .tooLarge), goTo session₁ drawn) := by
  rw [attempts, Stage.outcome_bind, Stage.outcome_attempt, hattempt]
  dsimp only
  rw [if_pos hfault, Stage.outcome_bind_of_ok (outcome_outside carrier.jitter session₁), hjitter,
    Stage.outcome_bind, Stage.outcome_ofExcept, RpcSettings.delay_of_not_hasDelay hdelay]
  rfl

/-! ## The course of a call -/

/-- One more attempt: the random number drawn for the delay before it, the delay, and the answer. -/
structure Again (τ : Type) where
  random : τ
  delay : τ
  answer : HttpResult

/-- How the attempts of a call go that may be repeated so often, the first of them with a number.  They start
in a world, the first is answered, more are made, and the call ends in another world. -/
inductive Course (s : RpcSettings τ) (carrier : Carrier ω τ) (method : String) (address : Address)
    (request : HttpRequest τ) :
    Nat → Nat → ω → HttpResult → List (Again τ) → Except Fault Value → ω → Prop where
  | ended {left number : Nat} {w w' : ω} {answer : HttpResult}
      (hpost : carrier.post request w = (answer, w'))
      (hend : left = 0 ∨ answer.isTransient address = false) :
      Course s carrier method address request left number w answer [] (meaning method address answer) w'
  | undelayed {left number : Nat} {w w₁ w' : ω} {answer : HttpResult} {random : τ}
      (hpost : carrier.post request w = (answer, w₁)) (htransient : answer.isTransient address = true)
      (hjitter : carrier.jitter w₁ = (random, w')) (hdelay : s.hasDelay number = false) :
      Course s carrier method address request (left + 1) number w answer []
        (.error (.malformed .tooLarge)) w'
  | again {left number : Nat} {w w₁ w₂ w' : ω} {answer next : HttpResult} {random delay : τ}
      {later : List (Again τ)} {stop : Except Fault Value}
      (hpost : carrier.post request w = (answer, w₁)) (htransient : answer.isTransient address = true)
      (hjitter : carrier.jitter w₁ = (random, w₂)) (hdelay : s.delay number random = .ok delay)
      (hrest : Course s carrier method address request left (number + 1) (carrier.sleep delay w₂) next later
        stop w') :
      Course s carrier method address request (left + 1) number w answer (⟨random, delay, next⟩ :: later)
        stop w'

/-- What a call leaves on record: its first post, and for each further attempt a sleep and the same post. -/
def recordOf (request : HttpRequest τ) (first : HttpResult) (later : List (Again τ)) : List (HttpEvent τ) :=
  .posted request first :: later.flatMap fun again => [.slept again.delay, .posted request again.answer]

/-- The attempts of a call on an open connection go as a course says, and that is what is on record. -/
theorem exists_course (hprepare : prepare s content timeout = .ok (address, request)) (left number : Nat)
    {session : Session (Connection (ω × List (HttpEvent τ)))} (hopen : session.world.isOpen = true) :
    ∃ first later stop w log,
      Course s carrier method address request left number session.world.outside.1 first later stop w ∧
        (attempts s carrier.recording method content timeout left number).outcome session =
          (stop, { goTo session (w, session.world.outside.2 ++ recordOf request first later) with log }) := by
  induction left generalizing number session with
  | zero =>
      rw [outcome_attempts_of_final (outcome_attempt_of_prepared hopen hprepare) (.inl rfl)]
      exact ⟨_, _, _, _, _, .ended rfl (.inl rfl), rfl⟩
  | succ left ih =>
      have hattempt : (attempt s carrier.recording method content timeout).outcome session = _ :=
        outcome_attempt_of_prepared hopen hprepare
      cases hmeaning : meaning method address (carrier.post request session.world.outside.1).1 with
      | ok v =>
          have hfinal := isTransient_of_meaning_ok hmeaning
          rw [outcome_attempts_of_final hattempt (.inr fun fault h => nomatch hmeaning.symm.trans h)]
          exact ⟨_, _, _, _, _, .ended rfl (.inr hfinal), rfl⟩
      | error fault =>
          have hfault := isTransient_of_meaning_error hmeaning
          cases htransient : (carrier.post request session.world.outside.1).1.isTransient address with
          | false =>
              have hfinal : ∀ fault', meaning method address
                  (carrier.post request session.world.outside.1).1 = .error fault' →
                    fault'.isUnreachable = false := by
                intro fault' h
                rw [isTransient_of_meaning_error h, htransient]
              rw [outcome_attempts_of_final hattempt (.inr hfinal)]
              exact ⟨_, _, _, _, _, .ended rfl (.inr htransient), rfl⟩
          | true =>
              rw [htransient] at hfault
              have hattempt := hattempt.trans (congrArg (·, _) hmeaning)
              let posted := (carrier.post request session.world.outside.1).2
              cases hdelay : s.hasDelay number with
              | false =>
                  rw [outcome_attempts_of_undelayed hattempt hfault rfl hdelay]
                  exact ⟨_, _, _, _, _, .undelayed rfl htransient rfl hdelay, rfl⟩
              | true =>
                  obtain ⟨delay, hd⟩ := RpcSettings.delay_of_hasDelay hdelay (carrier.jitter posted).1
                  obtain ⟨next, later, stop, w, log, hcourse, hout⟩ := @ih (number + 1)
                    { goTo session (carrier.sleep delay (carrier.jitter posted).2,
                        session.world.outside.2 ++ [.posted request _] ++ [.slept delay]) with
                      log := session.log ++ [⟨.debug, retryMessage method fault number delay⟩] } hopen
                  rw [outcome_attempts_of_delayed hattempt hfault rfl hd]
                  refine ⟨_, _, stop, w, log, .again rfl htransient rfl hd hcourse, hout.trans ?_⟩
                  simp [recordOf, goTo]

/-- The answer to the last post of a call. -/
def lastAnswer (first : HttpResult) : List (Again τ) → HttpResult
  | [] => first
  | again :: later => lastAnswer again.answer later

omit [Measure τ] in
theorem getLast?_recordOf (request : HttpRequest τ) (first : HttpResult) (later : List (Again τ)) :
    (recordOf request first later).getLast? = some (.posted request (lastAnswer first later)) := by
  induction later generalizing first with
  | nil => rfl
  | cons again later ih =>
      have hrecord : recordOf request first (again :: later) =
          [.posted request first, .slept again.delay] ++ recordOf request again.answer later := rfl
      rw [hrecord, List.getLast?_append, ih]
      rfl

/-- Delays after attempts, so many at most, the first of them with a number. -/
inductive Delays (s : RpcSettings τ) (carrier : Carrier ω τ) : Nat → Nat → List τ → Prop where
  | none {left number : Nat} : Delays s carrier left number []
  | next {left number : Nat} {delay : τ} {later : List τ} (w : ω)
      (hdelay : s.delay number (carrier.jitter w).1 = .ok delay)
      (hlater : Delays s carrier left (number + 1) later) :
      Delays s carrier (left + 1) number (delay :: later)

namespace Course

variable {w w' : ω} {first : HttpResult} {later : List (Again τ)} {stop : Except Fault Value}

/-- A call ends for one of three reasons: its last answer is final, it may not be repeated again, or there is
no delay to sleep before another attempt. -/
theorem stop_cases (h : Course s carrier method address request left number w first later stop w') :
    stop = meaning method address (lastAnswer first later) ∧
        (later.length = left ∨ (lastAnswer first later).isTransient address = false) ∨
      stop = .error (.malformed .tooLarge) ∧ later.length < left ∧
        (lastAnswer first later).isTransient address = true ∧
        s.hasDelay (number + later.length) = false := by
  induction h with
  | ended _ hend => exact .inl ⟨rfl, hend.imp_left Eq.symm⟩
  | undelayed _ htransient _ hdelay => exact .inr ⟨rfl, Nat.succ_pos _, htransient, hdelay⟩
  | again _ _ _ _ _ ih =>
      refine ih.imp (fun ⟨hstop, hend⟩ => ⟨hstop, hend.imp_left (congrArg (· + 1))⟩) ?_
      rintro ⟨hstop, hlt, htransient, hdelay⟩
      refine ⟨hstop, Nat.succ_lt_succ hlt, htransient, ?_⟩
      rw [List.length_cons, ← Nat.add_assoc, Nat.add_right_comm]
      exact hdelay

theorem delays (h : Course s carrier method address request left number w first later stop w') :
    Delays s carrier left number (later.map Again.delay) := by
  induction h with
  | ended => exact .none
  | undelayed => exact .none
  | again _ _ hjitter hdelay _ ih => exact .next _ (by rw [hjitter]; exact hdelay) ih

/-- The last answer is the answer to a post. -/
theorem exists_post_eq_lastAnswer
    (h : Course s carrier method address request left number w first later stop w') :
    ∃ w₀, (carrier.post request w₀).1 = lastAnswer first later := by
  induction h with
  | ended hpost => exact ⟨_, congrArg Prod.fst hpost⟩
  | undelayed hpost => exact ⟨_, congrArg Prod.fst hpost⟩
  | again _ _ _ _ _ ih => exact ih

end Course

/-- On a closed connection nothing is posted, but a call is repeated all the same. -/
theorem outcome_attempts_of_closed (left number : Nat)
    {session : Session (Connection (ω × List (HttpEvent τ)))} (hclosed : session.world.isOpen = false) :
    ∃ fault, ∃ delays : List τ,
      ((attempts s carrier.recording method content timeout left number).outcome session).1 = .error fault ∧
        ((attempts s carrier.recording method content timeout left number).outcome session).2.world.outside.2 =
          session.world.outside.2 ++ delays.map .slept ∧
        Delays s carrier left number delays ∧
        (fault = .pipeline (.unreachable "client is closed" (some method) none) ∧ delays.length = left ∨
          fault = .malformed .tooLarge ∧ delays.length < left ∧
            s.hasDelay (number + delays.length) = false) := by
  have hattempt (session : Session (Connection (ω × List (HttpEvent τ))))
      (hclosed : session.world.isOpen = false) :
      (attempt s carrier.recording method content timeout).outcome session = _ :=
    outcome_attempt_of_closed hclosed
  induction left generalizing number session with
  | zero =>
      rw [outcome_attempts_of_final (hattempt session hclosed) (.inl rfl)]
      exact ⟨_, [], rfl, (List.append_nil _).symm, .none, .inl ⟨rfl, rfl⟩⟩
  | succ left ih =>
      cases hdelay : s.hasDelay number with
      | false =>
          rw [outcome_attempts_of_undelayed (hattempt session hclosed) rfl rfl hdelay]
          exact ⟨_, [], rfl, (List.append_nil _).symm, .none, .inr ⟨rfl, Nat.succ_pos left, hdelay⟩⟩
      | true =>
          obtain ⟨delay, hd⟩ := RpcSettings.delay_of_hasDelay hdelay
            (carrier.recording.jitter session.world.outside).1
          rw [outcome_attempts_of_delayed (hattempt session hclosed) rfl rfl hd]
          obtain ⟨fault, delays, hout, hrecord, hdelays, hend⟩ := @ih (number + 1)
            { goTo session (carrier.recording.sleep delay (carrier.recording.jitter session.world.outside).2) with
              log := session.log ++ [⟨.debug, retryMessage method _ number delay⟩] } hclosed
          refine ⟨fault, delay :: delays, hout, hrecord.trans ?_, .next _ hd hdelays, hend.imp ?_ ?_⟩
          · simp [goTo, Carrier.recording]
          · rintro ⟨rfl, hlength⟩
            exact ⟨rfl, congrArg (· + 1) hlength⟩
          · rintro ⟨rfl, hlt, hdelay⟩
            refine ⟨rfl, Nat.succ_lt_succ hlt, ?_⟩
            rw [List.length_cons, ← Nat.add_assoc, Nat.add_right_comm]
            exact hdelay

/-! ## Calls on a connection -/

/-- What a client is asked for. -/
structure Call (τ : Type) where
  method : String
  params : Value
  timeout : Option τ

namespace Call

variable {call : Call τ}

/-- What is posted for a call with a number. -/
def payload (call : Call τ) (id : Nat) : Value := Rpc.payload id call.method call.params

/-- A call on a connection. -/
def make (call : Call τ) (s : RpcSettings τ) (carrier : Carrier ω τ) : Stage (Connection ω) Value :=
  Rpc.request s carrier call.method call.params call.timeout

/-- The session in which the attempts of the next call are made. -/
def numbered (session : Session (Connection ω)) : Session (Connection ω) :=
  { session with world := { session.world with lastId := session.world.lastId + 1 } }

theorem outcome_make (call : Call τ) (s : RpcSettings τ) (carrier : Carrier ω τ)
    (session : Session (Connection ω)) :
    (call.make s carrier).outcome session =
      (attempts s carrier call.method (call.payload (session.world.lastId + 1)) call.timeout
        s.maxRetries.toNat 1).outcome (numbered session) := rfl

/-- A call without a request to post ends with the reason for that. -/
theorem outcome_make_of_unprepared (hopen : session.world.isOpen = true)
    (hprepare : prepare s (call.payload (session.world.lastId + 1)) call.timeout = .error fault) :
    (call.make s carrier).outcome session = (.error fault, numbered session) := by
  have hattempt : (attempt s carrier call.method (call.payload (session.world.lastId + 1))
      call.timeout).outcome (numbered session) = _ := outcome_attempt_of_unprepared hopen hprepare
  rw [outcome_make]
  refine outcome_attempts_of_final hattempt (.inr fun fault' h => ?_)
  rw [← Except.error.inj h]
  exact isUnreachable_of_prepare hprepare

/-- Any other call on an open connection takes its course, and leaves the connection open for the next. -/
theorem exists_course_make (carrier : Carrier ω τ) {session : Session (Connection (ω × List (HttpEvent τ)))}
    (hopen : session.world.isOpen = true)
    (hprepare : prepare s (call.payload (session.world.lastId + 1)) call.timeout = .ok (address, request)) :
    ∃ first later stop w log,
      Course s carrier call.method address request s.maxRetries.toNat 1 session.world.outside.1 first later
          stop w ∧
        (call.make s carrier.recording).outcome session =
          (stop, { goTo (numbered session) (w, session.world.outside.2 ++ recordOf request first later) with
                   log }) :=
  exists_course hprepare s.maxRetries.toNat 1 (show (numbered session).world.isOpen = true from hopen)

/-- How a call goes in a session: what it ends with, and what it leaves on record. -/
inductive Runs (call : Call τ) (s : RpcSettings τ) (carrier : Carrier ω τ)
    (session : Session (Connection (ω × List (HttpEvent τ)))) :
    Except Fault Value → List (HttpEvent τ) → Prop where
  | closed {fault : Fault} {delays : List τ} (hclosed : session.world.isOpen = false)
      (hdelays : Delays s carrier s.maxRetries.toNat 1 delays)
      (hend : fault = .pipeline (.unreachable "client is closed" (some call.method) none) ∧
          delays.length = s.maxRetries.toNat ∨
        fault = .malformed .tooLarge ∧ delays.length < s.maxRetries.toNat ∧
          s.hasDelay (1 + delays.length) = false) :
      Runs call s carrier session (.error fault) (delays.map .slept)
  | unprepared {fault : Fault} (hopen : session.world.isOpen = true)
      (hprepare : prepare s (call.payload (session.world.lastId + 1)) call.timeout = .error fault) :
      Runs call s carrier session (.error fault) []
  | posted {address : Address} {request : HttpRequest τ} {first : HttpResult} {later : List (Again τ)}
      {stop : Except Fault Value} {w : ω} (hopen : session.world.isOpen = true)
      (hprepare : prepare s (call.payload (session.world.lastId + 1)) call.timeout = .ok (address, request))
      (hcourse : Course s carrier call.method address request s.maxRetries.toNat 1 session.world.outside.1 first
        later stop w) :
      Runs call s carrier session stop (recordOf request first later)

/-- Any call goes in one of these ways. -/
theorem exists_runs (call : Call τ) (s : RpcSettings τ) (carrier : Carrier ω τ)
    (session : Session (Connection (ω × List (HttpEvent τ)))) :
    ∃ events, ((call.make s carrier.recording).outcome session).2.world.outside.2 =
        session.world.outside.2 ++ events ∧
      call.Runs s carrier session ((call.make s carrier.recording).outcome session).1 events := by
  cases hopen : session.world.isOpen with
  | false =>
      have hclosed : (numbered session).world.isOpen = false := hopen
      obtain ⟨fault, delays, hout, hrecord, hdelays, hend⟩ := @outcome_attempts_of_closed _ _ s carrier
        call.method (call.payload (session.world.lastId + 1)) call.timeout _ s.maxRetries.toNat 1 _ hclosed
      rw [outcome_make, hout]
      exact ⟨delays.map .slept, hrecord, .closed hopen hdelays hend⟩
  | true =>
      cases hprepare : prepare s (call.payload (session.world.lastId + 1)) call.timeout with
      | error fault =>
          rw [outcome_make_of_unprepared hopen hprepare]
          exact ⟨[], (List.append_nil _).symm, .unprepared hopen hprepare⟩
      | ok prepared =>
          obtain ⟨first, later, stop, w, log, hcourse, hout⟩ := exists_course_make carrier hopen hprepare
          rw [hout]
          exact ⟨recordOf prepared.2 first later, rfl, .posted hopen hprepare hcourse⟩

end Call

end Rpc
end LedgerFlow

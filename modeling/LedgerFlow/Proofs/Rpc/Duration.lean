import LedgerFlow.Proofs.Rpc.Attempts
import LedgerFlow.Proofs.Submission.Bounded
import LedgerFlow.Rpc.Node
import Mathlib.Algebra.BigOperators.Group.Finset.Basic
import Mathlib.Algebra.Order.Ring.Abs
import Mathlib.Tactic.Ring

/-!
# How long remote calls take

The timeout of a call bounds each of its requests, and a call that may be tried again makes several of
them, with a delay before each but the first.  So with a carrier that keeps every timeout it is given, a
call takes no longer than `RpcSettings.allowance`: one timeout and one delay for each attempt after the
first, and one timeout for that.

The main statement is that this is the timeout of the call exactly when nothing may be tried again
(`Rpc.keepsTimeouts_iff`); a carrier whose requests fail as late as they can exceeds it otherwise.
-/

namespace LedgerFlow

variable {ω α β : Type}

/-- The clock of a carrier moves with requests and sleeps only: a request ends within its timeout, and a
sleep takes as long as it says. -/
structure Carrier.Punctual (carrier : Carrier ω Rat) (now : ω → Rat) : Prop where
  now_post {request : HttpRequest Rat} {t : Rat} (hpos : 0 < t) (htimeout : request.timeout = some t)
    (w : ω) : now (carrier.post request w).2 ≤ now w + t
  now_sleep (d : Rat) (w : ω) : now (carrier.sleep d w) = now w + max 0 d
  now_jitter (w : ω) : now (carrier.jitter w).2 = now w
  jitter_nonneg (w : ω) : 0 ≤ (carrier.jitter w).1
  jitter_lt_one (w : ω) : (carrier.jitter w).1 < 1

namespace RpcSettings

/-- The longest delay after the attempt with a number. -/
def longestDelay (s : RpcSettings Rat) (number : Nat) : Rat :=
  |s.backoffBase| * |s.backoffFactor| ^ (number - 1) + |s.backoffJitter|

/-- The time for an attempt and so many more, the first of them with the given number. -/
def allowanceFrom (s : RpcSettings Rat) (t : Rat) (left number : Nat) : Rat :=
  (left + 1) * t + ∑ i ∈ Finset.range left, s.longestDelay (number + i)

/-- The time for all attempts of a call. -/
def allowance (s : RpcSettings Rat) (t : Rat) : Rat := s.allowanceFrom t s.maxRetries.toNat 1

/-- Whether requests have an address to go to. -/
def hasAddress (s : RpcSettings Rat) : Bool := s.url.any fun url => (s.address url).toOption.isSome

theorem longestDelay_nonneg (s : RpcSettings Rat) (number : Nat) : 0 ≤ s.longestDelay number := by
  unfold longestDelay
  positivity

theorem allowanceFrom_zero (s : RpcSettings Rat) (t : Rat) (number : Nat) :
    s.allowanceFrom t 0 number = t := by
  simp [allowanceFrom]

theorem allowance_of_no_retries {s : RpcSettings Rat} (hnone : s.maxRetries ≤ 0) (t : Rat) :
    s.allowance t = t := by
  rw [allowance, Int.toNat_eq_zero.2 hnone, allowanceFrom_zero]

/-- The first of several attempts, and the others. -/
theorem allowanceFrom_succ (s : RpcSettings Rat) (t : Rat) (left number : Nat) :
    s.allowanceFrom t (left + 1) number =
      t + (s.longestDelay number + s.allowanceFrom t left (number + 1)) := by
  have hlater : ∑ i ∈ Finset.range left, s.longestDelay (number + (i + 1)) =
      ∑ i ∈ Finset.range left, s.longestDelay (number + 1 + i) :=
    Finset.sum_congr rfl fun i _ => by rw [Nat.add_right_comm, Nat.add_assoc]
  rw [allowanceFrom, allowanceFrom, Finset.sum_range_succ', hlater, add_zero]
  push_cast
  ring

theorem allowanceFrom_nonneg (s : RpcSettings Rat) {t : Rat} (ht : 0 ≤ t) (left number : Nat) :
    0 ≤ s.allowanceFrom t left number := by
  induction left generalizing number with
  | zero =>
      rw [allowanceFrom_zero]
      exact ht
  | succ left ih =>
      rw [allowanceFrom_succ]
      have hdelay := s.longestDelay_nonneg number
      have hrest := ih (number + 1)
      linarith

theorem allowance_nonneg (s : RpcSettings Rat) {t : Rat} (ht : 0 ≤ t) : 0 ≤ s.allowance t :=
  s.allowanceFrom_nonneg ht _ _

/-- The delay that is drawn is none longer. -/
theorem delay_le_longestDelay {s : RpcSettings Rat} {number : Nat} {random d : Rat}
    (hnonneg : 0 ≤ random) (hlt : random < 1) (h : s.delay number random = .ok d) :
    max 0 d ≤ s.longestDelay number := by
  have hd : s.backoffBase * s.backoffFactor ^ (number - 1) + random * s.backoffJitter = d :=
    Except.ok.inj h
  have hpower : s.backoffBase * s.backoffFactor ^ (number - 1) ≤
      |s.backoffBase| * |s.backoffFactor| ^ (number - 1) := by
    rw [← abs_pow, ← abs_mul]
    exact le_abs_self _
  have hrandom : random * s.backoffJitter ≤ |s.backoffJitter| := by
    calc random * s.backoffJitter ≤ random * |s.backoffJitter| :=
          mul_le_mul_of_nonneg_left (le_abs_self _) hnonneg
      _ ≤ 1 * |s.backoffJitter| := mul_le_mul_of_nonneg_right hlt.le (abs_nonneg _)
      _ = |s.backoffJitter| := one_mul _
  refine max_le (s.longestDelay_nonneg number) ?_
  unfold longestDelay
  linarith

end RpcSettings

namespace Rpc

/-! ## Durations of stages -/

/-- A stage on a connection takes no longer than a duration. -/
def TakesAtMost (now : ω → Rat) (d : Rat) (x : Stage (Connection ω) α) : Prop :=
  ∀ s, now (x.outcome s).2.world.outside ≤ now s.world.outside + d

namespace TakesAtMost

variable {now : ω → Rat} {d e : Rat} {x : Stage (Connection ω) α} {f : α → Stage (Connection ω) β}

theorem mono (h : TakesAtMost now d x) (hle : d ≤ e) : TakesAtMost now e x := by
  intro s
  have := h s
  linarith

/-- A stage that leaves what is outside alone takes no time. -/
theorem of_still (hd : 0 ≤ d) (h : ∀ s, (x.outcome s).2.world.outside = s.world.outside) :
    TakesAtMost now d x := by
  intro s
  rw [h s]
  linarith

theorem bind (hx : TakesAtMost now d x) (he : 0 ≤ e) (hf : ∀ a, TakesAtMost now e (f a)) :
    TakesAtMost now (d + e) (x >>= f) := by
  intro s
  have hfirst := hx s
  rw [Stage.outcome_bind]
  rcases hout : x.outcome s with ⟨r, s'⟩
  rw [hout] at hfirst
  cases r with
  | ok a =>
      have hsecond := hf a s'
      dsimp only at hfirst ⊢
      linarith
  | error fault =>
      dsimp only at hfirst ⊢
      linarith

theorem ofExcept (hd : 0 ≤ d) (r : Except Fault α) :
    TakesAtMost now d (Stage.ofExcept r : Stage (Connection ω) α) :=
  of_still hd fun s => by rw [Stage.outcome_ofExcept]

end TakesAtMost

variable {carrier : Carrier ω Rat} {now : ω → Rat} {t : Rat}

/-- An attempt makes one request at most. -/
theorem takesAtMost_attempt (h : carrier.Punctual now) (ht : 0 < t) (s : RpcSettings Rat)
    (method : String) (payload : Value) :
    TakesAtMost now t (attempt s carrier method payload (some t)) := by
  intro session
  cases hopen : session.world.isOpen with
  | false =>
      rw [outcome_attempt_of_closed hopen]
      show now session.world.outside ≤ _
      linarith
  | true =>
      cases hprepare : prepare s payload (some t) with
      | error fault =>
          rw [outcome_attempt_of_unprepared hopen hprepare]
          show now session.world.outside ≤ _
          linarith
      | ok prepared =>
          rw [outcome_attempt_of_prepared hopen hprepare]
          exact h.now_post ht (prepare_eq_ok hprepare).2 session.world.outside

/-- A delay is drawn and slept before whatever comes next. -/
theorem takesAtMost_delayed (h : carrier.Punctual now) (s : RpcSettings Rat) (number : Nat) {e : Rat}
    (he : 0 ≤ e) (message : Rat → String) {next : Stage (Connection ω) α} (hnext : TakesAtMost now e next) :
    TakesAtMost now (s.longestDelay number + e) (do
      let delay ← Stage.ofExcept ((s.delay number (← outside carrier.jitter)).mapError .malformed)
      Stage.record .debug (message delay)
      outside fun w => ((), carrier.sleep delay w)
      next) := by
  intro session
  have hlongest := s.longestDelay_nonneg number
  have hdrawn := h.now_jitter session.world.outside
  let drawn : Session (Connection ω) :=
    { session with world := { session.world with outside := (carrier.jitter session.world.outside).2 } }
  have hjitter : (outside carrier.jitter).outcome session =
      (.ok (carrier.jitter session.world.outside).1, drawn) := rfl
  rw [Stage.outcome_bind_of_ok hjitter, Stage.outcome_bind, Stage.outcome_ofExcept]
  cases hdelay : s.delay number (carrier.jitter session.world.outside).1 with
  | error m =>
      show now drawn.world.outside ≤ _
      linarith
  | ok delay =>
      have hle := RpcSettings.delay_le_longestDelay (h.jitter_nonneg _) (h.jitter_lt_one _) hdelay
      have hslept : TakesAtMost now (s.longestDelay number)
          (outside fun w => ((), carrier.sleep delay w)) := fun s => by
        show now (carrier.sleep delay s.world.outside) ≤ _
        rw [h.now_sleep]
        linarith
      have hrecord : TakesAtMost now 0 (Stage.record .debug (message delay)) :=
        TakesAtMost.of_still (le_refl 0) fun _ => rfl
      have hrest := hrecord.bind (by linarith) fun _ => hslept.bind he fun _ => hnext
      have hall := hrest drawn
      show now (Stage.outcome _ drawn).2.world.outside ≤ _
      rw [← hdrawn]
      simpa using hall

theorem takesAtMost_attempts (h : carrier.Punctual now) (ht : 0 < t) (s : RpcSettings Rat)
    (method : String) (payload : Value) (left number : Nat) :
    TakesAtMost now (s.allowanceFrom t left number)
      (attempts s carrier method payload (some t) left number) := by
  induction left generalizing number with
  | zero =>
      rw [RpcSettings.allowanceFrom_zero]
      exact takesAtMost_attempt h ht s method payload
  | succ left ih =>
      have hdelay := s.longestDelay_nonneg number
      have hrest := s.allowanceFrom_nonneg ht.le left (number + 1)
      rw [RpcSettings.allowanceFrom_succ]
      unfold attempts
      have hfirst : TakesAtMost now t (Stage.attempt (attempt s carrier method payload (some t))) :=
        takesAtMost_attempt h ht s method payload
      refine hfirst.bind (by linarith) fun answer => ?_
      cases answer with
      | ok v => exact TakesAtMost.of_still (by linarith) fun _ => rfl
      | error fault =>
          dsimp only
          split
          · exact takesAtMost_delayed h s number hrest _ (ih (number + 1))
          · exact TakesAtMost.of_still (by linarith) fun _ => rfl

/-- A call takes no longer than its attempts and the delays between them. -/
theorem takesAtMost_request (h : carrier.Punctual now) (ht : 0 < t) (s : RpcSettings Rat)
    (method : String) (params : Value) :
    TakesAtMost now (s.allowance t) (request s carrier method params (some t)) := by
  have hid : TakesAtMost now 0 (nextId : Stage (Connection ω) Nat) :=
    TakesAtMost.of_still (le_refl 0) fun _ => rfl
  have hall := hid.bind (s.allowance_nonneg ht.le) fun id =>
    takesAtMost_attempts h ht s method (payload id method params) s.maxRetries.toNat 1
  rw [zero_add] at hall
  exact hall

/-! ## Polls over remote calls -/

/-- What is around a pipeline that calls its node over a carrier, and waits by it. -/
def surroundings (s : RpcSettings Rat) (carrier : Carrier ω Rat) (now : ω → Rat)
    (signer : Signer (Connection ω)) (cancellation : Option (Cancellation Rat)) :
    Surroundings (Connection ω) Rat where
  node := node s carrier
  signer
  now w := now w.outside
  cancellation _ := cancellation
  sleep d w := { w with outside := carrier.sleep d w.outside }

theorem takesAtMost_callForObject (h : carrier.Punctual now) (ht : 0 < t) (s : RpcSettings Rat)
    (method : String) (params : Value) :
    TakesAtMost now (s.allowance t) (callForObject s carrier method params (some t)) := by
  have hrecord : TakesAtMost now 0
      (Stage.record .debug ("rpc " ++ method) : Stage (Connection ω) Unit) :=
    TakesAtMost.of_still (le_refl 0) fun _ => rfl
  unfold callForObject
  rw [← zero_add (s.allowance t)]
  refine hrecord.bind (s.allowance_nonneg ht.le) fun _ => ?_
  rw [← add_zero (s.allowance t)]
  refine (takesAtMost_request h ht s method params).bind (le_refl 0) fun answer => ?_
  cases answer <;> exact TakesAtMost.of_still (le_refl 0) fun _ => rfl

/-- Reading what a call answers takes no time. -/
theorem takesAtMost_callAndRead (h : carrier.Punctual now) (ht : 0 < t) (s : RpcSettings Rat)
    (read : Value → Value.Read α) (method : String) (params : Value) :
    TakesAtMost now (s.allowance t) (callAndRead s carrier read method params (some t)) := by
  unfold callAndRead
  rw [← add_zero (s.allowance t)]
  refine (takesAtMost_callForObject h ht s method params).bind (le_refl 0) fun v => ?_
  exact TakesAtMost.ofExcept (le_refl 0) ((read v).mapError .malformed)

/-- Polls over calls that are never repeated keep time, so their bounds hold. -/
theorem punctual_surroundings (h : carrier.Punctual now) {s : RpcSettings Rat}
    (hnone : s.maxRetries ≤ 0) (signer : Signer (Connection ω))
    (cancellation : Option (Cancellation Rat)) :
    (surroundings s carrier now signer cancellation).Punctual where
  now_status {w w' hash t r} hpos hcall := by
    obtain ⟨log, log', hout⟩ := hcall
    have hstatus := takesAtMost_callAndRead h hpos s StatusReply.ofReply "getTransaction"
      (.record [("hash", .text hash)]) ⟨w, log⟩
    rw [RpcSettings.allowance_of_no_retries hnone] at hstatus
    have hworld : ((callAndRead s carrier StatusReply.ofReply "getTransaction"
        (.record [("hash", .text hash)]) (some t)).outcome ⟨w, log⟩).2.world = w' :=
      congrArg (fun o => o.2.world) hout
    rw [hworld] at hstatus
    exact hstatus
  now_sleep {w d} hpos := by
    show now (carrier.sleep d w.outside) ≤ now w.outside + d
    rw [h.now_sleep, max_eq_right hpos.le]
  deadline_status _ := rfl
  deadline_sleep _ _ := rfl

/-! ## Timeouts that are exceeded -/

/-- A carrier whose requests fail when their timeout is over; the world is its clock. -/
def slowCarrier : Carrier Rat Rat where
  post request now := (.failed "ReadTimeout" "timed out", now + request.timeout.getD 0)
  sleep d now := now + max 0 d
  jitter now := (1 / 2, now)

theorem punctual_slowCarrier : slowCarrier.Punctual id where
  now_post {request t} _ htimeout w := by
    show w + request.timeout.getD 0 ≤ w + t
    rw [htimeout]
    exact le_refl _
  now_sleep _ _ := rfl
  now_jitter _ := rfl
  jitter_nonneg _ := by
    show (0 : Rat) ≤ 1 / 2
    norm_num
  jitter_lt_one _ := by
    show (1 / 2 : Rat) < 1
    norm_num

section Slow

variable {s : RpcSettings Rat} (method : String) {payload : Value}
  (haddress : s.hasAddress = true) (hbody : (bodyOf payload).isOk = true)

include haddress hbody

/-- An attempt on the slow carrier takes all of its timeout. -/
theorem outcome_attempt_slow {session : Session (Connection Rat)} (hopen : session.world.isOpen = true) :
    (attempt s slowCarrier method payload (some t)).outcome session =
      (.error (.pipeline (.unreachable "ReadTimeout: timed out" (some method) none)),
        { session with world := { session.world with outside := session.world.outside + t } }) := by
  obtain ⟨url, hurl, haddress⟩ := (Option.any_eq_true _ _).1 haddress
  obtain ⟨address, haddress⟩ : ∃ address, s.address url = .ok address := by
    cases h : s.address url with
    | error fault => simp [h, Except.toOption] at haddress
    | ok address => exact ⟨address, rfl⟩
  obtain ⟨request, hprepare⟩ := exists_prepare hbody hurl haddress (some t)
  rw [outcome_attempt_of_prepared hopen hprepare]
  have hend : session.world.outside + request.timeout.getD 0 = session.world.outside + t := by
    rw [(prepare_eq_ok hprepare).2]
    rfl
  exact congrArg (fun w => (_, goTo session w)) hend

/-- Another attempt follows no earlier than the timeout of the first is over. -/
theorem outcome_attempts_slow_succ {session : Session (Connection Rat)}
    (hopen : session.world.isOpen = true) (left number : Nat) :
    ∃ later : Session (Connection Rat), later.world.isOpen = true ∧
      session.world.outside + t ≤ later.world.outside ∧
      (attempts s slowCarrier method payload (some t) (left + 1) number).outcome session =
        (attempts s slowCarrier method payload (some t) left (number + 1)).outcome later := by
  have hattempt := outcome_attempt_slow (t := t) method haddress hbody hopen
  let failed : Session (Connection Rat) :=
    { session with world := { session.world with outside := session.world.outside + t } }
  have hfirst : (Stage.attempt (attempt s slowCarrier method payload (some t))).outcome session =
      (.ok (.error (.pipeline (.unreachable "ReadTimeout: timed out" (some method) none))), failed) := by
    rw [Stage.outcome_attempt, hattempt]
  let d : Rat := s.backoffBase * s.backoffFactor ^ (number - 1) + 1 / 2 * s.backoffJitter
  refine ⟨{ world := { failed.world with outside := failed.world.outside + max 0 d }
            log := failed.log ++ [⟨.debug, retryMessage method
              (.pipeline (.unreachable "ReadTimeout: timed out" (some method) none)) number d⟩] },
    hopen, ?_, ?_⟩
  · show session.world.outside + t ≤ session.world.outside + t + max 0 d
    have := le_max_left 0 d
    linarith
  · rw [attempts, Stage.outcome_bind_of_ok hfirst]
    rfl

/-- A call on the slow carrier takes the timeout once for each attempt, and longer. -/
theorem le_outcome_attempts_slow (left number : Nat) {session : Session (Connection Rat)}
    (hopen : session.world.isOpen = true) :
    session.world.outside + (left + 1) * t ≤
      ((attempts s slowCarrier method payload (some t) left number).outcome
        session).2.world.outside := by
  induction left generalizing number session with
  | zero =>
      rw [attempts, outcome_attempt_slow method haddress hbody hopen]
      show session.world.outside + ((0 : Nat) + 1) * t ≤ session.world.outside + t
      push_cast
      linarith
  | succ left ih =>
      obtain ⟨later, hlater, hle, hout⟩ :=
        outcome_attempts_slow_succ (t := t) method haddress hbody hopen left number
      have hrest := ih (number + 1) hlater
      rw [hout]
      push_cast at hrest ⊢
      linarith

end Slow

/-- No request on an open connection outlives its timeout, whatever punctual carrier it travels on. -/
def KeepsTimeouts (s : RpcSettings Rat) : Prop :=
  ∀ (ω : Type) (carrier : Carrier ω Rat) (now : ω → Rat), carrier.Punctual now →
    ∀ (method : String) (params : Value) (t : Rat), 0 < t →
    ∀ session : Session (Connection ω), session.world.isOpen = true →
      now ((request s carrier method params (some t)).outcome session).2.world.outside ≤
        now session.world.outside + t

/-- **When timed calls end in time.**  By any configuration, a call ends within one timeout for each
attempt and the longest delays between them.  That is its timeout only when nothing is tried again:
provided that there is an address to call, calls keep their timeouts exactly when the configuration
allows no retries; and then polls keep the time that their bounds rest on. -/
theorem keepsTimeouts_iff (c : Config Rat) (haddress : (RpcSettings.ofConfig c).hasAddress = true) :
    (∀ (ω : Type) (carrier : Carrier ω Rat) (now : ω → Rat), carrier.Punctual now →
      ∀ (method : String) (params : Value) (t : Rat), 0 < t →
        TakesAtMost now ((RpcSettings.ofConfig c).allowance t)
          (request (RpcSettings.ofConfig c) carrier method params (some t))) ∧
      (KeepsTimeouts (RpcSettings.ofConfig c) ↔ c.maxRetries ≤ 0) ∧
      (c.maxRetries ≤ 0 → ∀ (ω : Type) (carrier : Carrier ω Rat) (now : ω → Rat),
        carrier.Punctual now → ∀ (signer : Signer (Connection ω))
          (cancellation : Option (Cancellation Rat)),
          (surroundings (RpcSettings.ofConfig c) carrier now signer cancellation).Punctual) := by
  have hwithin : ∀ (ω : Type) (carrier : Carrier ω Rat) (now : ω → Rat), carrier.Punctual now →
      ∀ (method : String) (params : Value) (t : Rat), 0 < t →
        TakesAtMost now ((RpcSettings.ofConfig c).allowance t)
          (request (RpcSettings.ofConfig c) carrier method params (some t)) :=
    fun ω carrier now h method params t ht => takesAtMost_request h ht _ method params
  refine ⟨hwithin, ⟨fun hkeeps => ?_, fun hnone ω carrier now h method params t ht session _ => ?_⟩,
    fun hnone ω carrier now h => punctual_surroundings h hnone⟩
  · by_contra hretries
    let fresh : Session (Connection Rat) := { world := { outside := 0, lastId := 1 } }
    have hbody : (bodyOf (payload 1 "getLatestLedger" .null)).isOk = true := rfl
    have hopen : fresh.world.isOpen = true := rfl
    have hlate : (0 : Rat) + (c.maxRetries.toNat + 1) * 1 ≤ _ :=
      le_outcome_attempts_slow (t := 1) "getLatestLedger" haddress hbody c.maxRetries.toNat 1 hopen
    have hkept := hkeeps Rat slowCarrier id punctual_slowCarrier "getLatestLedger" .null 1 one_pos
      { world := { outside := 0 } } rfl
    have hmany : (1 : Rat) ≤ c.maxRetries.toNat := by
      have : 1 ≤ c.maxRetries.toNat := by omega
      exact_mod_cast this
    have hsame : ((request (RpcSettings.ofConfig c) slowCarrier "getLatestLedger" .null
        (some 1)).outcome { world := { outside := 0 } }).2.world.outside =
        ((attempts (RpcSettings.ofConfig c) slowCarrier "getLatestLedger"
          (payload 1 "getLatestLedger" .null) (some 1) c.maxRetries.toNat 1).outcome
            fresh).2.world.outside := rfl
    rw [hsame] at hkept
    simp only [id] at hkept
    linarith
  · have hcall := hwithin ω carrier now h method params t ht session
    have hallowance : (RpcSettings.ofConfig c).allowance t = t :=
      RpcSettings.allowance_of_no_retries hnone t
    rwa [hallowance] at hcall

/-- A call that may be repeated once, on a node that answers too late both times. -/
theorem keepsTimeouts_iff_once :
    let c : Config Rat :=
      { rpcUrl := some "http://node.test/rpc", networkPassphrase := testnetPassphrase
        baseFee := 100, authHorizon := 60, pollInterval := .whole 1, pollAttempts := 30
        requestTimeout := 30, maxRetries := 1, backoffFactor := 1 / 4, logLevel := "WARNING"
        userAgent := defaultUserAgent }
    let s := RpcSettings.ofConfig c
    s.hasAddress = true ∧ slowCarrier.Punctual id ∧
      TakesAtMost id (s.allowance (1 / 8))
        (request s slowCarrier "getTransaction" (.record [("hash", .text "ab")]) (some (1 / 8))) ∧
      (KeepsTimeouts s ↔ (1 : Int) ≤ 0) := by
  intro c s
  have haddress : s.hasAddress = true := by decide
  obtain ⟨hwithin, hkeeps, -⟩ := keepsTimeouts_iff c haddress
  exact ⟨haddress, punctual_slowCarrier, hwithin Rat slowCarrier id punctual_slowCarrier _ _ _
    (by norm_num), hkeeps⟩

/-- A call with a timeout of an eighth of a second is still under way after two fifths of one, although
each of its two requests ends within the timeout. -/
theorem request_outlives_timeout :
    let c : Config Rat :=
      { rpcUrl := some "http://node.test/rpc", networkPassphrase := testnetPassphrase
        baseFee := 100, authHorizon := 60, pollInterval := .whole 1, pollAttempts := 30
        requestTimeout := 30, maxRetries := 1, backoffFactor := 1 / 4, logLevel := "WARNING"
        userAgent := defaultUserAgent }
    let start : Session (Connection Rat) := { world := { outside := 0 } }
    let stop := ((request (RpcSettings.ofConfig c) slowCarrier "getTransaction"
      (.record [("hash", .text "ab")]) (some (1 / 8))).outcome start).2.world.outside
    slowCarrier.Punctual id ∧ 0 ≤ c.maxRetries ∧ 2 / 5 < stop ∧
      ¬ stop ≤ start.world.outside + 1 / 8 ∧ ¬ KeepsTimeouts (RpcSettings.ofConfig c) := by
  intro c start stop
  have hlate : 2 / 5 < stop := by decide +kernel
  have hstop : ¬ stop ≤ start.world.outside + 1 / 8 := by decide +kernel
  refine ⟨punctual_slowCarrier, by decide, hlate, hstop, fun hkeeps => hstop ?_⟩
  exact hkeeps Rat slowCarrier id punctual_slowCarrier _ _ _ (by norm_num) start rfl

end Rpc
end LedgerFlow

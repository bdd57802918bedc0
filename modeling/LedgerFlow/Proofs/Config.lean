import LedgerFlow.Config
import LedgerFlow.Proofs.Result

/-!
# Checked configurations

The settings that environment variables stand for, and those of a configuration with overrides, are
settings of a configuration that is only not checked yet.  So one thing has to be known about checking:
`Settings.check_ofConfig` says that it gives its verdict on that configuration and leaves it as it is, up to
an interval that was given as a whole number and becomes a duration.  The verdict is a sequence of demands;
`Config.IsAccepted` has what a configuration is that meets them all.
-/

namespace LedgerFlow

variable {τ : Type} [Measure τ]

/-- Whether a number is in the bounds of a setting. -/
def Amount.isWithin (zeroAllowed : Bool) (a : Amount τ) : Bool :=
  !(a.isNegative || (a.isZero && !zeroAllowed))

theorem Amount.isWithin_whole_false {n : Int} :
    (Amount.whole n : Amount τ).isWithin false = true ↔ 0 < n := by
  simp [Amount.isWithin, Amount.isNegative, Amount.isZero]
  omega

theorem Amount.isWithin_whole_true {n : Int} :
    (Amount.whole n : Amount τ).isWithin true = true ↔ 0 ≤ n := by
  simp [Amount.isWithin, Amount.isNegative]

/-! ## Verdicts -/

/-- A demand on a configuration. -/
def demand (isMet : Bool) (e : ConfigError) : Except Fault Unit :=
  if isMet = true then .ok () else .error (.config e)

theorem demand_of_met {isMet : Bool} (h : isMet = true) (e : ConfigError) : demand isMet e = .ok () :=
  if_pos h

theorem eq_ok_of_demand_bind {isMet : Bool} {e : ConfigError} {α : Type} {f : Unit → Except Fault α}
    {a : α} (h : (demand isMet e >>= f) = .ok a) : isMet = true ∧ f () = .ok a := by
  cases isMet with
  | true => exact ⟨rfl, h⟩
  | false => cases h

theorem eq_error_of_demand_bind {isMet : Bool} {e : ConfigError} {α : Type} {f : Unit → Except Fault α}
    {fault : Fault} (h : (demand isMet e >>= f) = .error fault) :
    fault = .config e ∨ f () = .error fault := by
  cases isMet with
  | true => exact .inr h
  | false => exact .inl (Except.error.inj h).symm

/-- Whether an endpoint that is given is a web address. -/
def Settings.isEndpoint (url : Option String) : Bool := url.all fun u => u.isEmpty || hasScheme u

/-- Everything that is asked of a configuration, in this order. -/
def Config.verdict (c : Config τ) : Except Fault Unit := do
  demand (Settings.isEndpoint c.rpcUrl) (.scheme (c.rpcUrl.getD ""))
  demand ((Amount.whole c.baseFee : Amount τ).isWithin false)
    (.notPositive "base_fee" false (toString c.baseFee))
  demand ((Amount.whole c.authHorizon : Amount τ).isWithin false)
    (.notPositive "auth_horizon" false (toString c.authHorizon))
  demand ((Amount.real c.pollInterval.toTime).isWithin true)
    (.notPositive "poll_interval" true (Measure.text c.pollInterval.toTime))
  demand ((Amount.whole c.pollAttempts : Amount τ).isWithin false)
    (.notPositive "poll_attempts" false (toString c.pollAttempts))
  demand ((Amount.real c.requestTimeout).isWithin false)
    (.notPositive "request_timeout" false (Measure.text c.requestTimeout))
  demand ((Amount.whole c.maxRetries : Amount τ).isWithin true)
    (.notPositive "max_retries" true (toString c.maxRetries))
  demand (!c.networkPassphrase.isEmpty) .emptyPassphrase

/-- The configuration with the interval as the duration that it stands for. -/
def Config.rounded (c : Config τ) : Config τ := { c with pollInterval := .real c.pollInterval.toTime }

/-- What a configuration of durations is when it meets all demands. -/
structure Config.IsAccepted (c : Config τ) : Prop where
  rpcUrl : Settings.isEndpoint c.rpcUrl = true
  baseFee : 0 < c.baseFee
  authHorizon : 0 < c.authHorizon
  rounded_eq : c.rounded = c
  pollInterval : (Amount.real c.pollInterval.toTime).isWithin true = true
  pollAttempts : 0 < c.pollAttempts
  requestTimeout : (Amount.real c.requestTimeout).isWithin false = true
  maxRetries : 0 ≤ c.maxRetries
  networkPassphrase : (!c.networkPassphrase.isEmpty) = true

namespace Config

variable {c : Config τ}

theorem verdict_of_accepted (h : c.IsAccepted) : c.verdict = .ok () := by
  unfold verdict
  rw [demand_of_met h.rpcUrl, demand_of_met (Amount.isWithin_whole_false.2 h.baseFee),
    demand_of_met (Amount.isWithin_whole_false.2 h.authHorizon), demand_of_met h.pollInterval,
    demand_of_met (Amount.isWithin_whole_false.2 h.pollAttempts), demand_of_met h.requestTimeout,
    demand_of_met (Amount.isWithin_whole_true.2 h.maxRetries), demand_of_met h.networkPassphrase]
  rfl

theorem isAccepted_of_verdict (h : c.verdict = .ok ()) : c.rounded.IsAccepted := by
  obtain ⟨rpcUrl, h⟩ := eq_ok_of_demand_bind h
  obtain ⟨baseFee, h⟩ := eq_ok_of_demand_bind h
  obtain ⟨authHorizon, h⟩ := eq_ok_of_demand_bind h
  obtain ⟨pollInterval, h⟩ := eq_ok_of_demand_bind h
  obtain ⟨pollAttempts, h⟩ := eq_ok_of_demand_bind h
  obtain ⟨requestTimeout, h⟩ := eq_ok_of_demand_bind h
  obtain ⟨maxRetries, h⟩ := eq_ok_of_demand_bind h
  -- Nothing comes after the last demand, so it is brought into the form of the others.
  rw [← bind_pure (demand _ _)] at h
  obtain ⟨networkPassphrase, -⟩ := eq_ok_of_demand_bind h
  exact { rpcUrl, pollInterval, requestTimeout, networkPassphrase, rounded_eq := rfl
          baseFee := Amount.isWithin_whole_false.1 baseFee
          authHorizon := Amount.isWithin_whole_false.1 authHorizon
          pollAttempts := Amount.isWithin_whole_false.1 pollAttempts
          maxRetries := Amount.isWithin_whole_true.1 maxRetries }

/-- What is refused is refused for a setting. -/
theorem exists_of_verdict_eq_error {f : Fault} (h : c.verdict = .error f) : ∃ e, f = .config e := by
  rw [verdict, ← bind_pure (demand (!c.networkPassphrase.isEmpty) _)] at h
  iterate 8
    obtain rfl | h := eq_error_of_demand_bind h
    · exact ⟨_, rfl⟩
  cases h

end Config

namespace Settings

theorem checkPositive_ok (name : String) (zeroAllowed : Bool) (a : Amount τ) :
    checkPositive name zeroAllowed (.ok a) =
      (fun _ => a) <$> demand (a.isWithin zeroAllowed) (.notPositive name zeroAllowed a.text) := by
  show (if (a.isNegative || (a.isZero && !zeroAllowed)) = true then _ else _) = _
  unfold Amount.isWithin
  cases a.isNegative || (a.isZero && !zeroAllowed) <;> rfl

theorem checkScheme_eq (url : Option String) :
    checkScheme url = demand (isEndpoint url) (.scheme (url.getD "")) := by
  cases url <;> rfl

/-- A configuration is checked to itself, with its interval as a duration. -/
theorem check_ofConfig (c : Config τ) : (ofConfig c).check = (fun _ => c.rounded) <$> c.verdict := by
  -- The settings of a configuration are read already, so that only the demands are left.
  have hknown : ∀ {α : Type} (a : α), (liftM (.ok a : Value.Read α) : Except Fault α) = pure a :=
    fun _ => rfl
  unfold check ofConfig Config.verdict
  simp only [checkPositive_ok, checkScheme_eq, bind_map_left, map_bind, hknown, pure_bind]
  cases c.networkPassphrase.isEmpty <;> rfl

end Settings

/-! ## Overrides -/

namespace Config

/-- A configuration with another address and another passphrase, as far as they are given. -/
def withNetwork (c : Config τ) (rpcUrl networkPassphrase : Option String) : Config τ :=
  { c with
    rpcUrl := rpcUrl <|> c.rpcUrl
    networkPassphrase := networkPassphrase.getD c.networkPassphrase }

/-- A configuration with another fee floor, if one is given. -/
def withBaseFee (c : Config τ) (fee : Option Int) : Config τ :=
  { c with baseFee := fee.getD c.baseFee }

theorem rounded_withNetwork (c : Config τ) (rpcUrl networkPassphrase : Option String) :
    (c.withNetwork rpcUrl networkPassphrase).rounded = c.rounded.withNetwork rpcUrl networkPassphrase :=
  rfl

theorem rounded_withBaseFee (c : Config τ) (fee : Option Int) :
    (c.withBaseFee fee).rounded = c.rounded.withBaseFee fee := rfl

theorem override_network (c : Config τ) (rpcUrl networkPassphrase : Option String) :
    c.override [("rpc_url", .ofOption .text rpcUrl),
      ("network_passphrase", .ofOption .text networkPassphrase)] =
        (Settings.ofConfig (c.withNetwork rpcUrl networkPassphrase)).check := by
  cases rpcUrl <;> cases networkPassphrase <;> rfl

theorem override_baseFee (c : Config τ) (fee : Option Int) :
    c.override [("base_fee", .ofOption .int fee)] = (Settings.ofConfig (c.withBaseFee fee)).check := by
  cases fee <;> rfl

end Config

/-! ## Environment variables -/

/-- The whole number in a variable, or a default when it is not set. -/
def Environment.int (env : Environment) (name : String) (default : Int) :
    Except Fault Int :=
  match env.lookup name with
  | some s => (Value.text s).toInt.mapError .malformed
  | none => .ok default

omit [Measure τ] in
theorem Environment.whole_eq (env : Environment) (name : String) (default : Int) :
    (env.whole name default : Except Fault (Amount τ)) = Amount.whole <$> env.int name default := by
  unfold whole int
  cases env.lookup name with
  | none => rfl
  | some s =>
      let read : Except Fault Int := (Value.text s).toInt.mapError .malformed
      exact bind_pure_comp Amount.whole read

omit [Measure τ] in
theorem Environment.isBadValue_of_int {env : Environment} {name : String} {default : Int} {f : Fault}
    (h : env.int name default = .error f) : f.isBadValue = true := by
  unfold int at h
  split at h
  · obtain ⟨m, hm, rfl⟩ := exists_of_mapError_eq_error h
    dsimp only [Value.toInt] at hm
    split at hm <;> cases hm
    rfl
  · cases h

theorem Environment.isBadValue_of_number {env : Environment} {name default : String} {f : Fault}
    (h : (env.number name default : Except Fault τ) = .error f) : f.isBadValue = true := by
  rcases error_of_bind_eq_error h with h | ⟨x, -, h⟩
  · obtain ⟨m, hm, rfl⟩ := exists_of_mapError_eq_error h
    dsimp only [Value.toReal] at hm
    split at hm <;> cases hm
    rfl
  · cases h

namespace Config

/-- The configuration that variables stand for, not checked yet. -/
def ofVariables (env : Environment) (start : String) : Except Fault (Config τ) := do
  let baseFee ← env.int (start ++ "FEE") 100
  let authHorizon ← env.int (start ++ "AUTH_HORIZON") 60
  let pollInterval ← env.number (start ++ "POLL_INTERVAL") "1.0"
  let pollAttempts ← env.int (start ++ "POLL_ATTEMPTS") 30
  let requestTimeout ← env.number (start ++ "TIMEOUT") "30.0"
  let maxRetries ← env.int (start ++ "MAX_RETRIES") 0
  let backoffFactor ← env.number (start ++ "BACKOFF") "0.25"
  pure {
    rpcUrl := some (env.nonEmpty (start ++ "RPC_URL") defaultRpcUrl)
    networkPassphrase := env.nonEmpty (start ++ "NETWORK_PASSPHRASE") testnetPassphrase
    baseFee, authHorizon, pollAttempts, requestTimeout, maxRetries, backoffFactor
    pollInterval := .real pollInterval
    logLevel := Text.upper (env.nonEmpty (start ++ "LOG_LEVEL") "WARNING")
    userAgent := env.nonEmpty (start ++ "USER_AGENT") defaultUserAgent }

theorem ofEnvironment_eq (env : Environment) (start : String) :
    (ofEnvironment env start : Except Fault (Config τ)) =
      ofVariables env start >>= fun c => (Settings.ofConfig c).check := by
  unfold ofEnvironment Settings.ofEnvironment ofVariables
  simp only [Environment.whole_eq, bind_map_left, bind_assoc, pure_bind]
  rfl

/-- The parts of the configuration that variables stand for. -/
theorem ofVariables_eq_ok {env : Environment} {start : String} {base : Config τ}
    (h : ofVariables env start = .ok base) :
    base.rounded = base ∧ base.rpcUrl = some (env.nonEmpty (start ++ "RPC_URL") defaultRpcUrl) ∧
      base.networkPassphrase = env.nonEmpty (start ++ "NETWORK_PASSPHRASE") testnetPassphrase ∧
      env.int (start ++ "FEE") 100 = .ok base.baseFee := by
  obtain ⟨fee, hfee, h⟩ := exists_of_bind_eq_ok h
  obtain ⟨horizon, -, h⟩ := exists_of_bind_eq_ok h
  obtain ⟨interval, -, h⟩ := exists_of_bind_eq_ok h
  obtain ⟨attempts, -, h⟩ := exists_of_bind_eq_ok h
  obtain ⟨timeout, -, h⟩ := exists_of_bind_eq_ok h
  obtain ⟨retries, -, h⟩ := exists_of_bind_eq_ok h
  obtain ⟨backoff, -, h⟩ := exists_of_bind_eq_ok h
  cases h
  exact ⟨rfl, rfl, rfl, hfee⟩

/-- Variables that cannot be read are bad values. -/
theorem isBadValue_of_ofVariables {env : Environment} {start : String} {f : Fault}
    (h : (ofVariables env start : Except Fault (Config τ)) = .error f) : f.isBadValue = true := by
  obtain h | ⟨_, -, h⟩ := error_of_bind_eq_error h
  · exact Environment.isBadValue_of_int h
  obtain h | ⟨_, -, h⟩ := error_of_bind_eq_error h
  · exact Environment.isBadValue_of_int h
  obtain h | ⟨_, -, h⟩ := error_of_bind_eq_error h
  · exact Environment.isBadValue_of_number h
  obtain h | ⟨_, -, h⟩ := error_of_bind_eq_error h
  · exact Environment.isBadValue_of_int h
  obtain h | ⟨_, -, h⟩ := error_of_bind_eq_error h
  · exact Environment.isBadValue_of_number h
  obtain h | ⟨_, -, h⟩ := error_of_bind_eq_error h
  · exact Environment.isBadValue_of_int h
  obtain h | ⟨_, -, h⟩ := error_of_bind_eq_error h
  · exact Environment.isBadValue_of_number h
  · cases h

end Config
end LedgerFlow

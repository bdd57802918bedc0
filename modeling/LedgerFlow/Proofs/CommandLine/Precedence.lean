import LedgerFlow.Proofs.CommandLine.Configuration
import LedgerFlow.Proofs.CommandLine.Words
import LedgerFlow.Proofs.Rpc.Answers

/-!
# Options over variables

The address, the passphrase and the fee floor have an option and a variable.  When the option is given,
the value of the variable makes no difference as long as it would be accepted by itself
(`runCommand_congr`); a variable with any other value ends every command, because the configuration of
the environment is checked before the options are put over it (`runCommand_refused`).
-/

namespace LedgerFlow

/-- Environments that have the same variables but one. -/
def Environment.AgreesExcept (env env' : Environment) (name : String) : Prop :=
  ∀ other, other ≠ name → env.lookup other = env'.lookup other

theorem Environment.agreesExcept_single (name value : String) :
    Environment.AgreesExcept [] [(name, value)] name := by
  intro other hother
  have h : (other == name) = false := beq_eq_false_iff_ne.2 hother
  rw [List.lookup_cons, h]

namespace CommandLine

variable {ω τ : Type}

/-- The settings that have an option and a variable. -/
inductive Setting where
  | rpcUrl
  | networkPassphrase
  | fee
  deriving DecidableEq, Repr

namespace Setting

/-- The variable behind a setting. -/
def variableName : Setting → String
  | .rpcUrl => "SOROBAN_RPC_URL"
  | .networkPassphrase => "SOROBAN_NETWORK_PASSPHRASE"
  | .fee => feeVariable

/-- Whether the options, or the words of the command, give a setting. -/
def isGiven (g : Globals) (words : List String) : Setting → Bool
  | .rpcUrl => g.rpcUrl.isSome
  | .networkPassphrase => g.networkPassphrase.isSome
  | .fee => (Command.flagFee words).isSome

/-- Whether a variable with this value, or that is not set, is accepted by itself. -/
def accepts : Setting → Option String → Bool
  | .rpcUrl, value => Settings.isEndpoint value
  | .networkPassphrase, _ => true
  | .fee, none => true
  | .fee, some s => (Value.text s).toInt.toOption.any fun n => 0 < n

variable [Measure τ]

/-- A configuration with a setting taken from the variables. -/
def put (setting : Setting) (env : Environment) (c : Config τ) : Config τ :=
  match setting with
  | .rpcUrl => { c with rpcUrl := some (env.nonEmpty "SOROBAN_RPC_URL" defaultRpcUrl) }
  | .networkPassphrase =>
    { c with networkPassphrase := env.nonEmpty "SOROBAN_NETWORK_PASSPHRASE" testnetPassphrase }
  | .fee => { c with baseFee := (env.int feeVariable 100).toOption.getD 0 }

end Setting

section

variable {env env' : Environment} {name : String}

theorem nonempty?_congr (h : env.lookup name = env'.lookup name) :
    nonempty? env name = nonempty? env' name := by
  rw [nonempty?, h, nonempty?]

theorem nonEmpty_congr (h : env.lookup name = env'.lookup name) (default : String) :
    env.nonEmpty name default = env'.nonEmpty name default := by
  rw [Environment.nonEmpty, h, Environment.nonEmpty]

theorem int_congr (h : env.lookup name = env'.lookup name) (default : Int) :
    env.int name default = env'.int name default := by
  rw [Environment.int, h, Environment.int]

theorem number_congr [Measure τ] (h : env.lookup name = env'.lookup name) (default : String) :
    (env.number name default : Except Fault τ) = env'.number name default := by
  rw [Environment.number, h, Environment.number]

end

/-- An accepted fee floor is a positive number. -/
theorem exists_fee_of_accepts {env : Environment}
    (h : Setting.fee.accepts (env.lookup feeVariable) = true) :
    ∃ n, env.int feeVariable 100 = .ok n ∧ 0 < n := by
  unfold Environment.int
  cases hvalue : env.lookup feeVariable with
  | none => exact ⟨100, rfl, by decide⟩
  | some s =>
      rw [hvalue] at h
      obtain ⟨n, hn, hpositive⟩ := (Option.any_eq_true _ _).1 h
      cases hread : (Value.text s).toInt with
      | error m =>
          rw [hread] at hn
          cases hn
      | ok n' =>
          rw [hread] at hn
          obtain rfl := Option.some.inj hn
          exact ⟨n', congrArg (Except.mapError Fault.malformed) hread, of_decide_eq_true hpositive⟩

theorem isEndpoint_nonEmpty (env : Environment) (name : String)
    (h : Settings.isEndpoint (env.lookup name) = true) :
    Settings.isEndpoint (some (env.nonEmpty name defaultRpcUrl)) = true := by
  have hdefault : Settings.isEndpoint (some defaultRpcUrl) = true := by decide
  unfold Environment.nonEmpty
  cases hvalue : env.lookup name with
  | none => exact hdefault
  | some s =>
      dsimp only
      split
      · exact hdefault
      · rwa [hvalue] at h

theorem isEmpty_nonEmpty (env : Environment) {name default : String} (h : default.isEmpty = false) :
    (env.nonEmpty name default).isEmpty = false := by
  unfold Environment.nonEmpty
  split
  · split
    · exact h
    · next hempty => exact Bool.eq_false_iff.2 hempty
  · exact h

section

variable [Measure τ] {setting : Setting} {env env' : Environment}

/-- Accepted settings make no difference to the verdict. -/
theorem verdict_put_eq (haccepts : setting.accepts (env.lookup setting.variableName) = true)
    (haccepts' : setting.accepts (env'.lookup setting.variableName) = true) (c : Config τ) :
    (setting.put env' c).verdict = (setting.put env c).verdict := by
  cases setting with
  | rpcUrl =>
      have hurl := isEndpoint_nonEmpty env "SOROBAN_RPC_URL" haccepts
      have hurl' := isEndpoint_nonEmpty env' "SOROBAN_RPC_URL" haccepts'
      simp only [Config.verdict, Setting.put]
      rw [demand_of_met hurl, demand_of_met hurl']
  | networkPassphrase =>
      have hdefault : testnetPassphrase.isEmpty = false := by decide
      simp only [Config.verdict, Setting.put]
      rw [isEmpty_nonEmpty env hdefault, isEmpty_nonEmpty env' hdefault]
  | fee =>
      obtain ⟨n, hn, hpositive⟩ := exists_fee_of_accepts haccepts
      obtain ⟨n', hn', hpositive'⟩ := exists_fee_of_accepts haccepts'
      simp only [Config.verdict, Setting.put, hn, hn', Except.toOption, Option.getD_some]
      rw [demand_of_met (Amount.isWithin_whole_false.2 hpositive),
        demand_of_met (Amount.isWithin_whole_false.2 hpositive')]

end

section

variable [Measure τ] {setting : Setting} {env env' : Environment}
  (hagree : env.AgreesExcept env' setting.variableName)

include hagree

/-- Environments that agree except for an accepted setting stand for configurations that do so. -/
theorem ofVariables_eq_put (haccepts : setting.accepts (env.lookup setting.variableName) = true)
    (haccepts' : setting.accepts (env'.lookup setting.variableName) = true) :
    (Config.ofVariables env' "SOROBAN_" : Except Fault (Config τ)) =
      setting.put env' <$> Config.ofVariables env "SOROBAN_" := by
  have hhorizon := hagree ("SOROBAN_" ++ "AUTH_HORIZON") (by cases setting <;> decide)
  have hinterval := hagree ("SOROBAN_" ++ "POLL_INTERVAL") (by cases setting <;> decide)
  have hattempts := hagree ("SOROBAN_" ++ "POLL_ATTEMPTS") (by cases setting <;> decide)
  have htimeout := hagree ("SOROBAN_" ++ "TIMEOUT") (by cases setting <;> decide)
  have hretries := hagree ("SOROBAN_" ++ "MAX_RETRIES") (by cases setting <;> decide)
  have hbackoff := hagree ("SOROBAN_" ++ "BACKOFF") (by cases setting <;> decide)
  have hlevel := hagree ("SOROBAN_" ++ "LOG_LEVEL") (by cases setting <;> decide)
  have hagent := hagree ("SOROBAN_" ++ "USER_AGENT") (by cases setting <;> decide)
  unfold Config.ofVariables
  simp only [map_bind, map_pure, int_congr hhorizon, number_congr hinterval, int_congr hattempts,
    number_congr htimeout, int_congr hretries, number_congr hbackoff, nonEmpty_congr hlevel,
    nonEmpty_congr hagent]
  cases setting with
  | rpcUrl =>
      rw [int_congr (hagree ("SOROBAN_" ++ "FEE") (by decide)),
        nonEmpty_congr (hagree ("SOROBAN_" ++ "NETWORK_PASSPHRASE") (by decide))]
      rfl
  | networkPassphrase =>
      rw [int_congr (hagree ("SOROBAN_" ++ "FEE") (by decide)),
        nonEmpty_congr (hagree ("SOROBAN_" ++ "RPC_URL") (by decide))]
      rfl
  | fee =>
      rw [nonEmpty_congr (hagree ("SOROBAN_" ++ "RPC_URL") (by decide)),
        nonEmpty_congr (hagree ("SOROBAN_" ++ "NETWORK_PASSPHRASE") (by decide))]
      have hname : "SOROBAN_" ++ "FEE" = feeVariable := by decide
      obtain ⟨n, hn, -⟩ := exists_fee_of_accepts haccepts
      obtain ⟨n', hn', -⟩ := exists_fee_of_accepts haccepts'
      rw [hname, hn, hn']
      simp only [Setting.put, hn']
      rfl

omit hagree in
/-- What the variables stand for has each of their settings. -/
theorem put_eq_self (haccepts : setting.accepts (env.lookup setting.variableName) = true)
    {base : Config τ} (h : Config.ofVariables env "SOROBAN_" = .ok base) :
    setting.put env base = base := by
  have hself := ofVariables_eq_put (τ := τ) (fun _ _ => rfl) haccepts haccepts
  rw [h] at hself
  exact (Except.ok.inj hself).symm

/-- What goes over the variables leaves `change` of the difference between the environments. -/
theorem configOf_eq_map {g : Globals} (change : Config τ → Config τ)
    (haccepts : setting.accepts (env.lookup setting.variableName) = true)
    (haccepts' : setting.accepts (env'.lookup setting.variableName) = true)
    (hover : ∀ c : Config τ, (setting.put env' c).withNetwork g.rpcUrl g.networkPassphrase =
      change (c.withNetwork g.rpcUrl g.networkPassphrase))
    (hverdict : ∀ c : Config τ, setting.put env c = c →
      (change (c.withNetwork g.rpcUrl g.networkPassphrase)).verdict =
        (c.withNetwork g.rpcUrl g.networkPassphrase).verdict) :
    (configOf env' g : Except Fault (Config τ)) = change <$> configOf env g := by
  rw [configOf_eq, configOf_eq, ofVariables_eq_put hagree haccepts haccepts', bind_map_left, map_bind]
  cases hbase : (Config.ofVariables env "SOROBAN_" : Except Fault (Config τ)) with
  | error f => rfl
  | ok base =>
      have hself := put_eq_self haccepts hbase
      -- The variables are judged alone first, so both verdicts have to be the same.
      show ((setting.put env' base).verdict >>= fun _ =>
        (fun _ => (setting.put env' base).withNetwork g.rpcUrl g.networkPassphrase) <$>
          ((setting.put env' base).withNetwork g.rpcUrl g.networkPassphrase).verdict) =
        change <$> (base.verdict >>= fun _ =>
          (fun _ => base.withNetwork g.rpcUrl g.networkPassphrase) <$>
            (base.withNetwork g.rpcUrl g.networkPassphrase).verdict)
      rw [hover, hverdict base hself, verdict_put_eq haccepts haccepts', hself]
      cases base.verdict with
      | error f => rfl
      | ok _ => cases (base.withNetwork g.rpcUrl g.networkPassphrase).verdict <;> rfl

/-- A given address or passphrase goes over the one of the variables. -/
theorem configOf_congr {g : Globals} {words : List String} (hother : setting ≠ .fee)
    (hgiven : setting.isGiven g words = true)
    (haccepts : setting.accepts (env.lookup setting.variableName) = true)
    (haccepts' : setting.accepts (env'.lookup setting.variableName) = true) :
    (configOf env' g : Except Fault (Config τ)) = configOf env g := by
  rw [configOf_eq_map hagree id haccepts haccepts' (fun c => ?_) fun _ _ => rfl, id_map]
  cases setting with
  | fee => exact absurd rfl hother
  | rpcUrl =>
      obtain ⟨url, hurl⟩ := Option.isSome_iff_exists.1 hgiven
      rw [hurl]
      rfl
  | networkPassphrase =>
      obtain ⟨passphrase, hpassphrase⟩ := Option.isSome_iff_exists.1 hgiven
      rw [hpassphrase]
      rfl

omit hagree in
/-- Another accepted fee floor in the variable is the only difference between the configurations. -/
theorem configOf_fee {g : Globals} (hagree : env.AgreesExcept env' Setting.fee.variableName)
    (haccepts : Setting.fee.accepts (env.lookup Setting.fee.variableName) = true)
    (haccepts' : Setting.fee.accepts (env'.lookup Setting.fee.variableName) = true) :
    (configOf env' g : Except Fault (Config τ)) = Setting.fee.put env' <$> configOf env g := by
  refine configOf_eq_map hagree (Setting.fee.put env') haccepts haccepts' (fun _ => rfl)
    fun c hself => ?_
  have hover : Setting.fee.put env (c.withNetwork g.rpcUrl g.networkPassphrase) =
      c.withNetwork g.rpcUrl g.networkPassphrase :=
    congrArg (Config.withNetwork · g.rpcUrl g.networkPassphrase) hself
  rw [verdict_put_eq haccepts haccepts', hover]

end

/-! ## Two environments -/

section

variable [Measure τ]

theorem withFee_withBaseFee (config : Config τ) (fee : Option Int) :
    withFee (config.withBaseFee fee) fee = withFee config fee := by
  unfold withFee
  rw [Config.override_baseFee, Config.override_baseFee]
  cases fee <;> rfl

/-- A command does the same on the configuration that has its fee floor already. -/
theorem execute_withBaseFee (host : Host ω τ) (config : Config τ) (input : String) (command : Command) :
    execute host (config.withBaseFee command.fee?) input command = execute host config input command := by
  cases command with
  | simulate wire instructions fee =>
      show simulate host (config.withBaseFee fee) input wire instructions fee = _
      unfold simulate
      rw [withFee_withBaseFee]
      rfl
  | run wire secretKeys expirationLedger instructions skipView fee =>
      show run host (config.withBaseFee fee) input wire secretKeys _ fee = _
      unfold run
      rw [withFee_withBaseFee]
      rfl
  | _ => rfl

/-- A fee floor that a command is given goes over the one of its configuration. -/
theorem execute_put (env : Environment) (host : Host ω τ) (config : Config τ) (input : String)
    {command : Command} (h : command.fee?.isSome = true) :
    execute host (Setting.fee.put env config) input command = execute host config input command := by
  obtain ⟨n, hn⟩ := Option.isSome_iff_exists.1 h
  rw [← execute_withBaseFee host (Setting.fee.put env config), ← execute_withBaseFee host config, hn]
  rfl

variable {setting : Setting} {env env' : Environment} {host : Host ω τ} {input : String} {g : Globals}
  {words : List String}

/-- A command does the same when a given setting has another accepted value in the environment. -/
theorem runCommand_congr (hagree : env.AgreesExcept env' setting.variableName)
    (hgiven : setting.isGiven g words = true)
    (haccepts : setting.accepts (env.lookup setting.variableName) = true)
    (haccepts' : setting.accepts (env'.lookup setting.variableName) = true) :
    runCommand host env' input g words = runCommand host env input g words := by
  have hkeys : nonempty? env' secretKeyVariable = nonempty? env secretKeyVariable :=
    (nonempty?_congr (hagree _ (by cases setting <;> decide))).symm
  have hread : Command.read env' words = Command.read env words := by
    refine Command.read_congr hkeys ?_
    cases setting with
    | fee => exact .inl hgiven
    | rpcUrl => exact .inr (nonempty?_congr (hagree _ (by decide))).symm
    | networkPassphrase => exact .inr (nonempty?_congr (hagree _ (by decide))).symm
  funext s
  unfold runCommand configOrReport
  rw [hread]
  -- The options before the command hide a variable in the configuration itself; a fee floor is only put
  -- over it by the command, so there the configurations stay different.
  by_cases hfee : setting = .fee
  · subst hfee
    rw [configOf_fee hagree haccepts haccepts']
    cases (configOf env g : Except Fault (Config τ)) with
    | error f => rfl
    | ok config =>
        cases hcommand : Command.read env words with
        | error refusal => rfl
        | ok command =>
            have hsome : command.fee?.isSome = true := by
              rcases Command.fee?_of_read hcommand with hflag | ⟨hflag, -⟩
              · rw [← hflag]
                exact hgiven
              · have hgiven : (Command.flagFee words).isSome = true := hgiven
                rw [hflag] at hgiven
                cases hgiven
            dsimp only [Functor.map, Except.map]
            rw [execute_put env' host config input hsome]
            rfl
  · rw [configOf_congr hagree hfee hgiven haccepts haccepts']

end

/-! ## Refused variables -/

section

variable [Measure τ]

/-- Variables that stand for no configuration are bad values. -/
theorem isBadValue_of_configOf {env : Environment} {g : Globals} {f : Fault}
    (h : (configOf env g : Except Fault (Config τ)) = .error f) : f.isBadValue = true := by
  rw [configOf_eq] at h
  obtain h | ⟨base, -, h⟩ := error_of_bind_eq_error h
  · exact Config.isBadValue_of_ofVariables h
  obtain h | ⟨_, -, h⟩ := error_of_bind_eq_error h
  · obtain ⟨e, rfl⟩ := Config.exists_of_verdict_eq_error h
    rfl
  cases hverdict : (base.withNetwork g.rpcUrl g.networkPassphrase).verdict with
  | ok _ =>
      rw [hverdict] at h
      cases h
  | error f' =>
      obtain ⟨e, rfl⟩ := Config.exists_of_verdict_eq_error hverdict
      rw [hverdict] at h
      cases h
      rfl

/-- A configuration is only made of variables that are accepted. -/
theorem accepts_of_configOf {env : Environment} {g : Globals} {config : Config τ}
    (h : configOf env g = .ok config) (setting : Setting) :
    setting.accepts (env.lookup setting.variableName) = true := by
  obtain ⟨base, hbase, haccepted, -, -⟩ := configOf_eq_ok h
  obtain ⟨-, hurl, -, hfee⟩ := Config.ofVariables_eq_ok hbase
  cases setting with
  | rpcUrl =>
      have hendpoint := haccepted.rpcUrl
      rw [hurl] at hendpoint
      show Settings.isEndpoint (env.lookup "SOROBAN_RPC_URL") = true
      change Settings.isEndpoint (some (env.nonEmpty "SOROBAN_RPC_URL" defaultRpcUrl)) = true at hendpoint
      unfold Environment.nonEmpty at hendpoint
      cases hvalue : env.lookup "SOROBAN_RPC_URL" with
      | none => rfl
      | some s =>
          rw [hvalue] at hendpoint
          dsimp only at hendpoint
          -- An empty address stands for the default, and is accepted like it.
          split at hendpoint
          · next hempty => simp [Settings.isEndpoint, hempty]
          · exact hendpoint
  | networkPassphrase => rfl
  | fee =>
      have hpositive := haccepted.baseFee
      change env.int feeVariable 100 = _ at hfee
      show Setting.fee.accepts (env.lookup feeVariable) = true
      unfold Environment.int at hfee
      cases hvalue : env.lookup feeVariable with
      | none => rfl
      | some s =>
          rw [hvalue] at hfee
          have hread := eq_ok_of_mapError hfee
          rw [Setting.accepts, hread]
          exact decide_eq_true hpositive

/-- A refused variable ends every command, whatever is given. -/
theorem runCommand_refused {setting : Setting} {env : Environment} (host : Host ω τ) (input : String)
    (g : Globals) (words : List String) (s : Session ω)
    (h : setting.accepts (env.lookup setting.variableName) = false) :
    ∃ m, (runCommand host env input g words).run s = (.failed ("invalid configuration: " ++ m), s) := by
  cases hconfig : (configOf env g : Except Fault (Config τ)) with
  | ok config =>
      rw [accepts_of_configOf hconfig] at h
      cases h
  | error f =>
      refine ⟨f.message, ?_⟩
      show runCommand host env input g words s = _
      unfold runCommand configOrReport
      rw [hconfig]
      show ((if f.isBadValue = true then Report.failed ("invalid configuration: " ++ f.message)
        else .ofEscaped f), s) = _
      rw [if_pos (isBadValue_of_configOf hconfig)]

end

/-! ## The configuration of a command -/

section

variable [Measure τ]

/-- What a configuration has when options go over variables and variables over defaults. -/
structure Resolves (env : Environment) (g : Globals) (fee : Option Int) (config : Config τ) : Prop where
  rpcUrl : config.rpcUrl = some (g.rpcUrl.getD (env.nonEmpty "SOROBAN_RPC_URL" defaultRpcUrl))
  networkPassphrase : config.networkPassphrase =
    g.networkPassphrase.getD (env.nonEmpty "SOROBAN_NETWORK_PASSPHRASE" testnetPassphrase)
  baseFee : ∃ n, env.int feeVariable 100 = .ok n ∧ config.baseFee = fee.getD n

/-- A variable that stands for an option that is left out is the setting itself. -/
theorem getD_nonEmpty (given : Option String) (env : Environment) (name default : String) :
    (given <|> nonempty? env name).getD (env.nonEmpty name default) =
      given.getD (env.nonEmpty name default) := by
  cases given with
  | some s => rfl
  | none =>
      unfold nonempty? Environment.nonEmpty
      cases env.lookup name with
      | none => rfl
      | some s => cases hempty : s.isEmpty <;> simp [Option.filter, hempty]

/-- The variable of the fee floor is read alike as an option and as a setting. -/
theorem fee_eq_of_nonempty? {env : Environment} {fee : Option Int} {n : Int}
    (hfee : wholeNumber (nonempty? env feeVariable) = .ok fee) (hn : env.int feeVariable 100 = .ok n) :
    fee.getD n = n := by
  unfold nonempty? at hfee
  unfold Environment.int at hn
  cases hvalue : env.lookup feeVariable with
  | none =>
      rw [hvalue] at hfee
      obtain rfl := Except.ok.inj hfee
      rfl
  | some s =>
      rw [hvalue] at hn hfee
      have hread := eq_ok_of_mapError hn
      have hinteger : Number.integer? s.toList = some n := by
        dsimp only [Value.toInt] at hread
        split at hread
        · next hnumber => exact hnumber.trans (congrArg some (Except.ok.inj hread))
        · cases hread
      have hwhole : wholeNumber (some s) = .ok (some n) := by
        dsimp only [wholeNumber]
        rw [Number.integral?_of_integer? hinteger]
      -- An empty variable counts as no option.  (As a setting it would not have been read.)
      cases hempty : s.isEmpty with
      | true =>
          rw [Option.filter, hempty] at hfee
          obtain rfl := Except.ok.inj hfee
          rfl
      | false =>
          rw [Option.filter, hempty] at hfee
          obtain rfl := Except.ok.inj (hwhole.symm.trans hfee)
          rfl

/-- The configuration with the fee floor of a command has each setting from where it ought to be. -/
theorem resolves_of_read {env : Environment} {g : Globals} {words : List String} {config : Config τ}
    {command : Command} (hconfig : configOf env (g.fill env) = .ok config)
    (hcommand : Command.read env words = .ok command) :
    Resolves env g (Command.flagFee words) (config.withBaseFee command.fee?) := by
  obtain ⟨base, hbase, -, -, rfl⟩ := configOf_eq_ok hconfig
  obtain ⟨-, hurl, hpassphrase, hfee⟩ := Config.ofVariables_eq_ok hbase
  refine { rpcUrl := ?_, networkPassphrase := ?_, baseFee := ⟨base.baseFee, hfee, ?_⟩ }
  · show ((g.rpcUrl <|> nonempty? env "SOROBAN_RPC_URL") <|> base.rpcUrl) = _
    rw [hurl, Option.orElse_eq_orElse, Option.orElse_eq_or, Option.or_some]
    exact congrArg some (getD_nonEmpty _ env _ _)
  · show (g.networkPassphrase <|> nonempty? env "SOROBAN_NETWORK_PASSPHRASE").getD
      base.networkPassphrase = _
    rw [hpassphrase]
    exact getD_nonEmpty _ env _ _
  · show command.fee?.getD base.baseFee = _
    obtain hflag | ⟨hflag, hvariable⟩ := Command.fee?_of_read hcommand
    · rw [hflag]
    · rw [hflag]
      exact fee_eq_of_nonempty? hvariable hfee

end

/-! ## Command lines -/

section

variable [Measure τ]

/-- Options that are given are the same in environments that agree except for what is behind them. -/
theorem fill_congr {setting : Setting} {env env' : Environment} {g : Globals} {words : List String}
    (hagree : env.AgreesExcept env' setting.variableName) (hgiven : setting.isGiven g words = true) :
    g.fill env' = g.fill env := by
  have hurl : (g.rpcUrl <|> nonempty? env' "SOROBAN_RPC_URL") =
      (g.rpcUrl <|> nonempty? env "SOROBAN_RPC_URL") := by
    by_cases h : setting = .rpcUrl
    · subst h
      obtain ⟨url, hurl⟩ := Option.isSome_iff_exists.1 hgiven
      rw [hurl]
      rfl
    · rw [nonempty?_congr (hagree "SOROBAN_RPC_URL" (by cases setting <;> revert h <;> decide))]
  have hpassphrase : (g.networkPassphrase <|> nonempty? env' "SOROBAN_NETWORK_PASSPHRASE") =
      (g.networkPassphrase <|> nonempty? env "SOROBAN_NETWORK_PASSPHRASE") := by
    by_cases h : setting = .networkPassphrase
    · subst h
      obtain ⟨passphrase, hpassphrase⟩ := Option.isSome_iff_exists.1 hgiven
      rw [hpassphrase]
      rfl
    · rw [nonempty?_congr (hagree "SOROBAN_NETWORK_PASSPHRASE"
        (by cases setting <;> revert h <;> decide))]
  unfold Globals.fill
  rw [hurl, hpassphrase]

theorem isGiven_fill {setting : Setting} {g : Globals} {words : List String} (env : Environment)
    (h : setting.isGiven g words = true) : setting.isGiven (g.fill env) words = true := by
  cases setting with
  | fee => exact h
  | rpcUrl =>
      obtain ⟨url, hurl⟩ := Option.isSome_iff_exists.1 h
      show (g.rpcUrl <|> nonempty? env "SOROBAN_RPC_URL").isSome = true
      rw [hurl]
      rfl
  | networkPassphrase =>
      obtain ⟨passphrase, hpassphrase⟩ := Option.isSome_iff_exists.1 h
      show (g.networkPassphrase <|> nonempty? env "SOROBAN_NETWORK_PASSPHRASE").isSome = true
      rw [hpassphrase]
      rfl

/-- A command line whose words are options and a command runs that command. -/
theorem runWords_eq (host : Host ω τ) (env : Environment) (input : String) {words rest : List String}
    {g : Globals} (hwords : readGlobals [] words = .ok (g, rest)) (hknown : Command.isKnown rest = true) :
    runWords host env input words = runCommand host env input (g.fill env) rest := by
  refine runWords_eq_runCommand host input ?_ hknown
  rw [readGlobals_eq, hwords]
  rfl

/-- Options go over variables and variables over defaults, for variables that are accepted: a command
line that gives a setting does the same whatever accepted value its variable has, and every command runs
on a configuration that has its settings in that order.  A variable that is not accepted ends every
command, also one whose words give the setting. -/
theorem given_settings_prevail (host : Host ω τ) (input : String) {words rest : List String}
    {g : Globals} (hwords : readGlobals [] words = .ok (g, rest)) (hknown : Command.isKnown rest = true) :
    (∀ (setting : Setting) (env env' : Environment),
      setting.isGiven g rest = true → env.AgreesExcept env' setting.variableName →
      setting.accepts (env.lookup setting.variableName) = true →
      setting.accepts (env'.lookup setting.variableName) = true →
        runWords host env' input words = runWords host env input words) ∧
    (∀ (env : Environment) (config : Config τ) (command : Command),
      configOf env (g.fill env) = .ok config → Command.read env rest = .ok command →
        ∃ resolved : Config τ, Resolves env g (Command.flagFee rest) resolved ∧
          runWords host env input words =
            finish (thresholdOf g resolved) (execute host resolved input command)) ∧
    (∀ (setting : Setting) (env : Environment) (s : Session ω),
      setting.accepts (env.lookup setting.variableName) = false →
        ∃ m, (runWords host env input words).run s =
          (.failed ("invalid configuration: " ++ m), s)) := by
  refine ⟨?congr, ?resolved, ?refused⟩
  case congr =>
    intro setting env env' hgiven hagree haccepts haccepts'
    rw [runWords_eq host env input hwords hknown, runWords_eq host env' input hwords hknown,
      fill_congr hagree hgiven]
    exact runCommand_congr hagree (isGiven_fill env hgiven) haccepts haccepts'
  case resolved =>
    intro env config command hconfig hcommand
    refine ⟨config.withBaseFee command.fee?, resolves_of_read hconfig hcommand, ?_⟩
    rw [runWords_eq host env input hwords hknown, runCommand_eq_finish host input hconfig hcommand,
      execute_withBaseFee]
    rfl
  case refused =>
    intro setting env s hrefused
    rw [runWords_eq host env input hwords hknown]
    exact runCommand_refused host input (g.fill env) rest s hrefused

end

/-! ## A command line that gives an address and a fee floor -/

/-- The words of a command that simulates. -/
def givenWords : List String := ["--rpc-url", "http://node.test/rpc", "tx", "simulate", "--fee", "200"]

/-- A host that counts its requests and whose node has nothing to say. -/
def mutedHost : Host Nat Rat where
  carrier := { post := fun _ n => (.answered 200 "", n + 1), sleep := fun _ n => n, jitter := fun n => (0, n) }
  now _ := 0
  sleep _ n := n

/-- The words of a command that asks the node for a transaction. -/
def givenQuery : List String := ["--rpc-url", "http://node.test/rpc", "tx", "fetch", "ab"]

theorem exists_config_of_fee :
    ∃ config : Config Rat, configOf [(feeVariable, "250")] { rpcUrl := some "http://node.test/rpc" } =
      .ok config := by
  have h : ((configOf [(feeVariable, "250")] { rpcUrl := some "http://node.test/rpc" } :
      Except Fault (Config Rat)).toOption.map fun config => config.baseFee) = some 250 := by
    decide
  obtain ⟨config, hconfig, -⟩ := exists_of_toOption_map h
  exact ⟨config, hconfig⟩

/-- The words prevail over another address, which a command that asks the node once shows, and over another
fee floor, but not over what is no address. -/
theorem given_settings_prevail_simulate :
    runWords mutedHost [("SOROBAN_RPC_URL", "http://other.test/rpc")] "" givenQuery =
        runWords mutedHost [] "" givenQuery ∧
      ((runWords mutedHost [] "" givenQuery).run ⟨0, []⟩).2.world = 1 ∧
      (∃ resolved : Config Rat,
        Resolves [(feeVariable, "250")] { rpcUrl := some "http://node.test/rpc" } (some 200) resolved ∧
        runWords mutedHost [(feeVariable, "250")] "" givenWords =
          finish (thresholdOf {} resolved)
            (execute mutedHost resolved "" (.simulate none none (some 200)))) ∧
      ∃ m, (runWords mutedHost [("SOROBAN_RPC_URL", "ftp://node.test/rpc")] "" givenWords).run ⟨0, []⟩ =
        (.failed ("invalid configuration: " ++ m), ⟨0, []⟩) := by
  have hquery : readGlobals [] givenQuery = .ok ({ rpcUrl := some "http://node.test/rpc" },
      ["tx", "fetch", "ab"]) := rfl
  have hwords : readGlobals [] givenWords = .ok ({ rpcUrl := some "http://node.test/rpc" },
      ["tx", "simulate", "--fee", "200"]) := rfl
  obtain ⟨hcongr, -, -⟩ := given_settings_prevail mutedHost "" hquery rfl
  obtain ⟨-, hresolved, hrefused⟩ := given_settings_prevail mutedHost "" hwords rfl
  refine ⟨?congr, by decide +kernel, ?resolved, ?refused⟩
  case congr =>
    exact hcongr .rpcUrl [] _ rfl (Environment.agreesExcept_single _ _) rfl (by decide)
  case resolved =>
    obtain ⟨config, hconfig⟩ := exists_config_of_fee
    exact hresolved [(feeVariable, "250")] config (.simulate none none (some 200)) hconfig rfl
  case refused =>
    exact hrefused .rpcUrl _ ⟨0, []⟩ (by decide)

/-- A given address does not keep the one of the variables from ending the command. -/
theorem refused_variable_prevails :
    let words := ["--rpc-url", "http://node.test/rpc", "version"]
    let env := [("SOROBAN_RPC_URL", "ftp://node.test/rpc")]
    Environment.AgreesExcept [] env "SOROBAN_RPC_URL" ∧
      readGlobals [] words = .ok ({ rpcUrl := some "http://node.test/rpc" }, ["version"]) ∧
      ((runWords mutedHost [] "" words).run ⟨0, []⟩).1.exit = 0 ∧
      ((runWords mutedHost env "" words).run ⟨0, []⟩).1.exit = 1 :=
  ⟨Environment.agreesExcept_single _ _, rfl, by decide, by decide⟩

end CommandLine
end LedgerFlow

import LedgerFlow.CommandLine.Command
import LedgerFlow.Proofs.Number.Literal
import LedgerFlow.Proofs.Result

/-!
# Options and the variables behind them

What the words of a command line say by themselves is what they say without an environment.  A variable
only fills in for an option that the words leave out: `readGlobals_eq` for the options before the command,
`Command.fee?_of_read` for the fee floor.
-/

namespace LedgerFlow

namespace CommandLine

/-! ## Options before the command -/

/-- The options, with the variables behind those that are left out. -/
def Globals.fill (g : Globals) (env : Environment) : Globals :=
  { g with
    rpcUrl := g.rpcUrl <|> nonempty? env "SOROBAN_RPC_URL"
    networkPassphrase := g.networkPassphrase <|> nonempty? env "SOROBAN_NETWORK_PASSPHRASE" }

theorem textOption_eq (env : Environment) (w : Words) (name variableName : String) :
    textOption env w name (some variableName) =
      (textOption [] w name (some variableName) <|> nonempty? env variableName) := by
  unfold textOption
  cases w.value? name <;> rfl

/-- The environment only fills in for options that the words leave out. -/
theorem readGlobals_eq (env : Environment) (words : List String) :
    readGlobals env words = (fun p => (p.1.fill env, p.2)) <$> readGlobals [] words := by
  unfold readGlobals
  split
  · rfl
  · rw [map_bind]
    refine congrArg _ (funext fun w => ?_)
    rw [map_pure, textOption_eq env w "--rpc-url", textOption_eq env w "--network-passphrase"]
    rfl

/-! ## The fee floor -/

namespace Command

/-- The fee floor that a command is given. -/
def fee? : Command → Option Int
  | .simulate _ _ fee | .run _ _ _ _ _ fee => fee
  | _ => none

/-- The fee floor that the words of a command give by themselves. -/
def flagFee (words : List String) : Option Int := (read [] words).toOption.bind fee?

variable {R : Environment → Except Refusal Command}

/-- A reading whose fee floor does not depend on the environment; the secret keys may. -/
structure IsSettled (R : Environment → Except Refusal Command) : Prop where
  congr : ∀ {env env'}, nonempty? env secretKeyVariable = nonempty? env' secretKeyVariable →
    R env = R env'
  fee : ∀ {env command}, R env = .ok command → (R []).toOption.bind fee? = command.fee?

/-- A reading whose fee floor is the one of the variable. -/
structure IsFilledIn (R : Environment → Except Refusal Command) : Prop where
  congr : ∀ {env env'}, nonempty? env secretKeyVariable = nonempty? env' secretKeyVariable →
    nonempty? env feeVariable = nonempty? env' feeVariable → R env = R env'
  flag : (R []).toOption.bind fee? = none
  fee : ∀ {env command}, R env = .ok command →
    wholeNumber (nonempty? env feeVariable) = .ok command.fee?

theorem isSettled_of_const {r : Except Refusal Command} (h : ∀ env, R env = r) : IsSettled R where
  congr _ := by rw [h, h]
  fee hread := by
    rw [h] at hread
    rw [h, hread]
    rfl

theorem isSettled_of_no_fee
    (hcongr : ∀ {env env'}, nonempty? env secretKeyVariable = nonempty? env' secretKeyVariable →
      R env = R env') (hfee : ∀ {env command}, R env = .ok command → command.fee? = none) :
    IsSettled R where
  congr := hcongr
  fee hread := by
    rw [hfee hread]
    cases hempty : R [] with
    | error _ => rfl
    | ok _ => exact hfee hempty

/-- The words decide on the fee floor if they have the option, else the variable does. -/
theorem isSettled_or_isFilledIn_of_make (w : Words)
    (make : Option String → Option String → Except Refusal Command)
    (hread : ∀ env, R env = make (nonempty? env secretKeyVariable)
      (textOption env w "--fee" (some feeVariable)))
    (hfee : ∀ {keys fee command}, make keys fee = .ok command → wholeNumber fee = .ok command.fee?)
    (hkeys : ∀ {keys fee command}, make keys fee = .ok command → ∀ keys', (make keys' fee).isOk = true) :
    IsSettled R ∨ IsFilledIn R := by
  cases hflag : w.value? "--fee" with
  | some text =>
      have htext : ∀ env, textOption env w "--fee" (some feeVariable) = some text := fun env => by
        rw [textOption, hflag]
        rfl
      -- The secret keys only change what is signed with, not whether the words are read.
      refine .inl { congr := fun h => ?_, fee := fun {env command} h => ?_ }
      · rw [hread, hread, htext, htext, h]
      · rw [hread, htext] at h
        rw [hread, htext]
        have hempty := hkeys h (nonempty? [] secretKeyVariable)
        cases hmade : make (nonempty? [] secretKeyVariable) (some text) with
        | error refusal =>
            rw [hmade] at hempty
            cases hempty
        | ok command' => exact Except.ok.inj ((hfee hmade).symm.trans (hfee h))
  | none =>
      have htext : ∀ env, textOption env w "--fee" (some feeVariable) = nonempty? env feeVariable :=
        fun env => by
          rw [textOption, hflag]
          rfl
      refine .inr { congr := fun hkeys hvariable => ?_, flag := ?_, fee := fun {env command} h => ?_ }
      · rw [hread, hread, htext, htext, hkeys, hvariable]
      · rw [hread, htext]
        cases hmade : make (nonempty? [] secretKeyVariable) (nonempty? [] feeVariable) with
        | error refusal => rfl
        | ok command => exact (Except.ok.inj (hfee hmade)).symm
      · rw [hread, htext] at h
        exact hfee h

/-- The command that simulates, from its sorted words and the text of the fee floor. -/
def simulateOf (w : Words) (fee : Option String) : Except Refusal Command := do
  let instructions ← wholeNumber (textOption [] w "--instructions" none)
  let fee ← wholeNumber fee
  pure (.simulate (← soleArgument w) instructions fee)

/-- The command that runs, from its sorted words, the secret keys behind them and the text of the fee
floor. -/
def runOf (w : Words) (keys fee : Option String) : Except Refusal Command := do
  let given := w.values "--secret-key"
  let secretKeys := if given.isEmpty then (keys.map Text.words).getD [] else given
  let expirationLedger ← wholeNumber (textOption [] w "--expiration-ledger" none)
  let instructions ← wholeNumber (textOption [] w "--instructions" none)
  let fee ← wholeNumber fee
  pure (.run (← soleArgument w) secretKeys expirationLedger instructions (w.has "--skip-view") fee)

/-- The command that signs, from its sorted words and the secret key. -/
def signOf (w : Words) (key : Option String) : Except Refusal Command :=
  match key with
  | some secretKey => do pure (.sign (← soleArgument w) secretKey)
  | none => .error .misused

theorem isSettled_or_isFilledIn_simulate (words : List String) :
    IsSettled (readSimulate · words) ∨ IsFilledIn (readSimulate · words) := by
  unfold readSimulate
  cases readWords [{ name := "--instructions" }, { name := "--fee" }] false words with
  | error refusal => exact .inl (isSettled_of_const fun _ => rfl)
  | ok w =>
      refine isSettled_or_isFilledIn_of_make w (fun _ => simulateOf w) (fun _ => rfl) ?_ ?_
      · intro _ fee command h
        obtain ⟨instructions, -, h⟩ := exists_of_bind_eq_ok h
        obtain ⟨n, hfee, h⟩ := exists_of_bind_eq_ok h
        obtain ⟨wire, -, h⟩ := exists_of_bind_eq_ok h
        cases h
        exact hfee
      · intro _ fee command h _
        rw [h]
        rfl

theorem isSettled_or_isFilledIn_run (words : List String) :
    IsSettled (readRun · words) ∨ IsFilledIn (readRun · words) := by
  unfold readRun
  cases readWords
    [{ name := "--secret-key" }, { name := "--expiration-ledger" }, { name := "--instructions" },
      .flag "--skip-view" none, { name := "--fee" }] false words with
  | error refusal => exact .inl (isSettled_of_const fun _ => rfl)
  | ok w =>
      refine isSettled_or_isFilledIn_of_make w (runOf w) (fun _ => rfl) ?_ ?_
      · intro keys fee command h
        obtain ⟨expirationLedger, -, h⟩ := exists_of_bind_eq_ok h
        obtain ⟨instructions, -, h⟩ := exists_of_bind_eq_ok h
        obtain ⟨n, hfee, h⟩ := exists_of_bind_eq_ok h
        obtain ⟨wire, -, h⟩ := exists_of_bind_eq_ok h
        cases h
        exact hfee
      · intro keys fee command h keys'
        obtain ⟨expirationLedger, hexpiration, h⟩ := exists_of_bind_eq_ok h
        obtain ⟨instructions, hinstructions, h⟩ := exists_of_bind_eq_ok h
        obtain ⟨n, hfee, h⟩ := exists_of_bind_eq_ok h
        obtain ⟨wire, hwire, -⟩ := exists_of_bind_eq_ok h
        unfold runOf
        rw [hexpiration, hinstructions, hfee, hwire]
        rfl

theorem isSettled_sign (words : List String) : IsSettled (readSign · words) := by
  unfold readSign
  cases readWords [{ name := "--secret-key" }] false words with
  | error refusal => exact isSettled_of_const fun _ => rfl
  | ok w =>
      refine isSettled_of_no_fee (fun {env env'} h => ?_) fun {env command} h => ?_
      · show signOf w (textOption env w "--secret-key" (some secretKeyVariable)) =
          signOf w (textOption env' w "--secret-key" (some secretKeyVariable))
        rw [textOption_eq env, textOption_eq env', h]
      · change signOf w (textOption env w "--secret-key" (some secretKeyVariable)) = .ok command at h
        unfold signOf at h
        split at h
        · obtain ⟨wire, -, h⟩ := exists_of_bind_eq_ok h
          cases h
          rfl
        · cases h

/-- How a command on transactions is read, by its arguments. -/
def transactionReader : List String → Environment → Except Refusal Command
  | "simulate" :: rest => (readSimulate · rest)
  | "hash" :: rest => fun _ => readWireOnly .hash rest
  | "sign" :: rest => (readSign · rest)
  | "send" :: rest => fun _ => readWireOnly .send rest
  | "run" :: rest => (readRun · rest)
  | "fetch" :: rest => fun _ => readFetch rest
  | "decode" :: rest => fun _ => readWireOnly .decode rest
  | others => fun _ => do
    let _ ← readWords [] true others
    .error .misused

theorem readTransactionCommand_eq (env : Environment) (words : List String) :
    readTransactionCommand env words =
      readWords [] true words >>= fun w => transactionReader w.arguments env := by
  unfold readTransactionCommand
  refine congrArg _ (funext fun w => ?_)
  obtain ⟨options, arguments⟩ := w
  dsimp only
  split <;> simp [transactionReader, *]

/-- Whatever command is read, the environment fills in for its fee floor or does not count. -/
theorem isSettled_or_isFilledIn (words : List String) :
    IsSettled (read · words) ∨ IsFilledIn (read · words) := by
  unfold read
  split
  · exact .inl (isSettled_of_const fun _ => rfl)
  · next rest =>
      simp only [readTransactionCommand_eq]
      cases readWords [] true rest with
      | error refusal => exact .inl (isSettled_of_const fun _ => rfl)
      | ok w =>
          show IsSettled (transactionReader w.arguments) ∨ IsFilledIn (transactionReader w.arguments)
          unfold transactionReader
          split
          · exact isSettled_or_isFilledIn_simulate _
          · exact .inl (isSettled_of_const fun _ => rfl)
          · exact .inl (isSettled_sign _)
          · exact .inl (isSettled_of_const fun _ => rfl)
          · exact isSettled_or_isFilledIn_run _
          · exact .inl (isSettled_of_const fun _ => rfl)
          · exact .inl (isSettled_of_const fun _ => rfl)
          · exact .inl (isSettled_of_const fun _ => rfl)
  · exact .inl (isSettled_of_const fun _ => rfl)

/-- The words decide on the fee floor where they give it, else the variable does if it is set. -/
theorem fee?_of_read {env : Environment} {words : List String} {command : Command}
    (h : read env words = .ok command) :
    flagFee words = command.fee? ∨
      flagFee words = none ∧ wholeNumber (nonempty? env feeVariable) = .ok command.fee? := by
  rcases isSettled_or_isFilledIn words with hsettled | hfilled
  · exact .inl (hsettled.fee h)
  · exact .inr ⟨hfilled.flag, hfilled.fee h⟩

/-- The environment counts only by the secret keys, and by the fee floor if the words do not give it. -/
theorem read_congr {env env' : Environment} {words : List String}
    (hkeys : nonempty? env secretKeyVariable = nonempty? env' secretKeyVariable)
    (hfee : (flagFee words).isSome = true ∨ nonempty? env feeVariable = nonempty? env' feeVariable) :
    read env words = read env' words := by
  rcases isSettled_or_isFilledIn words with hsettled | hfilled
  · exact hsettled.congr hkeys
  · rcases hfee with hflag | hfee
    · rw [flagFee, hfilled.flag] at hflag
      cases hflag
    · exact hfilled.congr hkeys hfee

end Command

end CommandLine
end LedgerFlow

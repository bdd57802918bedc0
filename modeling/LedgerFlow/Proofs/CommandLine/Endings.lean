import LedgerFlow.Proofs.CommandLine.Configuration
import LedgerFlow.Proofs.CommandLine.Words
import LedgerFlow.Proofs.Pipeline.Faults
import LedgerFlow.Proofs.Wire.Failures

/-!
# How commands on transactions end

The commands that simulate, send or run a transaction end with the exit codes of `Report.IsPlanned`, or
with a fault that they do not handle.  `Command.Leaves` lists these, each with what causes it, from the
faults of a run and from what a command does besides: it reads its wire text, puts the fee floor over the
configuration, and words the errors of the pipeline.
-/

namespace LedgerFlow
namespace CommandLine

variable {ω τ : Type}

/-- Reports that commands are planned to end with. -/
inductive Report.IsPlanned : Report → Prop where
  | failed (message : String) : IsPlanned { exit := 1, err := "Error: " ++ message ++ "\n" }
  | printed (line : String) : IsPlanned { exit := 0, out := line ++ "\n" }
  | view (results : Value) :
      IsPlanned { exit := 0, out := jsonLine (.record [("status", .text "view"), ("results", results)]) }
  | success (a : Applied) : IsPlanned { exit := 0, out := jsonLine (Outcome.success a).toValue }
  | failure (a : Applied) : IsPlanned { exit := 1, out := jsonLine (Outcome.failed a).toValue }
  | timeout (hash : String) (attempts : Int) (lastError : Option String) :
      IsPlanned
        { exit := 2
          out := jsonLine (Outcome.timeout hash attempts lastError).toValue
          err := Outcome.advice hash attempts ++ "\n" }

theorem Report.isPlanned_ofOutcome {o : Outcome} (h : o.isTerminal = true) : (ofOutcome o).IsPlanned := by
  cases o with
  | success a => exact .success a
  | failed a => exact .failure a
  | timeout hash attempts lastError => exact .timeout hash attempts lastError
  | pending => cases h

theorem ofHandled_of_tellable {f : Fault} (h : f.isTellable = true) : ofHandled f = .failed f.message :=
  if_pos h

theorem exists_of_orReport_eq_error {α : Type} {isHandled : Fault → Bool} {r : Except Fault α}
    {report : Report} (h : orReport isHandled r = .error report) :
    ∃ f, r = .error f ∧ (if isHandled f = true then ofHandled f else .ofEscaped f) = report := by
  cases r with
  | ok a => cases h
  | error f => exact ⟨f, rfl, Except.error.inj h⟩

/-! ## Steps of commands -/

/-- The report that a command ends with, early or not. -/
def Running.report (x : Running ω Report) (s : Session ω) : Report :=
  match (x.run.run s).1 with
  | .ok report => report
  | .error report => report

theorem Running.report_bind {α : Type} (x : Running ω α) (f : α → Running ω Report) (s : Session ω) :
    (x >>= f).report s =
      match x.run.run s with
      | (.ok a, t) => (f a).report t
      | (.error report, _) => report := by
  unfold report
  show (match (match x.run.run s with | (r, t) => (ExceptT.bindCont f r).run t).1 with
    | .ok report => report
    | .error report => report) = _
  obtain ⟨r, t⟩ := x.run.run s
  cases r <;> rfl

theorem run_staged {α : Type} (body : Stage ω α) (s : Session ω) :
    (staged body).run.run s = (orReport isOfPipeline (body.outcome s).1, (body.outcome s).2) := rfl

/-- In whatever session a command goes on, its report is of one sort. -/
def Running.ReportsWithin (x : Running ω Report) (isReport : Report → Prop) : Prop :=
  ∀ s, isReport (x.report s)

namespace Running.ReportsWithin

variable {α : Type} {isReport : Report → Prop}

theorem pure {report : Report} (h : isReport report) :
    (pure report : Running ω Report).ReportsWithin isReport := fun _ => h

theorem known_bind {r : Except Report α} {f : α → Running ω Report}
    (herror : ∀ report, r = .error report → isReport report)
    (hok : ∀ a, r = .ok a → (f a).ReportsWithin isReport) : (known r >>= f).ReportsWithin isReport := by
  intro s
  rw [Running.report_bind]
  cases r with
  | ok a => exact hok a rfl s
  | error report => exact herror report rfl

/-- A stage on the node is only run when its requests can be sent. -/
theorem onNode_bind [Measure τ] {config : Config τ} {body : Stage (Connection ω) α}
    {f : α → Running ω Report}
    (hheader : (RpcSettings.ofConfig config).checkHeaders = .error .invalidHeader →
      isReport (.ofEscaped .invalidHeader))
    (hfault : ∀ fault start, (body.outcome start).1 = .error fault →
      isReport (if isOfPipeline fault = true then ofHandled fault else .ofEscaped fault))
    (hok : ∀ a start, (body.outcome start).1 = .ok a → (f a).ReportsWithin isReport) :
    (onNode config body >>= f).ReportsWithin isReport := by
  intro s
  rw [Running.report_bind, onNode, run_staged, Rpc.connected, Stage.outcome_bind, Stage.outcome_ofExcept]
  cases hcheck : (RpcSettings.ofConfig config).checkHeaders with
  | error fault =>
      obtain rfl : fault = .invalidHeader := by
        unfold RpcSettings.checkHeaders at hcheck
        split at hcheck <;> cases hcheck
        rfl
      exact hheader hcheck
  | ok _ =>
      have hbody : ((Rpc.onConnection body).outcome s).1 =
        (body.outcome { world := { outside := s.world }, log := s.log }).1 := rfl
      dsimp only
      rw [hbody]
      cases hend : (body.outcome { world := { outside := s.world }, log := s.log }).1 with
      | error fault => exact hfault fault _ hend
      | ok a => exact hok a _ hend _

end Running.ReportsWithin

/-! ## What commands leave unhandled -/

variable [Measure τ]

/-- What the command that simulates does on the node. -/
def simulated (p : Pipeline (Connection ω) τ) (draft : Transaction) (instructions : Option Int) :
    Stage (Connection ω) Transaction := do
  let sim ← p.simulate draft
  p.assemble draft sim (.ok instructions)

/-- What the command that sends does on the node. -/
def sent (p : Pipeline (Connection ω) τ) (e : Envelope) : Stage (Connection ω) Outcome := do
  let submission ← p.submit e
  let (_, ending) ← p.poll submission
  Stage.ofExcept ending

namespace Command

/-- The options of the run that a command is, or is the beginning of. -/
def options? : Command → Option RunOptions
  | .simulate _ instructions _ => some { instructions := .ok instructions }
  | .run _ _ expirationLedger instructions skipView _ =>
    some { expirationLedger, instructions := .ok instructions, skipView }
  | _ => none

/-- Whether a command hands a transaction to the node. -/
def handsOver : Command → Bool
  | .simulate .. | .send .. | .run .. => true
  | _ => false

/-- The errors of the pipeline that commands end with on the node. -/
inductive FailsWith (host : Host ω τ) (config : Config τ) (input : String) (e : PipelineError) :
    Command → Prop where
  | simulate {wire : Option String} {instructions fee : Option Int} {draft : Transaction}
      {start : Session (Connection ω)} (hdraft : (model wire input >>= transactionOf) = .ok draft)
      (hend : ((simulated (pipeline host (config.withBaseFee fee) {}) draft instructions).outcome
        start).1 = .error (.pipeline e)) :
      FailsWith host config input e (.simulate wire instructions fee)
  | send {wire : Option String} {envelope : Envelope} {start : Session (Connection ω)}
      (henvelope : (model wire input >>= envelopeOf) = .ok envelope)
      (hend : ((sent (pipeline host config {}) envelope).outcome start).1 = .error (.pipeline e)) :
      FailsWith host config input e (.send wire)
  | run {wire : Option String} {secretKeys : List String} {expirationLedger instructions : Option Int}
      {skipView : Bool} {fee : Option Int} {draft : Transaction} {keys : Keystore}
      {start : Session (Connection ω)} (hdraft : (model wire input >>= transactionOf) = .ok draft)
      (hkeys : Keystore.ofSeeds secretKeys = .ok keys)
      (hend : (((pipeline host (config.withBaseFee fee) keys).run draft
        { expirationLedger, instructions := .ok instructions, skipView }).outcome start).1 =
          .error (.pipeline e)) :
      FailsWith host config input e (.run wire secretKeys expirationLedger instructions skipView fee)

/-- The faults that a command can leave unhandled, by what causes them. -/
inductive Leaves (host : Host ω τ) (config : Config τ) (input : String)
    (isAnswer : String → Value → Prop) (c : Command) : Fault → Prop where
  /-- The wire text is malformed in a stray way, which is no bad value. -/
  | wire {wire : Option String} {text : String} {m : Malformed} (hwire : c.wire? = some wire)
      (htext : wireText wire input = .ok text) (h : Model.ofAnyWire text = .error m)
      (hstray : m.isStray = true) : Leaves host config input isAnswer c (.malformed m)
  /-- An item of the payload stands for an object, and nothing is said of what becomes of it. -/
  | object {wire : Option String} {text : String} (hwire : c.wire? = some wire)
      (htext : wireText wire input = .ok text) (h : Wire.HoldsObject text) :
      Leaves host config input isAnswer c (.malformed .foreign)
  /-- The fee floor that is given is no positive number. -/
  | fee {n : Int} (h : c.fee? = some n) (hle : n ≤ 0) :
      Leaves host config input isAnswer c (.config (.notPositive "base_fee" false (toString n)))
  /-- No request can carry the headers of the configuration. -/
  | header (h : (RpcSettings.ofConfig config).checkHeaders = .error .invalidHeader) :
      Leaves host config input isAnswer c .invalidHeader
  /-- The node answers a call with an object that is no readable reply to it. -/
  | reply {m : Malformed} (h : Rpc.Unreadable isAnswer m) :
      Leaves host config input isAnswer c (.malformed m)
  /-- The time that polling may take is too large to be computed. -/
  | budget (h : config.pollSettings.isTooLong = true) :
      Leaves host config input isAnswer c (.malformed .tooLarge)
  /-- A run with the options of the command escapes. -/
  | escape {wire : Option String} {options : RunOptions} {draft : Transaction} {f : Fault}
      (hwire : c.wire? = some wire) (hdraft : (model wire input >>= transactionOf) = .ok draft)
      (hoptions : c.options? = some options)
      (h : Pipeline.Escapes (config.withBaseFee c.fee?) isAnswer draft options f) :
      Leaves host config input isAnswer c f
  /-- An error of the pipeline has a number in its wording that has no text. -/
  | wording {e : PipelineError} (h : FailsWith host config input e c) (hlong : e.isTellable = false) :
      Leaves host config input isAnswer c (.malformed .badNumber)

/-- How a command on a transaction ends: as planned, or with a fault that it leaves unhandled. -/
def IsEnding (host : Host ω τ) (config : Config τ) (input : String)
    (isAnswer : String → Value → Prop) (c : Command) (report : Report) : Prop :=
  report.IsPlanned ∨ ∃ f, report = .ofEscaped f ∧ c.Leaves host config input isAnswer f

variable {host : Host ω τ} {config : Config τ} {input : String} {isAnswer : String → Value → Prop}

/-- The fee floor is put over the configuration, or ends the command. -/
theorem withFee_bind (c : Command) {f : Config τ → Running ω Report} (h : config.IsAccepted)
    (hf : (f (config.withBaseFee c.fee?)).ReportsWithin (c.IsEnding host config input isAnswer)) :
    (known (withFee config c.fee?) >>= f).ReportsWithin (c.IsEnding host config input isAnswer) := by
  by_cases hpositive : ∀ n, c.fee? = some n → 0 < n
  · rw [withFee_of_positive h hpositive]
    exact hf
  · push Not at hpositive
    obtain ⟨n, hfee, hpositive⟩ := hpositive
    have hn : n ≤ 0 := by omega
    rw [hfee, withFee_of_nonpositive h hn]
    exact fun _ => .inr ⟨_, rfl, .fee hfee hn⟩

/-- Wire text that is not read as a model ends the command. -/
theorem model_bind (c : Command) {wire : Option String} {α : Type} {k : Model → Except Report α}
    {f : α → Running ω Report} (hwire : c.wire? = some wire)
    (hk : ∀ m report, k m = .error report → report.IsPlanned)
    (hf : ∀ a, (model wire input >>= k) = .ok a →
      (f a).ReportsWithin (c.IsEnding host config input isAnswer)) :
    (known (model wire input >>= k) >>= f).ReportsWithin (c.IsEnding host config input isAnswer) := by
  refine .known_bind (fun report h => ?_) hf
  rcases error_of_bind_eq_error h with h | ⟨m, -, h⟩
  · rcases error_of_bind_eq_error h with h | ⟨text, htext, h⟩
    · dsimp only [wireText] at h
      generalize Text.trim _ = text at h
      split at h
      · obtain rfl := Except.error.inj h
        exact .inl (.failed _)
      · cases h
    · obtain ⟨f, hread, rfl⟩ := exists_of_orReport_eq_error h
      obtain ⟨m, hmodel, rfl⟩ := exists_of_mapError_eq_error hread
      split
      · rw [ofHandled_of_tellable rfl]
        exact .inl (.failed _)
      · next hbad =>
          rcases Model.isStray_or_holdsObject hmodel (Bool.eq_false_iff.2 hbad) with
            hstray | ⟨hobject, rfl⟩
          · exact .inr ⟨_, rfl, .wire hwire htext hmodel hstray⟩
          · exact .inr ⟨_, rfl, .object hwire htext hobject⟩
  · exact .inl (hk m report h)

theorem isPlanned_of_transactionOf {m : Model} {report : Report} (h : transactionOf m = .error report) :
    report.IsPlanned := by
  cases m <;> cases h <;> exact .failed _

theorem isPlanned_of_envelopeOf {m : Model} {report : Report} (h : envelopeOf m = .error report) :
    report.IsPlanned := by
  cases m <;> cases h <;> exact .failed _

/-- Seeds that are no seeds end the command with an error message. -/
theorem isPlanned_of_keystore {secretKeys : List String} {report : Report}
    (h : keystore secretKeys = .error report) : report.IsPlanned := by
  obtain ⟨f, hseeds, rfl⟩ := exists_of_orReport_eq_error h
  obtain ⟨hbad, htellable⟩ := Keystore.isBadValue_of_ofSeeds hseeds
  rw [if_pos hbad, ofHandled_of_tellable htellable]
  exact .failed _

theorem ofSeeds_of_keystore {secretKeys : List String} {keys : Keystore}
    (h : keystore secretKeys = .ok keys) : Keystore.ofSeeds secretKeys = .ok keys := by
  unfold keystore at h
  cases hseeds : Keystore.ofSeeds secretKeys with
  | ok store =>
      rw [hseeds] at h
      exact congrArg Except.ok (Except.ok.inj h)
  | error f =>
      rw [hseeds] at h
      cases h

/-- On the node, an error of the pipeline is printed if it can be worded, and any other fault is left. -/
theorem onNode_bind (c : Command) {α : Type} {body : Stage (Connection ω) α} {f : α → Running ω Report}
    {isResult : α → Prop} {isFault : Fault → Prop} (hbody : body.EndsWithin isResult isFault)
    (hfault : ∀ fault, isFault fault →
      fault.InFamily ∨ isOfPipeline fault = false ∧ c.Leaves host config input isAnswer fault)
    (hfails : ∀ e start, (body.outcome start).1 = .error (.pipeline e) → FailsWith host config input e c)
    (hf : ∀ a, isResult a → (f a).ReportsWithin (c.IsEnding host config input isAnswer)) :
    (onNode (config.withBaseFee c.fee?) body >>= f).ReportsWithin
      (c.IsEnding host config input isAnswer) := by
  refine .onNode_bind (fun h => .inr ⟨_, rfl, .header h⟩) (fun fault start hend => ?_)
    fun a start hend => hf a (hbody.of_ok hend)
  rcases hfault fault (hbody.of_error hend) with ⟨e, rfl⟩ | ⟨hother, hleaves⟩
  · -- To word an error of the family may fail, and this is left like a fault of its own.
    show IsEnding _ _ _ _ _ (if e.isTellable = true then _ else _)
    split
    · exact .inl (.failed _)
    · next hlong => exact .inr ⟨_, rfl, .wording (hfails e start hend) (Bool.eq_false_iff.2 hlong)⟩
  · rw [if_neg (by rw [hother]; exact Bool.false_ne_true)]
    exact .inr ⟨fault, rfl, hleaves⟩

end Command

/-! ## Commands on transactions -/

theorem isOfPipeline_of_escapes {config : Config τ} {isAnswer : String → Value → Prop}
    {draft : Transaction} {options : RunOptions} {f : Fault}
    (h : Pipeline.Escapes config isAnswer draft options f) : isOfPipeline f = false := by
  cases h <;> rfl

section

variable {host : Host ω τ} {config : Config τ} {isAnswer : String → Value → Prop}
  (haccepted : config.IsAccepted)
  (hanswers : Rpc.Answers (.ofConfig config) host.carrier isAnswer)

include haccepted hanswers

theorem simulate_reportsWithin (input : String) (wire : Option String) (instructions fee : Option Int) :
    (simulate host config input wire instructions fee).ReportsWithin
      ((Command.simulate wire instructions fee).IsEnding host config input isAnswer) := by
  let c := Command.simulate wire instructions fee
  refine c.withFee_bind haccepted (c.model_bind rfl
    (fun _ _ => Command.isPlanned_of_transactionOf) fun draft hdraft => ?_)
  have hbody : (simulated (pipeline host (config.withBaseFee fee) {}) draft instructions).EndsWithin
      (fun _ => True) fun f => f.InFamily ∨
        Pipeline.Escapes (config.withBaseFee fee) isAnswer draft { instructions := .ok instructions } f :=
    (Pipeline.simulate_endsWithin_answer rfl hanswers draft _).bind fun sim _ =>
      (Pipeline.assemble_endsWithin _ (fun e => .inl ⟨e, rfl⟩) draft sim nofun).mono (fun _ _ => trivial)
        fun _ => id
  refine c.onNode_bind hbody ?_ (fun e start hend => .simulate hdraft hend)
    fun assembled _ => .pure (.inl (.printed _))
  rintro f (hfamily | hescapes)
  · exact .inl hfamily
  · exact .inr ⟨isOfPipeline_of_escapes hescapes, .escape rfl hdraft rfl hescapes⟩

theorem send_reportsWithin (input : String) (wire : Option String) :
    (send host config input wire).ReportsWithin
      ((Command.send wire).IsEnding host config input isAnswer) := by
  let c := Command.send wire
  refine c.model_bind rfl (fun _ _ => Command.isPlanned_of_envelopeOf) fun envelope henvelope => ?_
  have hrefused : ∀ f, (pipeline host config {}).config.pollSettings.refusal? = some f →
      f.InFamily ∨ isOfPipeline f = false ∧ c.Leaves host config input isAnswer f := by
    intro f hf
    rcases PollSettings.refusal?_eq_some hf with ⟨hless, -⟩ | ⟨-, hlong, rfl⟩
    · exact absurd hless (Int.not_lt.2 haccepted.pollAttempts)
    · exact .inr ⟨rfl, .budget hlong⟩
  have hbody : (sent (pipeline host config {}) envelope).EndsWithin (fun o => o.isTerminal = true)
      fun f => f.InFamily ∨ isOfPipeline f = false ∧ c.Leaves host config input isAnswer f :=
    Pipeline.send_endsWithin_answer rfl hanswers (fun e => .inl ⟨e, rfl⟩)
      (fun m h => .inr ⟨rfl, .reply h⟩) hrefused envelope
  exact c.onNode_bind hbody (fun _ => id) (fun e start hend => .send henvelope hend)
    fun o ho => .pure (.inl (Report.isPlanned_ofOutcome ho))

theorem run_reportsWithin (input : String) (wire : Option String) (secretKeys : List String)
    (expirationLedger instructions : Option Int) (skipView : Bool) (fee : Option Int) :
    (run host config input wire secretKeys
      { expirationLedger, instructions := .ok instructions, skipView } fee).ReportsWithin
        ((Command.run wire secretKeys expirationLedger instructions skipView fee).IsEnding host config
          input isAnswer) := by
  let c := Command.run wire secretKeys expirationLedger instructions skipView fee
  refine c.withFee_bind haccepted (c.model_bind rfl
    (fun _ _ => Command.isPlanned_of_transactionOf) fun draft hdraft => .known_bind
      (fun _ h => .inl (Command.isPlanned_of_keystore h)) fun keys hkeystore => ?_)
  have hkeys := Command.ofSeeds_of_keystore hkeystore
  have hbody := Pipeline.run_endsWithin (p := pipeline host (config.withBaseFee fee) keys) rfl hanswers
    (Keystore.isAddressed_ofSeeds hkeys) rfl draft
      { expirationLedger, instructions := .ok instructions, skipView }
  refine c.onNode_bind hbody ?_ (fun e start hend => .run hdraft hkeys hend) fun result hresult => ?_
  · rintro f (hfamily | hescapes)
    · exact .inl hfamily
    · exact .inr ⟨isOfPipeline_of_escapes hescapes, .escape rfl hdraft rfl hescapes⟩
  · cases hsubmission : result.submission with
    | none => exact .pure (.inl (.view _))
    | some submission => exact .pure (.inl (Report.isPlanned_ofOutcome (hresult submission hsubmission)))

/-- Each of the commands ends as planned or with a fault that it leaves, by what it was given. -/
theorem execute_reportsWithin (input : String) {command : Command} (hover : command.handsOver = true) :
    (execute host config input command).ReportsWithin (command.IsEnding host config input isAnswer) := by
  cases command with
  | simulate wire instructions fee =>
      exact simulate_reportsWithin haccepted hanswers input wire instructions fee
  | send wire => exact send_reportsWithin haccepted hanswers input wire
  | run wire secretKeys expirationLedger instructions skipView fee =>
      exact run_reportsWithin haccepted hanswers input wire secretKeys expirationLedger instructions
        skipView fee
  | _ => cases hover

end

theorem Command.isKnown_of_read {env : Environment} {words : List String} {command : Command}
    (h : read env words = .ok command) : isKnown words = true := by
  unfold read at h
  split at h
  · rfl
  · rfl
  · cases h

/-- What a command line reports is what its command does. -/
theorem runWords_eq_report {host : Host ω τ} {env : Environment} {input : String}
    {words rest : List String} {g : Globals} {config : Config τ} {command : Command}
    (hglobals : readGlobals env words = .ok (g, rest)) (hconfig : configOf env g = .ok config)
    (hcommand : Command.read env rest = .ok command) (s : Session ω) :
    ((runWords host env input words).run s).1 =
      (execute host config input command).report { s with log := [] } := by
  rw [runWords_eq_runCommand host input hglobals (Command.isKnown_of_read hcommand),
    runCommand_eq_finish host input hconfig hcommand]
  rfl

/-- An object that is no readable reply to any call. -/
def unreadableBody : String := "\x7b\"result\":\x7b\"latestLedger\":\"abc\"\x7d\x7d"

/-- A host that brings this answer to every call. -/
def unreadableHost : Host Unit Rat where
  carrier := Rpc.steadyCarrier unreadableBody
  now _ := 0
  sleep _ w := w

/-- The default configuration, with plain numbers. -/
def plainConfig : Config Rat where
  rpcUrl := some defaultRpcUrl
  networkPassphrase := testnetPassphrase
  baseFee := 100
  authHorizon := 60
  pollInterval := .whole 1
  pollAttempts := 30
  requestTimeout := 30
  maxRetries := 0
  backoffFactor := 0
  logLevel := "WARNING"
  userAgent := defaultUserAgent

/-- A valid draft of one contract call. -/
def plainDraft : Transaction where
  sourceAccount := "GAAAAAAAAAAAAAAAAAAAAAAAAAAAAAAAAAAAAAAAAAAAAAAAAAAAAWHF"
  seqNum := 1
  operations := [{ body := .invokeContract (.text "C") (.text "f") (.list [.int 1]) [] }]

/-- The wire text of a transaction without operations. -/
def plainWire : String := "pGNmZWUAZnNlcU51bQBqb3BlcmF0aW9uc4Btc291cmNlQWNjb3VudGFH"

theorem answers_unreadable {config : Config Rat} (hurl : config.rpcUrl = some defaultRpcUrl)
    (hretries : config.maxRetries = 0) :
    Rpc.Answers (.ofConfig config) unreadableHost.carrier
      fun method v => Rpc.result method 200 unreadableBody = .ok v := by
  -- The address is a closed term, and is parsed apart from the configuration around it.
  have hparse : ((Address.parse? defaultRpcUrl).any fun a => a.takesReplies && a.checkHost.isOk) =
      true := by decide
  obtain ⟨address, haddress, hvalid⟩ := (Option.any_eq_true _ _).1 hparse
  obtain ⟨htakes, hhost⟩ := Bool.and_eq_true_iff.1 hvalid
  have hnames : (RpcSettings.ofConfig config).namesHost = false := by
    show (["Content-Type", "Accept", "User-Agent"].any fun name => Text.lowerAscii name == "host") = false
    decide
  have hknown : (RpcSettings.ofConfig config).address defaultRpcUrl = .ok address := by
    unfold RpcSettings.address
    rw [haddress]
    dsimp only
    rw [hnames, if_neg Bool.false_ne_true]
    cases hcheck : address.checkHost with
    | ok _ => rfl
    | error fault =>
        rw [hcheck] at hhost
        cases hhost
  refine Rpc.answers_steady hurl hknown htakes (by rw [← Int.toNat_zero, ← hretries]; rfl) ?_ ?_
  · intro method params hcall
    have hread : (Rpc.result method 200 unreadableBody).toOption.isSome = true := by
      cases hcall <;> decide +kernel
    cases hresult : Rpc.result method 200 unreadableBody with
    | ok v => exact ⟨v, rfl⟩
    | error e =>
        rw [hresult] at hread
        cases hread
  · intro v reply hresult hreply
    -- No hash is read of this answer.
    have hnone : (Rpc.result "sendTransaction" 200 unreadableBody).toOption.all
        (fun v => !(SendReply.ofReply v).isOk) = true := by decide +kernel
    rw [hresult, Except.toOption, Option.all_some, hreply] at hnone
    cases hnone

theorem exists_valid_draft : ∃ draft : Transaction, draft.validate = .ok () := by
  have h : plainDraft.validate.toOption.map (fun _ => ()) = some () := by decide +kernel
  obtain ⟨_, hvalid, -⟩ := exists_of_toOption_map h
  exact ⟨plainDraft, hvalid⟩

/-- Without options and variables, the defaults are accepted. -/
theorem exists_default_config :
    ∃ config : Config Rat, configOf [] {} = .ok config ∧ config.rpcUrl = some defaultRpcUrl ∧
      config.maxRetries = 0 := by
  have h : ((configOf [] {} : Except Fault (Config Rat)).toOption.map fun config =>
      (config.rpcUrl, config.maxRetries)) = some (some defaultRpcUrl, 0) := by decide
  obtain ⟨config, hconfig, hfields⟩ := exists_of_toOption_map h
  exact ⟨config, hconfig, (Prod.mk.inj hfields).1, (Prod.mk.inj hfields).2⟩

theorem exists_of_malformed {r : Except Fault RunResult}
    (h : (match r with | .error (.malformed _) => true | _ => false) = true) :
    ∃ f, r = .error f ∧ ¬ f.InFamily := by
  split at h
  · exact ⟨_, rfl, nofun⟩
  · cases h

end CommandLine
end LedgerFlow

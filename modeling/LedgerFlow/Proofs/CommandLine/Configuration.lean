import LedgerFlow.CommandLine
import LedgerFlow.Proofs.Config

/-!
# Configurations of commands

A command runs on an accepted configuration: the one that the environment stands for, with the address
and the passphrase of the options put over it.  A fee floor is put over that one when it is positive, and
ends the command otherwise.  Once its configuration and its command are known, all that a command line
does is to run the one on the other (`runCommand_eq_finish`).
-/

namespace LedgerFlow
namespace CommandLine

variable {τ : Type} [Measure τ]

/-- The environment alone has to be accepted before anything is put over it. -/
theorem configOf_eq (env : Environment) (g : Globals) :
    (configOf env g : Except Fault (Config τ)) =
      Config.ofVariables env "SOROBAN_" >>= fun base => base.verdict >>= fun _ =>
        (fun _ => base.withNetwork g.rpcUrl g.networkPassphrase) <$>
          (base.withNetwork g.rpcUrl g.networkPassphrase).verdict := by
  unfold configOf
  rw [Config.ofEnvironment_eq, bind_assoc]
  cases hbase : (Config.ofVariables env "SOROBAN_" : Except Fault (Config τ)) with
  | error f => rfl
  | ok base =>
      obtain ⟨hrounded, -⟩ := Config.ofVariables_eq_ok hbase
      show ((Settings.ofConfig base).check >>= fun base => _) = (base.verdict >>= fun _ => _)
      simp only [Config.override_network, Settings.check_ofConfig, bind_map_left,
        Config.rounded_withNetwork, hrounded]

theorem configOf_eq_ok {env : Environment} {g : Globals} {config : Config τ}
    (h : configOf env g = .ok config) :
    ∃ base, Config.ofVariables env "SOROBAN_" = .ok base ∧ base.IsAccepted ∧ config.IsAccepted ∧
      config = base.withNetwork g.rpcUrl g.networkPassphrase := by
  rw [configOf_eq] at h
  obtain ⟨base, hbase, h⟩ := exists_of_bind_eq_ok h
  obtain ⟨_, hverdict, h⟩ := exists_of_bind_eq_ok h
  obtain ⟨_, hnetwork, rfl⟩ := exists_of_map_eq_ok h
  obtain ⟨hrounded, -⟩ := Config.ofVariables_eq_ok hbase
  have hbaseAccepted := Config.isAccepted_of_verdict hverdict
  have haccepted := Config.isAccepted_of_verdict hnetwork
  rw [Config.rounded_withNetwork, hrounded] at haccepted
  rw [hrounded] at hbaseAccepted
  exact ⟨base, hbase, hbaseAccepted, haccepted, rfl⟩

theorem withFee_of_positive {config : Config τ} {fee : Option Int} (h : config.IsAccepted)
    (hfee : ∀ n, fee = some n → 0 < n) : withFee config fee = .ok (config.withBaseFee fee) := by
  have haccepted : (config.withBaseFee fee).IsAccepted := by
    have hrounded : (config.withBaseFee fee).rounded = config.withBaseFee fee := by
      rw [Config.rounded_withBaseFee, h.rounded_eq]
    refine { h with rounded_eq := hrounded, baseFee := ?_ }
    cases fee with
    | none => exact h.baseFee
    | some n => exact hfee n rfl
  unfold withFee
  rw [Config.override_baseFee, Settings.check_ofConfig, Config.verdict_of_accepted haccepted,
    haccepted.rounded_eq]
  rfl

theorem withFee_of_nonpositive {config : Config τ} {n : Int} (h : config.IsAccepted) (hn : n ≤ 0) :
    withFee config (some n) =
      .error (.ofEscaped (.config (.notPositive "base_fee" false (toString n)))) := by
  have hbounds : (Amount.whole n : Amount τ).isWithin false = false := by
    rw [← Bool.not_eq_true, Amount.isWithin_whole_false]
    omega
  have hverdict : (config.withBaseFee (some n)).verdict =
      .error (.config (.notPositive "base_fee" false (toString n))) := by
    show (demand (Settings.isEndpoint config.rpcUrl) _ >>= fun _ =>
      demand ((Amount.whole n : Amount τ).isWithin false) _ >>= _) = _
    rw [demand_of_met h.rpcUrl, hbounds]
    rfl
  unfold withFee
  rw [Config.override_baseFee, Settings.check_ofConfig, hverdict]
  rfl

/-! ## Command lines -/

variable {ω : Type}

/-- What a command that has got its configuration does to a session. -/
def finish (threshold : Int) (body : Running ω Report) : StateM (Session ω) Report := fun s =>
  let (ending, t) := body.run.run { s with log := [] }
  let report := match ending with
    | .ok report => report
    | .error report => report
  (report, { t with log := s.log ++ shownRecords threshold t.log })

theorem runCommand_eq_finish (host : Host ω τ) {env : Environment} (input : String) {g : Globals}
    {words : List String} {config : Config τ} {command : Command} (hconfig : configOf env g = .ok config)
    (hcommand : Command.read env words = .ok command) :
    runCommand host env input g words =
      finish (thresholdOf g config) (execute host config input command) := by
  funext s
  unfold runCommand configOrReport
  rw [hconfig, hcommand]
  rfl

theorem runWords_eq_runCommand (host : Host ω τ) {env : Environment} (input : String)
    {words rest : List String} {g : Globals} (hglobals : readGlobals env words = .ok (g, rest))
    (hknown : Command.isKnown rest = true) :
    runWords host env input words = runCommand host env input g rest := by
  unfold runWords
  rw [hglobals]
  exact if_pos hknown

end CommandLine
end LedgerFlow

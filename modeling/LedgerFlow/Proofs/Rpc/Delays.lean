import LedgerFlow.Proofs.Config
import LedgerFlow.Proofs.Rpc.Attempts
import Mathlib.Algebra.Order.Field.Rat
import Mathlib.Algebra.Order.Ring.Basic
import Mathlib.Tactic.ByContra
import Mathlib.Tactic.Linarith
import Mathlib.Tactic.NormNum

/-!
# The delays of a configuration

The delay after an attempt is a power of the factor in the settings, times a base, and a random part.  The
factor is one more than that of the configuration, which is not checked.  So it may be negative, and the sign of
its powers alternates then.

The main statement says for which configurations no delay is negative and, without a random part, none is
shorter than the one before it (`Config.delays_iff`).
-/

namespace LedgerFlow

variable {ω τ : Type}

/-- The delays on record. -/
def delaysOf (events : List (HttpEvent τ)) : List τ :=
  events.filterMap fun event =>
    match event with
    | .slept delay => some delay
    | .posted .. => none

theorem delaysOf_map_slept (delays : List τ) : delaysOf (delays.map .slept) = delays := by
  induction delays with
  | nil => rfl
  | cons delay delays ih => exact congrArg (delay :: ·) ih

theorem delaysOf_recordOf (request : HttpRequest τ) (first : HttpResult) (later : List (Rpc.Again τ)) :
    delaysOf (Rpc.recordOf request first later) = later.map Rpc.Again.delay := by
  show delaysOf (later.flatMap fun again => _) = _
  induction later with
  | nil => rfl
  | cons again later ih => exact congrArg (again.delay :: ·) ih

namespace Rpc

variable [Measure τ] {s : RpcSettings τ} {carrier : Carrier ω τ}

/-- A session with nothing on record. -/
def unrecorded (session : Session (Connection ω)) : Session (Connection (ω × List (HttpEvent τ))) where
  world := { isOpen := session.world.isOpen, lastId := session.world.lastId,
             outside := (session.world.outside, []) }
  log := session.log

/-- The delays that are slept in a call, in their order. -/
def Call.delays (call : Call τ) (s : RpcSettings τ) (carrier : Carrier ω τ)
    (session : Session (Connection ω)) : List τ :=
  delaysOf ((call.make s carrier.recording).outcome (unrecorded session)).2.world.outside.2

/-- A call in such a session goes in one of the ways that calls go, and its delays are those on record. -/
theorem Call.exists_runs_delays (call : Call τ) (s : RpcSettings τ) (carrier : Carrier ω τ)
    (session : Session (Connection ω)) :
    ∃ stop events, call.Runs s carrier (unrecorded session) stop events ∧
      call.delays s carrier session = delaysOf events := by
  obtain ⟨events, hrecord, hruns⟩ := call.exists_runs s carrier (unrecorded session)
  exact ⟨_, events, hruns, congrArg delaysOf hrecord⟩

/-- The delays of a call follow its attempts. -/
theorem Call.delays_spec (call : Call τ) (s : RpcSettings τ) (carrier : Carrier ω τ)
    (session : Session (Connection ω)) :
    Delays s carrier s.maxRetries.toNat 1 (call.delays s carrier session) := by
  obtain ⟨stop, events, hruns, heq⟩ := call.exists_runs_delays s carrier session
  rw [heq]
  cases hruns with
  | closed _ hdelays =>
      rw [delaysOf_map_slept]
      exact hdelays
  | unprepared => exact .none
  | posted _ _ hcourse =>
      rw [delaysOf_recordOf]
      exact hcourse.delays

/-! ## Delays that are fractions -/

section Fractions

variable {s : RpcSettings Rat} {carrier : Carrier ω Rat} {left number : Nat} {delays : List Rat}

theorem Delays.length_le (h : Delays s carrier left number delays) : delays.length ≤ left := by
  induction h with
  | none => exact Nat.zero_le _
  | next _ _ _ ih => exact Nat.succ_le_succ ih

theorem Delays.exists_of_mem (h : Delays s carrier left (number + 1) delays) {d : Rat} (hd : d ∈ delays) :
    ∃ i < left, ∃ w,
      d = s.backoffBase * s.backoffFactor ^ (number + i) + (carrier.jitter w).1 * s.backoffJitter := by
  generalize hfirst : number + 1 = first at h
  induction h generalizing number with
  | none => cases hd
  | @next left _ _ _ w hdelay _ ih =>
      subst hfirst
      cases hd with
      | head => exact ⟨0, Nat.succ_pos left, w, (Except.ok.inj hdelay).symm⟩
      | tail _ hd =>
          obtain ⟨i, hi, w, rfl⟩ := ih hd rfl
          exact ⟨i + 1, Nat.succ_lt_succ hi, w, by rw [Nat.add_right_comm, Nat.add_assoc]⟩

/-- Without a random part, the delays are the powers of the factor. -/
theorem Delays.eq_powers (h : Delays s carrier left (number + 1) delays)
    (hzero : ∀ w, (carrier.jitter w).1 = 0) :
    delays = (List.range delays.length).map fun i => s.backoffBase * s.backoffFactor ^ (number + i) := by
  generalize hfirst : number + 1 = first at h
  induction h generalizing number with
  | none => rfl
  | next w hdelay _ ih =>
      subst hfirst
      have hfirst := Except.ok.inj hdelay
      rw [hzero, zero_mul, add_zero] at hfirst
      rw [List.length_cons, List.range_succ_eq_map, List.map_cons, List.map_map, ← hfirst]
      refine congrArg₂ List.cons rfl ((ih rfl).trans (List.map_congr_left fun i _ => ?_))
      rw [Function.comp_apply, Nat.succ_eq_add_one, Nat.add_assoc, Nat.add_comm 1]

/-- With no call does a client sleep for less than no time, wherever its random numbers come from. -/
def NeverNegative (s : RpcSettings Rat) : Prop :=
  ∀ (ω : Type) (carrier : Carrier ω Rat), (∀ w, 0 ≤ (carrier.jitter w).1 ∧ (carrier.jitter w).1 < 1) →
    ∀ (call : Call Rat) (session : Session (Connection ω)), ∀ d ∈ call.delays s carrier session, 0 ≤ d

/-- Without a random part, no delay of a call is shorter than one before it. -/
def NeverDecreasing (s : RpcSettings Rat) : Prop :=
  ∀ (ω : Type) (carrier : Carrier ω Rat), (∀ w, (carrier.jitter w).1 = 0) →
    ∀ (call : Call Rat) (session : Session (Connection ω)),
      (call.delays s carrier session).Pairwise (· ≤ ·)

/-! ## A node that is not there -/

/-- A carrier whose requests all fail, and that draws no random numbers but zero. -/
def silent : Carrier Unit Rat where
  post _ w := (.failed "ConnectError" "connection refused", w)
  sleep _ w := w
  jitter w := (0, w)

/-- A call is repeated as often as it may be, after delays that are the powers of the factor. -/
theorem Call.delays_silent (call : Call Rat) (s : RpcSettings Rat) (session : Session (Connection Unit))
    (hprepare : session.world.isOpen = true →
      (prepare s (call.payload (session.world.lastId + 1)) call.timeout).isOk = true) :
    call.delays s silent session =
      (List.range s.maxRetries.toNat).map fun i => s.backoffBase * s.backoffFactor ^ i := by
  have hlength : (call.delays s silent session).length = s.maxRetries.toNat := by
    obtain ⟨stop, events, hruns, heq⟩ := call.exists_runs_delays s silent session
    rw [heq]
    cases hruns with
    | closed _ _ hend =>
        rw [delaysOf_map_slept]
        obtain ⟨-, hlength⟩ | ⟨-, -, hdelay⟩ := hend
        · exact hlength
        · cases hdelay
    | unprepared hopen hfault =>
        exact absurd ((congrArg Except.isOk hfault).symm.trans (hprepare hopen)) Bool.false_ne_true
    | posted _ _ hcourse =>
        rw [delaysOf_recordOf, List.length_map]
        obtain ⟨-, hlength | hfinal⟩ | ⟨-, -, -, hdelay⟩ := hcourse.stop_cases
        · exact hlength
        · obtain ⟨_, hlast⟩ := hcourse.exists_post_eq_lastAnswer
          rw [← hlast] at hfinal
          cases hfinal
        · cases hdelay
  have hpowers : call.delays s silent session =
      (List.range (call.delays s silent session).length).map fun i =>
        s.backoffBase * s.backoffFactor ^ (0 + i) :=
    (call.delays_spec s silent session).eq_powers fun _ => rfl
  rw [hpowers, hlength]
  simp only [Nat.zero_add]

section Signs

variable (hbase : 0 < s.backoffBase)

include hbase

/-- With the second retry, the sign of the factor is the sign of a delay. -/
theorem neverNegative_iff (hjitter : 0 ≤ s.backoffJitter) :
    NeverNegative s ↔ s.maxRetries ≤ 1 ∨ 0 ≤ s.backoffFactor := by
  constructor
  · intro hnever
    by_contra hnot
    obtain ⟨hretries, hfactor⟩ := not_or.1 hnot
    let call : Call Rat := { method := "getHealth", params := .null, timeout := none }
    let closed : Session (Connection Unit) := { world := { isOpen := false, outside := () } }
    have hsecond : s.backoffBase * s.backoffFactor ^ 1 ∈ call.delays s silent closed := by
      rw [call.delays_silent s closed nofun]
      exact List.mem_map.2 ⟨1, List.mem_range.2 (by omega), rfl⟩
    have hle := hnever Unit silent (fun _ => ⟨le_refl 0, one_pos⟩) call closed _ hsecond
    have hlt : s.backoffBase * s.backoffFactor ^ 1 < 0 := by
      rw [pow_one]
      exact mul_neg_of_pos_of_neg hbase (not_le.1 hfactor)
    exact absurd hle (not_le.2 hlt)
  · intro hsettings ω carrier hcarrier call session d hd
    obtain ⟨i, hi, w, rfl⟩ := Delays.exists_of_mem (call.delays_spec s carrier session) hd
    have hpower : 0 ≤ s.backoffFactor ^ (0 + i) := by
      obtain hretries | hfactor := hsettings
      · have hfirst : i = 0 := by omega
        rw [hfirst, pow_zero]
        exact zero_le_one
      · exact pow_nonneg hfactor _
    have hrandom := mul_nonneg (hcarrier w).1 hjitter
    have hfixed := mul_nonneg hbase.le hpower
    linarith

/-- The second delay is shorter than the first when the factor is less than one. -/
theorem neverDecreasing_iff : NeverDecreasing s ↔ s.maxRetries ≤ 1 ∨ 1 ≤ s.backoffFactor := by
  constructor
  · intro hnever
    by_contra hnot
    obtain ⟨hretries, hfactor⟩ := not_or.1 hnot
    let call : Call Rat := { method := "getHealth", params := .null, timeout := none }
    let closed : Session (Connection Unit) := { world := { isOpen := false, outside := () } }
    have hpairs := hnever Unit silent (fun _ => rfl) call closed
    rw [call.delays_silent s closed nofun, List.pairwise_map, List.pairwise_iff_getElem] at hpairs
    have hle := hpairs 0 1 (by rw [List.length_range]; omega) (by rw [List.length_range]; omega) one_pos
    rw [List.getElem_range, List.getElem_range, pow_zero, pow_one, mul_le_mul_iff_right₀ hbase] at hle
    exact hfactor hle
  · intro hsettings ω carrier hzero call session
    have hdelays := call.delays_spec s carrier session
    have hlength := hdelays.length_le
    have hpowers := Delays.eq_powers hdelays hzero
    rw [hpowers, List.pairwise_map]
    refine List.pairwise_lt_range.imp_of_mem fun _ hlater hlt => ?_
    obtain hretries | hfactor := hsettings
    · have := List.mem_range.1 hlater
      omega
    · exact mul_le_mul_of_nonneg_left (pow_le_pow_right₀ hfactor (by omega)) hbase.le

end Signs

end Fractions

end Rpc

/-! ## Configurations -/

/-- Settings that are accepted are accepted with any other backoff factor. -/
theorem Settings.check_with_backoffFactor [Measure τ] {settings : Settings τ} {c : Config τ}
    (h : settings.check = .ok c) (x : τ) :
    ({ settings with backoffFactor := .ok x }).check = .ok { c with backoffFactor := x } := by
  -- All settings before the factor are checked in the same way.
  iterate 9 refine bind_eq_ok_imp h fun _ h => ?_
  split at h
  · cases h
  · next hpassphrase =>
      dsimp only
      rw [if_neg hpassphrase]
      iterate 5 refine bind_eq_ok_imp h fun _ h => ?_
      obtain ⟨_, -, h⟩ := exists_of_bind_eq_ok h
      have hfactor : (liftM (.ok x : Value.Read τ) : Except Fault τ) = pure x := rfl
      rw [hfactor, pure_bind]
      iterate 2 refine bind_eq_ok_imp h fun _ h => ?_
      cases h
      rfl

/-- How configurations come about: from settings with any fractions, from named fields, from environment
variables, or from another one and overrides. -/
inductive Config.IsBuilt : Config Rat → Prop where
  | settings {settings : Settings Rat} {c : Config Rat} (h : settings.check = .ok c) : IsBuilt c
  | fields {fields : List (String × Value)} {c : Config Rat} (h : Config.ofFields fields = .ok c) : IsBuilt c
  | environment {env : Environment} {start : String} {c : Config Rat}
      (h : Config.ofEnvironment env start = .ok c) : IsBuilt c
  | override {base c : Config Rat} {overrides : List (String × Value)} (hbase : IsBuilt base)
      (h : base.override overrides = .ok c) : IsBuilt c

/-- However a configuration comes about, its settings have been checked. -/
theorem Config.IsBuilt.exists_settings {c : Config Rat} (h : c.IsBuilt) :
    ∃ settings : Settings Rat, settings.check = .ok c := by
  cases h with
  | settings h => exact ⟨_, h⟩
  | fields h =>
      unfold ofFields at h
      split at h
      · exact ⟨_, h⟩
      · cases h
  | environment h =>
      obtain ⟨settings, -, h⟩ := exists_of_bind_eq_ok h
      exact ⟨settings, h⟩
  | override _ h => exact ⟨_, h⟩

/-- **Which configurations have usable delays.**  However a configuration came about, no delay is negative when
it is used if and only if it allows one retry at most, or its backoff factor is at least minus one; and the
delays of a call without a random part do not decrease if and only if it allows one retry at most, or its backoff
factor is not negative.

That is so because the delays of a call to a node that is not there are the powers of one plus the backoff
factor, as many as there are retries.  And the factor is free: settings that are accepted are accepted with any
other in its place. -/
theorem Config.delays_iff (c : Config Rat) (hbuilt : c.IsBuilt) :
    (Rpc.NeverNegative (RpcSettings.ofConfig c) ↔ c.maxRetries ≤ 1 ∨ -1 ≤ c.backoffFactor) ∧
      (Rpc.NeverDecreasing (RpcSettings.ofConfig c) ↔ c.maxRetries ≤ 1 ∨ 0 ≤ c.backoffFactor) ∧
      (∀ (call : Rpc.Call Rat) (session : Session (Connection Unit)),
        (session.world.isOpen = true → (Rpc.prepare (RpcSettings.ofConfig c)
          (call.payload (session.world.lastId + 1)) call.timeout).isOk = true) →
        call.delays (RpcSettings.ofConfig c) Rpc.silent session =
          (List.range c.maxRetries.toNat).map fun i =>
            (RpcSettings.ofConfig c).backoffBase * (1 + c.backoffFactor) ^ i) ∧
      ∃ settings : Settings Rat, settings.check = .ok c ∧
        ∀ x, ({ settings with backoffFactor := .ok x }).check = .ok { c with backoffFactor := x } := by
  have hfactor : (RpcSettings.ofConfig c).backoffFactor = 1 + c.backoffFactor := rfl
  have hretries : (RpcSettings.ofConfig c).maxRetries = c.maxRetries := rfl
  have hbase : 0 < (RpcSettings.ofConfig c).backoffBase := by
    show 0 < Binary64.toRat ⟨0x3FC3333333333333⟩
    decide +kernel
  have hjitter : 0 ≤ (RpcSettings.ofConfig c).backoffJitter := by
    show 0 ≤ Binary64.toRat ⟨0x3FC999999999999A⟩
    decide +kernel
  refine ⟨?_, ?_, fun call session => call.delays_silent _ session, ?_⟩
  · rw [Rpc.neverNegative_iff hbase hjitter, hfactor, hretries, neg_le_iff_add_nonneg']
  · rw [Rpc.neverDecreasing_iff hbase, hfactor, hretries, le_add_iff_nonneg_right]
  · obtain ⟨settings, hcheck⟩ := hbuilt.exists_settings
    exact ⟨settings, hcheck, fun x => Settings.check_with_backoffFactor hcheck x⟩

/-- With two retries and a factor of minus one half, delays decrease, but none is negative. -/
theorem Config.delays_iff_halved :
    let fields : List (String × Value) :=
      [("max_retries", .int 2), ("backoff_factor", .float ⟨0xBFE0000000000000⟩)]
    ∃ c : Config Rat, Config.ofFields fields = .ok c ∧ c.IsBuilt ∧
      Rpc.NeverNegative (RpcSettings.ofConfig c) ∧ ¬ Rpc.NeverDecreasing (RpcSettings.ofConfig c) := by
  intro fields
  have hread : ((Config.ofFields fields : Except Fault (Config Rat)).toOption.any fun c =>
      decide (c.maxRetries = 2 ∧ c.backoffFactor = -1 / 2)) = true := by decide +kernel
  cases hfields : (Config.ofFields fields : Except Fault (Config Rat)) with
  | error fault =>
      rw [hfields] at hread
      cases hread
  | ok c =>
      rw [hfields] at hread
      obtain ⟨hretries, hfactor⟩ : c.maxRetries = 2 ∧ c.backoffFactor = -1 / 2 := of_decide_eq_true hread
      obtain ⟨hnegative, hdecreasing, -⟩ := Config.delays_iff c (.fields hfields)
      rw [hretries, hfactor] at hnegative hdecreasing
      refine ⟨c, rfl, .fields hfields, hnegative.2 (.inr (by norm_num)), fun h => ?_⟩
      exact absurd (hdecreasing.1 h) (by norm_num)

/-- With two retries and a factor of minus four, the second delay of a call to a node that is not there is
negative. -/
theorem Config.negative_delay_accepted :
    let call : Rpc.Call Rat := { method := "getHealth", params := .null, timeout := none }
    let fresh : Session (Connection Unit) := { world := { outside := () } }
    ((Config.ofFields [("max_retries", .int 2), ("backoff_factor", .int (-4))] :
      Except Fault (Config Rat)).toOption.any fun c =>
        (call.delays (RpcSettings.ofConfig c) Rpc.silent fresh).any fun d => decide (d < 0)) = true := by
  decide +kernel

end LedgerFlow

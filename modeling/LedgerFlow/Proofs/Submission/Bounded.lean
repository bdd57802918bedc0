import LedgerFlow.Proofs.Clock
import LedgerFlow.Proofs.Submission.Rounds

/-!
# Polls end in time

On a clock of exact fractions, with a node that keeps the timeouts that it is given, a poll ends within
the interval times the number of attempts, and before the deadline of the caller's cancellation: that is
`Poll.limit`.  The invariant behind it is that every call and every wait fits in before the limit
(`Event.FitsIn`), so that the clock passes the limit in no round.  The bounds do not shorten a poll whose
calls take no time: then only the waits count, and all waits together take less than the budget.
-/

namespace LedgerFlow

variable {ω : Type}

namespace Surroundings

/-- No status call takes longer than its timeout and no wait takes longer than it should; neither moves
the deadline of the caller's cancellation. -/
structure Punctual (env : Surroundings ω Rat) : Prop where
  now_status {w w' : ω} {hash : String} {t : Rat} {r : Except Fault StatusReply} (hpos : 0 < t)
    (hcall : (env.node.status hash (some t)).Leads w r w') : env.now w' ≤ env.now w + t
  now_sleep {w : ω} {delay : Rat} (hpos : 0 < delay) :
    env.now (env.sleep delay w) ≤ env.now w + delay
  deadline_status {w w' : ω} {hash : String} {timeout : Option Rat} {r : Except Fault StatusReply}
    (hcall : (env.node.status hash timeout).Leads w r w') :
    (env.callerCancellation w').deadline = (env.callerCancellation w).deadline
  deadline_sleep (w : ω) (delay : Rat) :
    (env.callerCancellation (env.sleep delay w)).deadline = (env.callerCancellation w).deadline

end Surroundings

/-- On fractions nothing is rounded. -/
theorem Amount.times_eq (a : Amount Rat) (n : Int) : a.times n = a.toTime * n := by
  cases a with
  | truth b => exact Rat.intCast_mul _ n
  | whole m => exact Rat.intCast_mul m n
  | real x => rfl

/-- On fractions no time is too large, so settings with attempts are not refused. -/
theorem PollSettings.refusal?_eq_none {settings : PollSettings Rat} (hmax : 1 ≤ settings.maxAttempts) :
    settings.refusal? = none :=
  refusal?_eq_none_iff.2 ⟨hmax, Bool.and_false _⟩

/-- A call of a poll has a positive timeout, or a wait a positive duration, that ends before a limit. -/
def Event.FitsIn (env : Surroundings ω Rat) (limit : Rat) : Event ω Rat → Prop
  | .status before _ timeout _ => ∃ t, timeout = some t ∧ 0 < t ∧ env.now before + t ≤ limit
  | .sleep before delay => 0 < delay ∧ env.now before + delay ≤ limit
  | _ => False

namespace Poll

/-- The time at which a poll ends at the latest: when the time for all attempts is over, or at the
deadline. -/
def limit (settings : PollSettings Rat) (start : Rat) (deadline : Option Rat) : Rat :=
  let full := start + settings.interval * settings.maxAttempts
  deadline.elim full (min full)

variable {env : Surroundings ω Rat} {settings : PollSettings Rat} {start t u : Rat} {w w' : ω}
  {timeout : Option Rat}

theorem budget_of_pos (hinterval : 0 < settings.interval) : budget settings start =
    { deadline := some (start + settings.interval * settings.maxAttempts), requested := false } := by
  unfold budget
  rw [if_pos hinterval, Amount.times_eq]
  rfl

/-- With an interval every timeout of a poll is bounded. -/
theorem exists_bounded (env : Surroundings ω Rat) (start : Rat)
    (hinterval : 0 < settings.interval) (w : ω) (timeout : Option Rat) :
    ∃ b, (budget settings start).bounded (env.now w) timeout = some b := by
  rw [budget_of_pos hinterval]
  exact ⟨_, Cancellation.bounded_of_remaining rfl⟩

/-- A timeout of a poll is the time that remains of its budget or of the caller's cancellation, or the
given one. -/
theorem bounded_cases {budget : Cancellation Rat} (h : bounded env budget w timeout = some u) :
    (env.callerCancellation w).remaining (env.now w) = some u ∨
      budget.remaining (env.now w) = some u ∨ timeout = some u := by
  rw [bounded_eq] at h
  exact (Cancellation.bounded_cases h).imp_right Cancellation.bounded_cases

/-- A positive timeout of a poll ends before its limit. -/
theorem add_le_limit (hinterval : 0 < settings.interval) (hpos : 0 < u)
    (h : bounded env (budget settings start) w timeout = some u) :
    env.now w + u ≤ limit settings start (env.callerCancellation w).deadline := by
  obtain ⟨b, hb⟩ := exists_bounded env start hinterval w timeout
  rw [bounded_eq, hb] at h
  have hfull : env.now w + u ≤ start + settings.interval * settings.maxAttempts := by
    have hle : u ≤ b := Cancellation.bounded_le_timeout h
    rw [budget_of_pos hinterval] at hb
    have hfits := Cancellation.add_le_deadline rfl (lt_of_lt_of_le hpos hle) hb
    linarith
  unfold limit
  cases hdeadline : (env.callerCancellation w).deadline with
  | none => exact hfull
  | some d => exact le_min hfull (Cancellation.add_le_deadline hdeadline hpos h)

/-- Timeouts of a poll are never negative. -/
theorem bounded_nonneg {budget : Cancellation Rat} (htimeout : ∀ t ∈ timeout, 0 ≤ t)
    (h : bounded env budget w timeout = some u) : 0 ≤ u := by
  rcases bounded_cases h with hleft | hleft | hgiven
  · exact Cancellation.remaining_nonneg hleft
  · exact Cancellation.remaining_nonneg hleft
  · exact htimeout u hgiven

/-- Timeouts of an attempt that may start are positive. -/
theorem bounded_pos {budget : Cancellation Rat} (htimeout : ∀ t ∈ timeout, 0 < t)
    (hstart : isOver env budget w = false) (h : bounded env budget w timeout = some u) : 0 < u := by
  obtain ⟨hbudget, hcaller⟩ := Bool.or_eq_false_iff.1 hstart
  rw [env.hasFired_eq] at hcaller
  rcases bounded_cases h with hleft | hleft | hgiven
  · exact Cancellation.remaining_pos hcaller hleft
  · exact Cancellation.remaining_pos hbudget hleft
  · exact htimeout u hgiven

/-- A timeout of a poll is not longer than the given one. -/
theorem bounded_le {budget : Cancellation Rat} (h : bounded env budget w (some t) = some u) :
    u ≤ t := by
  obtain ⟨b, hb⟩ := budget.exists_bounded (env.now w) t
  rw [bounded_eq, hb] at h
  exact le_trans (Cancellation.bounded_le_timeout h) (Cancellation.bounded_le_timeout hb)

/-! ## Calls -/

/-- A duration that is not nothing is positive, if it is not negative. -/
theorem pos_of_isNothing (hsome : isNothing u = false) (hnonneg : 0 ≤ u) : 0 < u := by
  rcases Bool.and_eq_false_iff.1 hsome with hpos | hneg
  · exact Rat.not_le.1 (of_decide_eq_false hpos)
  · exact absurd hnonneg (of_decide_eq_false hneg)

/-- The calls of a poll fit in before its limit. -/
theorem IsCall.fitsIn {hash : String} {c : Event ω Rat} (hinterval : 0 < settings.interval)
    (htimeout : ∀ t ∈ settings.timeout, 0 < t)
    (h : IsCall env settings (budget settings start) hash c) :
    c.FitsIn env (limit settings start (env.callerCancellation c.before).deadline) := by
  cases h with
  | @status w answer hstart =>
      obtain ⟨b, hb⟩ := exists_bounded env start hinterval w settings.timeout
      obtain ⟨u, hu⟩ := (env.callerCancellation w).exists_bounded (env.now w) b
      have hbounded : bounded env (budget settings start) w settings.timeout = some u := by
        rw [bounded_eq, hb, hu]
      have hpos := bounded_pos htimeout hstart hbounded
      exact ⟨u, hbounded, hpos, add_le_limit hinterval hpos hbounded⟩
  | @wait w delay hdelay hsome =>
      have hnonneg : 0 ≤ delay := by
        refine bounded_nonneg (fun t ht => ?_) hdelay
        obtain rfl := Option.some.inj ht
        exact le_of_lt hinterval
      have hpos := pos_of_isNothing hsome hnonneg
      exact ⟨hpos, add_le_limit hinterval hpos hdelay⟩

/-! ## Rounds -/

variable {budget : Cancellation Rat} {left : Nat} {number : Int} {p : Progress}
  {calls : List (Event ω Rat)} {e : Ending}

/-- The deadline is the same before every call of a poll. -/
theorem Rounds.deadline_eq (hpunctual : env.Punctual)
    (h : Rounds env settings budget left number p w calls w' e) :
    ∀ c ∈ calls, (env.callerCancellation c.before).deadline = (env.callerCancellation w).deadline := by
  induction h with
  | exhausted => exact List.forall_mem_nil _
  | stopped => exact List.forall_mem_nil _
  | ended => exact List.forall_mem_singleton.2 rfl
  | @again left number p p' w w₁ w' answer rest e hstart hcall hnext hrest ih =>
      have hcall' := hpunctual.deadline_status hcall
      rw [List.forall_mem_cons, List.forall_mem_append]
      refine ⟨rfl, ?_, ?_⟩
      · intro c hc
        obtain ⟨delay, -, rfl⟩ := List.mem_map.1 hc
        exact hcall'
      · intro c hc
        rw [ih c hc, ← hcall']
        cases delay? env settings budget left w₁ with
        | none => rfl
        | some delay => exact hpunctual.deadline_sleep w₁ delay

/-- What the clock shows after the pause between two rounds. -/
theorem now_pause_le (hpunctual : env.Punctual) {limit x : Rat}
    (hfits : ∀ c ∈ (delay? env settings budget left w).toList.map (Event.sleep w),
      c.FitsIn env limit)
    (hnow : env.now w ≤ x)
    (hwait : ∀ delay, delay? env settings budget left w = some delay → env.now w + delay ≤ x) :
    env.now ((delay? env settings budget left w).elim w fun delay => env.sleep delay w) ≤ x := by
  cases hdelay : delay? env settings budget left w with
  | none => exact hnow
  | some delay =>
      obtain ⟨hpos, -⟩ := hfits (.sleep w delay) (by simp [hdelay])
      exact le_trans (hpunctual.now_sleep hpos) (hwait delay hdelay)

/-- While every call and every wait fits in before a limit the clock does not pass it. -/
theorem Rounds.now_le (hpunctual : env.Punctual) {limit : Rat}
    (h : Rounds env settings budget left number p w calls w' e)
    (hfits : ∀ c ∈ calls, c.FitsIn env limit) : env.now w' ≤ max (env.now w) limit := by
  induction h with
  | exhausted => exact le_max_left _ _
  | stopped => exact le_max_left _ _
  | ended hstart hcall hend =>
      obtain ⟨t, ht, hpos, hle⟩ := List.forall_mem_singleton.1 hfits
      rw [ht] at hcall
      exact le_max_of_le_right (le_trans (hpunctual.now_status hpos hcall) hle)
  | @again left number p p' w w₁ w' answer rest e hstart hcall hnext hrest ih =>
      rw [List.forall_mem_cons, List.forall_mem_append] at hfits
      obtain ⟨⟨t, ht, hpos, hle⟩, hpause, hfits⟩ := hfits
      rw [ht] at hcall
      have hnow₁ : env.now w₁ ≤ limit := le_trans (hpunctual.now_status hpos hcall) hle
      have hnow₂ := now_pause_le hpunctual hpause hnow₁ fun delay hdelay =>
        (hpause (.sleep w₁ delay) (by simp [hdelay])).2
      calc
        env.now w' ≤ max _ limit := ih hfits
        _ ≤ limit := max_le hnow₂ (le_refl limit)
        _ ≤ max (env.now w) limit := le_max_right _ _

/-- When status calls take no time, only the waits let it pass, an interval each at most. -/
theorem Rounds.now_le_of_instant (hpunctual : env.Punctual)
    (hinstant : ∀ hash timeout w r w', (env.node.status hash timeout).Leads w r w' →
      env.now w' = env.now w) {limit : Rat}
    (h : Rounds env settings budget left number p w calls w' e)
    (hfits : ∀ c ∈ calls, c.FitsIn env limit) (hinterval : 0 < settings.interval) :
    env.now w' ≤ env.now w + settings.interval * (statusAnswers calls).length := by
  induction h with
  | exhausted => simp
  | stopped => simp
  | ended hstart hcall hend =>
      rw [hinstant _ _ _ _ _ hcall]
      simp [le_of_lt hinterval]
  | @again left number p p' w w₁ w' answer rest e hstart hcall hnext hrest ih =>
      rw [List.forall_mem_cons, List.forall_mem_append] at hfits
      obtain ⟨-, hpause, hfits⟩ := hfits
      have hnow₁ := hinstant _ _ _ _ _ hcall
      have hnow₂ := now_pause_le (x := env.now w + settings.interval) hpunctual hpause
        (by linarith) fun delay hdelay => by
          obtain ⟨-, hbounded, -⟩ := delay?_eq_some hdelay
          have hle := bounded_le hbounded
          linarith
      have hrest := ih hfits
      have hlength : (statusAnswers (.status w p.submission.hash
            (bounded env budget w settings.timeout) answer ::
              ((delay? env settings budget left w₁).toList.map (Event.sleep w₁) ++ rest))).length =
          (statusAnswers rest).length + 1 := by
        simp
      rw [hlength]
      push_cast
      linarith

/-- When status calls take no time and nothing is conclusive, all attempts are made before the budget
is over. -/
theorem Rounds.length_eq_of_instant (hpunctual : env.Punctual)
    (hinstant : ∀ hash timeout w r w', (env.node.status hash timeout).Leads w r w' →
      env.now w' = env.now w) {limit : Rat} (hinterval : 0 < settings.interval)
    (h : Rounds env settings (Poll.budget settings (env.now w)) settings.maxAttempts.toNat number p w
      calls w' e)
    (hpending : p.submission.isTerminal = false) (hfits : ∀ c ∈ calls, c.FitsIn env limit)
    (hall : ∀ a ∈ statusAnswers calls, isInconclusive a = true)
    (hunfired : env.hasFired w' = false) :
    (statusAnswers calls).length = settings.maxAttempts.toNat := by
  rcases h.ending hpending with ⟨-, hlast | hover, -⟩ | ⟨earlier, a, hsplit, -, ha, -⟩
  · exact hlast
  · -- The budget would have fired, so the waits alone would have used it up.
    rw [isOver, hunfired, Bool.or_false, budget_of_pos hinterval] at hover
    have hfull : env.now w + settings.interval * settings.maxAttempts ≤ env.now w' :=
      of_decide_eq_true hover
    have hnow := h.now_le_of_instant hpunctual hinstant hfits hinterval
    have hcount : settings.interval * settings.maxAttempts ≤
        settings.interval * ((statusAnswers calls).length : Int) := by
      push_cast
      linarith
    have hmax : settings.maxAttempts ≤ (statusAnswers calls).length :=
      Int.cast_le.1 (le_of_mul_le_mul_left hcount hinterval)
    have hle := h.length_le
    omega
  · have hinconclusive := hall a (by simp [hsplit])
    rw [ha] at hinconclusive
    cases hinconclusive

end Poll

namespace Submission

/-- **Polls end in time.**  The clock does not pass the limit, and every call and every wait fits in
before it.  The bounds never shorten a poll whose calls take no time: if nothing is conclusive and the
cancellation does not fire, all attempts are made. -/
theorem poll_bounded {env : Surroundings ω Rat} (hpunctual : env.Punctual)
    (settings : PollSettings Rat) (hinterval : 0 < settings.interval)
    (hmax : 1 ≤ settings.maxAttempts) (htimeout : ∀ t ∈ settings.timeout, 0 < t) {s : Submission}
    (hpending : s.isTerminal = false) (w : ω) (log : List LogRecord) :
    let calls := s.pollCalls env settings w log
    let stop := ((s.poll env settings).run ⟨w, log⟩).2.world
    let limit := Poll.limit settings (env.now w) (env.callerCancellation w).deadline
    env.now stop ≤ max (env.now w) limit ∧ (∀ c ∈ calls, c.FitsIn env limit) ∧
      ((∀ hash timeout w r w', (env.node.status hash timeout).Leads w r w' →
          env.now w' = env.now w) →
        (∀ a ∈ statusAnswers calls, Poll.isInconclusive a = true) → env.hasFired stop = false →
        (statusAnswers calls).length = settings.maxAttempts) := by
  intro calls stop limit
  have hrounds := rounds_poll env settings s w log (PollSettings.refusal?_eq_none hmax) hpending
  have hfits : ∀ c ∈ calls, c.FitsIn env limit := by
    intro c hc
    have hcall := (hrounds.isCall c hc).fitsIn hinterval htimeout
    rw [hrounds.deadline_eq hpunctual c hc] at hcall
    exact hcall
  refine ⟨hrounds.now_le hpunctual hfits, hfits, ?_⟩
  intro hinstant hall hunfired
  have hlength := hrounds.length_eq_of_instant hpunctual hinstant hinterval hpending hfits hall hunfired
  rw [hlength]
  exact Int.toNat_of_nonneg (by omega)

/-- The node of `Poll.hesitant` takes half of each timeout. -/
theorem punctual_hesitant : Poll.hesitant.Punctual where
  now_status {w w' hash t r} hpos hcall := by
    obtain ⟨log, log', hout⟩ := hcall
    obtain ⟨now, calls⟩ := w
    have hworld : (now + t / 2, calls + 1) = w' := by
      -- The answer depends on the count of the calls, the time does not.
      rcases calls with _ | _ | calls <;> exact congrArg (fun o => o.2.world) hout
    rw [← hworld]
    show now + t / 2 ≤ now + t
    linarith
  now_sleep _ := le_refl _
  deadline_status _ := rfl
  deadline_sleep _ _ := rfl

/-- Surroundings with a clock and without a cancellation; the node answers at once that it does not know
the transaction. -/
def ignorant : Surroundings Rat Rat where
  node :=
    { simulate := fun _ _ => pure {}
      send := fun _ _ => pure { status := "PENDING", hash := "ab" }
      status := fun _ _ => pure { status := "NOT_FOUND" }
      latestLedger := fun _ => pure { sequence := 100 } }
  signer := fun payload _ => pure (.bytes payload)
  now := fun w => w
  cancellation := fun _ => none
  sleep := fun duration w => w + duration

theorem now_status_ignorant {hash : String} {timeout : Option Rat} {w w' : Rat}
    {r : Except Fault StatusReply} (h : (ignorant.node.status hash timeout).Leads w r w') : w' = w := by
  obtain ⟨log, log', hout⟩ := h
  exact (congrArg (fun o => o.2.world) hout).symm

theorem punctual_ignorant : ignorant.Punctual where
  now_status {w w' hash t r} hpos hcall := by
    rw [now_status_ignorant hcall]
    show w ≤ w + t
    linarith
  now_sleep _ := le_refl _
  deadline_status _ := rfl
  deadline_sleep _ _ := rfl

/-- One poll ends at the deadline that cuts its second wait short; another one, whose calls take no
time, makes all its attempts. -/
theorem poll_bounded_hesitant :
    let settings : PollSettings Rat := ⟨.whole 4, 3, some 3⟩
    let s := fresh "ab" none none
    let stop := ((s.poll Poll.hesitant settings).run ⟨(0, 0), []⟩).2.world
    let limit := Poll.limit settings 0 (Poll.hesitant.callerCancellation (0, 0)).deadline
    0 < settings.interval ∧ 1 ≤ settings.maxAttempts ∧ (∀ t ∈ settings.timeout, 0 < t) ∧
      s.isTerminal = false ∧
      (Poll.hesitant.Punctual ∧ limit = 10 ∧ stop.1 = 10 ∧ stop.1 ≤ max 0 limit ∧
        ∀ c ∈ s.pollCalls Poll.hesitant settings (0, 0) [], c.FitsIn Poll.hesitant limit) ∧
      ignorant.Punctual ∧
        (statusAnswers (s.pollCalls ignorant settings 0 [])).length = settings.maxAttempts := by
  intro settings s stop limit
  have htimeout : ∀ t ∈ settings.timeout, 0 < t := by
    intro t ht
    obtain rfl := Option.some.inj ht
    decide
  obtain ⟨hstop, hfits, -⟩ := poll_bounded (s := s) punctual_hesitant settings
    (by decide) (by decide) htimeout rfl (0, 0) []
  obtain ⟨-, -, hattempts⟩ := poll_bounded (s := s) punctual_ignorant settings
    (by decide) (by decide) htimeout rfl 0 []
  refine ⟨by decide, by decide, htimeout, rfl, ⟨punctual_hesitant, ?_, ?_, hstop, hfits⟩,
    punctual_ignorant, hattempts ?_ ?_ rfl⟩
  · decide +kernel
  · decide +kernel
  · intro hash timeout w r w' hcall
    exact now_status_ignorant hcall
  · decide +kernel

end Submission
end LedgerFlow

import LedgerFlow.Node
import LedgerFlow.Proofs.Session

/-!
# Calls on record

`Surroundings.recorded` are surroundings that also write down every call to a capability: the world
before it, what the call was given, and its answer.  Nothing else about them changes, and what is
written down is never read, so a computation in recorded surroundings does what it does in the plain
ones.

`Shadows` states that together with what is written down: a `Trail`, in which every call starts in the
world that the one before it left behind, and a bound on the calls that are made.  It is closed under
the ways in which stages are built, so one lemma for each stage says both that the record does not
disturb it and which calls it makes.
-/

namespace LedgerFlow

/-- One call to a capability, with the world before it. -/
inductive Event (ω τ : Type) where
  | simulate (before : ω) (tx : Transaction) (timeout : Option τ) (answer : Except Fault Simulation)
  | send (before : ω) (envelope : Envelope) (timeout : Option τ) (answer : Except Fault SendReply)
  | status (before : ω) (hash : String) (timeout : Option τ) (answer : Except Fault StatusReply)
  | latestLedger (before : ω) (timeout : Option τ) (answer : Except Fault LatestLedger)
  | sign (before : ω) (payload : Bytes) (address : String) (answer : Except Fault Value)
  | sleep (before : ω) (duration : τ)

/-- The world before a call. -/
def Event.before {ω τ : Type} : Event ω τ → ω
  | .simulate before .. | .send before .. | .status before .. | .latestLedger before ..
  | .sign before .. | .sleep before _ => before

/-- A world with the calls made so far. -/
abbrev Recorded (ω τ : Type) := ω × List (Event ω τ)

variable {ω τ α β : Type}

/-- A call that is written down when it has been answered. -/
def recordCall (event : ω → Except Fault α → Event ω τ) (x : Stage ω α) : Stage (Recorded ω τ) α :=
  ExceptT.mk fun s =>
    let (r, s') := x.outcome { world := s.world.1, log := s.log }
    (r, { world := (s'.world, s.world.2 ++ [event s.world.1 r]), log := s'.log })

/-- Whether a stage that starts in a world may end in another one with a result. -/
def Stage.Leads (x : Stage ω α) (w : ω) (r : Except Fault α) (w' : ω) : Prop :=
  ∃ log log', x.outcome ⟨w, log⟩ = (r, ⟨w', log'⟩)

/-- Whether the capability that is called answers as the call says and leaves a world behind. -/
def Event.Leads (env : Surroundings ω τ) (w' : ω) : Event ω τ → Prop
  | .simulate w tx timeout answer => (env.node.simulate tx timeout).Leads w answer w'
  | .send w envelope timeout answer => (env.node.send envelope timeout).Leads w answer w'
  | .status w hash timeout answer => (env.node.status hash timeout).Leads w answer w'
  | .latestLedger w timeout answer => (env.node.latestLedger timeout).Leads w answer w'
  | .sign w payload address answer => (env.signer payload address).Leads w answer w'
  | .sleep w duration => w' = env.sleep duration w

/-- Whether a call of a capability is written down as it was made. -/
structure Describes (env : Surroundings ω τ) (event : ω → Except Fault α → Event ω τ)
    (x : Stage ω α) : Prop where
  before : ∀ w r, (event w r).before = w := by exact fun _ _ => rfl
  leads : ∀ {w r w'}, x.Leads w r w' → (event w r).Leads env w' := by exact fun h => h

/-- Calls that follow one another, from a world to a world. -/
inductive Trail (env : Surroundings ω τ) : ω → List (Event ω τ) → ω → Prop where
  | nil {w : ω} : Trail env w [] w
  | cons {call : Event ω τ} {calls : List (Event ω τ)} {w w' : ω} (hcall : call.Leads env w)
      (hrest : Trail env w calls w') : Trail env call.before (call :: calls) w'

namespace Trail

variable {env : Surroundings ω τ} {calls more : List (Event ω τ)} {w w₁ w' : ω}

theorem append (h : Trail env w calls w₁) (h' : Trail env w₁ more w') :
    Trail env w (calls ++ more) w' := by
  induction h with
  | nil => exact h'
  | cons hcall hrest ih => exact .cons hcall (ih h')

theorem singleton {call : Event ω τ} (hbefore : call.before = w) (hcall : call.Leads env w') :
    Trail env w [call] w' := by
  rw [← hbefore]
  exact .cons hcall .nil

theorem eq_of_nil (h : Trail env w [] w') : w' = w := by
  cases h
  rfl

/-- Where calls start that end in a world. -/
def start (calls : List (Event ω τ)) (stop : ω) : ω := calls.head?.elim stop Event.before

/-- The calls up to some point lead to where the rest of them starts. -/
theorem split (h : Trail env w (calls ++ more) w') :
    Trail env w calls (start more w') ∧ Trail env (start more w') more w' := by
  induction calls generalizing w with
  | nil =>
      cases h with
      | nil => exact ⟨.nil, .nil⟩
      | cons hcall hrest => exact ⟨.nil, .cons hcall hrest⟩
  | cons c calls ih =>
      cases h with
      | cons hcall hrest =>
          obtain ⟨hcalls, hmore⟩ := ih hrest
          exact ⟨.cons hcall hcalls, hmore⟩

/-- What no call undoes holds before every call, once it holds, and in the end. -/
theorem forall_before (holds : ω → Prop)
    (hkept : ∀ (c : Event ω τ) w', c.Leads env w' → holds c.before → holds w')
    (h : Trail env w calls w') (hw : holds w) : (∀ c ∈ calls, holds c.before) ∧ holds w' := by
  induction h with
  | nil => exact ⟨List.forall_mem_nil _, hw⟩
  | cons hcall hrest ih =>
      obtain ⟨hcalls, hstop⟩ := ih (hkept _ _ hcall hw)
      exact ⟨List.forall_mem_cons.2 ⟨hw, hcalls⟩, hstop⟩

end Trail

namespace Surroundings

/-- The same surroundings, with every call on record. -/
def recorded (env : Surroundings ω τ) : Surroundings (Recorded ω τ) τ where
  node :=
    { simulate := fun tx timeout =>
        recordCall (fun w => .simulate w tx timeout) (env.node.simulate tx timeout)
      send := fun envelope timeout =>
        recordCall (fun w => .send w envelope timeout) (env.node.send envelope timeout)
      status := fun hash timeout =>
        recordCall (fun w => .status w hash timeout) (env.node.status hash timeout)
      latestLedger := fun timeout =>
        recordCall (fun w => .latestLedger w timeout) (env.node.latestLedger timeout) }
  signer := fun payload address =>
    recordCall (fun w => .sign w payload address) (env.signer payload address)
  now := fun w => env.now w.1
  cancellation := fun w => env.cancellation w.1
  sleep := fun duration w => (env.sleep duration w.1, w.2 ++ [.sleep w.1 duration])

end Surroundings

/-- The first computation does what the second does and writes down the calls that it makes, all of
them allowed. -/
def Mirrors (env : Surroundings ω τ) (allowed : Event ω τ → Prop)
    (x : StateM (Session (Recorded ω τ)) α) (y : StateM (Session ω) α) : Prop :=
  ∀ w events log, ∃ new,
    x.run ⟨(w, events), log⟩ =
      ((y.run ⟨w, log⟩).1, ⟨((y.run ⟨w, log⟩).2.world, events ++ new), (y.run ⟨w, log⟩).2.log⟩) ∧
    Trail env w new (y.run ⟨w, log⟩).2.world ∧ ∀ e ∈ new, allowed e

namespace Mirrors

variable {env : Surroundings ω τ} {allowed : Event ω τ → Prop}

theorem mono {allowed' : Event ω τ → Prop} {x : StateM (Session (Recorded ω τ)) α}
    {y : StateM (Session ω) α} (h : Mirrors env allowed x y) (himp : ∀ e, allowed e → allowed' e) :
    Mirrors env allowed' x y := by
  intro w events log
  obtain ⟨new, hrun, htrail, hnew⟩ := h w events log
  exact ⟨new, hrun, htrail, fun e he => himp e (hnew e he)⟩

/-- A computation that makes no calls and leaves the world alone. -/
theorem of_silent {x : StateM (Session (Recorded ω τ)) α} {y : StateM (Session ω) α}
    (h : ∀ w events log, x.run ⟨(w, events), log⟩ =
      ((y.run ⟨w, log⟩).1, ⟨(w, events), (y.run ⟨w, log⟩).2.log⟩))
    (hworld : ∀ w log, (y.run ⟨w, log⟩).2.world = w) : Mirrors env allowed x y := by
  intro w events log
  refine ⟨[], ?_, ?_, fun e he => absurd he List.not_mem_nil⟩
  · rw [h, hworld, List.append_nil]
  · rw [hworld]
    exact .nil

theorem pure (a : α) :
    Mirrors env allowed (Pure.pure a : StateM (Session (Recorded ω τ)) α) (Pure.pure a) :=
  of_silent (fun _ _ _ => rfl) fun _ _ => rfl

theorem bind {x : StateM (Session (Recorded ω τ)) α} {y : StateM (Session ω) α}
    {f : α → StateM (Session (Recorded ω τ)) β} {g : α → StateM (Session ω) β}
    (hx : Mirrors env allowed x y) (hf : ∀ a, Mirrors env allowed (f a) (g a)) :
    Mirrors env allowed (x >>= f) (y >>= g) := by
  intro w events log
  obtain ⟨new, hrun, htrail, hnew⟩ := hx w events log
  obtain ⟨more, hrun', htrail', hmore⟩ := hf (y.run ⟨w, log⟩).1 (y.run ⟨w, log⟩).2.world
    (events ++ new) (y.run ⟨w, log⟩).2.log
  refine ⟨new ++ more, ?_, htrail.append htrail', ?_⟩
  · show (f (x.run ⟨(w, events), log⟩).1).run (x.run ⟨(w, events), log⟩).2 = _
    rw [hrun, hrun', List.append_assoc]
    rfl
  · intro e he
    rcases List.mem_append.1 he with he | he
    · exact hnew e he
    · exact hmore e he

theorem record (level : Level) (message : String) :
    Mirrors env allowed (Stage.record level message : StateM (Session (Recorded ω τ)) Unit)
      (Stage.record level message) :=
  of_silent (fun _ _ _ => rfl) fun _ _ => rfl

/-- A computation that goes on from the world, of which it sees only what is not on record. -/
theorem world_bind {f : Recorded ω τ → StateM (Session (Recorded ω τ)) β}
    {g : ω → StateM (Session ω) β} (hf : ∀ w events, Mirrors env allowed (f (w, events)) (g w)) :
    Mirrors env allowed (Stage.world >>= f) (Stage.world >>= g) := by
  intro w events log
  exact hf w events w events log

theorem forM {γ : Type} {f : γ → StateM (Session (Recorded ω τ)) Unit}
    {g : γ → StateM (Session ω) Unit} (hf : ∀ c, Mirrors env allowed (f c) (g c)) (cs : List γ) :
    Mirrors env allowed (cs.forM f) (cs.forM g) := by
  induction cs with
  | nil => exact pure ()
  | cons c cs ih => exact bind (hf c) fun _ => ih

theorem recordEvents (level : Level) (context : String) (events : List String) :
    Mirrors env allowed
      (Stage.recordEvents level context events : StateM (Session (Recorded ω τ)) Unit)
      (Stage.recordEvents level context events) :=
  forM (fun _ => record _ _) _

/-- A call in recorded surroundings is the call, written down. -/
theorem recordCall {event : ω → Except Fault α → Event ω τ} (x : Stage ω α)
    (hevent : Describes env event x) (h : ∀ w r, allowed (event w r)) :
    Mirrors env allowed (recordCall event x).run x.run := by
  intro w events log
  refine ⟨[event w (x.outcome ⟨w, log⟩).1], rfl, ?_, ?_⟩
  · exact Trail.singleton (hevent.before w _) (hevent.leads ⟨log, _, rfl⟩)
  · intro e he
    rw [List.mem_singleton.1 he]
    exact h w _

theorem wait (env : Surroundings ω τ) (duration : τ) (h : ∀ w, allowed (.sleep w duration)) :
    Mirrors env allowed (env.recorded.wait duration : StateM (Session (Recorded ω τ)) Unit)
      (env.wait duration) := by
  intro w events log
  refine ⟨[.sleep w duration], rfl, Trail.singleton rfl rfl, ?_⟩
  intro e he
  rw [List.mem_singleton.1 he]
  exact h w

end Mirrors

/-! ## Stages -/

/-- The first stage does what the second does and writes down calls, all of them allowed. -/
def Shadows (env : Surroundings ω τ) (allowed : Event ω τ → Prop) (x : Stage (Recorded ω τ) α)
    (y : Stage ω α) : Prop :=
  Mirrors env allowed x.run y.run

namespace Shadows

variable {env : Surroundings ω τ} {allowed : Event ω τ → Prop}

theorem mono {allowed' : Event ω τ → Prop} {x : Stage (Recorded ω τ) α} {y : Stage ω α}
    (h : Shadows env allowed x y) (himp : ∀ e, allowed e → allowed' e) : Shadows env allowed' x y :=
  Mirrors.mono h himp

theorem pure (a : α) :
    Shadows env allowed (Pure.pure a : Stage (Recorded ω τ) α) (Pure.pure a : Stage ω α) :=
  Mirrors.pure _

theorem ofExcept (r : Except Fault α) :
    Shadows env allowed (Stage.ofExcept r : Stage (Recorded ω τ) α) (Stage.ofExcept r) := by
  cases r <;> exact Mirrors.pure _

theorem throw (f : Fault) :
    Shadows env allowed (MonadExcept.throw f : Stage (Recorded ω τ) α) (MonadExcept.throw f) :=
  Mirrors.pure _

theorem fail (e : PipelineError) :
    Shadows env allowed (Stage.fail e : Stage (Recorded ω τ) α) (Stage.fail e) :=
  throw _

theorem bind {x : Stage (Recorded ω τ) α} {y : Stage ω α} {f : α → Stage (Recorded ω τ) β}
    {g : α → Stage ω β} (hx : Shadows env allowed x y) (hf : ∀ a, Shadows env allowed (f a) (g a)) :
    Shadows env allowed (x >>= f) (y >>= g) := by
  -- A fault ends both in the same way, and after a result both go on.
  have hcont : ∀ r, Mirrors env allowed (ExceptT.bindCont f r) (ExceptT.bindCont g r) := by
    intro r
    cases r with
    | ok a => exact hf a
    | error e => exact Mirrors.pure _
  exact Mirrors.bind hx hcont

theorem attempt {x : Stage (Recorded ω τ) α} {y : Stage ω α} (hx : Shadows env allowed x y) :
    Shadows env allowed (Stage.attempt x) (Stage.attempt y) :=
  Mirrors.bind hx fun _ => Mirrors.pure _

theorem lift {x : StateM (Session (Recorded ω τ)) α} {y : StateM (Session ω) α}
    (hx : Mirrors env allowed x y) :
    Shadows env allowed (liftM x : Stage (Recorded ω τ) α) (liftM y : Stage ω α) :=
  Mirrors.bind hx fun _ => Mirrors.pure _

theorem world_bind {f : Recorded ω τ → Stage (Recorded ω τ) β} {g : ω → Stage ω β}
    (hf : ∀ w events, Shadows env allowed (f (w, events)) (g w)) :
    Shadows env allowed (Stage.world >>= f) (Stage.world >>= g) := by
  intro w events log
  exact hf w events w events log

theorem record (level : Level) (message : String) :
    Shadows env allowed (Stage.record level message : Stage (Recorded ω τ) Unit)
      (Stage.record level message) :=
  Mirrors.of_silent (fun _ _ _ => rfl) fun _ _ => rfl

theorem recordEvents (level : Level) (context : String) (events : List String) :
    Shadows env allowed (Stage.recordEvents level context events : Stage (Recorded ω τ) Unit)
      (Stage.recordEvents level context events) := by
  unfold Stage.recordEvents
  induction events.zipIdx with
  | nil => exact pure ()
  | cons e es ih => exact bind (record _ _) fun _ => ih

theorem recordCall {event : ω → Except Fault α → Event ω τ} (x : Stage ω α)
    (hevent : Describes env event x) (h : ∀ w r, allowed (event w r)) :
    Shadows env allowed (recordCall event x) x :=
  Mirrors.recordCall x hevent h

/-- The outcome of a stage on record is that of the stage, and the record grows by the allowed calls
that the stage makes. -/
theorem outcome {x : Stage (Recorded ω τ) α} {y : Stage ω α} (h : Shadows env allowed x y) (w : ω)
    (events : List (Event ω τ)) (log : List LogRecord) :
    ∃ new, x.outcome ⟨(w, events), log⟩ = ((y.outcome ⟨w, log⟩).1,
        ⟨((y.outcome ⟨w, log⟩).2.world, events ++ new), (y.outcome ⟨w, log⟩).2.log⟩) ∧
      Trail env w new (y.outcome ⟨w, log⟩).2.world ∧ ∀ e ∈ new, allowed e :=
  h w events log

/-! ## What is on record -/

variable {x : Stage (Recorded ω τ) α} {y : Stage ω α} {s : Session (Recorded ω τ)}
  {e : Event ω τ}

/-- The record grows by the calls that the stage makes. -/
theorem exists_calls (h : Shadows env allowed x y) (s : Session (Recorded ω τ)) :
    ∃ new, (x.outcome s).2.world.2 = s.world.2 ++ new ∧
      Trail env s.world.1 new (x.outcome s).2.world.1 ∧ ∀ e ∈ new, allowed e := by
  obtain ⟨new, hrun, htrail, hnew⟩ := h.outcome s.world.1 s.world.2 s.log
  change x.outcome s = _ at hrun
  rw [hrun]
  exact ⟨new, rfl, htrail, hnew⟩

/-- The record only grows. -/
theorem calls_subset (h : Shadows env allowed x y) (s : Session (Recorded ω τ)) :
    s.world.2 ⊆ (x.outcome s).2.world.2 := by
  obtain ⟨new, hcalls, -, -⟩ := h.exists_calls s
  rw [hcalls]
  exact List.subset_append_left _ _

/-- A call on record was there before or is allowed. -/
theorem mem_calls (h : Shadows env allowed x y) (he : e ∈ (x.outcome s).2.world.2) :
    e ∈ s.world.2 ∨ allowed e := by
  obtain ⟨new, hcalls, -, hnew⟩ := h.exists_calls s
  rw [hcalls] at he
  exact (List.mem_append.1 he).imp_right (hnew e)

/-- A stage that may not call anything leaves the world and the record alone. -/
theorem world_eq (h : Shadows env (fun _ => False) x y) (s : Session (Recorded ω τ)) :
    (x.outcome s).2.world = s.world := by
  obtain ⟨new, hcalls, htrail, hnew⟩ := h.exists_calls s
  obtain rfl : new = [] := List.eq_nil_iff_forall_not_mem.2 hnew
  rw [List.append_nil] at hcalls
  exact Prod.ext htrail.eq_of_nil hcalls

/-- When the first part of a sequence does not make a call that the sequence makes, that part has
succeeded, and the call is one of the rest. -/
theorem succeeds_before (h : Shadows env allowed x y) {f : α → Stage (Recorded ω τ) β}
    {calls : List (Event ω τ)} (hcalls : ((x >>= f).outcome s).2.world.2 = calls)
    (hallowed : ¬ allowed e) (hs : e ∉ s.world.2) (he : e ∈ calls) :
    ∃ a s₁, x.outcome s = (.ok a, s₁) ∧ ((f a).outcome s₁).2.world.2 = calls ∧
      e ∉ s₁.world.2 ∧ s.world.2 ⊆ s₁.world.2 := by
  have hfirst : e ∉ (x.outcome s).2.world.2 := fun hmem =>
    (h.mem_calls hmem).elim hs hallowed
  have hgrows := h.calls_subset s
  cases hx : x.outcome s with
  | mk r s₁ =>
      rw [hx] at hfirst hgrows
      cases r with
      | ok a =>
          rw [Stage.outcome_bind_of_ok hx] at hcalls
          exact ⟨a, s₁, rfl, hcalls, hfirst, hgrows⟩
      | error fault =>
          rw [Stage.outcome_bind_of_error hx] at hcalls
          rw [← hcalls] at he
          exact absurd he hfirst

end Shadows

/-- A call is written down with its answer, whatever it is. -/
theorem outcome_recordCall (event : ω → Except Fault α → Event ω τ) {x : Stage ω α} {w w' : ω}
    {log log' : List LogRecord} {r : Except Fault α} (calls : List (Event ω τ))
    (h : x.outcome ⟨w, log⟩ = (r, ⟨w', log'⟩)) :
    (recordCall event x).outcome ⟨(w, calls), log⟩ = (r, ⟨(w', calls ++ [event w r]), log'⟩) := by
  show ((x.outcome ⟨w, log⟩).1, Session.mk ((x.outcome ⟨w, log⟩).2.world,
    calls ++ [event w (x.outcome ⟨w, log⟩).1]) (x.outcome ⟨w, log⟩).2.log) = _
  rw [h]

/-- A recorded call, followed by something that calls nothing: the answer of the call decides on the
result, a fault is a fault of the whole, and the call is all that is written down. -/
theorem outcome_recordCall_bind (event : ω → Except Fault α → Event ω τ) (x : Stage ω α)
    {rest : α → Stage (Recorded ω τ) β} (hrest : ∀ a s, ((rest a).outcome s).2.world = s.world)
    (s : Session (Recorded ω τ)) :
    ∃ answer s₁, ((recordCall event x >>= rest).outcome s).1 =
        answer.bind (fun a => ((rest a).outcome s₁).1) ∧
      ((recordCall event x >>= rest).outcome s).2.world =
        (s₁.world.1, s.world.2 ++ [event s.world.1 answer]) := by
  obtain ⟨⟨w, calls⟩, log⟩ := s
  rcases hx : x.outcome ⟨w, log⟩ with ⟨answer, w', log'⟩
  have hcall := outcome_recordCall event calls hx
  refine ⟨answer, ⟨(w', calls ++ [event w answer]), log'⟩, ?_⟩
  cases answer with
  | error fault =>
      rw [Stage.outcome_bind_of_error hcall]
      exact ⟨rfl, rfl⟩
  | ok a =>
      rw [Stage.outcome_bind_of_ok hcall]
      exact ⟨rfl, hrest a _⟩

/-- A call that is answered is on record with its answer. -/
theorem recordCall_eq_ok {event : ω → Except Fault α → Event ω τ} {x : Stage ω α}
    {s s' : Session (Recorded ω τ)} {a : α} (h : (recordCall event x).outcome s = (.ok a, s')) :
    event s.world.1 (.ok a) ∈ s'.world.2 := by
  obtain ⟨hresult, rfl⟩ := Prod.mk.inj h
  rw [← hresult]
  exact List.mem_append_right _ List.mem_cons_self

end LedgerFlow

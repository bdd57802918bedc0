import LedgerFlow.Proofs.Result
import LedgerFlow.Session

/-!
# How stages end

`Stage.outcome` is what a stage ends with and the session after it.  The lemmas here say what it is
for each way of building a stage, so that a proof about a stage takes it apart without opening the
monad: `outcome_bind_eq_ok` for a sequence that succeeds, `outcome_bind` for any sequence.  The lemmas
on `run` do the same for the steps that cannot end with a fault.

`Stage.EndsWithin` says of which sorts the results and the faults of a stage are, whatever session it is
run in, and has one rule for each way of building a stage.
-/

namespace LedgerFlow

/-- Whether a fault is in the family that callers of the pipeline handle. -/
def Fault.InFamily (f : Fault) : Prop := ∃ e, f = .pipeline e

namespace Stage

variable {ω α β : Type}

/-- What a stage ends with, and the session after it. -/
def outcome (x : Stage ω α) (s : Session ω) : Except Fault α × Session ω := x.run.run s

@[simp] theorem outcome_pure (a : α) (s : Session ω) :
    (pure a : Stage ω α).outcome s = (.ok a, s) := rfl

@[simp] theorem outcome_throw (f : Fault) (s : Session ω) :
    (throw f : Stage ω α).outcome s = (.error f, s) := rfl

@[simp] theorem outcome_fail (e : PipelineError) (s : Session ω) :
    (fail e : Stage ω α).outcome s = (.error (.pipeline e), s) := rfl

@[simp] theorem outcome_ofExcept (r : Except Fault α) (s : Session ω) :
    (ofExcept r : Stage ω α).outcome s = (r, s) := by
  cases r <;> rfl

@[simp] theorem outcome_attempt (x : Stage ω α) (s : Session ω) :
    (attempt x).outcome s = (.ok (x.outcome s).1, (x.outcome s).2) := rfl

@[simp] theorem outcome_world (s : Session ω) :
    (world : Stage ω ω).outcome s = (.ok s.world, s) := rfl

@[simp] theorem outcome_record (level : Level) (message : String) (s : Session ω) :
    (record level message : Stage ω Unit).outcome s =
      (.ok (), { s with log := s.log ++ [⟨level, message⟩] }) := rfl

/-- A step that cannot end with a fault, inside a stage. -/
@[simp] theorem outcome_monadLift (x : StateM (Session ω) α) (s : Session ω) :
    (liftM x : Stage ω α).outcome s = (.ok (x.run s).1, (x.run s).2) := rfl

theorem outcome_bind (x : Stage ω α) (f : α → Stage ω β) (s : Session ω) :
    (x >>= f).outcome s =
      match x.outcome s with
      | (.ok a, s') => (f a).outcome s'
      | (.error e, s') => (.error e, s') := by
  show (match x.outcome s with | (r, s') => (ExceptT.bindCont f r).run s') = _
  obtain ⟨r, s'⟩ := x.outcome s
  cases r <;> rfl

/-- A stage whose result is only wrapped up. -/
theorem outcome_bind_pure (x : Stage ω α) (f : α → β) (s : Session ω) :
    (x >>= fun a => pure (f a)).outcome s = ((x.outcome s).1.map f, (x.outcome s).2) := by
  rw [outcome_bind]
  rcases x.outcome s with ⟨r, s'⟩
  cases r <;> rfl

/-- A stage whose result is only looked at. -/
theorem outcome_bind_ofExcept (x : Stage ω α) (f : α → Except Fault β) (s : Session ω) :
    (x >>= fun a => ofExcept (f a)).outcome s = ((x.outcome s).1 >>= f, (x.outcome s).2) := by
  rw [outcome_bind]
  rcases x.outcome s with ⟨r, s'⟩
  cases r with
  | ok a => exact outcome_ofExcept (f a) s'
  | error e => rfl

/-- A sequence succeeds when both of its parts do, one after the other. -/
theorem outcome_bind_eq_ok {x : Stage ω α} {f : α → Stage ω β} {s s' : Session ω} {b : β} :
    (x >>= f).outcome s = (.ok b, s') ↔
      ∃ a s₁, x.outcome s = (.ok a, s₁) ∧ (f a).outcome s₁ = (.ok b, s') := by
  rw [outcome_bind]
  constructor
  · intro h
    cases hx : x.outcome s with
    | mk r s₁ =>
        rw [hx] at h
        cases r with
        | ok a => exact ⟨a, s₁, rfl, h⟩
        | error e => cases (Prod.mk.inj h).1
  · rintro ⟨a, s₁, hx, hf⟩
    rw [hx]
    exact hf

theorem outcome_bind_of_ok {x : Stage ω α} {f : α → Stage ω β} {s s₁ : Session ω} {a : α}
    (h : x.outcome s = (.ok a, s₁)) : (x >>= f).outcome s = (f a).outcome s₁ := by
  rw [outcome_bind, h]

theorem outcome_bind_of_error {x : Stage ω α} {f : α → Stage ω β} {s s₁ : Session ω} {e : Fault}
    (h : x.outcome s = (.error e, s₁)) : (x >>= f).outcome s = (.error e, s₁) := by
  rw [outcome_bind, h]

/-! ## Steps that cannot end with a fault -/

theorem run_bind (x : StateM (Session ω) α) (f : α → StateM (Session ω) β) (s : Session ω) :
    (x >>= f).run s = (f (x.run s).1).run (x.run s).2 := rfl

theorem run_world (s : Session ω) : (world : StateM (Session ω) ω).run s = (s.world, s) := rfl

/-- Logging events leaves the world alone. -/
theorem world_run_recordEvents (level : Level) (context : String) (events : List String)
    (s : Session ω) :
    ((recordEvents level context events : StateM (Session ω) Unit).run s).2.world = s.world := by
  unfold recordEvents
  induction events.zipIdx generalizing s with
  | nil => rfl
  | cons e es ih => exact ih _

/-! ## Sorts of results and faults -/

/-- In whatever session a stage is run, its result is of one sort, and a fault that ends it of another. -/
def EndsWithin (x : Stage ω α) (isResult : α → Prop) (isFault : Fault → Prop) : Prop :=
  ∀ s, match (x.outcome s).1 with
    | .ok a => isResult a
    | .error f => isFault f

namespace EndsWithin

variable {x : Stage ω α} {f : α → Stage ω β} {isResult isResult' : α → Prop} {isEnd : β → Prop}
  {isFault isFault' : Fault → Prop}

theorem of_ok (h : x.EndsWithin isResult isFault) {s : Session ω} {a : α}
    (ha : (x.outcome s).1 = .ok a) : isResult a := by
  have := h s
  rwa [ha] at this

theorem of_error (h : x.EndsWithin isResult isFault) {s : Session ω} {e : Fault}
    (he : (x.outcome s).1 = .error e) : isFault e := by
  have := h s
  rwa [he] at this

theorem mono (h : x.EndsWithin isResult isFault) (hresult : ∀ a, isResult a → isResult' a)
    (hfault : ∀ e, isFault e → isFault' e) : x.EndsWithin isResult' isFault' := by
  intro s
  cases hs : (x.outcome s).1 with
  | ok a => exact hresult a (h.of_ok hs)
  | error e => exact hfault e (h.of_error hs)

theorem pure {a : α} (h : isResult a) : (pure a : Stage ω α).EndsWithin isResult isFault :=
  fun _ => h

theorem throw {e : Fault} (h : isFault e) : (throw e : Stage ω α).EndsWithin isResult isFault :=
  fun _ => h

theorem ofExcept {r : Except Fault α} (hok : ∀ a, r = .ok a → isResult a)
    (herror : ∀ e, r = .error e → isFault e) :
    (Stage.ofExcept r : Stage ω α).EndsWithin isResult isFault := by
  intro s
  rw [outcome_ofExcept]
  cases r with
  | ok a => exact hok a rfl
  | error e => exact herror e rfl

theorem bind (hx : x.EndsWithin isResult isFault)
    (hf : ∀ a, isResult a → (f a).EndsWithin isEnd isFault) : (x >>= f).EndsWithin isEnd isFault := by
  intro s
  rw [outcome_bind]
  rcases hs : x.outcome s with ⟨r, s'⟩
  cases r with
  | ok a => exact hf a (hx.of_ok (congrArg Prod.fst hs)) s'
  | error e => exact hx.of_error (congrArg Prod.fst hs)

theorem attempt (h : x.EndsWithin isResult isFault) :
    (Stage.attempt x).EndsWithin
      (fun r => (∀ a, r = .ok a → isResult a) ∧ ∀ e, r = .error e → isFault e) isFault' :=
  fun _ => ⟨fun _ => h.of_ok, fun _ => h.of_error⟩

/-- A step that cannot end with a fault, by what it leads to. -/
theorem lift {y : StateM (Session ω) α} (h : ∀ s, isResult (y.run s).1) :
    (liftM y : Stage ω α).EndsWithin isResult isFault := by
  intro s
  rw [outcome_monadLift]
  exact h s

theorem world : (Stage.world : Stage ω ω).EndsWithin (fun _ => True) isFault := fun _ => trivial

theorem record (level : Level) (message : String) :
    (Stage.record level message : Stage ω Unit).EndsWithin (fun _ => True) isFault :=
  fun _ => trivial

theorem recordEvents (level : Level) (context : String) (events : List String) :
    (Stage.recordEvents level context events : Stage ω Unit).EndsWithin (fun _ => True) isFault := by
  unfold Stage.recordEvents
  induction events.zipIdx with
  | nil => exact pure trivial
  | cons e es ih => exact (record level _).bind fun _ _ => ih

end EndsWithin

end Stage
end LedgerFlow

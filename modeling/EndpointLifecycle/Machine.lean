/-!
# Machines

An endpoint is a machine that is active from its start, stopping from the first stop that is asked
of it, and stopped for good when all that it owns has come to rest. It answers a request either by
going on or by a violation: the request did not fit the state, and the machine must not be used any
more. The state in which it was left is kept, because the log in it tells what happened.
-/

namespace EndpointLifecycle

inductive Phase
  | idle
  | active
  | stopping
  | stopped
  deriving DecidableEq

def Phase.name : Phase → String
  | idle => "Idle"
  | active => "Active"
  | stopping => "Stopping"
  | stopped => "Stopped"

inductive Outcome (Violation Machine : Type)
  | done (machine : Machine)
  | violation (reason : Violation) (machine : Machine)

namespace Outcome

variable {V M A : Type}

/-- The machine as the request left it. -/
def machine : Outcome V M → M
  | done m => m
  | violation _ m => m

/-- Goes on only where there is no violation. -/
def andThen (o : Outcome V M) (next : M → Outcome V M) : Outcome V M :=
  match o with
  | done m => next m
  | violation reason m => violation reason m

/-- Carries out requests up to the first violation. -/
def run (step : M → A → Outcome V M) (m : M) : List A → Outcome V M
  | [] => done m
  | a :: as => (step m a).andThen (run step · as)

@[simp] theorem andThen_done (m : M) (next : M → Outcome V M) :
    (done m).andThen next = next m := rfl

@[simp] theorem andThen_violation (reason : V) (m : M) (next : M → Outcome V M) :
    (violation reason m).andThen next = violation reason m := rfl

theorem andThen_assoc (o : Outcome V M) (f g : M → Outcome V M) :
    (o.andThen f).andThen g = o.andThen fun m => (f m).andThen g := by
  cases o <;> rfl

theorem run_append (step : M → A → Outcome V M) (m : M) (as bs : List A) :
    run step m (as ++ bs) = (run step m as).andThen (run step · bs) := by
  induction as generalizing m with
  | nil => rfl
  | cons a as ih => simp only [List.cons_append, run, ih, andThen_assoc]

end Outcome

/-- Passes stages as long as there is one to pass, and at most `n` of them. -/
def passStages {M : Type} (passStage : M → Option M) : Nat → M → M
  | 0, m => m
  | n + 1, m =>
    match passStage m with
    | some m => passStages passStage n m
    | none => m

end EndpointLifecycle

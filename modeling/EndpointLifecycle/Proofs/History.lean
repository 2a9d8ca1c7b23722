import EndpointLifecycle.Machine

/-!
# The history of a run

A run leaves behind the requests that were carried out, each with the machine before and after it.
What is counted or collected over a run is counted over its history, and `history_induction` shows
that it agrees with the machine that the run has led to.
-/

namespace EndpointLifecycle

/-- A request that was carried out. -/
structure Transition (M A : Type) where
  before : M
  action : A
  after : M

namespace Outcome

variable {V M A : Type} {step : M → A → Outcome V M}

/-- The requests of a run in their order. A request that is refused is not among them. -/
def history (step : M → A → Outcome V M) (m : M) : List A → List (Transition M A)
  | [] => []
  | a :: as =>
    match step m a with
    | done m' => ⟨m, a, m'⟩ :: history step m' as
    | violation _ _ => []

theorem history_cons {m m' : M} {a : A} (h : step m a = done m') (as : List A) :
    history step m (a :: as) = ⟨m, a, m'⟩ :: history step m' as := by
  simp [history, h]

theorem length_history_le (m : M) (as : List A) : (history step m as).length ≤ as.length := by
  induction as generalizing m with
  | nil => exact Nat.le_refl _
  | cons a as ih =>
    unfold history
    cases step m a with
    | done m' => exact Nat.succ_le_succ (ih m')
    | violation reason m' => exact Nat.zero_le _

/-- What holds at the start and is kept by each request holds of every run and its history, whether
it has come to its end or to a violation. -/
theorem run_induction {P : List (Transition M A) → Outcome V M → Prop} {m₀ : M}
    (start : P [] (done m₀))
    (next : ∀ h m a m', P h (done m) → step m a = done m' → P (h ++ [⟨m, a, m'⟩]) (done m'))
    (refused : ∀ h m a v m', P h (done m) → step m a = violation v m' → P h (violation v m'))
    (as : List A) : P (history step m₀ as) (run step m₀ as) := by
  -- The history so far is carried along, so that the induction can be on the requests to come.
  suffices h : ∀ as m₀ past, P past (done m₀) → P (past ++ history step m₀ as) (run step m₀ as) from
    h as m₀ [] start
  intro as
  induction as with
  | nil =>
    intro m₀ past hpast
    simpa [history, run] using hpast
  | cons a as ih =>
    intro m₀ past hpast
    unfold run
    cases ha : step m₀ a with
    | violation v m₁ => simpa [history, ha] using refused past m₀ a v m₁ hpast ha
    | done m₁ => simpa [history_cons ha] using ih m₁ _ (next past m₀ a m₁ hpast ha)

theorem history_induction {P : List (Transition M A) → M → Prop} {m₀ m : M} {as : List A}
    (start : P [] m₀)
    (next : ∀ h m a m', P h m → step m a = done m' → P (h ++ [⟨m, a, m'⟩]) m')
    (hrun : run step m₀ as = done m) : P (history step m₀ as) m := by
  refine run_induction (P := fun h o => ∀ m, o = done m → P h m) ?_ ?_ ?_ as m hrun
  · rintro _ ⟨⟩
    exact start
  · rintro h m a m' hP hstep _ ⟨⟩
    exact next h m a m' (hP m rfl) hstep
  · rintro h m a v m' - - _ ⟨⟩

/-- Where a request that is refused keeps what holds, it holds of the machine that is left. -/
theorem machine_history_induction {P : List (Transition M A) → M → Prop} {m₀ : M}
    (start : P [] m₀)
    (next : ∀ h m a m', P h m → step m a = done m' → P (h ++ [⟨m, a, m'⟩]) m')
    (refused : ∀ h m a v m', P h m → step m a = violation v m' → P h m') (as : List A) :
    P (history step m₀ as) (run step m₀ as).machine :=
  run_induction (P := fun h o => P h o.machine) start next refused as

/-- What is kept by each request, also by one that is refused, is kept by every run. -/
theorem machine_run_induction {P : M → Prop} (next : ∀ m a, P m → P (step m a).machine) {m : M}
    (hm : P m) (as : List A) : P (run step m as).machine := by
  refine machine_history_induction (P := fun _ m => P m) hm ?_ ?_ as
  · intro _ m a m' hP hstep
    simpa [hstep, machine] using next m a hP
  · intro _ m a v m' hP hstep
    simpa [hstep, machine] using next m a hP

end Outcome

end EndpointLifecycle

import EndpointLifecycle.Machine
import Mathlib.Data.List.Chain

/-!
# The moments of a run

A request that is carried out in stages leaves the machine in a new condition after each of them.
`moments` lists these conditions over a whole run up to the first violation, so that it can be said
what a machine had seen when it made a call, and not only what was the case before and after the
request in which it made it.
-/

namespace EndpointLifecycle

variable {V M A : Type}

section Stages

variable {passStage : M → Option M}

/-- The machine after each stage that `passStages` passes. -/
def passedStages (passStage : M → Option M) : Nat → M → List M
  | 0, _ => []
  | n + 1, m =>
    match passStage m with
    | some m' => m' :: passedStages passStage n m'
    | none => []

theorem getLastD_passedStages (n : Nat) (m : M) :
    (passedStages passStage n m).getLastD m = passStages passStage n m := by
  induction n generalizing m with
  | zero => rfl
  | succ n ih =>
    unfold passedStages passStages
    cases passStage m with
    | none => rfl
    | some m' => exact (List.getLastD_cons ..).trans (ih m')

/-- What each stage keeps may be used of every stage that is passed. -/
theorem isChain_passedStages_of {P : M → Prop} {R : M → M → Prop}
    (hP : ∀ m m', P m → passStage m = some m' → P m')
    (hR : ∀ m m', P m → passStage m = some m' → R m m') (n : Nat) {m : M} (hm : P m) :
    (m :: passedStages passStage n m).IsChain R := by
  induction n generalizing m with
  | zero => exact .singleton m
  | succ n ih =>
    unfold passedStages
    cases h : passStage m with
    | none => exact .singleton m
    | some m' => exact .cons_cons (hR m m' hm h) (ih (hP m m' hm h))

theorem isChain_passedStages {R : M → M → Prop}
    (hR : ∀ m m', passStage m = some m' → R m m') (n : Nat) (m : M) :
    (m :: passedStages passStage n m).IsChain R :=
  isChain_passedStages_of (P := fun _ => True) (fun _ _ _ _ => trivial)
    (fun m m' _ => hR m m') n trivial

theorem length_passedStages_le (n : Nat) (m : M) : (passedStages passStage n m).length ≤ n := by
  induction n generalizing m with
  | zero => exact Nat.le_refl _
  | succ n ih =>
    unfold passedStages
    cases passStage m with
    | none => exact Nat.zero_le _
    | some m' => exact Nat.succ_le_succ (ih m')

theorem passStages_induction {P : M → Prop} (hP : ∀ m m', passStage m = some m' → P m → P m')
    (n : Nat) {m : M} (hm : P m) : P (passStages passStage n m) := by
  induction n generalizing m with
  | zero => exact hm
  | succ n ih =>
    unfold passStages
    cases h : passStage m with
    | none => exact hm
    | some m' => exact ih (hP m m' h hm)

/-- Where every stage that is passed leaves one stage less, none is left to pass afterwards. -/
theorem passStage_passStages (left : M → Nat)
    (hleft : ∀ m m', passStage m = some m' → left m = left m' + 1) {n : Nat} {m : M}
    (hn : left m = n) : passStage (passStages passStage n m) = none := by
  induction n generalizing m with
  | zero =>
    unfold passStages
    cases h : passStage m with
    | none => rfl
    | some m' => exact absurd (hleft m m' h) (by omega)
  | succ n ih =>
    unfold passStages
    cases h : passStage m with
    | none => exact h
    | some m' => exact ih (by have := hleft m m' h; omega)

end Stages

namespace Outcome

/-- The machine that goes on, if it does. -/
def toList : Outcome V M → List M
  | done m => [m]
  | violation _ _ => []

variable (stepMoments : M → A → List M) (step : M → A → Outcome V M)

/-- The moments of all requests up to the first violation. -/
def moments (m : M) : List A → List M
  | [] => []
  | a :: as =>
    stepMoments m a ++
      match step m a with
      | done m' => moments m' as
      | violation _ _ => []

variable {stepMoments step}

theorem moments_append {m m' : M} {as : List A} (h : run step m as = done m') (bs : List A) :
    moments stepMoments step m (as ++ bs) =
      moments stepMoments step m as ++ moments stepMoments step m' bs := by
  induction as generalizing m with
  | nil => cases h; rfl
  | cons a as ih =>
    cases ha : step m a with
    | violation reason m₁ => simp [run, ha] at h
    | done m₁ =>
      have hrest := ih (by simpa [run, ha] using h)
      simp only [List.cons_append, moments, ha, hrest, List.append_assoc]

/-- A run ends at its last moment. -/
theorem getLastD_moments
    (hlast : ∀ m a m', step m a = done m' → (stepMoments m a).getLastD m = m') {m m' : M}
    {as : List A} (h : run step m as = done m') :
    (moments stepMoments step m as).getLastD m = m' := by
  induction as generalizing m with
  | nil => cases h; rfl
  | cons a as ih =>
    cases ha : step m a with
    | violation reason m₁ => simp [run, ha] at h
    | done m₁ =>
      have hrest := ih (by simpa [run, ha] using h)
      simp only [List.getLastD_eq_getLast?] at hlast hrest ⊢
      simp only [moments, ha, List.getLast?_append, Option.getD_or, hlast m a m₁ ha, hrest]

/-- Two moments that follow each other in a run follow each other in one of its requests. -/
theorem isChain_moments {P : M → Prop} {R : M → M → Prop}
    (hchain : ∀ m a, P m → (m :: stepMoments m a).IsChain R)
    (hlast : ∀ m a m', P m → step m a = done m' → (stepMoments m a).getLastD m = m')
    (hP : ∀ m a m', P m → step m a = done m' → P m') {m : M} (hm : P m) (as : List A) :
    (m :: moments stepMoments step m as).IsChain R := by
  induction as generalizing m with
  | nil => exact .singleton m
  | cons a as ih =>
    unfold moments
    cases h : step m a with
    | violation reason m' => simpa using hchain m a hm
    | done m' =>
      have hrest : (m' :: moments stepMoments step m' as).IsChain R := ih (hP m a m' hm h)
      have hends : (m :: stepMoments m a).getLast? = some m' := by
        rw [List.getLast?_cons, ← List.getLastD_eq_getLast?, hlast m a m' hm h]
      refine List.isChain_append.2 ⟨hchain m a hm, ?_, ?_⟩
      · exact hrest.tail
      · intro x hx y hy
        obtain rfl : m' = x := by simpa [hends] using hx
        exact hrest.rel_head? hy

end Outcome

end EndpointLifecycle

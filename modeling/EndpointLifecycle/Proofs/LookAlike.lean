import EndpointLifecycle.Proofs.History
import EndpointLifecycle.Proofs.System.Basic
import Mathlib.Data.List.Forall2

/-!
# Runs that look alike

Two runs are compared by what can be seen of them: of the machine through a `view`, and of what is
done to it only the visible actions. Where the rest changes nothing that is seen, and what is seen
tells what the visible actions do, it may be put anywhere in the one run and be missing in the
other: neither the run nor its history tells the difference.
-/

namespace EndpointLifecycle

namespace Outcome

variable {V M N A : Type}

/-- Both outcomes are violations, and for the same reason, or neither is. -/
inductive Alike (R : M → M → Prop) : Outcome V M → Outcome V M → Prop
  | done {m m'} (h : R m m') : Alike R (done m) (done m')
  | violation {m m'} (v : V) (h : R m m') : Alike R (violation v m) (violation v m')

theorem alike_of_map_eq {view : M → N} {R : M → M → Prop} (hR : ∀ m m', view m = view m' → R m m')
    {o o' : Outcome V M} (h : o.map view = o'.map view) : Alike R o o' := by
  cases o with
  | done m =>
    cases o' with
    | done m' => exact .done (hR _ _ (Outcome.done.inj h))
    | violation v m' => cases h
  | violation v m =>
    cases o' with
    | done m' => cases h
    | violation v' m' =>
      obtain ⟨rfl, hm⟩ := Outcome.violation.inj h
      exact .violation v (hR _ _ hm)

/-- Outcomes are seen alike if one goes on where the other does, and to what is seen alike. -/
theorem map_eq_map {view : M → N} {o o' : Outcome V M}
    (hdone : ∀ m, o = done m → ∃ m', o' = done m' ∧ view m = view m')
    (hdone' : ∀ m', o' = done m' → ∃ m, o = done m)
    (hviolation : ∀ v m v' m', o = violation v m → o' = violation v' m' →
      v = v' ∧ view m = view m') : o.map view = o'.map view := by
  cases o with
  | done m =>
    obtain ⟨m', rfl, hview⟩ := hdone m rfl
    exact congrArg done hview
  | violation v m =>
    cases o' with
    | done m' =>
      obtain ⟨m, hm⟩ := hdone' m' rfl
      cases hm
    | violation v' m' =>
      obtain ⟨rfl, hview⟩ := hviolation v m v' m' rfl rfl
      exact congrArg (violation v) hview

/-- The visible actions of a history, and what is seen after each of them. -/
def seen (visible : A → Bool) (view : M → N) (h : List (Transition M A)) : List (A × N) :=
  (h.filter (visible ·.action)).map fun t => (t.action, view t.after)

theorem forall₂_of_seen_eq {visible : A → Bool} {view : M → N} {R : M → M → Prop}
    (hR : ∀ m m', view m = view m' → R m m') {h h' : List (Transition M A)}
    (heq : seen visible view h = seen visible view h') :
    List.Forall₂ (fun t t' => t.action = t'.action ∧ R t.after t'.after)
      (h.filter (visible ·.action)) (h'.filter (visible ·.action)) := by
  rw [seen, seen, ← List.forall₂_eq_eq_eq, List.forall₂_map_left_iff,
    List.forall₂_map_right_iff] at heq
  refine heq.imp fun t t' ht => ?_
  obtain ⟨haction, hview⟩ := Prod.mk.inj ht
  exact ⟨haction, hR _ _ hview⟩

/-- Two runs in which the same happens to machines that are alike, but for what is not visible. They
come to a violation at the same action or not at all, and are alike after every visible action. -/
structure RunsAlike (step : M → A → Outcome V M) (visible : A → Bool) (R : M → M → Prop)
    (m m' : M) (as as' : List A) : Prop where
  start : R m m'
  outcome : Alike R (run step m as) (run step m' as')
  actions : List.Forall₂ (fun t t' => t.action = t'.action ∧ R t.after t'.after)
    ((history step m as).filter (visible ·.action))
    ((history step m' as').filter (visible ·.action))

/-- Of the admitted actions, those that are not visible change nothing that is seen, and what the
visible ones do is told by what was seen before. -/
structure Veiled (step : M → A → Outcome V M) (view : M → N) (visible : A → Bool)
    (P : M → Prop) (admitted : A → Prop) : Prop where
  keeps : ∀ m a m', P m → admitted a → step m a = done m' → P m'
  silent : ∀ m a, admitted a → visible a = false → ∃ m', step m a = done m' ∧ view m' = view m
  told : ∀ m m' a, P m → P m' → view m = view m' → admitted a → visible a →
    (step m a).map view = (step m' a).map view

namespace Veiled

variable {step : M → A → Outcome V M} {view : M → N} {visible : A → Bool} {P : M → Prop}
  {admitted : A → Prop} {m m' : M} {as as' : List A}

/-- What is not visible may be left out of a run. -/
theorem run_filter (veiled : Veiled step view visible P admitted) (hm : P m) (hm' : P m')
    (hview : view m = view m') (has : ∀ a ∈ as, admitted a) :
    (run step m as).map view = (run step m' (as.filter visible)).map view ∧
      seen visible view (history step m as) =
        seen visible view (history step m' (as.filter visible)) := by
  induction as generalizing m m' with
  | nil => exact ⟨congrArg Outcome.done hview, rfl⟩
  | cons a as ih =>
    obtain ⟨ha, has⟩ := List.forall_mem_cons.1 has
    cases hvis : visible a with
    | false =>
      obtain ⟨n, hn, hsame⟩ := veiled.silent m a ha hvis
      have hrest := ih (veiled.keeps m a n hm ha hn) hm' (hsame.trans hview) has
      simpa [run, hn, history, seen, hvis] using hrest
    | true =>
      have hstep := veiled.told m m' a hm hm' hview ha hvis
      rw [List.filter_cons_of_pos hvis]
      cases hn : step m a with
      | done n =>
        cases hn' : step m' a with
        | violation v n' => rw [hn, hn'] at hstep; cases hstep
        | done n' =>
          rw [hn, hn'] at hstep
          have hsame : view n = view n' := Outcome.done.inj hstep
          have hrest := ih (veiled.keeps m a n hm ha hn) (veiled.keeps m' a n' hm' ha hn') hsame has
          simpa [run, hn, hn', history, seen, hvis, hsame] using hrest
      | violation v n =>
        cases hn' : step m' a with
        | done n' => rw [hn, hn'] at hstep; cases hstep
        | violation v' n' =>
          rw [hn, hn'] at hstep
          simpa [run, hn, hn', history, seen] using hstep

/-- Two runs with the same visible actions that begin alike are alike to the end. -/
theorem runsAlike (veiled : Veiled step view visible P admitted) {R : M → M → Prop}
    (hR : ∀ m m', view m = view m' → R m m') (hm : P m) (hm' : P m') (hview : view m = view m')
    (has : ∀ a ∈ as, admitted a) (has' : ∀ a ∈ as', admitted a)
    (hfilter : as.filter visible = as'.filter visible) : RunsAlike step visible R m m' as as' := by
  obtain ⟨hrun, hseen⟩ := veiled.run_filter hm hm rfl has
  obtain ⟨hrun', hseen'⟩ := veiled.run_filter hm' hm hview.symm has'
  rw [← hfilter] at hrun' hseen'
  exact ⟨hR _ _ hview, alike_of_map_eq hR (hrun.trans hrun'.symm),
    forall₂_of_seen_eq hR (hseen.trans hseen'.symm)⟩

end Veiled

end Outcome

end EndpointLifecycle

import EndpointLifecycle.Proofs.System.Channel

/-!
# Collaborators that report once

A timer, a resolver and a session report one thing after each start, and the endpoint stops them
when it has heard of it.
-/

namespace EndpointLifecycle

inductive Use
  | resting
  | armed
  /-- The report has been heard, and the collaborator is being stopped. -/
  | heard

open Channel

variable {R : Type} {ended : R} {Q : R → Prop} {a a' : Activity} {ch : Channel R}

def Armed (Q : R → Prop) : Activity → Channel R → Prop :=
  Unheard fun posted => posted = [] ∨ ∃ r, Q r ∧ posted = [r]

theorem Armed.post {r : R} (h : Armed Q a ch) (hr : Q r) (hnew : ∀ x ∈ ch.posted, ¬Q x) :
    Armed Q a (ch.post r) := by
  obtain ⟨hrun, hqueue, hposted | ⟨x, hx, hposted⟩⟩ := h
  · exact ⟨hrun, congrArg (· ++ [r]) hqueue, .inr ⟨r, hr, by simp [Channel.post, hposted]⟩⟩
  · exact absurd hx (hnew x (by simp [hposted]))

theorem Armed.queue {r : R} {rest : List R} (h : Armed Q a ch) (hq : ch.queue = r :: rest) :
    Q r ∧ rest = [] ∧ ch.posted = [r] := by
  obtain ⟨-, hqueue, hposted | ⟨x, hx, hposted⟩⟩ := h
  · simp [hqueue, hposted] at hq
  · obtain ⟨rfl, rfl⟩ : x = r ∧ rest = [] := by simpa [hqueue, hposted, eq_comm] using hq
    exact ⟨hx, rfl, hposted⟩

/-- How a collaborator stands that makes one report of the kind `Q` after each start. -/
def OneShot (ended : R) (Q : R → Prop) : Use → Activity → Channel R → Prop
  | .resting => Resting
  | .armed => Armed Q
  | .heard => fun a ch => (∃ r ∈ ch.posted, Q r) ∧ Ending ended (fun _ => False) a ch

theorem OneShot.eases {u : Use} (h : OneShot ended Q u a ch) (he : a.Eases a')
    (hr : a.status = .running → a'.status = .running) :
    OneShot ended Q u a' (ch.update ended a a') := by
  cases u with
  | resting => exact Resting.eases h he
  | armed =>
    have hu : Armed Q a ch := h
    exact Unheard.eases hu he (hr hu.1)
  | heard => exact ⟨(posted_update he).symm ▸ h.1, h.2.eases he⟩

theorem OneShot.post {u : Use} {r : R} (h : OneShot ended Q u a ch) (hbusy : a.status ≠ .idle)
    (hr : Q r) (hnew : ∀ x ∈ ch.posted, ¬Q x) : OneShot ended Q u a (ch.post r) := by
  cases u with
  | resting => exact absurd h.1 hbusy
  | armed => exact Armed.post h hr hnew
  | heard =>
    obtain ⟨⟨x, hx, hq⟩, -⟩ := h
    exact absurd hq (hnew x hx)

theorem OneShot.start (h : Resting a ch) (hr : a'.status = .running) (hs : a'.starts ≠ a.starts)
    (hc : a'.completions = a.completions) :
    OneShot ended Q .armed a' (ch.update ended a a') := by
  change Armed Q _ _
  exact h.unheard hr hs hc (.inl rfl)

/-- The report is heard, and the collaborator is stopped. -/
theorem OneShot.hear {r : R} {rest : List R} (h : OneShot ended Q .armed a ch)
    (hq : ch.queue = r :: rest) :
    OneShot ended Q .heard a.stop (ch.pop.update ended a a.stop) := by
  obtain ⟨hr, rfl, hposted⟩ := Armed.queue h hq
  have hworking : Working (fun _ => False) a ch.pop := ⟨h.1, by simp [Channel.pop, hq]⟩
  refine ⟨⟨r, ?_, hr⟩, hworking.stop (Activity.eases_stop a) (Activity.stop_not_running a)⟩
  simp [posted_update (Activity.eases_stop a), Channel.pop, hposted]

theorem OneShot.heard_queue {r : R} {rest : List R} (h : OneShot ended Q .heard a ch)
    (hq : ch.queue = r :: rest) : r = ended ∧ Resting a ch.pop := by
  rcases h.2.pop id hq with hr | ⟨hfalse, -⟩
  · exact hr
  · exact hfalse.elim

end EndpointLifecycle

import EndpointLifecycle.Proofs.System.Progress
import Mathlib.Algebra.GroupWithZero.Nat
import Mathlib.Algebra.Order.BigOperators.Group.List
import Mathlib.Algebra.Order.Group.Nat
import Mathlib.Data.Prod.Lex
import Mathlib.Order.WellFounded

/-!
# Shutdowns come to their end

While nothing is started any more, collaborators only come to rest, and the reports of those at rest
only become fewer. As long as some collaborator still owes the end of its stop, one of both goes on.
-/

namespace EndpointLifecycle.Wiring

section Calm

variable {M V C : Type} {R : C → Type} {w : Wiring M V R}

/-- How far a collaborator is from rest. -/
def unrest : Status → ℕ
  | .running => 2
  | .stopping => 1
  | .idle => 0

theorem unrest_eq_zero {x : Status} : unrest x = 0 ↔ x = .idle := by
  cases x <;> simp [unrest]

variable (w) in
/-- The reports under way of a collaborator at rest. -/
def backlog (s : System M R) (c : C) : ℕ :=
  if (w.activity s.machine c).status = .idle then (s.channel c).queue.length else 0

variable (w) in
/-- A collaborator is nearer to its rest in the second system than in the first, or as near. -/
def Calms (s s' : System M R) (c : C) : Prop :=
  unrest (w.activity s'.machine c).status ≤ unrest (w.activity s.machine c).status ∧
    ((w.activity s.machine c).status = .idle →
      (s'.channel c).queue.length ≤ (s.channel c).queue.length)

theorem Calms.idle {s s' : System M R} {c : C} (h : w.Calms s s' c)
    (hidle : (w.activity s.machine c).status = .idle) :
    (w.activity s'.machine c).status = .idle := by
  have hle := h.1
  rw [hidle] at hle
  exact unrest_eq_zero.1 (Nat.le_zero.1 hle)

theorem Calms.trans {s s' s'' : System M R} {c : C} (h : w.Calms s s' c) (h' : w.Calms s' s'' c) :
    w.Calms s s'' c :=
  ⟨h'.1.trans h.1, fun hidle => (h'.2 (h.idle hidle)).trans (h.2 hidle)⟩

end Calm

variable {M V C : Type} {R : C → Type} [DecidableEq C] {w : Wiring M V R}

section Takes

variable {s s' : System M R} {a : Move R} {c : C}

end Takes

namespace Run

/-- One move, and then a course of events. -/
def cons {s : System M R} {a : Move R} (r : w.Run) (ht : w.Takes s a (r.state 0)) : w.Run where
  state
    | 0 => s
    | n + 1 => r.state n
  move
    | 0 => some a
    | n + 1 => r.move n
  pause
    | 0, h => by cases h
    | n + 1, h => r.pause n h
  step
    | 0, _, h => by cases h; exact ht
    | n + 1, b, h => r.step n b h

end Run

variable (w) in
/-- What a move makes of a shutdown. -/
structure Proceeds (members : M → List C) (Closing : System M R → Prop) (s s' : System M R) :
    Prop where
  closing : Closing s'
  members_eq : members s'.machine = members s.machine
  stopped : w.phase s.machine = .stopped → w.phase s'.machine = .stopped
  eases : ∀ c, (w.activity s.machine c).Eases (w.activity s'.machine c)

/-- What holds of an endpoint at work and what holds of it in a shutdown, such that nothing goes
wrong, the work can be got ready and the shutdown goes on. -/
structure Guarantee (w : Wiring M V R) (members : M → List C) (ready : M → Prop)
    (AtWork Closing : System M R → Prop) : Prop where
  completeStop : ∀ m c, w.activity (w.completeStop m c) c = (w.activity m c).completeStop
  active : ∀ s, AtWork s → w.phase s.machine = .active
  work : ∀ s a, AtWork s → a ≠ .stop → w.Allows s a → ∃ s', w.next s a = .done s' ∧ AtWork s'
  gets_ready : ∀ s, AtWork s → w.Attains s fun t => AtWork t ∧ ready t.machine
  stop : ∀ s, AtWork s → ∃ s', w.next s .stop = .done s' ∧ Closing s'
  closing : ∀ s, Closing s → w.phase s.machine = .stopping ∨ w.phase s.machine = .stopped
  proceeds : ∀ s a, Closing s → w.Allows s a →
    ∃ s', w.next s a = .done s' ∧ w.Proceeds members Closing s s'
  owing : ∀ s, Closing s → w.phase s.machine = .stopping → ∃ c ∈ members s.machine,
    (s.channel c).Owing (w.ended c) (w.activity s.machine c)
  at_rest : ∀ s, Closing s → w.phase s.machine = .stopped →
    ∀ c, (w.activity s.machine c).status = .idle

namespace Guarantee

variable {members : M → List C} {ready : M → Prop} {AtWork Closing : System M R → Prop}
  (g : Guarantee w members ready AtWork Closing)
include g

theorem not_active {s : System M R} (hs : Closing s) : w.phase s.machine ≠ .active := by
  rcases g.closing s hs with hp | hp <;> simp [hp]

theorem step {s : System M R} {a : Move R} (hs : AtWork s ∨ Closing s) (ha : w.Allows s a) :
    ∃ s', w.next s a = .done s' ∧ (AtWork s' ∨ Closing s') := by
  rcases hs with hs | hs
  · by_cases hstop : a = .stop
    · subst hstop
      obtain ⟨s', hnext, hs'⟩ := g.stop s hs
      exact ⟨s', hnext, .inr hs'⟩
    · obtain ⟨s', hnext, hs'⟩ := g.work s a hs hstop ha
      exact ⟨s', hnext, .inl hs'⟩
  · obtain ⟨s', hnext, hs'⟩ := g.proceeds s a hs ha
    exact ⟨s', hnext, .inr hs'.closing⟩

theorem takes {s s' : System M R} {a : Move R} (hs : AtWork s ∨ Closing s)
    (ht : w.Takes s a s') : AtWork s' ∨ Closing s' := by
  obtain ⟨t, hnext, ht'⟩ := g.step hs ht.1
  obtain rfl : t = s' := Outcome.done.inj (hnext.symm.trans ht.2)
  exact ht'

theorem reachable {s : System M R} {initial : System M R → Prop}
    (hinitial : ∀ s, initial s → AtWork s) (h : w.Reachable initial s) : AtWork s ∨ Closing s := by
  induction h with
  | initial h => exact .inl (hinitial _ h)
  | next _ ht ih => exact g.takes ih ht

variable {r : w.Run}

end Guarantee

end EndpointLifecycle.Wiring

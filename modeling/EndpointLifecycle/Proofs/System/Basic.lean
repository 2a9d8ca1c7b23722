import EndpointLifecycle.Collaborator.Socket
import EndpointLifecycle.Machine
import EndpointLifecycle.Proofs.System.Channel
import Mathlib.Logic.Function.Basic
import Mathlib.Logic.Relation

/-!
# An endpoint among its collaborators

The endpoint and its collaborators go on by themselves: a collaborator reports something or brings
a stop to its end, a report is delivered, the endpoint is asked to stop. Reports of one collaborator
are delivered in order, those of different ones in any order. A collaborator keeps to its contract:
what it may report is limited by how it stands, by what it has already reported since its last
start, and by what has happened to the endpoint since then.
-/

namespace EndpointLifecycle

namespace Outcome

variable {V M N : Type}

def map (f : M → N) : Outcome V M → Outcome V N
  | done m => done (f m)
  | violation reason m => violation reason (f m)

end Outcome

/-- How an endpoint and its collaborators are put together. -/
structure Wiring (M V : Type) {C : Type} (R : C → Type) where
  activity : M → C → Activity
  phase : M → Phase
  handle : M → (c : C) → R c → Outcome V M
  stop : M → Outcome V M
  completeStop : M → C → M
  inject : M → FaultPoint → ErrorKind → M
  /-- Settles whether the next stop of a collaborator is completed at once. -/
  settle : M → C → Bool → M
  /-- The report of a stop that has come to its end. -/
  ended : (c : C) → R c
  /-- What a collaborator at work may report, given the endpoint before its last start and now, and
  what it has reported since. -/
  mayPost : (begun now : M) → (c : C) → (posted : List (R c)) → R c → Prop

structure System (M : Type) {C : Type} (R : C → Type) where
  machine : M
  channel : (c : C) → Channel (R c)
  /-- The endpoint as it was before the last start of each collaborator. -/
  begun : C → M

namespace System

variable {M C : Type} {R : C → Type} [DecidableEq C] (s : System M R)

/-- Takes the oldest report of a collaborator off. -/
def take (c : C) : System M R :=
  { s with channel := Function.update s.channel c (s.channel c).pop }

/-- Adds a report of a collaborator. -/
def post (c : C) (r : R c) : System M R :=
  { s with channel := Function.update s.channel c ((s.channel c).post r) }

@[simp] theorem channel_take_self (c : C) : (s.take c).channel c = (s.channel c).pop := by
  simp [take]

@[simp] theorem channel_take_of_ne {c d : C} (h : d ≠ c) : (s.take c).channel d = s.channel d := by
  simp [take, h]

@[simp] theorem channel_post_self (c : C) (r : R c) :
    (s.post c r).channel c = (s.channel c).post r := by
  simp [post]

@[simp] theorem channel_post_of_ne {c d : C} (h : d ≠ c) (r : R c) :
    (s.post c r).channel d = s.channel d := by
  simp [post, h]

end System

/-- What can happen in a system. -/
inductive Move {C : Type} (R : C → Type)
  | post (c : C) (r : R c)
  | complete (c : C)
  | deliver (c : C)
  | stop
  | inject (point : FaultPoint) (kind : ErrorKind)
  | settle (c : C) (atOnce : Bool)

/-- What the collaborators do of their own accord, and the deliveries. -/
def Move.IsOwn {C : Type} {R : C → Type} : Move R → Prop
  | post .. | complete _ | deliver _ => True
  | stop | inject .. | settle .. => False

namespace Wiring

variable {M V C : Type} {R : C → Type} [DecidableEq C] (w : Wiring M V R)

/-- A system in which nothing has happened yet. -/
def still (m : M) : System M R where
  machine := m
  channel _ := {}
  begun _ := m

/-- The system when its endpoint has become another. -/
def after (s : System M R) (m : M) : System M R where
  machine := m
  channel c := (s.channel c).update (w.ended c) (w.activity s.machine c) (w.activity m c)
  begun c :=
    if (w.activity m c).starts = (w.activity s.machine c).starts then s.begun c else s.machine

def Allows (s : System M R) : Move R → Prop
  | .post c r =>
    (w.activity s.machine c).status ≠ .idle ∧ r ≠ w.ended c ∧
      w.mayPost (s.begun c) s.machine c (s.channel c).posted r
  | .complete c => (w.activity s.machine c).status = .stopping
  | .deliver c => (s.channel c).queue ≠ [] ∧ w.phase s.machine ≠ .stopped
  | .stop | .inject .. | .settle .. => True

def next (s : System M R) : Move R → Outcome V (System M R)
  | .post c r => .done (s.post c r)
  | .complete c => .done (w.after s (w.completeStop s.machine c))
  | .deliver c =>
    match (s.channel c).queue with
    | [] => .done s
    | r :: _ => (w.handle s.machine c r).map (w.after (s.take c))
  | .stop => (w.stop s.machine).map (w.after s)
  | .inject point kind => .done (w.after s (w.inject s.machine point kind))
  | .settle c atOnce => .done (w.after s (w.settle s.machine c atOnce))

section After

omit [DecidableEq C]

variable {s : System M R} {m m' : M} {c : C}

@[simp] theorem machine_after : (w.after s m).machine = m := rfl

theorem channel_after : (w.after s m).channel c =
    (s.channel c).update (w.ended c) (w.activity s.machine c) (w.activity m c) := rfl

variable {w}

theorem channel_after_of_eq (h : w.activity m c = w.activity s.machine c) :
    (w.after s m).channel c = s.channel c := by
  rw [channel_after, h, Channel.update_self]

theorem posted_after_of_start (h : (w.activity m c).starts ≠ (w.activity s.machine c).starts) :
    ((w.after s m).channel c).posted = [] := if_neg h

theorem channel_after_of_idle (he : (w.activity s.machine c).Eases (w.activity m c))
    (hidle : (w.activity s.machine c).status = .idle) :
    (w.after s m).channel c = s.channel c :=
  Channel.update_of_eq he.starts_eq (he.completions_eq hidle)

theorem begun_after_of_eq (h : (w.activity m c).starts = (w.activity s.machine c).starts) :
    (w.after s m).begun c = s.begun c := if_pos h

theorem begun_after_of_ne (h : (w.activity m c).starts ≠ (w.activity s.machine c).starts) :
    (w.after s m).begun c = s.machine := if_neg h

/-- Where nothing is started in between, it makes no difference to look at the endpoint halfway. -/
theorem after_after (h : ∀ c, (w.activity s.machine c).Eases (w.activity m c))
    (h' : ∀ c, (w.activity m c).Eases (w.activity m' c)) :
    w.after (w.after s m) m' = w.after s m' := by
  unfold after
  congr 1
  · funext c
    exact Channel.update_update (h c) (h' c)
  · funext c
    simp [(h c).starts_eq, (h' c).starts_eq]

theorem after_self (s : System M R) : w.after s s.machine = s := by
  unfold after
  congr 1
  · funext c
    exact Channel.update_self ..
  · funext c
    simp

end After

section Deliver

variable {s : System M R} {m : M} {c : C} {r : R c} {rest : List (R c)}

theorem channel_after_take (s : System M R) (m : M) (c : C) :
    (w.after (s.take c) m).channel c =
      (s.channel c).pop.update (w.ended c) (w.activity s.machine c) (w.activity m c) := by
  rw [channel_after, System.channel_take_self]
  rfl

variable {w}

theorem channel_after_take_of_eq (h : w.activity m c = w.activity s.machine c) :
    (w.after (s.take c) m).channel c = (s.channel c).pop := by
  have ht : (w.after (s.take c) m).channel c = (s.take c).channel c := channel_after_of_eq h
  rw [ht, System.channel_take_self]

theorem next_deliver (hq : (s.channel c).queue = r :: rest)
    (hm : w.handle s.machine c r = .done m) :
    w.next s (.deliver c) = .done (w.after (s.take c) m) := by
  rw [next, hq]
  exact congrArg (Outcome.map _) hm

theorem resting_take (hc : (s.channel c).pop.Resting (w.activity s.machine c))
    (h : ∀ d ≠ c, (s.channel d).Resting (w.activity s.machine d)) (d : C) :
    ((s.take c).channel d).Resting (w.activity (s.take c).machine d) := by
  by_cases hd : d = c
  · subst hd
    rwa [System.channel_take_self]
  · rw [System.channel_take_of_ne s hd]
    exact h d hd

end Deliver

/-- One move that is allowed and does not go wrong. -/
def Takes (s : System M R) (a : Move R) (s' : System M R) : Prop :=
  w.Allows s a ∧ w.next s a = .done s'

inductive Reachable (initial : System M R → Prop) : System M R → Prop
  | initial {s} (h : initial s) : Reachable initial s
  | next {s a s'} (reachable : Reachable initial s) (h : w.Takes s a s') : Reachable initial s'

/-- One system becomes another by what the collaborators do of their own accord. -/
def Leads : System M R → System M R → Prop :=
  Relation.ReflTransGen fun s s' => ∃ a : Move R, a.IsOwn ∧ w.Takes s a s'

/-- A course of events that goes on for ever, though perhaps with nothing happening any more. -/
structure Run where
  state : ℕ → System M R
  move : ℕ → Option (Move R)
  pause : ∀ n, move n = none → state (n + 1) = state n
  step : ∀ n a, move n = some a → w.Takes (state n) a (state (n + 1))

end Wiring

end EndpointLifecycle

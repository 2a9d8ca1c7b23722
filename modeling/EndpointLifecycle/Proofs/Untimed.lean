import EndpointLifecycle.Backoff
import EndpointLifecycle.Collaborator.Acceptors
import EndpointLifecycle.Collaborator.Resolver
import EndpointLifecycle.Collaborator.Socket

/-!
# What was asked, and not how far it has got

The same may have been asked of two collaborators while one has come to the end of a stop and the
other is in the middle of it. `untimed` takes this difference away and keeps all else: the calls
that were made, the faults that are laid, and how often each was started and asked to stop. Two
collaborators without another difference answer alike, and have no other difference afterwards.
-/

namespace EndpointLifecycle

namespace Activity

def untimed (a : Activity) : Activity := { starts := a.starts, stops := a.stops }

variable {a b : Activity}

theorem untimed_eq_iff : a.untimed = b.untimed ↔ a.starts = b.starts ∧ a.stops = b.stops := by
  simp [untimed]

theorem untimed_start (h : a.untimed = b.untimed) : a.start.untimed = b.start.untimed := by
  simpa [untimed, start] using h

theorem untimed_stop (h : a.untimed = b.untimed) : a.stop.untimed = b.stop.untimed := by
  simpa [untimed] using h

@[simp] theorem untimed_completeStop (a : Activity) : a.completeStop.untimed = a.untimed := by
  simp [untimed]

end Activity

namespace Socket

def untimed (s : Socket) : Socket := { s with activity := s.activity.untimed }

variable {s s' t : Socket} {error : Option IoError}

theorem exists_activity (h : s.untimed = s'.untimed) :
    ∃ a, s' = { s with activity := a } ∧ s.activity.untimed = a.untimed := by
  refine ⟨s'.activity, ?_, congrArg Socket.activity h⟩
  cases s
  cases s'
  simp only [untimed, Socket.mk.injEq] at h ⊢
  simp [h]

theorem exists_start (h : s.untimed = s'.untimed) {family : Family}
    (hs : s.start family = (t, error)) :
    ∃ t', s'.start family = (t', error) ∧ t.untimed = t'.untimed := by
  obtain ⟨a, rfl, ha⟩ := exists_activity h
  unfold start at hs ⊢
  dsimp only
  split at hs
  case h_1 kind hfault =>
    cases hs
    rw [hfault]
    exact ⟨_, rfl, by simp [untimed, called, ha]⟩
  case h_2 hfault =>
    cases hs
    rw [hfault]
    exact ⟨_, rfl, by simp [untimed, called, Activity.untimed_start ha, hfault]⟩

/-- The answer to every other call is told by the fault that is laid for it. -/
theorem exists_bind (h : s.untimed = s'.untimed) {addr : SocketAddr}
    (hs : s.bind addr = (t, error)) :
    ∃ t', s'.bind addr = (t', error) ∧ t.untimed = t'.untimed := by
  obtain ⟨a, rfl, ha⟩ := exists_activity h
  cases hs
  exact ⟨_, rfl, by simp [untimed, called, ha]⟩

theorem exists_listen (h : s.untimed = s'.untimed) {backlog : UInt32}
    (hs : s.listen backlog = (t, error)) :
    ∃ t', s'.listen backlog = (t', error) ∧ t.untimed = t'.untimed := by
  obtain ⟨a, rfl, ha⟩ := exists_activity h
  cases hs
  exact ⟨_, rfl, by simp [untimed, called, ha]⟩

theorem exists_connect (h : s.untimed = s'.untimed) {addr : SocketAddr}
    (hs : s.connect addr = (t, error)) :
    ∃ t', s'.connect addr = (t', error) ∧ t.untimed = t'.untimed := by
  obtain ⟨a, rfl, ha⟩ := exists_activity h
  cases hs
  exact ⟨_, rfl, by simp [untimed, called, ha]⟩

theorem untimed_stop (h : s.untimed = s'.untimed) : s.stop.untimed = s'.stop.untimed := by
  obtain ⟨a, rfl, ha⟩ := exists_activity h
  simp [untimed, stop, called, Activity.untimed_stop ha]

theorem untimed_inject (h : s.untimed = s'.untimed) (point : FaultPoint) (kind : ErrorKind) :
    (s.inject point kind).untimed = (s'.inject point kind).untimed := by
  obtain ⟨a, rfl, ha⟩ := exists_activity h
  cases point <;> simp [untimed, inject, ha]

@[simp] theorem untimed_completeStop (s : Socket) : s.completeStop.untimed = s.untimed := by
  simp [untimed, completeStop]

end Socket

namespace Backoff

def untimed (b : Backoff) : Backoff :=
  { b with timer := { b.timer with activity := b.timer.activity.untimed } }

variable {b b' : Backoff}

theorem exists_activity (h : b.untimed = b'.untimed) :
    ∃ a, b' = { b with timer := { b.timer with activity := a } } ∧
      b.timer.activity.untimed = a.untimed := by
  refine ⟨b'.timer.activity, ?_, congrArg (·.timer.activity) h⟩
  rcases b with ⟨⟨activity, intervals⟩, max, current, attempts⟩
  rcases b' with ⟨⟨activity', intervals'⟩, max', current', attempts'⟩
  simp only [untimed, Backoff.mk.injEq, Timer.mk.injEq] at h ⊢
  simp [h]

theorem fst_start_eq (h : b.untimed = b'.untimed) : b.start.1 = b'.start.1 := by
  obtain ⟨a, rfl, ha⟩ := exists_activity h
  rfl

theorem untimed_start (h : b.untimed = b'.untimed) : b.start.2.untimed = b'.start.2.untimed := by
  obtain ⟨a, rfl, ha⟩ := exists_activity h
  simp [untimed, start, Timer.start, nextInterval, Activity.untimed_start ha]

theorem untimed_stop (h : b.untimed = b'.untimed) : b.stop.untimed = b'.stop.untimed := by
  obtain ⟨a, rfl, ha⟩ := exists_activity h
  simp [untimed, stop, Timer.stop, Activity.untimed_stop ha]

@[simp] theorem untimed_completeStop (b : Backoff) : b.completeStop.untimed = b.untimed := by
  simp [untimed, completeStop, Timer.completeStop]

end Backoff

namespace Resolver

def untimed (r : Resolver) : Resolver := { r with activity := r.activity.untimed }

variable {r r' : Resolver}

theorem untimed_start (h : r.untimed = r'.untimed) (lookup : Lookup) :
    (r.start lookup).untimed = (r'.start lookup).untimed := by
  obtain ⟨ha, hl⟩ := Resolver.mk.inj h
  simp [untimed, start, Activity.untimed_start ha, hl]

theorem untimed_stop (h : r.untimed = r'.untimed) : r.stop.untimed = r'.stop.untimed := by
  obtain ⟨ha, hl⟩ := Resolver.mk.inj h
  simp [untimed, stop, Activity.untimed_stop ha, hl]

@[simp] theorem untimed_completeStop (r : Resolver) : r.completeStop.untimed = r.untimed := by
  simp [untimed, completeStop]

end Resolver

namespace Acceptors

def untimed (p : Acceptors) : Acceptors :=
  { created := p.created.map fun (id, a) => (id, a.untimed) }

variable {p p' : Acceptors}

theorem untimed_create (h : p.untimed = p'.untimed) (id : ConnectionId) :
    (p.create id).untimed = (p'.create id).untimed := by
  simpa [untimed, create, Activity.start, Activity.untimed] using h

/-- What is asked of some acceptors takes no notice of how far they have got. -/
theorem untimed_modify (h : p.untimed = p'.untimed) (chosen : ConnectionId → Bool)
    {f g : Activity → Activity} (hf : ∀ a, (f a).untimed = g a.untimed) :
    (p.modify chosen f).untimed = (p'.modify chosen f).untimed := by
  have hmodify (q : Acceptors) : (q.modify chosen f).untimed = q.untimed.modify chosen g := by
    simp only [untimed, modify, List.map_map, Acceptors.mk.injEq, and_true]
    refine List.map_congr_left fun pair _ => ?_
    by_cases hid : chosen pair.1 <;> simp [hid, hf]
  rw [hmodify, hmodify, h]

theorem untimed_stop (h : p.untimed = p'.untimed) (ids : List ConnectionId) :
    (p.stop ids).untimed = (p'.stop ids).untimed :=
  untimed_modify (g := fun a => { a with stops := a.stops + 1 }) h _ fun a => by
    simp [Activity.untimed]

@[simp] theorem untimed_completeStop (p : Acceptors) (id : ConnectionId) :
    (p.completeStop id).untimed = p.untimed := by
  simp only [untimed, completeStop, modify, List.map_map, Acceptors.mk.injEq, and_true]
  refine List.map_congr_left fun pair _ => ?_
  by_cases h : pair.1 = id <;> simp [h]

@[simp] theorem numbers_untimed (p : Acceptors) : p.untimed.numbers = p.numbers := by
  simp [untimed, numbers, Function.comp_def]

/-- How often an acceptor was started and asked to stop is told without how far it has got. -/
theorem find?_untimed (p : Acceptors) (id : ConnectionId) :
    p.untimed.find? id = (p.find? id).map Activity.untimed := by
  unfold untimed find?
  induction p.created with
  | nil => rfl
  | cons pair rest ih =>
    by_cases h : pair.1 = id
    · simp [h]
    · simpa [h] using ih

end Acceptors

end EndpointLifecycle

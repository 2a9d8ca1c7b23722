import EndpointLifecycle.Collaborator.Activity

/-!
# The acceptors of a listener

An acceptor waits for one peer and then is the connection with it. All acceptors that were ever
created are kept, oldest first, with the number each was created under. A listener creates each
number once; what is asked of a number is asked of all acceptors that bear it.
-/

namespace EndpointLifecycle

abbrev ConnectionId := Nat

structure Acceptors where
  created : List (ConnectionId × Activity) := []
  /-- Whether new acceptors stop at once. -/
  stopAtOnce : Bool := false
  deriving DecidableEq

namespace Acceptors

/-- Creates an acceptor and starts it. -/
def create (p : Acceptors) (id : ConnectionId) : Acceptors :=
  let idle : Activity := { stopsAtOnce := p.stopAtOnce }
  { p with created := p.created ++ [(id, idle.start)] }

/-- The first acceptor created under a number. -/
def find? (p : Acceptors) (id : ConnectionId) : Option Activity :=
  (p.created.find? (·.1 = id)).map (·.2)

def modify (p : Acceptors) (chosen : ConnectionId → Bool) (f : Activity → Activity) :
    Acceptors :=
  { p with created := p.created.map fun (id, a) => (id, if chosen id then f a else a) }

def stop (p : Acceptors) (ids : List ConnectionId) : Acceptors :=
  p.modify (ids.contains ·) Activity.stop

def completeStop (p : Acceptors) (id : ConnectionId) : Acceptors :=
  p.modify (· = id) Activity.completeStop

/-- No acceptor is at work under the number. -/
def isIdle (p : Acceptors) (id : ConnectionId) : Bool := (p.find? id).all Activity.isIdle

/-- The stops that were asked of the acceptor under a number. -/
def stops (p : Acceptors) (id : ConnectionId) : Nat := (p.find? id).elim 0 (·.stops)

/-- The numbers under which acceptors were created, oldest first. -/
def numbers (p : Acceptors) : List ConnectionId := p.created.map (·.1)

theorem isSome_find? (p : Acceptors) (id : ConnectionId) :
    (p.find? id).isSome ↔ id ∈ p.numbers := by
  simp [find?, numbers, List.find?_isSome]

theorem find?_modify (p : Acceptors) (chosen : ConnectionId → Bool) (f : Activity → Activity)
    (id : ConnectionId) :
    (p.modify chosen f).find? id = (p.find? id).map fun a => if chosen id then f a else a := by
  unfold modify find?
  induction p.created with
  | nil => rfl
  | cons pair rest ih =>
    by_cases h : pair.1 = id
    · subst h
      simp
    · simpa [h] using ih

theorem numbers_modify (p : Acceptors) (chosen : ConnectionId → Bool) (f : Activity → Activity) :
    (p.modify chosen f).numbers = p.numbers := by
  simp [modify, numbers]

theorem find?_stop (p : Acceptors) (ids : List ConnectionId) (id : ConnectionId) :
    (p.stop ids).find? id = (p.find? id).map fun a => if id ∈ ids then a.stop else a := by
  simp [stop, find?_modify]

theorem find?_completeStop (p : Acceptors) (id other : ConnectionId) :
    (p.completeStop id).find? other =
      (p.find? other).map fun a => if other = id then a.completeStop else a := by
  simp [completeStop, find?_modify]

theorem find?_create (p : Acceptors) (id other : ConnectionId) :
    (p.create id).find? other =
      (p.find? other).or
        (if id = other then some (Activity.start { stopsAtOnce := p.stopAtOnce }) else none) := by
  simp only [create, find?, List.find?_append, Option.map_or]
  by_cases h : id = other <;> simp only [h] <;> simp [h]

@[simp] theorem numbers_stop (p : Acceptors) (ids : List ConnectionId) :
    (p.stop ids).numbers = p.numbers := numbers_modify ..

@[simp] theorem numbers_completeStop (p : Acceptors) (id : ConnectionId) :
    (p.completeStop id).numbers = p.numbers := numbers_modify ..

@[simp] theorem numbers_create (p : Acceptors) (id : ConnectionId) :
    (p.create id).numbers = p.numbers ++ [id] := by simp [create, numbers]

@[simp] theorem stops_completeStop (p : Acceptors) (id other : ConnectionId) :
    (p.completeStop id).stops other = p.stops other := by
  unfold stops
  rw [find?_completeStop]
  cases p.find? other with
  | none => rfl
  | some a => by_cases h : other = id <;> simp [h]

theorem stops_stop_of_notMem (p : Acceptors) {ids : List ConnectionId} {id : ConnectionId}
    (h : id ∉ ids) : (p.stop ids).stops id = p.stops id := by
  unfold stops
  rw [find?_stop]
  cases p.find? id <;> simp [h]

theorem stops_stop_of_mem (p : Acceptors) {ids : List ConnectionId} {id : ConnectionId}
    (h : id ∈ ids) (hid : id ∈ p.numbers) : (p.stop ids).stops id = p.stops id + 1 := by
  obtain ⟨a, ha⟩ := Option.isSome_iff_exists.1 ((p.isSome_find? id).2 hid)
  simp [stops, find?_stop, ha, h]

theorem stops_stop_le (p : Acceptors) (ids : List ConnectionId) (id : ConnectionId) :
    (p.stop ids).stops id ≤ p.stops id + 1 := by
  unfold stops
  rw [find?_stop]
  cases p.find? id with
  | none => simp
  | some a => by_cases h : id ∈ ids <;> simp [h]

theorem isIdle_completeStop (p : Acceptors) {id : ConnectionId} (other : ConnectionId)
    (h : p.isIdle id) : (p.completeStop other).isIdle id := by
  unfold isIdle at *
  rw [find?_completeStop]
  cases hf : p.find? id with
  | none => rfl
  | some a =>
    have ha : a.isIdle := by simpa [hf] using h
    by_cases hid : id = other <;> simp [hid, ha]

theorem isIdle_stop (p : Acceptors) {id : ConnectionId} (ids : List ConnectionId)
    (h : p.isIdle id) : (p.stop ids).isIdle id := by
  unfold isIdle at *
  rw [find?_stop]
  cases hf : p.find? id with
  | none => rfl
  | some a =>
    have ha : a.isIdle := by simpa [hf] using h
    by_cases hid : id ∈ ids <;> simp [hid, ha, Activity.isIdle_stop]

end Acceptors

end EndpointLifecycle

import EndpointLifecycle.Collaborator.Activity
import Mathlib.Tactic.Common

/-!
# Reports on their way

Between a collaborator and its endpoint reports are under way in the order in which they were
posted. The end of every stop is reported by itself; whatever else a collaborator reports since its
last start is remembered, because that is what limits what it may still report.
-/

namespace EndpointLifecycle

theorem Status.eq_stopping {x : Status} (h : x ≠ .running) (h' : x ≠ .idle) : x = .stopping := by
  cases x <;> simp_all

namespace Activity

/-- What can become of an activity without a start. -/
inductive Eases (a a' : Activity) : Prop
  | same (status : a'.status = a.status) (starts : a'.starts = a.starts)
      (completions : a'.completions = a.completions)
  | asked (running : a.status = .running) (stopping : a'.status = .stopping)
      (starts : a'.starts = a.starts) (completions : a'.completions = a.completions)
  | ended (busy : a.status ≠ .idle) (idle : a'.status = .idle) (starts : a'.starts = a.starts)
      (completions : a'.completions = a.completions + 1)

theorem Eases.refl (a : Activity) : Eases a a := .same rfl rfl rfl

theorem Eases.starts_eq {a a' : Activity} (h : Eases a a') : a'.starts = a.starts := by
  cases h <;> assumption

theorem Eases.trans {a b c : Activity} (h : Eases a b) (h' : Eases b c) : Eases a c := by
  have hstarts := h'.starts_eq.trans h.starts_eq
  cases h with
  | same status _ completions =>
    cases h' with
    | same status' _ completions' =>
      exact .same (status'.trans status) hstarts (completions'.trans completions)
    | asked running stopping _ completions' =>
      exact .asked (status ▸ running) stopping hstarts (completions'.trans completions)
    | ended busy idle _ completions' =>
      exact .ended (status ▸ busy) idle hstarts (completions'.trans (by rw [completions]))
  | asked running stopping _ completions =>
    have hbusy : a.status ≠ .idle := by simp [running]
    cases h' with
    | same status' _ completions' =>
      exact .asked running (status'.trans stopping) hstarts (completions'.trans completions)
    | asked running' => simp [stopping] at running'
    | ended busy idle _ completions' =>
      exact .ended hbusy idle hstarts (completions'.trans (by rw [completions]))
  | ended busy idle _ completions =>
    cases h' with
    | same status' _ completions' =>
      exact .ended busy (status'.trans idle) hstarts (completions'.trans completions)
    | asked running' => simp [idle] at running'
    | ended busy' => exact absurd idle busy'

theorem eases_completeStop (a : Activity) : Eases a a.completeStop := by
  unfold completeStop
  split
  case isTrue stopping => exact .ended (by simp [stopping]) rfl rfl rfl
  case isFalse => exact .refl a

theorem eases_requestStop (a : Activity) : Eases a a.requestStop := by
  by_cases running : a.status = .running
  · exact .asked running (by simp [requestStop, running]) rfl rfl
  · exact .same (by simp [requestStop, running]) rfl rfl

theorem eases_stop (a : Activity) : Eases a a.stop := by
  unfold stop
  split
  · exact (eases_requestStop a).trans (eases_completeStop _)
  · exact eases_requestStop a

theorem Eases.idle {a a' : Activity} (h : Eases a a') (hidle : a.status = .idle) :
    a'.status = .idle := by
  cases h with
  | same status => exact status.trans hidle
  | asked running => simp [hidle] at running
  | ended busy => exact absurd hidle busy

theorem Eases.isIdle {a a' : Activity} (h : Eases a a') (hidle : a.isIdle) : a'.isIdle := by
  simpa [Activity.isIdle] using h.idle (by simpa [Activity.isIdle] using hidle)

theorem Eases.completions_eq {a a' : Activity} (h : Eases a a') (hidle : a.status = .idle) :
    a'.completions = a.completions := by
  cases h with
  | same _ _ completions | asked _ _ _ completions => exact completions
  | ended busy => exact absurd hidle busy

theorem Eases.not_running {a a' : Activity} (h : Eases a a') (hr : a.status ≠ .running) :
    a'.status ≠ .running := by
  cases h with
  | same status => rwa [status]
  | asked running => exact absurd running hr
  | ended _ idle => simp [idle]

theorem stop_not_running (a : Activity) : a.stop.status ≠ .running := by
  rcases a with ⟨status, atOnce, _, _, _⟩
  cases status <;> cases atOnce <;> simp [stop, requestStop, completeStop]

/-- Settles whether the next stop is completed at once. -/
def settle (atOnce : Bool) (a : Activity) : Activity := { a with stopsAtOnce := atOnce }

theorem eases_settle (atOnce : Bool) (a : Activity) : Eases a (a.settle atOnce) := .same rfl rfl rfl

end Activity

/-- What a collaborator has under way. -/
structure Channel (R : Type) where
  queue : List R := []
  /-- What it has reported since its last start, without its end. -/
  posted : List R := []

namespace Channel

variable {R : Type}

/-- Keeps up with an activity: each stop that has come to its end is reported by `ended`. -/
def update (ended : R) (a a' : Activity) (ch : Channel R) : Channel R :=
  { queue := ch.queue ++ List.replicate (a'.completions - a.completions) ended
    posted := if a'.starts = a.starts then ch.posted else [] }

def post (ch : Channel R) (r : R) : Channel R :=
  { queue := ch.queue ++ [r], posted := ch.posted ++ [r] }

def pop (ch : Channel R) : Channel R := { ch with queue := ch.queue.tail }

variable {ended : R} {a a' a'' : Activity} {ch : Channel R} {P : R → Prop}

theorem update_of_eq (hs : a'.starts = a.starts) (hc : a'.completions = a.completions) :
    ch.update ended a a' = ch := by
  simp [update, hs, hc]

@[simp] theorem update_self (ended : R) (a : Activity) (ch : Channel R) :
    ch.update ended a a = ch := update_of_eq rfl rfl

theorem update_update (h : Activity.Eases a a') (h' : Activity.Eases a' a'') :
    (ch.update ended a a').update ended a' a'' = ch.update ended a a'' := by
  have hle : a.completions ≤ a'.completions := by cases h <;> omega
  have hle' : a'.completions ≤ a''.completions := by cases h' <;> omega
  have hsum : a''.completions - a.completions =
      (a'.completions - a.completions) + (a''.completions - a'.completions) := by omega
  simp [update, h.starts_eq, h'.starts_eq, hsum, ← List.replicate_append_replicate]

theorem posted_update (h : Activity.Eases a a') : (ch.update ended a a').posted = ch.posted := by
  simp [update, h.starts_eq]

theorem queue_update_ended (hc : a'.completions = a.completions + 1) :
    (ch.update ended a a').queue = ch.queue ++ [ended] := by
  simp [update, hc]

theorem mem_queue_update {r : R} (h : r ∈ (ch.update ended a a').queue) :
    r ∈ ch.queue ∨ r = ended := by
  rcases List.mem_append.1 h with h | h
  · exact .inl h
  · exact .inr (List.eq_of_mem_replicate h)

/-- Nothing goes on and nothing is under way. -/
def Resting (a : Activity) (ch : Channel R) : Prop := a.status = .idle ∧ ch.queue = []

/-- At work, with only such reports under way as `P` allows. -/
def Working (P : R → Prop) (a : Activity) (ch : Channel R) : Prop :=
  a.status = .running ∧ ∀ r ∈ ch.queue, P r

/-- At work, and nothing it has reported since its start has been heard yet. -/
def Unheard (Q : List R → Prop) (a : Activity) (ch : Channel R) : Prop :=
  a.status = .running ∧ ch.queue = ch.posted ∧ Q ch.posted

/-- Being stopped, or stopped and with the report of that under way as the last one. -/
def Ending (ended : R) (P : R → Prop) (a : Activity) (ch : Channel R) : Prop :=
  (a.status = .stopping ∧ ∀ r ∈ ch.queue, P r) ∨
    (a.status = .idle ∧ ∃ rest, ch.queue = rest ++ [ended] ∧ ∀ r ∈ rest, P r)

/-- The end of a stop is still to be heard of. -/
def Owing (ended : R) (a : Activity) (ch : Channel R) : Prop :=
  a.status = .stopping ∨ a.status = .idle ∧ ended ∈ ch.queue

theorem Resting.eases (h : Resting a ch) (he : Activity.Eases a a') :
    Resting a' (ch.update ended a a') := by
  cases he with
  | same status starts completions =>
    rw [update_of_eq starts completions]
    exact ⟨status.trans h.1, h.2⟩
  | asked running => simp [h.1] at running
  | ended busy => exact absurd h.1 busy

/-- After a start nothing is under way and nothing has been reported. -/
theorem Resting.update_start (h : Resting a ch) (hs : a'.starts ≠ a.starts)
    (hc : a'.completions = a.completions) : ch.update ended a a' = {} := by
  simp [update, hs, hc, h.2]

theorem Resting.unheard {Q : List R → Prop} (h : Resting a ch) (hr : a'.status = .running)
    (hs : a'.starts ≠ a.starts) (hc : a'.completions = a.completions) (hQ : Q []) :
    Unheard Q a' (ch.update ended a a') := by
  rw [h.update_start hs hc]
  exact ⟨hr, rfl, hQ⟩

theorem Resting.working (h : Resting a ch) (hr : a'.status = .running)
    (hs : a'.starts ≠ a.starts) (hc : a'.completions = a.completions) :
    Working P a' (ch.update ended a a') := by
  rw [h.update_start hs hc]
  exact ⟨hr, by simp⟩

theorem Working.stop (h : Working P a ch) (he : Activity.Eases a a')
    (hr : a'.status ≠ .running) : Ending ended P a' (ch.update ended a a') := by
  cases he with
  | same status => exact absurd (status.trans h.1) hr
  | asked _ stopping starts completions =>
    rw [update_of_eq starts completions]
    exact .inl ⟨stopping, h.2⟩
  | ended _ idle _ completions =>
    exact .inr ⟨idle, ch.queue, queue_update_ended completions, h.2⟩

theorem Working.eases (h : Working P a ch) (he : Activity.Eases a a')
    (hr : a'.status = .running) : Working P a' (ch.update ended a a') := by
  cases he with
  | same _ starts completions =>
    rw [update_of_eq starts completions]
    exact ⟨hr, h.2⟩
  | asked _ stopping => simp [stopping] at hr
  | ended _ idle => simp [idle] at hr

theorem Unheard.eases {Q : List R → Prop} (h : Unheard Q a ch) (he : Activity.Eases a a')
    (hr : a'.status = .running) : Unheard Q a' (ch.update ended a a') := by
  cases he with
  | same _ starts completions =>
    rw [update_of_eq starts completions]
    exact ⟨hr, h.2⟩
  | asked _ stopping => simp [stopping] at hr
  | ended _ idle => simp [idle] at hr

/-- A start that is followed at once by a stop. -/
theorem Resting.start_stop (h : Resting a ch) :
    Ending ended P a.start.stop (ch.update ended a a.start.stop) := by
  have hfresh : ch.update ended a a.start.stop =
      Channel.update ended a.start a.start.stop {} := by
    simp [update, h.2, Activity.start]
  rw [hfresh]
  exact Working.stop (P := P) ⟨rfl, by simp⟩ (Activity.eases_stop _) (Activity.stop_not_running _)

theorem Ending.eases (h : Ending ended P a ch) (he : Activity.Eases a a') :
    Ending ended P a' (ch.update ended a a') := by
  cases he with
  | same status starts completions =>
    rw [update_of_eq starts completions]
    unfold Ending
    rwa [status]
  | asked running => rcases h with ⟨hs, -⟩ | ⟨hs, -⟩ <;> simp [hs] at running
  | ended busy idle _ completions =>
    rcases h with ⟨-, hq⟩ | ⟨hs, -⟩
    · exact .inr ⟨idle, ch.queue, queue_update_ended completions, hq⟩
    · exact absurd hs busy

theorem Owing.eases (h : Owing ended a ch) (he : Activity.Eases a a') :
    Owing ended a' (ch.update ended a a') := by
  cases he with
  | same status starts completions =>
    rw [update_of_eq starts completions]
    unfold Owing
    rwa [status]
  | asked running => rcases h with hs | ⟨hs, -⟩ <;> simp [hs] at running
  | ended busy idle _ completions =>
    exact .inr ⟨idle, by simp [queue_update_ended completions]⟩

theorem Working.post {r : R} (h : Working P a ch) (hr : P r) : Working P a (ch.post r) := by
  refine ⟨h.1, ?_⟩
  intro x hx
  rcases List.mem_append.1 hx with hx | hx
  · exact h.2 x hx
  · exact List.mem_singleton.1 hx ▸ hr

theorem Ending.post {r : R} (h : Ending ended P a ch) (hr : P r) (hbusy : a.status ≠ .idle) :
    Ending ended P a (ch.post r) := by
  rcases h with ⟨hs, hq⟩ | ⟨hs, -⟩
  · refine .inl ⟨hs, ?_⟩
    intro x hx
    rcases List.mem_append.1 hx with hx | hx
    · exact hq x hx
    · exact List.mem_singleton.1 hx ▸ hr
  · exact absurd hs hbusy

theorem Unheard.post {Q : List R → Prop} {r : R} (h : Unheard Q a ch)
    (hQ : Q (ch.posted ++ [r])) : Unheard Q a (ch.post r) :=
  ⟨h.1, congrArg (· ++ [r]) h.2.1, hQ⟩

theorem Owing.post (h : Owing ended a ch) (r : R) : Owing ended a (ch.post r) :=
  h.imp_right fun ⟨hs, hm⟩ => ⟨hs, List.mem_append_left _ hm⟩

theorem Ending.owing (h : Ending ended P a ch) : Owing ended a ch := by
  rcases h with ⟨hs, -⟩ | ⟨hs, rest, hq, -⟩
  · exact .inl hs
  · exact .inr ⟨hs, by simp [hq]⟩

theorem Ending.mem {r : R} (h : Ending ended P a ch) (hr : r ∈ ch.queue) : P r ∨ r = ended := by
  rcases h with ⟨-, hq⟩ | ⟨-, rest, hq, hrest⟩
  · exact .inl (hq r hr)
  · rw [hq, List.mem_append, List.mem_singleton] at hr
    exact hr.imp_left (hrest r)

/-- A stopped collaborator rests when its end has been heard of; other reports come before. -/
theorem Ending.pop {r : R} {rest : List R} (h : Ending ended P a ch) (hP : ¬P ended)
    (hq : ch.queue = r :: rest) :
    r = ended ∧ Resting a ch.pop ∨ P r ∧ Ending ended P a ch.pop := by
  rcases h with ⟨hs, hall⟩ | ⟨hs, before, hbefore, hall⟩
  · rw [hq] at hall
    refine .inr ⟨hall r (by simp), .inl ⟨hs, fun x hx => hall x (List.mem_cons_of_mem r ?_)⟩⟩
    simpa [Channel.pop, hq] using hx
  · cases before with
    | nil =>
      obtain ⟨rfl, rfl⟩ : r = ended ∧ rest = [] := by simpa [hbefore] using hq.symm
      exact .inl ⟨rfl, hs, by simp [Channel.pop, hq]⟩
    | cons x xs =>
      obtain ⟨rfl, rfl⟩ : x = r ∧ xs ++ [ended] = rest := by simpa [hbefore] using hq
      refine .inr ⟨hall x (by simp), .inr ⟨hs, xs, by simp [Channel.pop, hq], fun y hy => ?_⟩⟩
      exact hall y (List.mem_cons_of_mem x hy)

end Channel

end EndpointLifecycle

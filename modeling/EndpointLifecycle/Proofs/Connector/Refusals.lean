import EndpointLifecycle.Proofs.Connector.Beginnings
import EndpointLifecycle.Proofs.Connector.Shutdown

/-!
# What a connector refuses

A connector refuses events and nothing else: it never gets into a position in which it could not go
on, so that its guards against this never strike. The result of a lookup is there when the resolver
has stopped, and a shutdown that is under way has stages left to pass.
-/

namespace EndpointLifecycle.Connector

/-- The event that is refused, if it is an event. -/
def Refused.event? : Refused → Option Event
  | .event e => some e
  | .start | .missingResult | .destroy => none

/-- What is said of an event that is refused. -/
def complaint (c : Connector) (e : Event) : Violation :=
  ⟨.event e, if c.phase = .active then .state c.state else .phase c.phase⟩

/-- A request in the course of which the shutdown goes on, from `m` as far as it can. -/
inductive Advances (c : Connector) : Action → Connector → Prop
  | stop (active : c.phase = .active) : Advances c .stop c.beginStop
  | event (e : Event) (stopping : c.phase = .stopping) :
      Advances c (.event e) (c.note (.whileStopping e))

/-- No guard of a connector strikes. Phase and state agree, the result of a lookup is kept exactly
as long as the resolver is being stopped, the shutdown gets to the end of each request by at most
two stages, both of them passed while it is under way, and only events are refused. -/
structure Safe (c : Connector) : Prop where
  phase_eq : c.phase = c.state.phase
  resolved_iff : c.phase = .active → (c.resolved.isSome ↔ c.state = .stoppingResolver)
  advances : ∀ a m, c.Advances a m → ∃ passed,
    c.step a = .done m.advanceShutdown ∧
    (m :: passed).IsChain (fun x y => x.phase = .stopping ∧ passStage x = some y) ∧
    passed.getLastD m = m.advanceShutdown ∧ passStage m.advanceShutdown = none ∧
    passed.length ≤ 2
  refuses : ∀ a v m, c.step a = .violation v m → ∃ e, a = .event e ∧ v.refused.event? = some e

variable {c m : Connector} {e : Event} {v : Violation}

theorem handle_eq_done_iff (active : c.phase = .active) :
    c.handle e = .done m ↔ Handled c e m := by
  rw [handle, active]
  exact ⟨handled_of_onEvent, onEvent_of_handled⟩

/-- All that is refused is the event itself. -/
theorem eq_complaint_of_handle (hc : Coherent c) (h : c.handle e = .violation v m) :
    v = c.complaint e := by
  unfold handle at h
  unfold complaint
  split at h
  case h_1 active =>
    rw [if_pos active]
    unfold onEvent at h
    split at h
    case h_2 stopping =>
      -- The resolver does not stop before it has brought a result.
      obtain ⟨result, hresult⟩ := Option.isSome_iff_exists.1 (hc.resolved_isSome stopping)
      unfold onResolved at h
      rw [hresult] at h
      cases result <;> cases h
    case h_12 => cases h; rfl
    all_goals cases h
  case h_2 => cases h
  case h_3 idle => cases h; simp [idle]
  case h_4 stopped => cases h; simp [stopped]

theorem exists_passed (hm : Coherent m) :
    ∃ passed, (m :: passed).IsChain (fun x y => x.phase = .stopping ∧ passStage x = some y) ∧
      passed.getLastD m = m.advanceShutdown ∧ passStage m.advanceShutdown = none ∧
      passed.length ≤ 2 := by
  refine ⟨m.cascade, ?_, getLastD_cascade m, passStage_advanceShutdown m, ?_⟩
  · refine isChain_passedStages_of (P := Coherent) ?_ ?_ _ hm
    · intro x y hx h
      exact coherent_passed (passed_of_passStage h) hx
    · intro x y hx h
      refine ⟨?_, h⟩
      cases passed_of_passStage h with
      | session state | others state => rw [hx.phase_eq, state]; rfl
  · have hleft : m.state.stagesLeft ≤ 2 := by cases m.state <;> simp [State.stagesLeft]
    exact (length_passedStages_le _ m).trans hleft

theorem Advances.coherent (hc : Coherent c) {a : Action} (h : c.Advances a m) :
    Coherent m ∧ c.step a = .done m.advanceShutdown := by
  cases h with
  | stop active => exact ⟨coherent_beginStop c, by rw [step, Connector.stop, if_pos active]⟩
  | event e stopping => exact ⟨coherent_note hc _, handle_of_stopping stopping e⟩

theorem Coherent.safe (hc : Coherent c) : Safe c := by
  refine ⟨hc.phase_eq, fun active => ⟨fun h => ?_, hc.resolved_isSome⟩, fun a m h => ?_,
    fun a v m h => ?_⟩
  · by_contra hs
    simp [hc.resolved_eq_none active hs] at h
  · obtain ⟨hm, hstep⟩ := h.coherent hc
    obtain ⟨passed, hpassed⟩ := exists_passed hm
    exact ⟨passed, hstep, hpassed⟩
  · cases a with
    | event e =>
      obtain rfl := eq_complaint_of_handle hc h
      exact ⟨e, rfl, rfl⟩
    | stop | completeStop | inject => cases h

/-- A connector is created idle, so that its start is not refused. -/
theorem exists_done_of_create {address : String} {options : Options} {parts : Parts}
    {o : Outcome Violation Connector} (h : create address options parts = .ok o) :
    ∃ c₀, o = .done c₀ := by
  unfold create at h
  cases ht : ConnectAddress.parse address options.ipv4Only with
  | error error => rw [ht] at h; cases h
  | ok target => rw [ht] at h; cases h; exact ⟨_, rfl⟩

end EndpointLifecycle.Connector

import EndpointLifecycle.Machine
import EndpointLifecycle.Statistics

/-!
# The last word of an endpoint

While an endpoint winds down its host hears nothing of it, and in the end that it has stopped.
-/

namespace EndpointLifecycle

/-- What the host can hear of a machine that is no longer at work. -/
inductive LastWord (phase : Phase) (stats : Statistics) : Phase → Statistics → Prop
  | nothing : LastWord phase stats phase stats
  | stopped (stopping : phase = .stopping) : LastWord phase stats .stopped stats.markStopped

namespace LastWord

variable {phase phase' phase'' : Phase} {stats stats' stats'' : Statistics}

theorem phase_ne (h : LastWord phase stats phase' stats') (hp : phase ≠ .active) :
    phase' ≠ .active := by
  cases h with
  | nothing => exact hp
  | stopped => simp

/-- It is said once. -/
theorem trans (h : LastWord phase stats phase' stats')
    (h' : LastWord phase' stats' phase'' stats'') : LastWord phase stats phase'' stats'' := by
  cases h with
  | nothing => exact h'
  | stopped stopping =>
    cases h' with
    | nothing => exact .stopped stopping
    | stopped stopped => cases stopped

theorem stats_eq (h : LastWord phase stats phase' stats') (hp : phase' ≠ .stopped) :
    stats' = stats := by
  cases h with
  | nothing => rfl
  | stopped => exact absurd rfl hp

theorem get_eq (h : LastWord phase stats phase' stats') (stat : Statistic) :
    stats'.get stat = stats.get stat := by
  cases h with
  | nothing => rfl
  | stopped => exact Statistics.get_markStopped ..

theorem lastError_eq (h : LastWord phase stats phase' stats') :
    stats'.lastError = stats.lastError := by
  cases h <;> rfl

end LastWord

end EndpointLifecycle

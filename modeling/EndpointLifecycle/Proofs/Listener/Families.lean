import EndpointLifecycle.Proofs.Families
import EndpointLifecycle.Proofs.Listener.Attempts
import EndpointLifecycle.Proofs.Listener.Beginnings

/-!
# The address family of a listener

In every attempt a listener opens its socket for the family of the address at which it listens.
-/

namespace EndpointLifecycle.Listener

open SocketCall (Agree)

section Attempts

variable {addr : SocketAddr} {backlog : UInt32} {calls : List SocketCall} {family : Family}

/-- Calls that agree are followed by those of an attempt. -/
theorem Attempt.agree (attempt : Attempt) (h : Agree none calls) :
    Agree none (calls ++ (attempt.calls addr backlog).map (·.call)) := by
  cases attempt <;> exact h.attempt (by simp [SocketCall.opens?, SocketCall.Fits])

theorem Attempt.family_of_start {attempt : Attempt}
    (h : .start family ∈ (attempt.calls addr backlog).map (·.call)) : family = addr.ip.family := by
  cases attempt <;> simpa [calls] using h

theorem agree_attempts (attempts : List Attempt) :
    Agree none ((attempts.flatMap (Attempt.calls addr backlog)).map (·.call)) := by
  induction attempts using List.reverseRecOn with
  | nil => exact SocketCall.agree_nil
  | append_singleton attempts attempt ih =>
    rw [List.flatMap_append, List.flatMap_singleton, List.map_append]
    exact attempt.agree ih

theorem family_of_start_attempts {attempts : List Attempt}
    (h : .start family ∈ (attempts.flatMap (Attempt.calls addr backlog)).map (·.call)) :
    family = addr.ip.family := by
  rw [List.map_flatMap, List.mem_flatMap] at h
  obtain ⟨attempt, -, hmem⟩ := h
  exact attempt.family_of_start hmem

/-- The calls that were made on the socket agree, and it was opened for one family only. -/
theorem FromScratch.families {first : List AnsweredCall} {h : History} {l : Listener}
    (scratch : FromScratch addr backlog first h l) :
    Agree none l.socket.calls ∧ ∀ family, .start family ∈ l.socket.calls →
      family = addr.ip.family := by
  obtain ⟨attempts, stops, hcalls, -, hstops, -⟩ := scratch.attempts
  have hlast : ∃ n, stops.map (·.call) = List.replicate n .stop := by
    rcases hstops with rfl | rfl
    · exact ⟨0, rfl⟩
    · exact ⟨1, rfl⟩
  obtain ⟨n, hn⟩ := hlast
  rw [scratch.recorded, hcalls, List.map_append, hn]
  refine ⟨(agree_attempts attempts).stops n, fun family hstart => ?_⟩
  rcases List.mem_append.1 hstart with hold | hnew
  · exact family_of_start_attempts hold
  · cases List.eq_of_mem_replicate hnew

end Attempts

/-- A request that is refused is no attempt. -/
theorem Trying.note {calls : Attempt → List AnsweredCall} {first : List AnsweredCall} {h : History}
    {l : Listener} (ht : Trying calls first h l) (notice : Notice) :
    Trying calls first h (l.note notice) := by
  obtain ⟨attempts, htried, hlength⟩ := ht.tried
  have hc : Coherent (l.note notice) := htried.coherent.congr rfl rfl rfl rfl rfl rfl
  exact ⟨ht.recorded, ht.setup_eq,
    ⟨attempts, ⟨hc, htried.calls_eq, htried.failed, htried.listening⟩, hlength⟩, ht.only_retries⟩

theorem fromScratch_run {address : String} {options : Options} {parts : Parts}
    {bind : BindAddress} {l₀ : Listener} (unused : Parts.Unused parts)
    (parsed : BindAddress.parse address options.ipv4Only = .ok bind)
    (created : create address options parts = .ok (.done l₀)) (actions : List Action) :
    FromScratch (bind.socketAddr options.ipv4Only) options.backlog
      (parts.socket.callsUntil l₀.socket) (l₀.history actions) (l₀.run actions).machine := by
  refine Trying.fromScratch (Outcome.machine_history_induction
    (P := Trying _ (parts.socket.callsUntil l₀.socket))
    (trying_created unused parsed created) ?_ ?_ actions)
  · intro h l a l' ht hstep
    obtain ⟨attempts, htried, -⟩ := ht.tried
    exact trying_stepped ht (stepped_of_step hstep) (coherent_step htried.coherent hstep)
  · intro h l a v m ht hstep
    obtain ⟨attempts, htried, -⟩ := ht.tried
    rw [eq_note_of_violation htried.coherent hstep]
    exact ht.note _

/-- A listener that is restricted to IPv4 uses its socket for nothing else. -/
theorem only_ipv4_run {address : String} {options : Options} {parts : Parts} {l₀ : Listener}
    (unused : Parts.Unused parts) (restricted : options.ipv4Only = true)
    (created : create address options parts = .ok (.done l₀)) (actions : List Action) :
    SocketCall.OnlyFor .ipv4 (l₀.run actions).machine.socket.calls ∧
      Agree none (l₀.run actions).machine.socket.calls := by
  obtain ⟨bind, parsed, -⟩ := exists_setUp_begun created
  obtain ⟨hagree, hstart⟩ := (fromScratch_run unused parsed created actions).families
  rw [restricted] at parsed hstart
  refine ⟨hagree.onlyFor fun family hfamily => ?_, hagree⟩
  rw [hstart family hfamily, BindAddress.family_of_parse parsed]

end EndpointLifecycle.Listener

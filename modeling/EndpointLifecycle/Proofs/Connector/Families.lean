import EndpointLifecycle.Proofs.Connector.Attempts
import EndpointLifecycle.Proofs.Connector.Beginnings
import EndpointLifecycle.Proofs.Families

/-!
# The address family of a connector

In every attempt a connector opens its socket for the family of the address that was found, and
connects it to that address. The local address is of the same family unless the connector insists on
one of the other family: then no attempt can come to anything, which is found out neither when the
connector is created nor later.
-/

namespace EndpointLifecycle.Connector

open SocketCall (Agree)

/-- The address that the connector is told of. -/
def Action.found? : Action → Option IpAddr
  | .event (.resolver (.done (.found ip))) => some ip
  | _ => none

namespace History

/-- The addresses that were found for the connector. -/
def found (h : History) : List IpAddr := h.filterMap (·.action.found?)

theorem mem_found_of_marks {h : History} {ip : IpAddr} (hm : .result (.found ip) ∈ h.marks) :
    ip ∈ h.found := by
  obtain ⟨t, ht, hmark⟩ := List.mem_flatMap.1 hm
  have hheard : .result (.found ip) ∈ heard t.action := by
    simpa only [Connector.marks, List.mem_append, List.mem_map, reduceCtorEq, and_false,
      exists_false, or_false] using hmark
  refine List.mem_filterMap.2 ⟨t, ht, ?_⟩
  unfold heard at hheard
  split at hheard
  case h_1 result haction =>
    obtain rfl : .found ip = result := by simpa using hheard
    rw [haction]
    rfl
  case h_2 => simp at hheard
  case h_3 => cases hheard

end History

section Rounds

variable {target : ConnectAddress} {options : Options} {calls : List SocketCall} {family : Family}

/-- Calls that agree are followed by those of an attempt. -/
theorem Attempt.agree (attempt : Attempt) (ip : IpAddr) (h : Agree target.ownFamily? calls) :
    Agree target.ownFamily? (calls ++ (attempt.calls target options ip).map (·.call)) := by
  cases attempt <;>
    exact h.attempt (by
      simp [SocketCall.opens?, SocketCall.Fits, target.family_localAddr, ConnectAddress.remoteAddr])

theorem Attempt.family_of_start {attempt : Attempt} {ip : IpAddr}
    (h : .start family ∈ (attempt.calls target options ip).map (·.call)) : family = ip.family := by
  cases attempt <;> simpa [calls, openingCalls] using h

theorem Attempt.exists_closing_eq (attempt : Attempt) :
    ∃ n, attempt.closing.map (·.call) = List.replicate n .stop := by
  cases attempt with
  | notOpened => exact ⟨0, rfl⟩
  | notBound | notConnected | connecting => exact ⟨1, rfl⟩

theorem Round.agree (round : Round) (h : Agree target.ownFamily? calls) :
    Agree target.ownFamily? (calls ++ (round.calls target options).map (·.call)) := by
  cases round with
  | unfound kind => simpa [Round.calls] using h
  | found ip attempt =>
    obtain ⟨n, hn⟩ := attempt.exists_closing_eq
    rw [Round.calls, List.map_append, hn, ← List.append_assoc]
    exact (attempt.agree ip h).stops n

theorem agree_rounds (rounds : List Round) :
    Agree target.ownFamily? ((rounds.flatMap (Round.calls target options)).map (·.call)) := by
  induction rounds using List.reverseRecOn with
  | nil => exact SocketCall.agree_nil
  | append_singleton rounds round ih =>
    rw [List.flatMap_append, List.flatMap_singleton, List.map_append]
    exact round.agree ih

theorem Unfinished.agree (unfinished : Unfinished) (h : Agree target.ownFamily? calls) :
    Agree target.ownFamily? (calls ++ (unfinished.calls target options).map (·.call)) := by
  cases unfinished with
  | connecting ip unsized => exact (Attempt.connecting unsized).agree ip h
  | nothing | lookedUp | answered => simpa [Unfinished.calls] using h

/-- The socket is opened for an address that was the result of this round. -/
theorem Round.exists_found {round : Round}
    (h : .start family ∈ (round.calls target options).map (·.call)) :
    ∃ ip, .result (.found ip) ∈ round.marks target options ∧ ip.family = family := by
  cases round with
  | unfound => cases h
  | found ip attempt =>
    obtain ⟨n, hn⟩ := attempt.exists_closing_eq
    rw [Round.calls, List.map_append, hn, List.mem_append] at h
    rcases h with hstart | hstop
    · exact ⟨ip, by simp [Round.marks, Round.result], (Attempt.family_of_start hstart).symm⟩
    · cases List.eq_of_mem_replicate hstop

theorem Unfinished.exists_found {unfinished : Unfinished}
    (h : .start family ∈ (unfinished.calls target options).map (·.call)) :
    ∃ ip, .result (.found ip) ∈ unfinished.marks target options ∧ ip.family = family := by
  cases unfinished with
  | connecting ip unsized =>
    have hstart : .start family ∈
        ((Attempt.connecting unsized).calls target options ip).map (·.call) := h
    exact ⟨ip, by simp [Unfinished.marks], (Attempt.family_of_start hstart).symm⟩
  | nothing | lookedUp | answered => cases h

variable {trace tail : Trace} {rounds : List Round} {unfinished : Unfinished} {c : Connector}

theorem InRounds.agree (h : InRounds target options trace rounds unfinished tail c) :
    Agree target.ownFamily? c.socket.calls := by
  rw [h.socket_calls, List.map_append, List.map_append]
  have hrounds : Agree target.ownFamily?
      ((rounds.flatMap (Round.calls target options)).map (·.call) ++
        (unfinished.calls target options).map (·.call)) :=
    unfinished.agree (agree_rounds rounds)
  rcases h.tail_calls with htail | htail <;> rw [htail]
  · simpa using hrounds
  · exact hrounds.stops 1

theorem InRounds.exists_found (h : InRounds target options trace rounds unfinished tail c)
    (hstart : .start family ∈ c.socket.calls) :
    ∃ ip, .result (.found ip) ∈ trace ∧ ip.family = family := by
  rw [h.socket_calls, List.map_append, List.map_append, List.mem_append, List.mem_append] at hstart
  rcases hstart with (hround | hunfinished) | hlast
  · rw [List.map_flatMap, List.mem_flatMap] at hround
    obtain ⟨round, hmem, hcall⟩ := hround
    obtain ⟨ip, hip, hfamily⟩ := Round.exists_found hcall
    have hmarks := List.mem_flatMap_of_mem hmem hip
    exact ⟨ip, by simp [h.trace_eq, hmarks], hfamily⟩
  · obtain ⟨ip, hip, hfamily⟩ := Unfinished.exists_found hunfinished
    exact ⟨ip, by simp [h.trace_eq, hip], hfamily⟩
  · rcases h.tail_calls with htail | htail <;> simp [htail] at hlast

end Rounds

/-- A request that is refused belongs to no round. -/
theorem Tracked.note {target : ConnectAddress} {options : Options} {trace tail : Trace}
    {rounds : List Round} {unfinished : Unfinished} {c : Connector}
    (h : Tracked target options trace rounds unfinished tail c) (notice : Notice) :
    Tracked target options trace rounds unfinished tail (c.note notice) where
  coherent := coherent_note h.coherent notice
  recorded := { h.recorded with }
  trace_eq := h.trace_eq
  remote_eq := h.remote_eq
  working := by
    intro active
    obtain ⟨htail, hfits⟩ := h.working active
    exact ⟨htail, by cases unfinished <;> exact hfits⟩
  tail_lookups := h.tail_lookups
  tail_calls := h.tail_calls

section Run

variable {address : String} {options : Options} {parts : Parts} {target : ConnectAddress}
  {c₀ : Connector}

theorem inRounds_run (unused : Parts.Unused parts)
    (parsed : ConnectAddress.parse address options.ipv4Only = .ok target)
    (created : create address options parts = .ok (.done c₀)) (actions : List Action) :
    ∃ rounds unfinished tail, InRounds target options
      (c₀.resolver.lookups.map .lookup ++ (c₀.history actions).marks) rounds unfinished tail
      (c₀.run actions).machine := by
  have h : ∃ rounds unfinished tail, Tracked target options
      (c₀.resolver.lookups.map .lookup ++ (c₀.history actions).marks) rounds unfinished tail
      (c₀.run actions).machine := by
    refine Outcome.machine_history_induction (P := fun h c => ∃ rounds unfinished tail, Tracked
      target options (c₀.resolver.lookups.map .lookup ++ History.marks h) rounds unfinished tail c)
      ?_ ?_ ?_ actions
    · exact ⟨_, _, _, by simpa [History.marks] using tracked_created unused parsed created⟩
    · rintro h c a c' ⟨rounds, unfinished, tail, ht⟩ hstep
      have hnext := tracked_stepped ht (stepped_of_step hstep) (coherent_step ht.coherent hstep)
      simpa [History.marks] using hnext
    · rintro h c a v m ⟨rounds, unfinished, tail, ht⟩ hstep
      rw [eq_note_of_violation hstep]
      exact ⟨rounds, unfinished, tail, ht.note _⟩
  obtain ⟨rounds, unfinished, tail, ht⟩ := h
  exact ⟨rounds, unfinished, tail, ht.inRounds⟩

/-- The calls of a connector agree but for the local address that it insists on, and its socket is
opened only for the families of addresses that were found. -/
theorem families_run (unused : Parts.Unused parts)
    (parsed : ConnectAddress.parse address options.ipv4Only = .ok target)
    (created : create address options parts = .ok (.done c₀)) (actions : List Action) :
    Agree target.ownFamily? (c₀.run actions).machine.socket.calls ∧
      ∀ family, .start family ∈ (c₀.run actions).machine.socket.calls →
        ∃ ip ∈ (c₀.history actions).found, ip.family = family := by
  obtain ⟨rounds, unfinished, tail, h⟩ := inRounds_run unused parsed created actions
  refine ⟨h.agree, fun family hstart => ?_⟩
  obtain ⟨ip, hip, hfamily⟩ := h.exists_found hstart
  have hmarks : .result (.found ip) ∈ (c₀.history actions).marks := by simpa using hip
  exact ⟨ip, History.mem_found_of_marks hmarks, hfamily⟩

/-- A connector that is restricted to IPv4 uses its socket for nothing else, as long as nothing else
is found for it. -/
theorem only_ipv4_run (unused : Parts.Unused parts) (restricted : options.ipv4Only = true)
    (created : create address options parts = .ok (.done c₀)) (actions : List Action)
    (found : ∀ ip ∈ (c₀.history actions).found, ip.family = .ipv4) :
    SocketCall.OnlyFor .ipv4 (c₀.run actions).machine.socket.calls ∧
      Agree none (c₀.run actions).machine.socket.calls := by
  obtain ⟨target, parsed, -⟩ := exists_begun_of_create created
  obtain ⟨hagree, hstart⟩ := families_run unused parsed created actions
  have hipv4 : ∀ family, .start family ∈ (c₀.run actions).machine.socket.calls →
      family = .ipv4 := by
    intro family hfamily
    obtain ⟨ip, hip, rfl⟩ := hstart family hfamily
    exact found ip hip
  rw [restricted] at parsed
  have hownless := hagree.ownless fun family hfamily own hown =>
    (ConnectAddress.ownFamily_of_parse parsed hown).trans (hipv4 family hfamily).symm
  exact ⟨hownless.onlyFor hipv4, hownless⟩

/-- The addresses of every attempt agree with the socket, except that a connector that insists on a
local address binds to that. If it never differs from what is found, all agree. -/
theorem addresses_agree_unless_own_differs (unused : Parts.Unused parts)
    (parsed : ConnectAddress.parse address options.ipv4Only = .ok target)
    (created : create address options parts = .ok (.done c₀)) (actions : List Action) :
    Agree target.ownFamily? (c₀.run actions).machine.socket.calls ∧
      ((∀ ip ∈ (c₀.history actions).found, ∀ own ∈ target.ownFamily?, own = ip.family) →
        Agree none (c₀.run actions).machine.socket.calls) := by
  obtain ⟨hagree, hstart⟩ := families_run unused parsed created actions
  refine ⟨hagree, fun same => hagree.ownless fun family hfamily own hown => ?_⟩
  obtain ⟨ip, hip, rfl⟩ := hstart family hfamily
  exact same ip hip own hown

/-- A connector that insists on an IPv4 address of its own finds its peer at two IPv4 addresses, one
after the other. -/
theorem addresses_agree_unless_own_differs_same_family :
    ∃ target c₀ actions c,
      ConnectAddress.parse "192.0.2.1;localhost:5555" false = .ok target ∧
      target.ownFamily? = some .ipv4 ∧
      create "192.0.2.1;localhost:5555" { ipv4Only := false } {} = .ok (.done c₀) ∧
      c₀.run actions = .done c ∧
      (c₀.history actions).found = [.v4 ⟨192, 0, 2, 10⟩, .v4 ⟨192, 0, 2, 11⟩] ∧
      c.state = .connecting ∧ Agree none c.socket.calls := by
  have created : create "192.0.2.1;localhost:5555" { ipv4Only := false } {} = .ok (.done _) := rfl
  have parsed : ConnectAddress.parse "192.0.2.1;localhost:5555" false =
    .ok ⟨some (.literal (.v4 ⟨192, 0, 2, 1⟩)), "localhost", 5555⟩ := rfl
  let actions : List Action :=
    [.event (.resolver (.done (.found (.v4 ⟨192, 0, 2, 10⟩)))), .event (.resolver .stopped),
      .event (.socket .error), .event (.socket .stopped), .event (.retry .timeout),
      .event (.retry .stopped), .event (.resolver (.done (.found (.v4 ⟨192, 0, 2, 11⟩)))),
      .event (.resolver .stopped)]
  refine ⟨_, _, actions, _, parsed, rfl, created, rfl, rfl, rfl, ?_⟩
  refine (addresses_agree_unless_own_differs ⟨rfl, rfl, rfl, rfl, rfl⟩ parsed created actions).2 ?_
  intro ip hip own hown
  obtain rfl : Family.ipv4 = own := Option.some.inj hown
  obtain rfl | rfl := List.mem_pair.1 hip <;> rfl

/-- A connector that insists on an IPv6 address binds to it the IPv4 socket that it has opened for
its peer. -/
theorem own_address_of_other_family :
    ∃ c₀ actions c, create "[::1];192.0.2.10:5555" { ipv4Only := false } {} = .ok (.done c₀) ∧
      actions = [.event (.resolver (.done (.found (.v4 ⟨192, 0, 2, 10⟩)))), .completeStop .resolver,
        .event (.resolver .stopped)] ∧
      c₀.run actions = .done c ∧ c.socket.calls.map (·.text) =
        ["Start(Ipv4)", "SendBuffer(131072)", "RecvBuffer(131072)", "Bind([::1]:0)",
          "Connect(192.0.2.10:5555)"] ∧
      ¬ Agree none c.socket.calls := by
  have created : create "[::1];192.0.2.10:5555" { ipv4Only := false } {} = .ok (.done _) := rfl
  refine ⟨_, _, _, created, rfl, rfl, rfl, fun hagree => ?_⟩
  obtain ⟨family, hopened, hbound⟩ := hagree
    [.start .ipv4, .sendBuffer 131072, .recvBuffer 131072]
    (.bind { ip := .v6 ⟨[0, 0, 0, 0, 0, 0, 0, 1], rfl⟩, port := 0 }) ⟨[_], rfl⟩
  cases hopened
  cases hbound

end Run

end EndpointLifecycle.Connector

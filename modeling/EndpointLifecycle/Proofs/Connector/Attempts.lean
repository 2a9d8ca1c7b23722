import EndpointLifecycle.Proofs.Calls
import EndpointLifecycle.Proofs.Connector.Reachable

/-!
# A connector looks up its peer for every attempt

A trace puts down, in the order in which it happens, what is asked of the resolver, what is heard
from it and what is called on the socket. The trace of a connector falls into rounds. A round is a
lookup, its result, the rest of the resolver, and one attempt to connect to what was found. Only the
last round may be unfinished, and the shutdown adds no more than the stop of the socket.
-/

namespace EndpointLifecycle.Connector

inductive Mark
  | lookup (lookup : Lookup)
  | result (result : Resolution)
  /-- The resolver has stopped. -/
  | rested
  | call (call : AnsweredCall)
  deriving DecidableEq

abbrev Trace := List Mark

namespace Trace

def lookups (trace : Trace) : List Lookup :=
  trace.filterMap fun
    | .lookup lookup => some lookup
    | _ => none

def calls (trace : Trace) : List AnsweredCall :=
  trace.filterMap fun
    | .call call => some call
    | _ => none

@[simp] theorem lookups_append (trace more : Trace) :
    lookups (trace ++ more) = lookups trace ++ lookups more :=
  List.filterMap_append

@[simp] theorem calls_append (trace more : Trace) :
    calls (trace ++ more) = calls trace ++ calls more :=
  List.filterMap_append

@[simp] theorem lookups_map_lookup (l : List Lookup) : lookups (l.map .lookup) = l := by
  simp [lookups, List.filterMap_map]

@[simp] theorem calls_map_lookup (l : List Lookup) : calls (l.map .lookup) = [] := by
  simp [calls, List.filterMap_map]

@[simp] theorem lookups_map_call (l : List AnsweredCall) : lookups (l.map .call) = [] := by
  simp [lookups, List.filterMap_map]

@[simp] theorem calls_map_call (l : List AnsweredCall) : calls (l.map .call) = l := by
  simp [calls, List.filterMap_map]

end Trace

/-- What is heard from the resolver. -/
def heard : Action → Trace
  | .event (.resolver (.done result)) => [.result result]
  | .event (.resolver .stopped) => [.rested]
  | _ => []

/-- What a request adds to the trace. A connector hears before it asks and calls. -/
def marks (t : Transition Connector Action) : Trace :=
  heard t.action ++
    (t.after.resolver.lookups.drop t.before.resolver.lookups.length).map .lookup ++
      (t.before.socket.callsUntil t.after.socket).map .call

def History.marks (h : History) : Trace := h.flatMap Connector.marks

/-- How an attempt to connect came out. Buffers that could not be sized do not end it. -/
inductive Attempt
  | notOpened
  | notBound (unsized : Bool)
  | notConnected (unsized : Bool)
  | connecting (unsized : Bool)
  deriving DecidableEq

inductive Round
  | unfound (kind : ErrorKind)
  | found (ip : IpAddr) (attempt : Attempt)
  deriving DecidableEq

/-- What has been done of a round that has not come to its end. -/
inductive Unfinished
  | nothing
  | lookedUp
  | answered (result : Resolution)
  | connecting (ip : IpAddr) (unsized : Bool)
  deriving DecidableEq

/-- A socket that was opened is stopped at the end of the attempt. -/
def Attempt.closing : Attempt → List AnsweredCall
  | notOpened => []
  | _ => [⟨.stop, false⟩]

def Round.result : Round → Resolution
  | unfound kind => .failed kind
  | found ip _ => .found ip

def Round.ip : Round → Option IpAddr
  | unfound _ => none
  | found ip _ => some ip

def Unfinished.ip : Unfinished → Option IpAddr
  | connecting ip _ => some ip
  | _ => none

/-- The address of the latest attempt. -/
def latest (rounds : List Round) (unfinished : Unfinished) : Option IpAddr :=
  (rounds.filterMap Round.ip ++ unfinished.ip.toList).getLast?

@[simp] theorem latest_unfound (rounds : List Round) (kind : ErrorKind) :
    latest (rounds ++ [.unfound kind]) .nothing = latest rounds .nothing := by
  simp [latest, Round.ip]

@[simp] theorem latest_found (rounds : List Round) (ip : IpAddr) (attempt : Attempt) :
    latest (rounds ++ [.found ip attempt]) .nothing = some ip := by
  simp [latest, Round.ip, Unfinished.ip]

@[simp] theorem latest_connecting (rounds : List Round) (ip : IpAddr) (unsized : Bool) :
    latest rounds (.connecting ip unsized) = some ip := by
  simp [latest, Unfinished.ip]

section Calls

variable (target : ConnectAddress) (options : Options)

def openingCalls (ip : IpAddr) (unsized : Bool) : List AnsweredCall :=
  [⟨.start ip.family, false⟩, ⟨.sendBuffer options.sendBuffer, unsized⟩,
    ⟨.recvBuffer options.recvBuffer, unsized⟩]

/-- The calls of an attempt, up to its end. -/
def Attempt.calls (ip : IpAddr) : Attempt → List AnsweredCall
  | notOpened => [⟨.start ip.family, true⟩]
  | notBound unsized =>
    openingCalls options ip unsized ++ [⟨.bind (target.localAddr ip), true⟩]
  | notConnected unsized =>
    openingCalls options ip unsized ++
      [⟨.bind (target.localAddr ip), false⟩, ⟨.connect (target.remoteAddr ip), true⟩]
  | connecting unsized =>
    openingCalls options ip unsized ++
      [⟨.bind (target.localAddr ip), false⟩, ⟨.connect (target.remoteAddr ip), false⟩]

def Round.calls : Round → List AnsweredCall
  | unfound _ => []
  | found ip attempt => attempt.calls target options ip ++ attempt.closing

def Unfinished.calls : Unfinished → List AnsweredCall
  | connecting ip unsized => (Attempt.connecting unsized).calls target options ip
  | _ => []

def Round.marks (round : Round) : Trace :=
  [.lookup ⟨target.host, options.ipv4Only⟩, .result round.result, .rested] ++
    (round.calls target options).map .call

def Unfinished.marks : Unfinished → Trace
  | nothing => []
  | lookedUp => [.lookup ⟨target.host, options.ipv4Only⟩]
  | answered result => [.lookup ⟨target.host, options.ipv4Only⟩, .result result]
  | connecting ip unsized =>
    [.lookup ⟨target.host, options.ipv4Only⟩, .result (.found ip), .rested] ++
      ((connecting ip unsized).calls target options).map .call

end Calls

/-- The stop by which the shutdown has given up the socket. -/
def lastStop (c : Connector) : List AnsweredCall :=
  if c.phase = .active ∨ c.state = .stoppingSessionFinal then [] else [⟨.stop, false⟩]

/-- What has been done of the round in which a connector at work is. -/
def Unfinished.Fits (c : Connector) : Unfinished → Prop
  | nothing => c.state = .stoppingSocket ∨ c.state = .waiting ∨ c.state = .stoppingBackoff
  | lookedUp => c.state = .resolving
  | answered result => c.state = .stoppingResolver ∧ c.resolved = some result
  | connecting _ _ => c.state = .connecting ∨ c.state = .active ∨ c.state = .stoppingSession

/-- A trace that falls into rounds, and what the connector shows of it. -/
structure InRounds (target : ConnectAddress) (options : Options) (trace : Trace)
    (rounds : List Round) (unfinished : Unfinished) (tail : Trace) (c : Connector) : Prop where
  trace_eq : trace =
    rounds.flatMap (Round.marks target options) ++ unfinished.marks target options ++ tail
  tail_eq_nil : c.phase = .active → tail = []
  tail_lookups : Trace.lookups tail = []
  tail_calls : Trace.calls tail = [] ∨ Trace.calls tail = [⟨.stop, false⟩]
  socket_calls : c.socket.calls =
    (rounds.flatMap (Round.calls target options) ++ unfinished.calls target options ++
      Trace.calls tail).map (·.call)
  resolver_lookups : c.resolver.lookups = Trace.lookups trace
  remote_eq : c.remote = (latest rounds unfinished).map target.remoteAddr

/-- What a request asks of the resolver and calls on the socket. -/
structure Leaves (c : Connector) (lookups : List Lookup) (calls : List AnsweredCall)
    (c' : Connector) : Prop where
  lookups_eq : c'.resolver.lookups = c.resolver.lookups ++ lookups
  made : c.socket.Made calls c'.socket
  target_eq : c'.target = c.target
  options_eq : c'.options = c.options

/-- A request that is none of the events a connector at work waits for: it does nothing but make the
last stop. -/
structure Quiet (c : Connector) (stops : List AnsweredCall) (c' : Connector) : Prop where
  leaves : Leaves c [] stops c'
  remote_eq : c'.remote = c.remote
  lastStop_eq : c'.lastStop = c.lastStop ++ stops
  active : c'.phase = .active → c.phase = .active ∧ c'.state = c.state ∧ c'.resolved = c.resolved

/-- The calls and lookups of a connector that was created for the target are those in its trace. -/
structure Recorded (target : ConnectAddress) (options : Options) (trace : Trace) (c : Connector) :
    Prop where
  target_eq : c.target = target
  options_eq : c.options = options
  calls_eq : c.socket.calls = (Trace.calls trace).map (·.call)
  lookups_eq : c.resolver.lookups = Trace.lookups trace

/-- What carries the rounds through a run. -/
structure Tracked (target : ConnectAddress) (options : Options) (trace : Trace)
    (rounds : List Round) (unfinished : Unfinished) (tail : Trace) (c : Connector) : Prop where
  coherent : Coherent c
  recorded : Recorded target options trace c
  trace_eq : trace =
    rounds.flatMap (Round.marks target options) ++ unfinished.marks target options ++ tail
  remote_eq : c.remote = (latest rounds unfinished).map target.remoteAddr
  working : c.phase = .active → tail = [] ∧ unfinished.Fits c
  tail_lookups : Trace.lookups tail = []
  tail_calls : Trace.calls tail = c.lastStop

section Step

variable {c c' : Connector} {lookups : List Lookup} {calls : List AnsweredCall}

theorem Leaves.marks_eq (hl : Leaves c lookups calls c') (a : Action) :
    marks ⟨c, a, c'⟩ = heard a ++ lookups.map .lookup ++ calls.map .call := by
  rw [marks, hl.made.callsUntil_eq, hl.lookups_eq, List.drop_left]

@[simp] theorem lookups_heard (a : Action) : Trace.lookups (heard a) = [] := by
  unfold heard
  split <;> rfl

@[simp] theorem calls_heard (a : Action) : Trace.calls (heard a) = [] := by
  unfold heard
  split <;> rfl

theorem leaves_nil (hlookups : c'.resolver.lookups = c.resolver.lookups)
    (hcalls : c'.socket.calls = c.socket.calls) (htarget : c'.target = c.target)
    (hoptions : c'.options = c.options) : Leaves c [] [] c' :=
  ⟨by simp [hlookups], Socket.made_nil hcalls, htarget, hoptions⟩

/-- What an attempt to connect leaves behind. -/
inductive Concluded (c : Connector) (ip : IpAddr) (c' : Connector) : Prop
  | failed (attempt : Attempt)
      (made : c.socket.Made (attempt.calls c.target c.options ip ++ attempt.closing) c'.socket)
      (state : c'.state = .waiting ∨ c'.state = .stoppingSocket)
  | connecting (unsized : Bool)
      (made : c.socket.Made ((Attempt.connecting unsized).calls c.target c.options ip) c'.socket)
      (state : c'.state = .connecting)

theorem concluded_attempted {ip : IpAddr} (h : Attempted c ip c') : Concluded c ip c' := by
  cases h with
  | openFailed opened =>
    exact .failed .notOpened (Socket.refused_start opened).made (.inl rfl)
  | opened opened dialled =>
    obtain ⟨log, dialled⟩ := exists_dialled_of_sizeBuffers dialled
    have hopened := Socket.taken_start opened
    cases dialled with
    | bindFailed bound =>
      exact .failed (.notBound _)
        (hopened.made (.called (.called (Socket.refused_bind bound).made.stop))) (.inr rfl)
    | refused bound connected =>
      exact .failed (.notConnected _)
        (hopened.made (.called (.called ((Socket.taken_bind bound).made
          (Socket.refused_connect connected).made.stop)))) (.inr rfl)
    | connecting bound connected =>
      exact .connecting _
        (hopened.made (.called (.called ((Socket.taken_bind bound).made
          ((Socket.taken_connect connected).made (Socket.made_nil rfl)))))) rfl

theorem remote_attempted {ip : IpAddr} (h : Attempted c ip c') :
    c'.remote = some (c.target.remoteAddr ip) ∧ c'.resolver = c.resolver ∧ c'.target = c.target ∧
      c'.options = c.options := by
  cases h with
  | openFailed => exact ⟨rfl, rfl, rfl, rfl⟩
  | opened opened dialled =>
    obtain ⟨log, dialled⟩ := exists_dialled_of_sizeBuffers dialled
    cases dialled <;> exact ⟨rfl, rfl, rfl, rfl⟩

theorem Quiet.passed {stops : List AnsweredCall} {m m' : Connector}
    (h : Quiet c stops m) (hphase : m.phase ≠ .active) (hp : Passed m m') :
    m'.phase ≠ .active ∧ ∃ stops', Quiet c stops' m' := by
  obtain ⟨⟨hlookups, hmade, htarget, hoptions⟩, hremote, hlast, -⟩ := h
  cases hp with
  | session state =>
    obtain ⟨hnone, rfl⟩ : c.lastStop = [] ∧ stops = [] := by
      simpa [lastStop, state] using hlast.symm
    refine ⟨hphase, [⟨.stop, false⟩], ⟨hlookups, hmade.stop, htarget, hoptions⟩, hremote, ?_,
      fun hactive => absurd hactive hphase⟩
    rw [hnone]
    simp [lastStop, hphase]
  | others state =>
    refine ⟨by simp, stops, ⟨hlookups, hmade, htarget, hoptions⟩, hremote, ?_, by simp⟩
    rw [← hlast]
    simp [lastStop, hphase, state]

theorem Quiet.advance {stops : List AnsweredCall} {m : Connector} (h : Quiet c stops m)
    (hphase : m.phase ≠ .active) :
    m.advanceShutdown.phase ≠ .active ∧ ∃ stops', Quiet c stops' m.advanceShutdown :=
  advanceShutdown_induction (P := fun m => m.phase ≠ .active ∧ ∃ stops, Quiet c stops m)
    (fun _ _ hp ⟨hphase, _, hq⟩ => hq.passed hphase hp) ⟨hphase, stops, h⟩

theorem quiet_of_eq (hl : Leaves c [] [] c') (hremote : c'.remote = c.remote)
    (hphase : c'.phase = c.phase) (hstate : c'.state = c.state)
    (hresolved : c'.resolved = c.resolved) : Quiet c [] c' where
  leaves := hl
  remote_eq := hremote
  lastStop_eq := by simp [lastStop, hphase, hstate]
  active := fun hactive => ⟨hphase.symm.trans hactive, hstate, hresolved⟩

theorem quiet_beginStop (active : c.phase = .active) : Quiet c [] c.beginStop where
  leaves := leaves_nil rfl rfl rfl rfl
  remote_eq := rfl
  lastStop_eq := by simp [lastStop, active, beginStop]
  active := by simp [beginStop]

end Step

section Tracked

variable {target : ConnectAddress} {options : Options} {trace tail : Trace} {rounds : List Round}
  {unfinished : Unfinished} {c c' : Connector} {lookups : List Lookup}
  {calls : List AnsweredCall} {a : Action}

theorem Recorded.next (h : Recorded target options trace c) (hl : Leaves c lookups calls c') :
    Recorded target options (trace ++ marks ⟨c, a, c'⟩) c' where
  target_eq := hl.target_eq.trans h.target_eq
  options_eq := hl.options_eq.trans h.options_eq
  calls_eq := by simp [hl.made.calls_eq, h.calls_eq, hl.marks_eq]
  lookups_eq := by simp [hl.lookups_eq, h.lookups_eq, hl.marks_eq]

/-- A request that takes the round further, but not to its end. -/
theorem Tracked.furthered (h : Tracked target options trace rounds unfinished [] c)
    (hc : Coherent c') (hphase : c'.phase = .active) (hl : Leaves c lookups calls c')
    {unfinished' : Unfinished} (hfits : unfinished'.Fits c')
    (hmarks : unfinished'.marks target options =
      unfinished.marks target options ++ (heard a ++ lookups.map .lookup ++ calls.map .call))
    (hremote : c'.remote = (latest rounds unfinished').map target.remoteAddr) :
    Tracked target options (trace ++ marks ⟨c, a, c'⟩) rounds unfinished' [] c' where
  coherent := hc
  recorded := h.recorded.next hl
  trace_eq := by
    rw [hl.marks_eq, hmarks, h.trace_eq]
    simp
  remote_eq := hremote
  working := fun _ => ⟨rfl, hfits⟩
  tail_lookups := rfl
  tail_calls := by simp [lastStop, hphase, Trace.calls]

/-- A request that brings the round to its end. -/
theorem Tracked.finished (h : Tracked target options trace rounds unfinished [] c)
    (hc : Coherent c') (hphase : c'.phase = .active) (hl : Leaves c lookups calls c')
    (round : Round) (hfits : Unfinished.nothing.Fits c')
    (hmarks : round.marks target options =
      unfinished.marks target options ++ (heard a ++ lookups.map .lookup ++ calls.map .call))
    (hremote : c'.remote = (latest (rounds ++ [round]) .nothing).map target.remoteAddr) :
    Tracked target options (trace ++ marks ⟨c, a, c'⟩) (rounds ++ [round]) .nothing [] c' where
  coherent := hc
  recorded := h.recorded.next hl
  trace_eq := by
    rw [hl.marks_eq, List.flatMap_append, List.flatMap_singleton, hmarks, h.trace_eq]
    simp [Unfinished.marks]
  remote_eq := hremote
  working := fun _ => ⟨rfl, hfits⟩
  tail_lookups := rfl
  tail_calls := by simp [lastStop, hphase, Trace.calls]

/-- A request that leaves nothing. -/
theorem Tracked.stayed (h : Tracked target options trace rounds unfinished [] c)
    (hc : Coherent c') (hphase : c'.phase = .active) (hl : Leaves c [] [] c') (ha : heard a = [])
    (hfits : unfinished.Fits c') (hremote : c'.remote = c.remote) :
    Tracked target options (trace ++ marks ⟨c, a, c'⟩) rounds unfinished [] c' :=
  h.furthered hc hphase hl hfits (by simp [ha]) (hremote.trans h.remote_eq)

theorem Unfinished.Fits.lookedUp (h : unfinished.Fits c) (hs : c.state = .resolving) :
    unfinished = .lookedUp := by
  cases unfinished <;> simp_all [Fits]

theorem Unfinished.Fits.answered (h : unfinished.Fits c) (hs : c.state = .stoppingResolver)
    {result : Resolution} (hr : c.resolved = some result) : unfinished = .answered result := by
  cases unfinished <;> simp_all [Fits]

theorem Unfinished.Fits.connecting (h : unfinished.Fits c)
    (hs : c.state = .connecting ∨ c.state = .active ∨ c.state = .stoppingSession) :
    ∃ ip unsized, unfinished = .connecting ip unsized := by
  rcases hs with hs | hs | hs <;> cases unfinished <;> simp_all [Fits]

theorem Unfinished.Fits.nothing (h : unfinished.Fits c)
    (hs : c.state = .stoppingSocket ∨ c.state = .waiting ∨ c.state = .stoppingBackoff) :
    unfinished = .nothing := by
  rcases hs with hs | hs | hs <;> cases unfinished <;> simp_all [Fits]

/-- A connector whose attempt is under way gives up the socket. -/
theorem Tracked.closed {ip : IpAddr} {unsized : Bool}
    (h : Tracked target options trace rounds (.connecting ip unsized) [] c)
    (hc : Coherent c') (hphase : c'.phase = .active) (hl : Leaves c [] [⟨.stop, false⟩] c')
    (ha : heard a = []) (hstate : c'.state = .stoppingSocket) (hremote : c'.remote = c.remote) :
    Tracked target options (trace ++ marks ⟨c, a, c'⟩)
      (rounds ++ [.found ip (.connecting unsized)]) .nothing [] c' := by
  refine h.finished hc hphase hl _ (.inl hstate) ?_ ?_
  · simp [ha, Round.marks, Round.calls, Round.result, Unfinished.marks, Unfinished.calls,
      Attempt.closing]
  · rw [hremote, h.remote_eq, latest_found, latest_connecting]

/-- With the rest of the resolver the attempt begins. -/
theorem Tracked.attempted {ip : IpAddr}
    (h : Tracked target options trace rounds (.answered (.found ip)) [] c) (hc : Coherent c')
    (hphase : c'.phase = .active) (ha : Attempted { c with resolved := none } ip c') :
    ∃ rounds' unfinished', Tracked target options
      (trace ++ marks ⟨c, .event (.resolver .stopped), c'⟩) rounds' unfinished' [] c' := by
  obtain ⟨hremote, hresolver, htarget, hoptions⟩ := remote_attempted ha
  have hleaves {calls} (made : c.socket.Made calls c'.socket) : Leaves c [] calls c' :=
    ⟨by simp [hresolver], made, htarget, hoptions⟩
  obtain ⟨rfl, rfl⟩ : c.target = target ∧ c.options = options :=
    ⟨h.recorded.target_eq, h.recorded.options_eq⟩
  cases concluded_attempted ha with
  | failed attempt made state =>
    refine ⟨_, _, h.finished hc hphase (hleaves made) (.found ip attempt) ?_ ?_ ?_⟩
    · rcases state with hs | hs <;> simp [Unfinished.Fits, hs]
    · simp [heard, Round.marks, Round.calls, Round.result, Unfinished.marks]
    · simp [hremote]
  | connecting unsized made state =>
    refine ⟨_, .connecting ip unsized, h.furthered hc hphase (hleaves made) (.inl state) ?_ ?_⟩
    · simp [heard, Unfinished.marks, Unfinished.calls]
    · simp [hremote]

theorem tracked_handled {e : Event} (h : Tracked target options trace rounds unfinished tail c)
    (active : c.phase = .active) (he : Handled c e c') :
    ∃ rounds' unfinished',
      Tracked target options (trace ++ marks ⟨c, .event e, c'⟩) rounds' unfinished' [] c' := by
  have hc := coherent_handled h.coherent he
  have hphase : c'.phase = .active := (phase_handled he).trans active
  obtain ⟨rfl, hfits⟩ := h.working active
  have hstop : c.socket.Made [⟨.stop, false⟩] c.socket.stop := (Socket.made_nil rfl).stop
  cases he with
  | done result resolving =>
    obtain rfl := hfits.lookedUp resolving
    exact ⟨_, .answered result,
      h.furthered hc hphase (leaves_nil rfl rfl rfl rfl) ⟨rfl, rfl⟩ rfl h.remote_eq⟩
  | found stopping resolved =>
    obtain rfl := hfits.answered stopping resolved
    exact h.attempted hc hphase (attempted_startConnecting ..)
  | @unfound kind stopping resolved =>
    obtain rfl := hfits.answered stopping resolved
    refine ⟨_, _, h.finished hc hphase (leaves_nil rfl rfl rfl rfl) (.unfound kind)
      (.inr (.inl rfl)) rfl ?_⟩
    rw [latest_unfound]
    exact h.remote_eq
  | connected connecting =>
    obtain ⟨ip, unsized, rfl⟩ := hfits.connecting (.inl connecting)
    exact ⟨_, _, h.stayed hc hphase (leaves_nil rfl rfl rfl rfl) rfl (.inr (.inl rfl)) rfl⟩
  | connectFailed connecting =>
    obtain ⟨ip, unsized, rfl⟩ := hfits.connecting (.inl connecting)
    exact ⟨_, _, h.closed hc hphase ⟨(List.append_nil _).symm, hstop, rfl, rfl⟩ rfl rfl rfl⟩
  | broken active =>
    obtain ⟨ip, unsized, rfl⟩ := hfits.connecting (.inr (.inl active))
    exact ⟨_, _, h.stayed hc hphase (leaves_nil rfl rfl rfl rfl) rfl (.inr (.inr rfl)) rfl⟩
  | halfClosed => exact ⟨_, _, h.stayed hc hphase (leaves_nil rfl rfl rfl rfl) rfl hfits rfl⟩
  | ended stopping =>
    obtain ⟨ip, unsized, rfl⟩ := hfits.connecting (.inr (.inr stopping))
    exact ⟨_, _, h.closed hc hphase ⟨(List.append_nil _).symm, hstop, rfl, rfl⟩ rfl rfl rfl⟩
  | closed stopping =>
    obtain rfl := hfits.nothing (.inl stopping)
    exact ⟨_, _, h.stayed hc hphase (leaves_nil rfl rfl rfl rfl) rfl (.inr (.inl rfl)) rfl⟩
  | timedOut waiting =>
    obtain rfl := hfits.nothing (.inr (.inl waiting))
    exact ⟨_, _, h.stayed hc hphase (leaves_nil rfl rfl rfl rfl) rfl (.inr (.inr rfl)) rfl⟩
  | rested stopping =>
    obtain rfl := hfits.nothing (.inr (.inr stopping))
    obtain ⟨rfl, rfl⟩ : c.target = target ∧ c.options = options :=
      ⟨h.recorded.target_eq, h.recorded.options_eq⟩
    exact ⟨_, .lookedUp,
      h.furthered hc hphase ⟨rfl, Socket.made_nil rfl, rfl, rfl⟩ rfl rfl h.remote_eq⟩

theorem Tracked.quiet {stops : List AnsweredCall}
    (h : Tracked target options trace rounds unfinished tail c) (hc : Coherent c')
    (hq : Quiet c stops c') (ha : c'.phase = .active → heard a = []) :
    Tracked target options (trace ++ marks ⟨c, a, c'⟩) rounds unfinished
      (tail ++ marks ⟨c, a, c'⟩) c' where
  coherent := hc
  recorded := h.recorded.next hq.leaves
  trace_eq := by rw [h.trace_eq, List.append_assoc]
  remote_eq := hq.remote_eq.trans h.remote_eq
  working := by
    intro hactive
    obtain ⟨hphase, hstate, hresolved⟩ := hq.active hactive
    obtain ⟨rfl, hfits⟩ := h.working hphase
    -- Only the shutdown makes the last stop.
    have hnone : stops = [] := by
      simpa [lastStop, hactive, hphase] using hq.lastStop_eq
    refine ⟨by simp [hq.leaves.marks_eq, hnone, ha hactive], ?_⟩
    cases unfinished <;> simpa [Unfinished.Fits, hstate, hresolved] using hfits
  tail_lookups := by simp [hq.leaves.marks_eq, h.tail_lookups]
  tail_calls := by simp [hq.leaves.marks_eq, h.tail_calls, hq.lastStop_eq]

theorem tracked_stepped (h : Tracked target options trace rounds unfinished tail c)
    (hs : Stepped c a c') (hc : Coherent c') : ∃ rounds' unfinished' tail',
      Tracked target options (trace ++ marks ⟨c, a, c'⟩) rounds' unfinished' tail' c' := by
  have hquiet {stops : List AnsweredCall} (hq : Quiet c stops c')
      (ha : c'.phase = .active → heard a = []) : ∃ rounds' unfinished' tail',
      Tracked target options (trace ++ marks ⟨c, a, c'⟩) rounds' unfinished' tail' c' :=
    ⟨_, _, _, h.quiet hc hq ha⟩
  cases hs with
  | handled active he =>
    obtain ⟨rounds', unfinished', h'⟩ := tracked_handled h active he
    exact ⟨_, _, _, h'⟩
  | absorbed e stopping =>
    have hn : Quiet c [] (c.note (.whileStopping e)) :=
      quiet_of_eq (leaves_nil rfl rfl rfl rfl) rfl rfl rfl rfl
    obtain ⟨hphase, stops, hq⟩ := hn.advance (by simp [note, stopping])
    exact hquiet hq fun hactive => absurd hactive hphase
  | stopBegun active =>
    obtain ⟨-, stops, hq⟩ := (quiet_beginStop active).advance (by simp [beginStop])
    exact hquiet hq fun _ => rfl
  | stopIgnored =>
    exact hquiet (quiet_of_eq (leaves_nil rfl rfl rfl rfl) rfl rfl rfl rfl) fun _ => rfl
  | completed x =>
    have hq : Quiet c [] (c.completeStop x) := by
      cases x <;> exact quiet_of_eq (leaves_nil rfl rfl rfl rfl) rfl rfl rfl rfl
    exact hquiet hq fun _ => rfl
  | injected point kind =>
    exact hquiet (quiet_of_eq (leaves_nil rfl (by simp) rfl rfl) rfl rfl rfl rfl) fun _ => rfl

theorem calls_flatMap_marks (rounds : List Round) :
    Trace.calls (rounds.flatMap (Round.marks target options)) =
      rounds.flatMap (Round.calls target options) := by
  induction rounds with
  | nil => rfl
  | cons round rounds ih =>
    have hround : Trace.calls (round.marks target options) = round.calls target options := by
      rw [Round.marks, Trace.calls_append, Trace.calls_map_call]
      rfl
    rw [List.flatMap_cons, List.flatMap_cons, Trace.calls_append, ih, hround]

theorem calls_unfinished_marks (unfinished : Unfinished) :
    Trace.calls (unfinished.marks target options) = unfinished.calls target options := by
  cases unfinished with
  | connecting ip unsized =>
    rw [Unfinished.marks, Trace.calls_append, Trace.calls_map_call]
    rfl
  | nothing | lookedUp | answered => rfl

theorem Tracked.inRounds (h : Tracked target options trace rounds unfinished tail c) :
    InRounds target options trace rounds unfinished tail c where
  trace_eq := h.trace_eq
  tail_eq_nil := fun hactive => (h.working hactive).1
  tail_lookups := h.tail_lookups
  tail_calls := by
    rw [h.tail_calls, lastStop]
    split <;> simp
  socket_calls := by
    rw [h.recorded.calls_eq, h.trace_eq, Trace.calls_append, Trace.calls_append,
      calls_flatMap_marks, calls_unfinished_marks]
  resolver_lookups := h.recorded.lookups_eq
  remote_eq := h.remote_eq

end Tracked

theorem tracked_created {address : String} {options : Options} {parts : Parts}
    {target : ConnectAddress} {c : Connector} (unused : Parts.Unused parts)
    (parsed : ConnectAddress.parse address options.ipv4Only = .ok target)
    (created : create address options parts = .ok (.done c)) :
    Tracked target options (c.resolver.lookups.map .lookup) [] .lookedUp [] c := by
  have hc := coherent_created ⟨address, options, parts, unused, created⟩
  obtain ⟨target', hparsed, rfl⟩ := exists_begun_of_create created
  obtain rfl : target' = target := Except.ok.inj (hparsed.symm.trans parsed)
  have hlookups : (begun address target' options parts).resolver.lookups =
      [⟨target'.host, options.ipv4Only⟩] := by
    change parts.resolver.lookups ++ _ = _
    rw [unused.resolver]
    rfl
  exact
    { coherent := hc
      recorded := ⟨rfl, rfl, by rw [Trace.calls_map_lookup]; exact unused.calls, by simp⟩
      trace_eq := by rw [hlookups]; rfl
      remote_eq := rfl
      working := fun _ => ⟨rfl, rfl⟩
      tail_lookups := rfl
      tail_calls := rfl }

theorem attempts_freshly_resolved {address : String} {options : Options} {parts : Parts}
    {target : ConnectAddress} {c₀ c : Connector} {actions : List Action}
    (unused : Parts.Unused parts)
    (parsed : ConnectAddress.parse address options.ipv4Only = .ok target)
    (created : create address options parts = .ok (.done c₀)) (hrun : c₀.run actions = .done c) :
    ∃ rounds unfinished tail, InRounds target options
      (c₀.resolver.lookups.map .lookup ++ (c₀.history actions).marks) rounds unfinished tail c := by
  have htracked : ∃ rounds unfinished tail, Tracked target options
      (c₀.resolver.lookups.map .lookup ++ (c₀.history actions).marks) rounds unfinished tail c := by
    refine Outcome.history_induction (P := fun h c => ∃ rounds unfinished tail, Tracked target
      options (c₀.resolver.lookups.map .lookup ++ History.marks h) rounds unfinished tail c)
      ?_ ?_ hrun
    · exact ⟨_, _, _, by simpa [History.marks] using tracked_created unused parsed created⟩
    · rintro h m a m' ⟨rounds, unfinished, tail, htracked⟩ hstep
      have hnext := tracked_stepped htracked (stepped_of_step hstep)
        (coherent_step htracked.coherent hstep)
      simpa [History.marks] using hnext
  obtain ⟨rounds, unfinished, tail, h⟩ := htracked
  exact ⟨rounds, unfinished, tail, h.inRounds⟩

/-- A lookup finds nobody, a socket whose buffers cannot be sized cannot be bound either, and the
stop comes during the connect to another address. -/
theorem attempts_freshly_resolved_second_address :
    ∃ c₀ actions c, create "localhost:5555" {} {} = .ok (.done c₀) ∧
      c₀.run actions = .done c ∧ c.remote = some { ip := .v4 ⟨127, 0, 0, 2⟩, port := 5555 } ∧
      ∃ rounds unfinished tail, InRounds ⟨none, "localhost", 5555⟩ {}
        (c₀.resolver.lookups.map .lookup ++ (c₀.history actions).marks) rounds unfinished tail
        c := by
  have created : create "localhost:5555" {} {} = .ok (.done _) := rfl
  have parsed : ConnectAddress.parse "localhost:5555" true = .ok ⟨none, "localhost", 5555⟩ := rfl
  exact ⟨_,
    [.event (.resolver (.done (.failed .notFound))), .event (.resolver .stopped),
      .event (.retry .timeout), .event (.retry .stopped),
      .event (.resolver (.done (.found (.v4 ⟨127, 0, 0, 1⟩)))), .inject .buffers .other,
      .inject .bind .addrInUse, .event (.resolver .stopped), .event (.socket .stopped),
      .event (.retry .timeout), .event (.retry .stopped),
      .event (.resolver (.done (.found (.v4 ⟨127, 0, 0, 2⟩)))), .event (.resolver .stopped), .stop],
    _, created, rfl, rfl, attempts_freshly_resolved ⟨rfl, rfl, rfl, rfl, rfl⟩ parsed created rfl⟩

end EndpointLifecycle.Connector

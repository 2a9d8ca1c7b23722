import EndpointLifecycle.Address.Bind
import EndpointLifecycle.Address.Connect
import EndpointLifecycle.Proofs.Calls
import Mathlib.Data.List.Induction

/-!
# Address families of calls

A socket is opened for one address family, and an address of the other family is of no use to it.
Calls agree if each address is of the family that the socket was last opened for. An endpoint that
insists on a local address insists on its family, too, and then binds the socket to an address that
need not agree.
-/

namespace EndpointLifecycle

namespace SocketCall

/-- The address family that a call is for. -/
def family? : SocketCall → Option Family
  | start family => some family
  | bind addr | connect addr => some addr.ip.family
  | sendBuffer _ | recvBuffer _ | listen _ | stop => none

def opens? : SocketCall → Option Family
  | start family => some family
  | _ => none

/-- Whether the address of a call is of the family that the socket is opened for. A socket is bound
to an address of the family `own` where there is one. -/
def Fits (own opened : Option Family) : SocketCall → Prop
  | bind addr => ∃ family, opened = some family ∧ addr.ip.family = own.getD family
  | connect addr => opened = some addr.ip.family
  | _ => True

/-- The family that the socket was last opened for. -/
def openedFor (calls : List SocketCall) : Option Family := (calls.filterMap opens?).getLast?

/-- Each call fits what the socket was last opened for before it. -/
def Agree (own : Option Family) (calls : List SocketCall) : Prop :=
  ∀ earlier call, earlier ++ [call] <+: calls → call.Fits own (openedFor earlier)

/-- No call is for another family. -/
def OnlyFor (family : Family) (calls : List SocketCall) : Prop :=
  ∀ call ∈ calls, ∀ other ∈ call.family?, other = family

variable {own : Option Family} {calls : List SocketCall} {family : Family}

theorem openedFor_append_attempt {rest : List SocketCall} (h : ∀ call ∈ rest, call.opens? = none) :
    openedFor (calls ++ start family :: rest) = some family := by
  have hrest : rest.filterMap opens? = [] := List.filterMap_eq_nil_iff.2 h
  simp [openedFor, List.filterMap_append, opens?, hrest]

theorem start_mem_of_openedFor (h : openedFor calls = some family) : start family ∈ calls := by
  obtain ⟨call, hcall, hopens⟩ := List.mem_filterMap.1 (List.mem_of_getLast? h)
  cases call <;> cases hopens
  exact hcall

theorem agree_nil : Agree own [] := by
  intro earlier call h
  simp at h

theorem agree_concat {call : SocketCall} :
    Agree own (calls ++ [call]) ↔ Agree own calls ∧ call.Fits own (openedFor calls) := by
  constructor
  · intro h
    exact ⟨fun earlier c hc => h earlier c (hc.trans (List.prefix_append ..)),
      h calls call List.prefix_rfl⟩
  · rintro ⟨h, hcall⟩ earlier c hc
    rcases List.prefix_concat_iff.1 hc with heq | hc
    · obtain ⟨rfl, hlast⟩ := List.append_inj' heq rfl
      obtain rfl := List.singleton_inj.1 hlast
      exact hcall
    · exact h earlier c hc

/-- A new attempt opens the socket again, and its calls have only the new family to fit. -/
theorem Agree.attempt (h : Agree own calls) {rest : List SocketCall}
    (hrest : ∀ call ∈ rest, call.opens? = none ∧ call.Fits own (some family)) :
    Agree own (calls ++ start family :: rest) := by
  induction rest using List.reverseRecOn with
  | nil => exact agree_concat.2 ⟨h, trivial⟩
  | append_singleton rest call ih =>
    rw [List.forall_mem_append, List.forall_mem_singleton] at hrest
    obtain ⟨hold, -, hcall⟩ := hrest
    -- None of the calls since has opened the socket, so it is still open for the new family.
    have hsplit : calls ++ start family :: (rest ++ [call]) =
        (calls ++ start family :: rest) ++ [call] := by simp
    rw [hsplit, agree_concat, openedFor_append_attempt fun c hc => (hold c hc).1]
    exact ⟨ih hold, hcall⟩

theorem Agree.stops (h : Agree own calls) (n : Nat) :
    Agree own (calls ++ List.replicate n stop) := by
  induction n with
  | zero => simpa using h
  | succ n ih =>
    rw [List.replicate_succ', ← List.append_assoc]
    exact agree_concat.2 ⟨ih, trivial⟩

/-- Where the family insisted on is that of every opening, it makes no difference. -/
theorem Agree.ownless (h : Agree own calls)
    (hown : ∀ family, start family ∈ calls → ∀ other ∈ own, other = family) : Agree none calls := by
  intro earlier call hprefix
  have hfits := h earlier call hprefix
  cases call with
  | bind addr =>
    obtain ⟨family, hopened, hfamily⟩ := hfits
    have hstart : start family ∈ calls := by
      have hmem := List.mem_append_left [bind addr] (start_mem_of_openedFor hopened)
      exact hprefix.subset hmem
    refine ⟨family, hopened, ?_⟩
    cases own with
    | none => exact hfamily
    | some other => exact hfamily.trans (hown family hstart other rfl)
  | _ => exact hfits

theorem Agree.onlyFor (h : Agree none calls)
    (hstart : ∀ other, start other ∈ calls → other = family) : OnlyFor family calls := by
  intro call hcall other hother
  obtain ⟨earlier, later, rfl⟩ := List.append_of_mem hcall
  have hprefix : earlier ++ [call] <+: earlier ++ call :: later := ⟨later, by simp⟩
  have hfits := h earlier call hprefix
  have hopened {f : Family} (hf : openedFor earlier = some f) : f = family :=
    hstart f (List.mem_append_left _ (start_mem_of_openedFor hf))
  cases call with
  | start f =>
    obtain rfl : f = other := Option.some.inj hother
    exact hstart f hcall
  | bind addr =>
    obtain rfl : addr.ip.family = other := Option.some.inj hother
    obtain ⟨f, hf, haddr⟩ := hfits
    exact haddr.trans (hopened hf)
  | connect addr =>
    obtain rfl : addr.ip.family = other := Option.some.inj hother
    exact hopened hfits
  | sendBuffer | recvBuffer | listen | stop => cases hother

end SocketCall

/-! ## Addresses that may be used -/

theorem Interface.admitted_of_read {ipv4Only : Bool} {segment : List Char} {ip : IpAddr}
    (h : Interface.read ipv4Only segment = .ok (.literal ip)) : ip.Admitted ipv4Only := by
  unfold Interface.read at h
  split at h
  case isTrue => cases h
  case isFalse =>
    split at h
    case h_1 ip' _ =>
      split at h
      case isTrue admitted =>
        cases h
        exact admitted
      case isFalse => cases h
    case h_2 => cases h

theorem BindAddress.interface_of_parse {address : String} {ipv4Only : Bool} {bind : BindAddress}
    (h : BindAddress.parse address ipv4Only = .ok bind) :
    ∃ segment, Interface.read ipv4Only segment = .ok bind.interface := by
  unfold BindAddress.parse at h
  split at h
  case h_1 => cases h
  case h_2 segment _ _ =>
    split at h
    case h_1 => cases h
    case h_2 =>
      refine ⟨segment, ?_⟩
      cases hread : Interface.read ipv4Only segment with
      | error e => rw [hread] at h; cases h
      | ok interface => rw [hread] at h; cases h; rfl

/-- A listener that is restricted to IPv4 listens at an IPv4 address. -/
theorem BindAddress.family_of_parse {address : String} {bind : BindAddress}
    (h : BindAddress.parse address true = .ok bind) :
    (bind.socketAddr true).ip.family = .ipv4 := by
  obtain ⟨segment, hread⟩ := interface_of_parse h
  change (bind.interface.resolve true).family = _
  cases hinterface : bind.interface with
  | any => rfl
  | literal ip =>
    rw [hinterface] at hread
    exact Interface.admitted_of_read hread rfl

namespace ConnectAddress

/-- The family of the local address, if the connector insists on one. -/
def ownFamily? (c : ConnectAddress) : Option Family :=
  match c.localInterface with
  | some (.literal ip) => some ip.family
  | _ => none

theorem family_localAddr (c : ConnectAddress) (remote : IpAddr) :
    (c.localAddr remote).ip.family = c.ownFamily?.getD remote.family := by
  unfold localAddr ownFamily?
  rcases c.localInterface with _ | _ | ip
  case some.literal => rfl
  all_goals simp

theorem interface_of_parse {address : String} {ipv4Only : Bool} {target : ConnectAddress}
    (h : parse address ipv4Only = .ok target) {interface : Interface}
    (hlocal : target.localInterface = some interface) :
    ∃ segment, Interface.read ipv4Only segment = .ok interface := by
  unfold parse at h
  dsimp only at h
  split at h
  case h_1 => cases h
  case h_2 =>
    split at h
    case h_1 => cases h; cases hlocal
    case h_2 segment _ =>
      refine ⟨segment, ?_⟩
      cases hread : Interface.read ipv4Only segment with
      | error e => rw [hread] at h; cases h
      | ok interface' => rw [hread] at h; cases h; cases hlocal; rfl

theorem ownFamily_of_parse {address : String} {target : ConnectAddress}
    (h : parse address true = .ok target) {family : Family} (hown : family ∈ target.ownFamily?) :
    family = .ipv4 := by
  unfold ownFamily? at hown
  split at hown
  case h_1 ip hlocal =>
    obtain rfl : ip.family = family := Option.some.inj hown
    obtain ⟨segment, hread⟩ := interface_of_parse h hlocal
    exact Interface.admitted_of_read hread rfl
  case h_2 => cases hown

end ConnectAddress

end EndpointLifecycle

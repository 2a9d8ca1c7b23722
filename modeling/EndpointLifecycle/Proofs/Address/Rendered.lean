import EndpointLifecycle.Proofs.Address.Bind
import EndpointLifecycle.Proofs.Address.Connect
import EndpointLifecycle.Proofs.Ip.Written

/-!
# Rendered addresses

What has been read can be written down again, each literal in brackets or bare, and is read back.
The characters at which an address is cut do not occur in its segments where they would mislead: no
segment has a semicolon, and no port a colon.
-/

namespace EndpointLifecycle

open Address Text

namespace Address

def enclose (brackets : Bool) (cs : List Char) : List Char :=
  if brackets then bracketed cs else cs

variable {cs : List Char}

theorem encloses_enclose (brackets : Bool) (cs : List Char) :
    Encloses (enclose brackets cs) cs := by
  cases brackets with
  | false => exact .inl rfl
  | true => exact .inr rfl

theorem semicolon_notMem_enclose (brackets : Bool) (h : ';' ∉ cs) : ';' ∉ enclose brackets cs := by
  cases brackets with
  | false => exact h
  | true =>
    intro hmem
    obtain hhead | hlast := List.mem_append.1 hmem
    · exact (List.mem_cons.1 hhead).elim (by decide) h
    · exact absurd (List.mem_singleton.1 hlast) (by decide)

end Address

namespace Interface

def render (brackets : Bool) : Interface → List Char
  | any => ['*']
  | literal ip => enclose brackets ip.write

/-- Whether an endpoint may use the interface. -/
def Admitted (ipv4Only : Bool) : Interface → Prop
  | any => True
  | literal ip => ip.Admitted ipv4Only

variable {ipv4Only : Bool} {segment : List Char} {interface : Interface}

theorem Names.admitted (h : Names ipv4Only segment interface) : interface.Admitted ipv4Only := by
  cases h with
  | any => exact trivial
  | literal _ _ admitted => exact admitted

theorem names_render (brackets : Bool) (h : interface.Admitted ipv4Only) :
    Names ipv4Only (interface.render brackets) interface := by
  cases interface with
  | any => exact .any
  | literal ip => exact .literal ip.literal_write (encloses_enclose brackets _) h

theorem semicolon_notMem_render (brackets : Bool) (interface : Interface) :
    ';' ∉ interface.render brackets := by
  cases interface with
  | any => exact fun hmem => absurd (List.mem_singleton.1 hmem) (by decide)
  | literal ip =>
    refine semicolon_notMem_enclose brackets fun hmem => ?_
    exact not_isLiteralChar (by decide) (ip.literal_write.isLiteralChar _ hmem)

end Interface

namespace BindAddress

def render (brackets : Bool) (b : BindAddress) : String :=
  String.ofList (b.interface.render brackets ++ ':' :: digits 10 b.port.toNat)

variable {ipv4Only : Bool} {address : String} {b : BindAddress}

theorem admitted_of_parse (h : parse address ipv4Only = .ok b) :
    b.interface.Admitted ipv4Only := by
  cases parse_eq_iff.1 h with
  | ok _ _ names => exact names.admitted

theorem parse_render (brackets : Bool) (h : b.interface.Admitted ipv4Only) :
    parse (b.render brackets) ipv4Only = .ok b :=
  parse_of_outcome (.ok String.toList_ofList (isPort_digits b.port)
    (Interface.names_render brackets h))

end BindAddress

namespace ConnectAddress

/-- Brackets are only for literals. -/
def renderHost (brackets : Bool) (host : String) : List Char :=
  enclose (brackets && (IpAddr.read host.toList).isSome) host.toList

def renderTarget (brackets : Bool) (c : ConnectAddress) : List Char :=
  renderHost brackets c.host ++ ':' :: digits 10 c.port.toNat

def render (localBrackets hostBrackets : Bool) (c : ConnectAddress) : String :=
  match c.localInterface with
  | none => String.ofList (c.renderTarget hostBrackets)
  | some interface =>
    String.ofList (interface.render localBrackets ++ ';' :: c.renderTarget hostBrackets)

/-- Whether an endpoint may connect to the host. -/
def HostAdmitted (ipv4Only : Bool) (host : String) : Prop :=
  (∃ ip : IpAddr, ip.Literal host.toList ∧ ip.Admitted ipv4Only) ∨ Hostname.isValid host

structure Admitted (ipv4Only : Bool) (c : ConnectAddress) : Prop where
  interface : ∀ interface ∈ c.localInterface, interface.Admitted ipv4Only
  host : HostAdmitted ipv4Only c.host
  port : c.port ≠ 0

variable {ipv4Only : Bool} {address host : String} {c : ConnectAddress}

theorem hostAdmitted_of_hostOutcome {segment : List Char}
    (h : HostOutcome Encloses ipv4Only segment (.ok host)) : HostAdmitted ipv4Only host := by
  cases h with
  | literal spelled _ admitted =>
    exact .inl ⟨_, String.toList_ofList.symm ▸ spelled, admitted⟩
  | name _ valid => exact .inr valid

theorem admitted_of_parse (h : parse address ipv4Only = .ok c) : c.Admitted ipv4Only := by
  cases parse_eq_iff.1 h with
  | unbound _ valid =>
    cases valid with
    | ok _ _ nonzero hosts =>
      exact ⟨fun _ hnone => (nomatch hnone), hostAdmitted_of_hostOutcome hosts, nonzero⟩
  | bound _ valid names =>
    cases valid with
    | ok _ _ nonzero hosts =>
      refine ⟨?_, hostAdmitted_of_hostOutcome hosts, nonzero⟩
      rintro interface hsome
      cases hsome
      exact names.admitted

theorem hostOutcome_renderHost (brackets : Bool) (h : HostAdmitted ipv4Only host) :
    HostOutcome Encloses ipv4Only (renderHost brackets host) (.ok host) := by
  have hencloses : Encloses (renderHost brackets host) host.toList := encloses_enclose _ _
  have houtcome : HostOutcome Encloses ipv4Only (renderHost brackets host)
      (.ok (String.ofList host.toList)) := by
    obtain ⟨ip, hspelled, hadmitted⟩ | hvalid := h
    · exact .literal hspelled hencloses hadmitted
    · rw [← String.ofList_toList (s := host)] at hvalid
      exact .name hencloses hvalid
  rwa [String.ofList_toList] at houtcome

theorem semicolon_notMem_host (h : HostAdmitted ipv4Only host) : ';' ∉ host.toList := by
  obtain ⟨ip, hspelled, -⟩ | hvalid := h
  · exact fun hmem => not_isLiteralChar (by decide) (hspelled.isLiteralChar _ hmem)
  · rw [← String.ofList_toList (s := host)] at hvalid
    exact Hostname.notMem_of_isValid hvalid (by decide)

theorem semicolon_notMem_renderTarget (brackets : Bool) (h : HostAdmitted ipv4Only c.host) :
    ';' ∉ c.renderTarget brackets := by
  intro hmem
  obtain hhost | hport := List.mem_append.1 hmem
  · exact semicolon_notMem_enclose _ (semicolon_notMem_host h) hhost
  · obtain hcolon | hdigits := List.mem_cons.1 hport
    · exact absurd hcolon (by decide)
    · exact absurd ((isPort_digits c.port).isDigit _ hdigits) (by decide)

theorem parse_render (localBrackets hostBrackets : Bool) (h : c.Admitted ipv4Only) :
    parse (c.render localBrackets hostBrackets) ipv4Only = .ok c := by
  have htarget : TargetOutcome Encloses ipv4Only (c.renderTarget hostBrackets)
      (.ok (c.host, c.port)) :=
    .ok rfl (isPort_digits c.port) h.port (hostOutcome_renderHost hostBrackets h.host)
  apply parse_of_outcome
  obtain ⟨interface?, host, port⟩ := c
  cases interface? with
  | none =>
    refine .unbound ?_ htarget
    rw [render, String.toList_ofList]
    exact .whole (semicolon_notMem_renderTarget hostBrackets h.host)
  | some interface =>
    refine .bound ?_ htarget (Interface.names_render localBrackets (h.interface interface rfl))
    rw [render, String.toList_ofList]
    exact .cut rfl (interface.semicolon_notMem_render localBrackets)

end ConnectAddress

/-- What has been read is read back however it is written, and so is everything that an endpoint may
listen at or connect to. -/
theorem addresses_survive_rendering (ipv4Only : Bool) :
    (∀ address b, BindAddress.parse address ipv4Only = .ok b →
      ∀ brackets, BindAddress.parse (b.render brackets) ipv4Only = .ok b) ∧
    (∀ address c, ConnectAddress.parse address ipv4Only = .ok c →
      (∀ localBrackets hostBrackets,
        ConnectAddress.parse (c.render localBrackets hostBrackets) ipv4Only = .ok c) ∧
      c.port ≠ 0 ∧ ConnectAddress.HostAdmitted ipv4Only c.host) ∧
    (∀ interface port, Interface.Admitted ipv4Only interface →
      ∀ brackets, BindAddress.parse (BindAddress.render brackets ⟨interface, port⟩) ipv4Only =
        .ok ⟨interface, port⟩) ∧
    ∀ c, ConnectAddress.Admitted ipv4Only c →
      ∀ localBrackets hostBrackets,
        ConnectAddress.parse (c.render localBrackets hostBrackets) ipv4Only = .ok c := by
  refine ⟨?_, ?_, ?_, ?_⟩
  · intro address b hparse brackets
    exact b.parse_render brackets (BindAddress.admitted_of_parse hparse)
  · intro address c hparse
    have hadmitted := ConnectAddress.admitted_of_parse hparse
    exact ⟨fun _ _ => c.parse_render _ _ hadmitted, hadmitted.port, hadmitted.host⟩
  · intro interface port hadmitted brackets
    exact BindAddress.parse_render brackets hadmitted
  · intro c hadmitted localBrackets hostBrackets
    exact c.parse_render localBrackets hostBrackets hadmitted

/-- The colons of the local end and those of the host are each left to their segment. -/
theorem addresses_survive_rendering_loopback :
    let loopback : IpAddr := .v6 ⟨[0, 0, 0, 0, 0, 0, 0, 1], rfl⟩
    let b : BindAddress := ⟨.literal loopback, 7000⟩
    let c : ConnectAddress := ⟨some (.literal loopback), "::1", 7000⟩
    BindAddress.parse "[::1]:07000" false = .ok b ∧
      (∀ brackets, BindAddress.parse (b.render brackets) false = .ok b) ∧
      (∀ brackets, BindAddress.parse (BindAddress.render brackets ⟨.any, 0⟩) false =
        .ok ⟨.any, 0⟩) ∧
      ConnectAddress.parse "[::1];::1:7000" false = .ok c ∧
      (∀ localBrackets hostBrackets,
        ConnectAddress.parse (c.render localBrackets hostBrackets) false = .ok c) ∧
      c.render false true = "::1;[::1]:7000" := by
  intro loopback b c
  have hb : BindAddress.parse "[::1]:07000" false = .ok b := by decide
  have hc : ConnectAddress.parse "[::1];::1:7000" false = .ok c := by decide
  obtain ⟨hbind, hconnect, hpair, htriple⟩ := addresses_survive_rendering false
  have hinterface : (Interface.literal loopback).Admitted false := fun h => nomatch h
  have hadmitted : c.Admitted false :=
    ⟨fun interface h => Option.some.inj h ▸ hinterface, (hconnect _ c hc).2.2,
      (hconnect _ c hc).2.1⟩
  exact ⟨hb, hbind _ b hb, hpair .any 0 trivial, hc, htriple c hadmitted, by decide⟩

end EndpointLifecycle

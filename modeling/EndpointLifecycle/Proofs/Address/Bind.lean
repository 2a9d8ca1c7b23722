import EndpointLifecycle.Address.Bind
import EndpointLifecycle.Proofs.Address.Segments

/-!
# What becomes of an address to listen at

The port stands behind the last colon of all, so that an IPv6 literal needs no brackets, and a port
that cannot be read is reported before the interface is looked at.
-/

namespace EndpointLifecycle.BindAddress

open Address Text

/-- The outcome of each text: the port and what it follows are cut apart at the last colon. -/
inductive Outcome (ipv4Only : Bool) (address : String) : Except ConfigError BindAddress → Prop
  | missingPort (uncut : ':' ∉ address.toList) :
      Outcome ipv4Only address (.error (.invalidAddress address .missingPort))
  | invalidPort {segment digits} (cut : address.toList = segment ++ ':' :: digits)
      (last : ':' ∉ digits) (invalid : ∀ port, ¬IsPort digits port) :
      Outcome ipv4Only address (.error (.invalidAddress address .invalidPort))
  | noSuchInterface {segment digits port} (cut : address.toList = segment ++ ':' :: digits)
      (isPort : IsPort digits port)
      (unnamed : ∀ interface, ¬Interface.Names ipv4Only segment interface) :
      Outcome ipv4Only address (.error (.noSuchInterface (String.ofList segment)))
  | ok {segment digits interface port} (cut : address.toList = segment ++ ':' :: digits)
      (isPort : IsPort digits port) (names : Interface.Names ipv4Only segment interface) :
      Outcome ipv4Only address (.ok ⟨interface, port⟩)

variable {ipv4Only : Bool} {address : String} {segment digits : List Char} {port : UInt16}
  {result : Except ConfigError BindAddress}

/-- Once the port is read, everything depends on the interface. -/
theorem parse_of_isPort (hcut : address.toList = segment ++ ':' :: digits)
    (hport : IsPort digits port) :
    parse address ipv4Only =
      (Interface.read ipv4Only segment).map fun interface => ⟨interface, port⟩ := by
  have hlast := splitLast_eq_some_iff.2 ⟨hcut, hport.colon_notMem⟩
  rw [parse, hlast]
  dsimp only
  rw [port?_eq_some_iff.2 hport]

theorem parse_of_outcome (h : Outcome ipv4Only address result) :
    parse address ipv4Only = result := by
  cases h with
  | missingPort uncut => rw [parse, splitLast_eq_none.2 uncut]
  | invalidPort cut last invalid =>
    rw [parse, splitLast_eq_some_iff.2 ⟨cut, last⟩]
    dsimp only
    rw [port?_eq_none_iff.2 invalid]
  | noSuchInterface cut isPort unnamed =>
    rw [parse_of_isPort cut isPort, Interface.read_of_not_names unnamed, Except.map]
  | ok cut isPort names =>
    rw [parse_of_isPort cut isPort, Interface.read_of_names names, Except.map]

theorem exists_outcome (ipv4Only : Bool) (address : String) :
    ∃ result, Outcome ipv4Only address result := by
  obtain huncut | ⟨segment, digits, hcut, hlast, hinvalid⟩ | ⟨segment, digits, port, hcut, hport⟩ :=
    colon_cases address.toList
  · exact ⟨_, .missingPort huncut⟩
  · exact ⟨_, .invalidPort hcut hlast hinvalid⟩
  · by_cases hnames : ∃ interface, Interface.Names ipv4Only segment interface
    case pos =>
      obtain ⟨interface, hnames⟩ := hnames
      exact ⟨_, .ok hcut hport hnames⟩
    case neg => exact ⟨_, .noSuchInterface hcut hport (not_exists.1 hnames)⟩

theorem parse_eq_iff : parse address ipv4Only = result ↔ Outcome ipv4Only address result :=
  eq_iff_of_exists (exists_outcome ipv4Only address) fun _ => parse_of_outcome

/-- Every text has its outcome and no other. What can be read is listened at where it says, a star
at the unspecified address. -/
theorem parse_eq_iff_outcome (address : String) (ipv4Only : Bool) :
    (∀ result, parse address ipv4Only = result ↔ Outcome ipv4Only address result) ∧
      ∀ b, parse address ipv4Only = .ok b →
        ∀ segment digits, address.toList = segment ++ ':' :: digits → ':' ∉ digits →
          Nat.ofDigitChars 10 digits 0 = b.port.toNat ∧
          (segment = ['*'] → b.socketAddr ipv4Only =
            ⟨if ipv4Only then .v4 ⟨0, 0, 0, 0⟩ else .v6 ⟨[0, 0, 0, 0, 0, 0, 0, 0], rfl⟩,
              b.port, 0⟩) ∧
          ∀ ip inner, IpAddr.Literal ip inner → Encloses segment inner →
            b.socketAddr ipv4Only = ⟨ip, b.port, 0⟩ := by
  refine ⟨fun result => parse_eq_iff, fun b hb segment digits hcut hlast => ?_⟩
  cases parse_eq_iff.1 hb with
  | ok cut isPort names =>
    have hsame := splitLast_eq_some_iff.2 ⟨cut, isPort.colon_notMem⟩
    rw [splitLast_eq_some_iff.2 ⟨hcut, hlast⟩] at hsame
    cases hsame
    refine ⟨isPort.value, ?_, fun ip inner hspelled hencloses => ?_⟩
    · intro hstar
      cases names with
      | any => cases ipv4Only <;> rfl
      | literal spelled encloses =>
        exact absurd hstar (Interface.ne_star_of_encloses spelled encloses)
    · cases names with
      | any => exact absurd rfl (Interface.ne_star_of_encloses hspelled hencloses)
      | literal spelled encloses =>
        have hread := IpAddr.read_stripBrackets.2 ⟨_, spelled, encloses⟩
        rw [IpAddr.read_stripBrackets.2 ⟨_, hspelled, hencloses⟩] at hread
        cases hread
        rfl

/-- The colons of a bare IPv6 literal are its own. -/
theorem parse_bare_loopback :
    let loopback : IpAddr := .v6 ⟨[0, 0, 0, 0, 0, 0, 0, 1], rfl⟩
    parse "::1:7000" true = .error (.noSuchInterface "::1") ∧
      parse "::1:7000" false = .ok ⟨.literal loopback, 7000⟩ ∧
      socketAddr ⟨.literal loopback, 7000⟩ false = ⟨loopback, 7000, 0⟩ := by
  intro loopback
  have hcut : "::1:7000".toList = "::1".toList ++ ':' :: "7000".toList := by decide
  have hport : IsPort "7000".toList 7000 := port?_eq_some_iff.1 (by decide)
  have hspelled : loopback.Literal "::1".toList := IpAddr.read_eq_some_iff.1 (by decide)
  have hnames : Interface.Names false "::1".toList (.literal loopback) :=
    .literal hspelled (.inl rfl) (by decide)
  have hunnamed (interface) : ¬Interface.Names true "::1".toList interface := fun hnames => by
    have hread : Interface.read true "::1".toList = .error (.noSuchInterface "::1") := by decide
    rw [Interface.read_of_names hnames] at hread
    cases hread
  have hparse := ((parse_eq_iff_outcome "::1:7000" false).1 _).2 (.ok hcut hport hnames)
  have hsocket := (parse_eq_iff_outcome "::1:7000" false).2 _ hparse _ _ hcut hport.colon_notMem
  refine ⟨?_, hparse, hsocket.2.2 loopback _ hspelled (.inl rfl)⟩
  exact ((parse_eq_iff_outcome "::1:7000" true).1 _).2 (.noSuchInterface hcut hport hunnamed)

end EndpointLifecycle.BindAddress

import EndpointLifecycle.Address.Connect
import EndpointLifecycle.Proofs.Address.Segments

/-!
# What becomes of an address to connect to

One grammar with one parameter, the way in which a host name stands in its segment. The parser
follows the grammar in which brackets may stand around a name as around a literal, and so it follows
the one in which names are bare for every text but those with a bracketed name.
-/

namespace EndpointLifecycle

open Address Text

namespace Hostname

theorem of_mem_scan {length : Nat} {cs : List Char} (h : scan length cs) {c : Char} (hc : c ∈ cs) :
    isLetterOrDigit c ∨ c = '-' ∨ c = '.' := by
  induction cs generalizing length with
  | nil => cases hc
  | cons d cs ih =>
    rw [scan] at h
    split at h
    case isTrue hpoint =>
      obtain rfl | hmem := List.mem_cons.1 hc
      · exact .inr (.inr hpoint)
      · exact ih (Bool.and_eq_true_iff.1 h).2 hmem
    case isFalse =>
      split at h
      case isTrue => cases h
      case isFalse =>
        split at h
        case isTrue hlabel =>
          obtain rfl | hmem := List.mem_cons.1 hc
          · exact hlabel.imp_right .inl
          · exact ih (Bool.and_eq_true_iff.1 h).2 hmem
        case isFalse => cases h

/-- None of the characters with which the parts of an address are told apart. -/
theorem notMem_of_isValid {cs : List Char} (h : isValid (String.ofList cs)) {c : Char}
    (hc : c ∈ ['[', ']', ':', ';']) : c ∉ cs := by
  intro hmem
  rw [isValid, Bool.and_eq_true_iff, String.toList_ofList] at h
  have hlabel := of_mem_scan h.2 hmem
  simp only [List.mem_cons, List.not_mem_nil, or_false] at hc
  obtain rfl | rfl | rfl | rfl := hc <;> exact absurd hlabel (by decide)

end Hostname

/-- A name that is a literal is one of IPv4, and such an address is always admitted. -/
theorem IpAddr.Literal.admitted_of_isValid {ip : IpAddr} {cs : List Char} (h : ip.Literal cs)
    (hvalid : Hostname.isValid (String.ofList cs)) (ipv4Only : Bool) : ip.Admitted ipv4Only := by
  cases ip with
  | v4 a => exact fun _ => rfl
  | v6 a => exact absurd (Ipv6.Literal.colon_mem h) (Hostname.notMem_of_isValid hvalid (by decide))

namespace ConnectAddress

/-! ## The grammar -/

/-- The local segment, up to the first semicolon, and the target. -/
inductive Splits (cs : List Char) : Option (List Char) → List Char → Prop
  | whole (free : ';' ∉ cs) : Splits cs none cs
  | cut {segment target} (cut : cs = segment ++ ';' :: target) (first : ';' ∉ segment) :
      Splits cs (some segment) target

/-- The outcome of each host segment, in which names stand as `Stands` says. -/
inductive HostOutcome (Stands : List Char → List Char → Prop) (ipv4Only : Bool)
    (segment : List Char) : Except AddressFault String → Prop
  | literal {ip : IpAddr} {inner} (spelled : ip.Literal inner) (encloses : Encloses segment inner)
      (admitted : ip.Admitted ipv4Only) :
      HostOutcome Stands ipv4Only segment (.ok (String.ofList inner))
  | ipv6Host {ip : IpAddr} {inner} (spelled : ip.Literal inner) (encloses : Encloses segment inner)
      (refused : ¬ip.Admitted ipv4Only) : HostOutcome Stands ipv4Only segment (.error .ipv6Host)
  | name {name} (stands : Stands segment name) (valid : Hostname.isValid (String.ofList name)) :
      HostOutcome Stands ipv4Only segment (.ok (String.ofList name))
  | invalidHost (unspelled : ∀ (ip : IpAddr) inner, ip.Literal inner → ¬Encloses segment inner)
      (invalid : ∀ name, Stands segment name → ¬Hostname.isValid (String.ofList name)) :
      HostOutcome Stands ipv4Only segment (.error .invalidHost)

/-- The outcome of each target. The port stands behind the last colon and is read first. -/
inductive TargetOutcome (Stands : List Char → List Char → Prop) (ipv4Only : Bool)
    (target : List Char) : Except AddressFault (String × UInt16) → Prop
  | missingPort (uncut : ':' ∉ target) : TargetOutcome Stands ipv4Only target (.error .missingPort)
  | invalidPort {segment digits} (cut : target = segment ++ ':' :: digits) (last : ':' ∉ digits)
      (invalid : ∀ port, ¬IsPort digits port) :
      TargetOutcome Stands ipv4Only target (.error .invalidPort)
  | portZero {segment digits} (cut : target = segment ++ ':' :: digits) (isPort : IsPort digits 0) :
      TargetOutcome Stands ipv4Only target (.error .portZero)
  | hostFault {segment digits port fault} (cut : target = segment ++ ':' :: digits)
      (isPort : IsPort digits port) (nonzero : port ≠ 0)
      (hosts : HostOutcome Stands ipv4Only segment (.error fault)) :
      TargetOutcome Stands ipv4Only target (.error fault)
  | ok {segment digits host port} (cut : target = segment ++ ':' :: digits)
      (isPort : IsPort digits port) (nonzero : port ≠ 0)
      (hosts : HostOutcome Stands ipv4Only segment (.ok host)) :
      TargetOutcome Stands ipv4Only target (.ok (host, port))

/-- The outcome of each text. The local segment is looked at last. -/
inductive Outcome (Stands : List Char → List Char → Prop) (ipv4Only : Bool) (address : String) :
    Except ConfigError ConnectAddress → Prop
  | invalidAddress {segment target fault} (splits : Splits address.toList segment target)
      (invalid : TargetOutcome Stands ipv4Only target (.error fault)) :
      Outcome Stands ipv4Only address (.error (.invalidAddress address fault))
  | noSuchInterface {segment target host port}
      (splits : Splits address.toList (some segment) target)
      (valid : TargetOutcome Stands ipv4Only target (.ok (host, port)))
      (unnamed : ∀ interface, ¬Interface.Names ipv4Only segment interface) :
      Outcome Stands ipv4Only address (.error (.noSuchInterface (String.ofList segment)))
  | unbound {target host port} (splits : Splits address.toList none target)
      (valid : TargetOutcome Stands ipv4Only target (.ok (host, port))) :
      Outcome Stands ipv4Only address (.ok ⟨none, host, port⟩)
  | bound {segment interface target host port}
      (splits : Splits address.toList (some segment) target)
      (valid : TargetOutcome Stands ipv4Only target (.ok (host, port)))
      (names : Interface.Names ipv4Only segment interface) :
      Outcome Stands ipv4Only address (.ok ⟨some interface, host, port⟩)

variable {Stands : List Char → List Char → Prop} {ipv4Only : Bool} {address : String}
  {cs target : List Char} {segment? : Option (List Char)}

theorem splits_splitLocal (cs : List Char) : Splits cs (splitLocal cs).1 (splitLocal cs).2 := by
  unfold splitLocal
  split
  case h_1 hcut => exact .whole (splitFirst_eq_none.1 hcut)
  case h_2 segment target hcut =>
    obtain ⟨hcs, hfirst⟩ := splitFirst_eq_some_iff.1 hcut
    exact .cut hcs hfirst

theorem splitLocal_of_splits (h : Splits cs segment? target) :
    splitLocal cs = (segment?, target) := by
  cases h with
  | whole free => rw [splitLocal, splitFirst_eq_none.2 free]
  | cut cut first => rw [splitLocal, splitFirst_eq_some_iff.2 ⟨cut, first⟩]

theorem exists_hostOutcome (Stands : List Char → List Char → Prop) (ipv4Only : Bool)
    (segment : List Char) : ∃ result, HostOutcome Stands ipv4Only segment result := by
  by_cases hliteral : ∃ (ip : IpAddr) (inner : _), ip.Literal inner ∧ Encloses segment inner
  case pos =>
    obtain ⟨ip, inner, hspelled, hencloses⟩ := hliteral
    by_cases hadmitted : ip.Admitted ipv4Only
    case pos => exact ⟨_, .literal hspelled hencloses hadmitted⟩
    case neg => exact ⟨_, .ipv6Host hspelled hencloses hadmitted⟩
  case neg =>
    by_cases hname : ∃ name, Stands segment name ∧ Hostname.isValid (String.ofList name)
    case pos =>
      obtain ⟨name, hstands, hvalid⟩ := hname
      exact ⟨_, .name hstands hvalid⟩
    case neg =>
      refine ⟨_, .invalidHost ?_ ?_⟩
      · exact fun ip inner hspelled hencloses => hliteral ⟨ip, inner, hspelled, hencloses⟩
      · exact fun name hstands hvalid => hname ⟨name, hstands, hvalid⟩

theorem exists_targetOutcome (Stands : List Char → List Char → Prop) (ipv4Only : Bool)
    (target : List Char) : ∃ result, TargetOutcome Stands ipv4Only target result := by
  obtain huncut | ⟨segment, digits, hcut, hlast, hinvalid⟩ | ⟨segment, digits, port, hcut, hport⟩ :=
    colon_cases target
  · exact ⟨_, .missingPort huncut⟩
  · exact ⟨_, .invalidPort hcut hlast hinvalid⟩
  · by_cases hzero : port = 0
    case pos => exact ⟨_, .portZero hcut (hzero ▸ hport)⟩
    case neg =>
      obtain ⟨result, hhost⟩ := exists_hostOutcome Stands ipv4Only segment
      cases result with
      | error fault => exact ⟨_, .hostFault hcut hport hzero hhost⟩
      | ok host => exact ⟨_, .ok hcut hport hzero hhost⟩

theorem exists_outcome (Stands : List Char → List Char → Prop) (ipv4Only : Bool)
    (address : String) : ∃ result, Outcome Stands ipv4Only address result := by
  have hsplits := splits_splitLocal address.toList
  obtain ⟨result, htarget⟩ := exists_targetOutcome Stands ipv4Only (splitLocal address.toList).2
  cases result with
  | error fault => exact ⟨_, .invalidAddress hsplits htarget⟩
  | ok parts =>
    obtain ⟨host, port⟩ := parts
    cases hlocal : (splitLocal address.toList).1 with
    | none => exact ⟨_, .unbound (hlocal ▸ hsplits) htarget⟩
    | some segment =>
      rw [hlocal] at hsplits
      by_cases hnames : ∃ interface, Interface.Names ipv4Only segment interface
      case pos =>
        obtain ⟨interface, hnames⟩ := hnames
        exact ⟨_, .bound hsplits htarget hnames⟩
      case neg => exact ⟨_, .noSuchInterface hsplits htarget (not_exists.1 hnames)⟩

/-! ## The parser -/

theorem readHost_of_literal {segment inner : List Char} {ip : IpAddr} (hspelled : ip.Literal inner)
    (hencloses : Encloses segment inner) :
    readHost ipv4Only segment =
      if ip.Admitted ipv4Only then .ok (String.ofList inner) else .error .ipv6Host := by
  rw [readHost, (stripBrackets_eq_iff hspelled.bracket_notMem).2 hencloses,
    IpAddr.read_eq_some_iff.2 hspelled]

theorem readHost_of_hostOutcome {segment : List Char} {result : Except AddressFault String}
    (h : HostOutcome Encloses ipv4Only segment result) : readHost ipv4Only segment = result := by
  cases h with
  | literal spelled encloses admitted =>
    rw [readHost_of_literal spelled encloses, if_pos admitted]
  | ipv6Host spelled encloses refused =>
    rw [readHost_of_literal spelled encloses, if_neg refused]
  | @name name stands valid =>
    have hstrip := (stripBrackets_eq_iff (Hostname.notMem_of_isValid valid (by decide))).2 stands
    cases hread : IpAddr.read name with
    | none =>
      rw [readHost, hstrip, hread]
      exact if_pos valid
    | some ip =>
      -- The name is also a literal and taken for one, which comes to the same.
      have hspelled := IpAddr.read_eq_some_iff.1 hread
      rw [readHost_of_literal hspelled stands, if_pos (hspelled.admitted_of_isValid valid _)]
  | invalidHost unspelled invalid =>
    have hread : IpAddr.read (stripBrackets segment) = none :=
      Option.eq_none_iff_forall_ne_some.2 fun ip hread => by
        obtain ⟨inner, hspelled, hencloses⟩ := IpAddr.read_stripBrackets.1 hread
        exact unspelled ip inner hspelled hencloses
    rw [readHost, hread]
    exact if_neg (invalid _ (encloses_stripBrackets segment))

theorem readTarget_of_isPort {segment digits : List Char} {port : UInt16}
    (hcut : target = segment ++ ':' :: digits) (hport : IsPort digits port) :
    readTarget ipv4Only target =
      if port = 0 then .error .portZero
      else (readHost ipv4Only segment).map fun host => (host, port) := by
  rw [readTarget, splitLast_eq_some_iff.2 ⟨hcut, hport.colon_notMem⟩]
  dsimp only
  rw [port?_eq_some_iff.2 hport]

theorem readTarget_of_targetOutcome {result : Except AddressFault (String × UInt16)}
    (h : TargetOutcome Encloses ipv4Only target result) : readTarget ipv4Only target = result := by
  cases h with
  | missingPort uncut => rw [readTarget, splitLast_eq_none.2 uncut]
  | invalidPort cut last invalid =>
    rw [readTarget, splitLast_eq_some_iff.2 ⟨cut, last⟩]
    dsimp only
    rw [port?_eq_none_iff.2 invalid]
  | portZero cut isPort => rw [readTarget_of_isPort cut isPort, if_pos rfl]
  | hostFault cut isPort nonzero host =>
    rw [readTarget_of_isPort cut isPort, if_neg nonzero, readHost_of_hostOutcome host, Except.map]
  | ok cut isPort nonzero host =>
    rw [readTarget_of_isPort cut isPort, if_neg nonzero, readHost_of_hostOutcome host, Except.map]

theorem parse_of_splits (h : Splits address.toList segment? target) :
    parse address ipv4Only =
      match readTarget ipv4Only target, segment? with
      | .error fault, _ => .error (.invalidAddress address fault)
      | .ok (host, port), none => .ok ⟨none, host, port⟩
      | .ok (host, port), some segment =>
        (Interface.read ipv4Only segment).map fun interface => ⟨some interface, host, port⟩ := by
  rw [parse, splitLocal_of_splits h]
  dsimp only
  cases readTarget ipv4Only target <;> cases segment? <;> rfl

theorem parse_of_outcome {result : Except ConfigError ConnectAddress}
    (h : Outcome Encloses ipv4Only address result) : parse address ipv4Only = result := by
  cases h with
  | invalidAddress splits invalid =>
    rw [parse_of_splits splits, readTarget_of_targetOutcome invalid]
  | noSuchInterface splits valid unnamed =>
    rw [parse_of_splits splits, readTarget_of_targetOutcome valid]
    dsimp only
    rw [Interface.read_of_not_names unnamed, Except.map]
  | unbound splits valid => rw [parse_of_splits splits, readTarget_of_targetOutcome valid]
  | bound splits valid names =>
    rw [parse_of_splits splits, readTarget_of_targetOutcome valid]
    dsimp only
    rw [Interface.read_of_names names, Except.map]

theorem parse_eq_iff {result : Except ConfigError ConnectAddress} :
    parse address ipv4Only = result ↔ Outcome Encloses ipv4Only address result :=
  eq_iff_of_exists (exists_outcome Encloses ipv4Only address) fun _ => parse_of_outcome

/-! ## Names in brackets -/

/-- In brackets, and before a port to connect to, stands a name that is no literal. -/
def NamesInBrackets (address : String) : Prop :=
  ∃ segment? target name digits port, Splits address.toList segment? target ∧
    target = bracketed name ++ ':' :: digits ∧ IsPort digits port ∧ port ≠ 0 ∧
    Hostname.isValid (String.ofList name) ∧ ∀ ip : IpAddr, ¬ip.Literal name

theorem HostOutcome.of_bare {segment : List Char} {result : Except AddressFault String}
    (h : HostOutcome Eq ipv4Only segment result)
    (hfree : ∀ name, segment = bracketed name → Hostname.isValid (String.ofList name) →
      ∃ ip : IpAddr, ip.Literal name) :
    HostOutcome Encloses ipv4Only segment result := by
  cases h with
  | literal spelled encloses admitted => exact .literal spelled encloses admitted
  | ipv6Host spelled encloses refused => exact .ipv6Host spelled encloses refused
  | name stands valid => exact .name (.inl stands) valid
  | invalidHost unspelled invalid =>
    refine .invalidHost unspelled ?_
    rintro name (hbare | hbracketed) hvalid
    · exact invalid name hbare hvalid
    · obtain ⟨ip, hspelled⟩ := hfree name hbracketed hvalid
      exact unspelled ip name hspelled (.inr hbracketed)

theorem TargetOutcome.of_bare {result : Except AddressFault (String × UInt16)}
    (h : TargetOutcome Eq ipv4Only target result)
    (hfree : ∀ name digits port, target = bracketed name ++ ':' :: digits → IsPort digits port →
      port ≠ 0 → Hostname.isValid (String.ofList name) → ∃ ip : IpAddr, ip.Literal name) :
    TargetOutcome Encloses ipv4Only target result := by
  cases h with
  | missingPort uncut => exact .missingPort uncut
  | invalidPort cut last invalid => exact .invalidPort cut last invalid
  | portZero cut isPort => exact .portZero cut isPort
  | hostFault cut isPort nonzero hosts =>
    refine .hostFault cut isPort nonzero (hosts.of_bare fun name hname => ?_)
    exact hfree name _ _ (hname ▸ cut) isPort nonzero
  | ok cut isPort nonzero hosts =>
    refine .ok cut isPort nonzero (hosts.of_bare fun name hname => ?_)
    exact hfree name _ _ (hname ▸ cut) isPort nonzero

theorem Outcome.of_bare {result : Except ConfigError ConnectAddress}
    (h : Outcome Eq ipv4Only address result) (hfree : ¬NamesInBrackets address) :
    Outcome Encloses ipv4Only address result := by
  have htarget {segment? target} (hsplits : Splits address.toList segment? target) {result}
      (h : TargetOutcome Eq ipv4Only target result) :
      TargetOutcome Encloses ipv4Only target result :=
    h.of_bare fun name digits port hcut hport hzero hvalid => by
      by_contra hunspelled
      exact hfree ⟨_, _, name, digits, port, hsplits, hcut, hport, hzero, hvalid,
        not_exists.1 hunspelled⟩
  cases h with
  | invalidAddress splits invalid => exact .invalidAddress splits (htarget splits invalid)
  | noSuchInterface splits valid unnamed =>
    exact .noSuchInterface splits (htarget splits valid) unnamed
  | unbound splits valid => exact .unbound splits (htarget splits valid)
  | bound splits valid names => exact .bound splits (htarget splits valid) names

theorem hostOutcome_bracketed {name : List Char} (hunspelled : ∀ ip : IpAddr, ¬ip.Literal name) :
    HostOutcome Eq ipv4Only (bracketed name) (.error .invalidHost) := by
  refine .invalidHost ?_ ?_
  · rintro ip inner hspelled (rfl | hbracketed)
    · exact hspelled.bracket_notMem List.mem_cons_self
    · have hname : name = inner := by simpa [bracketed] using hbracketed
      exact hunspelled ip (hname ▸ hspelled)
  · rintro _ rfl hvalid
    exact Hostname.notMem_of_isValid hvalid (by decide) List.mem_cons_self

theorem outcome_of_namesInBrackets (h : NamesInBrackets address) :
    Outcome Eq ipv4Only address (.error (.invalidAddress address .invalidHost)) := by
  obtain ⟨segment?, target, name, digits, port, hsplits, hcut, hport, hzero, -, hunspelled⟩ := h
  exact .invalidAddress hsplits (.hostFault hcut hport hzero (hostOutcome_bracketed hunspelled))

theorem parse_ne_of_namesInBrackets (h : NamesInBrackets address) (fault : AddressFault) :
    parse address ipv4Only ≠ .error (.invalidAddress address fault) := by
  obtain ⟨segment?, target, name, digits, port, hsplits, hcut, hport, hzero, hvalid, -⟩ := h
  have hok : readTarget ipv4Only target = .ok (String.ofList name, port) :=
    readTarget_of_targetOutcome (.ok hcut hport hzero (.name (.inr rfl) hvalid))
  intro hparse
  -- The segments are the same, and so the target would be refused as well as taken.
  cases parse_eq_iff.1 hparse with
  | invalidAddress splits invalid =>
    have hsame := splitLocal_of_splits splits
    rw [splitLocal_of_splits hsplits] at hsame
    cases hsame
    rw [readTarget_of_targetOutcome invalid] at hok
    cases hok

/-- Every text has the outcome of the grammar in which brackets may stand around a name. It has that
of the grammar of bare names exactly if there is no name in brackets. -/
theorem parse_follows_grammar (address : String) (ipv4Only : Bool) :
    (∀ result, parse address ipv4Only = result ↔ Outcome Encloses ipv4Only address result) ∧
      ((∀ result, parse address ipv4Only = result ↔ Outcome Eq ipv4Only address result) ↔
        ¬NamesInBrackets address) := by
  refine ⟨fun result => parse_eq_iff, ?_, ?_⟩
  · intro hbare hnames
    exact parse_ne_of_namesInBrackets hnames .invalidHost
      ((hbare _).2 (outcome_of_namesInBrackets hnames))
  · intro hfree result
    exact eq_iff_of_exists (exists_outcome Eq ipv4Only address) fun _ h =>
      parse_of_outcome (h.of_bare hfree)

/-- An address without a bracket. The local end is given, and the host is a name. -/
theorem parse_follows_grammar_bare_name :
    ¬NamesInBrackets "127.0.0.1;example.com:5555" ∧
      parse "127.0.0.1;example.com:5555" true =
        .ok ⟨some (.literal (.v4 ⟨127, 0, 0, 1⟩)), "example.com", 5555⟩ := by
  have hfree : ¬NamesInBrackets "127.0.0.1;example.com:5555" := by
    rintro ⟨segment?, target, name, digits, port, hsplits, rfl, -⟩
    have hbracket : '[' ∈ "127.0.0.1;example.com:5555".toList := by
      cases hsplits with
      | cut cut => exact cut ▸ List.mem_append_right _ (List.mem_cons_of_mem _ List.mem_cons_self)
    exact absurd hbracket (by decide)
  have hcut : "127.0.0.1;example.com:5555".toList =
      "127.0.0.1".toList ++ ';' :: ("example.com".toList ++ ':' :: "5555".toList) := by decide
  have hport : IsPort "5555".toList 5555 := port?_eq_some_iff.1 (by decide)
  refine ⟨hfree, ((parse_follows_grammar _ true).2.2 hfree _).2 ?_⟩
  refine .bound (.cut hcut (by decide)) (.ok rfl hport (by decide) ?_) ?_
  · exact .name rfl (by decide)
  · exact .literal rfl (.inl rfl) (by decide)

/-- Brackets make no name invalid. -/
theorem bracketed_name_accepted :
    parse "[example.com]:5555" true = .ok ⟨none, "example.com", 5555⟩ ∧
      Outcome Eq true "[example.com]:5555"
        (.error (.invalidAddress "[example.com]:5555" .invalidHost)) ∧
      ¬∀ result, parse "[example.com]:5555" true = result ↔
        Outcome Eq true "[example.com]:5555" result := by
  have hparse : parse "[example.com]:5555" true = .ok ⟨none, "example.com", 5555⟩ := by decide
  have hunspelled (ip : IpAddr) : ¬ip.Literal "example.com".toList := fun hspelled => by
    have hread : IpAddr.read "example.com".toList = none := by decide
    rw [IpAddr.read_eq_some_iff.2 hspelled] at hread
    cases hread
  have hnames : NamesInBrackets "[example.com]:5555" :=
    ⟨none, _, "example.com".toList, "5555".toList, 5555, .whole (by decide), by decide,
      port?_eq_some_iff.1 (by decide), by decide, by decide, hunspelled⟩
  have hrefused : Outcome Eq true "[example.com]:5555"
      (.error (.invalidAddress "[example.com]:5555" .invalidHost)) :=
    outcome_of_namesInBrackets hnames
  refine ⟨hparse, hrefused, fun hall => ?_⟩
  rw [(hall _).2 hrefused] at hparse
  cases hparse

end ConnectAddress

end EndpointLifecycle

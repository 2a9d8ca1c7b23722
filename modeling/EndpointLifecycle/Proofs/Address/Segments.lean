import EndpointLifecycle.Address.Interface
import EndpointLifecycle.Proofs.Ip.Literal

/-!
# The segments of an address

A port is one to five digits, an interface a star or a literal. One pair of square brackets around a
literal is not part of it, and no literal has a bracket of its own.
-/

namespace EndpointLifecycle

open Text

namespace Address

/-- One to five digits that stand for the port. -/
structure IsPort (cs : List Char) (port : UInt16) : Prop where
  ne_nil : cs ≠ []
  length_le : cs.length ≤ 5
  isDigit : ∀ c ∈ cs, c.isDigit
  value : Nat.ofDigitChars 10 cs 0 = port.toNat

variable {cs inner : List Char} {port : UInt16}

theorem port?_eq_some_iff : port? cs = some port ↔ IsPort cs port := by
  simp only [port?, Option.map_eq_some_iff, Option.filter_eq_some_iff, numeral?_eq_some_iff,
    isNumeral_ten_iff, decide_eq_true_eq]
  constructor
  · rintro ⟨n, ⟨⟨hne, hle, hdigits, hvalue⟩, hsmall⟩, rfl⟩
    refine ⟨hne, hle, hdigits, ?_⟩
    rw [hvalue, UInt16.toNat_ofNat', Nat.mod_eq_of_lt hsmall]
  · intro h
    exact ⟨_, ⟨⟨h.ne_nil, h.length_le, h.isDigit, h.value⟩, port.toNat_lt⟩, UInt16.ofNat_toNat⟩

theorem port?_eq_none_iff : port? cs = none ↔ ∀ port, ¬IsPort cs port := by
  rw [Option.eq_none_iff_forall_ne_some]
  exact forall_congr' fun port => not_congr port?_eq_some_iff

theorem IsPort.colon_notMem (h : IsPort cs port) : ':' ∉ cs := fun hcolon =>
  absurd (h.isDigit _ hcolon) (by decide)

theorem isPort_digits (port : UInt16) : IsPort (digits 10 port.toNat) port := by
  have hlt : port.toNat < 65536 := port.toNat_lt
  have hnumeral : IsNumeral 10 5 (digits 10 port.toNat) port.toNat :=
    isNumeral_digits (by decide) (by decide) (by decide) (by omega)
  obtain ⟨hne, hle, hdigits, hvalue⟩ := isNumeral_ten_iff.1 hnumeral
  exact ⟨hne, hle, hdigits, hvalue⟩

/-- Every text has no colon, or behind its last one what is no port, or a port. -/
theorem colon_cases (cs : List Char) :
    ':' ∉ cs ∨
      (∃ segment digits, cs = segment ++ ':' :: digits ∧ ':' ∉ digits ∧
        ∀ port, ¬IsPort digits port) ∨
      ∃ segment digits port, cs = segment ++ ':' :: digits ∧ IsPort digits port := by
  cases hcut : splitLast ':' cs with
  | none => exact .inl (splitLast_eq_none.1 hcut)
  | some parts =>
    obtain ⟨segment, digits⟩ := parts
    obtain ⟨hcs, hlast⟩ := splitLast_eq_some_iff.1 hcut
    by_cases hport : ∃ port, IsPort digits port
    case pos =>
      obtain ⟨port, hport⟩ := hport
      exact .inr (.inr ⟨segment, digits, port, hcs, hport⟩)
    case neg => exact .inr (.inl ⟨segment, digits, hcs, hlast, not_exists.1 hport⟩)

/-- What is found by a relation that holds of something, and of nothing but the value, is exactly
the value. -/
theorem eq_iff_of_exists {α : Type} {P : α → Prop} {a b : α} (total : ∃ c, P c)
    (unique : ∀ c, P c → a = c) : a = b ↔ P b := by
  refine ⟨?_, unique b⟩
  rintro rfl
  obtain ⟨c, hc⟩ := total
  rwa [unique c hc]

/-! ## Brackets -/

def bracketed (cs : List Char) : List Char := '[' :: cs ++ [']']

/-- The text, or the text in one pair of square brackets. -/
def Encloses (segment inner : List Char) : Prop := segment = inner ∨ segment = bracketed inner

theorem stripBrackets_bracketed (cs : List Char) : stripBrackets (bracketed cs) = cs := by
  rw [bracketed, List.cons_append, stripBrackets, List.getLast?_concat, if_pos rfl,
    List.dropLast_concat]

theorem encloses_stripBrackets (cs : List Char) : Encloses cs (stripBrackets cs) := by
  unfold stripBrackets
  split
  case h_1 cs =>
    split
    case isTrue h =>
      obtain ⟨inner, rfl⟩ := List.getLast?_eq_some_iff.1 h
      rw [List.dropLast_concat]
      exact .inr rfl
    case isFalse => exact .inl rfl
  case h_2 => exact .inl rfl

theorem stripBrackets_of_notMem (h : '[' ∉ cs) : stripBrackets cs = cs := by
  obtain heq | hbracketed := encloses_stripBrackets cs
  · exact heq.symm
  · rw [hbracketed] at h
    exact absurd List.mem_cons_self h

/-- What has no bracket of its own is found within brackets and without. -/
theorem stripBrackets_eq_iff (h : '[' ∉ inner) :
    stripBrackets cs = inner ↔ Encloses cs inner := by
  constructor
  · rintro rfl
    exact encloses_stripBrackets cs
  · rintro (rfl | rfl)
    · exact stripBrackets_of_notMem h
    · exact stripBrackets_bracketed inner

end Address

open Address

theorem IpAddr.Literal.bracket_notMem {ip : IpAddr} {cs : List Char} (h : ip.Literal cs) :
    '[' ∉ cs :=
  fun hmem => not_isLiteralChar (by decide) (h.isLiteralChar _ hmem)

/-- An address is read from the literals within brackets and without. -/
theorem IpAddr.read_stripBrackets {ip : IpAddr} {cs : List Char} :
    IpAddr.read (stripBrackets cs) = some ip ↔ ∃ inner, ip.Literal inner ∧ Encloses cs inner := by
  rw [IpAddr.read_eq_some_iff]
  constructor
  · intro h
    exact ⟨_, h, encloses_stripBrackets cs⟩
  · rintro ⟨inner, h, hencloses⟩
    rwa [(stripBrackets_eq_iff h.bracket_notMem).2 hencloses]

namespace Interface

/-- The texts that name an interface. -/
inductive Names (ipv4Only : Bool) : List Char → Interface → Prop
  | any : Names ipv4Only ['*'] .any
  | literal {segment inner ip} (spelled : ip.Literal inner) (encloses : Encloses segment inner)
      (admitted : ip.Admitted ipv4Only) : Names ipv4Only segment (.literal ip)

variable {ipv4Only : Bool} {segment : List Char} {interface : Interface}

theorem ne_star_of_encloses {ip : IpAddr} {inner : List Char} (h : ip.Literal inner)
    (hencloses : Encloses segment inner) : segment ≠ ['*'] := by
  rintro rfl
  obtain rfl | hbracketed := hencloses
  · exact not_isLiteralChar (by decide) (h.isLiteralChar '*' List.mem_cons_self)
  · exact absurd (List.cons.inj hbracketed).1 (by decide)

theorem read_of_names (h : Names ipv4Only segment interface) :
    read ipv4Only segment = .ok interface := by
  cases h with
  | any => rfl
  | literal spelled encloses admitted =>
    have hread := IpAddr.read_stripBrackets.2 ⟨_, spelled, encloses⟩
    rw [read, if_neg (ne_star_of_encloses spelled encloses), hread]
    exact if_pos admitted

theorem names_or_read_eq_error (ipv4Only : Bool) (segment : List Char) :
    (∃ interface, Names ipv4Only segment interface) ∨
      read ipv4Only segment = .error (.noSuchInterface (String.ofList segment)) := by
  unfold read
  split
  case isTrue hstar => exact .inl ⟨.any, hstar ▸ .any⟩
  case isFalse =>
    split
    case h_1 ip hread =>
      obtain ⟨inner, spelled, encloses⟩ := IpAddr.read_stripBrackets.1 hread
      split
      case isTrue admitted => exact .inl ⟨.literal ip, .literal spelled encloses admitted⟩
      case isFalse => exact .inr rfl
    case h_2 => exact .inr rfl

/-- What names no interface is reported as it stands. -/
theorem read_of_not_names (h : ∀ interface, ¬Names ipv4Only segment interface) :
    read ipv4Only segment = .error (.noSuchInterface (String.ofList segment)) :=
  (names_or_read_eq_error ipv4Only segment).resolve_left fun ⟨interface, hnames⟩ =>
    h interface hnames

end Interface

end EndpointLifecycle

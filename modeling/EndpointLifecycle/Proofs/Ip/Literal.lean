import EndpointLifecycle.Ip.Reader
import EndpointLifecycle.Ip.Writer
import EndpointLifecycle.Proofs.Text.Cuts
import EndpointLifecycle.Proofs.Text.Numerals

/-!
# The grammar of address literals

An IPv4 address has one literal, the one with which it is written. An IPv6 address has many: groups
may have leading zeros and letters of either case, the last two groups may be an IPv4 literal, and
one run of zeros may be left out. Reading accepts the literals of an address and nothing else.
-/

namespace EndpointLifecycle

open Text

/-- The characters of which literals are made. -/
def IsLiteralChar (c : Char) : Prop := c.isAlphanum ∨ c = '.' ∨ c = ':'

theorem not_isLiteralChar {c : Char} (h : c ∈ ['*', '[', ']', ';']) : ¬IsLiteralChar c := by
  unfold IsLiteralChar
  simp only [List.mem_cons, List.not_mem_nil, or_false] at h
  obtain rfl | rfl | rfl | rfl := h <;> decide

namespace Ipv4

variable {cs : List Char} {o : UInt8} {ip : Ipv4} {c : Char}

theorem octet?_eq_some_iff : octet? cs = some o ↔ cs = digits 10 o.toNat := by
  unfold octet?
  constructor
  · intro h
    split at h
    case isTrue => cases h
    case isFalse hzero =>
      simp only [Option.map_eq_some_iff, Option.filter_eq_some_iff, numeral?_eq_some_iff,
        isNumeral_ten_iff, decide_eq_true_eq] at h
      obtain ⟨n, ⟨⟨hne, -, hdigits, rfl⟩, hsmall⟩, rfl⟩ := h
      have hzero : cs.head? = some '0' → cs = ['0'] := fun hhead =>
        Decidable.byContradiction fun hmore => hzero ⟨hhead, hmore⟩
      rw [UInt8.toNat_ofNat', Nat.mod_eq_of_lt hsmall, digits_ofDigitChars hdigits hne hzero]
  · rintro rfl
    have hlt : o.toNat < 256 := o.toNat_lt
    have hzero : ¬((digits 10 o.toNat).head? = some '0' ∧ digits 10 o.toNat ≠ ['0']) := by
      rintro ⟨hhead, hne⟩
      obtain hnil | hpos := Nat.eq_zero_or_pos o.toNat
      · exact hne (by rw [hnil]; rfl)
      · exact head?_digits (by decide) hpos hhead
    have hvalue : numeral? 10 3 (digits 10 o.toNat) = some o.toNat :=
      numeral?_eq_some_iff.2 (isNumeral_digits (by decide) (by decide) (by decide) (by omega))
    rw [if_neg hzero, hvalue, Option.filter_some, if_pos (decide_eq_true hlt), Option.map_some,
      UInt8.ofNat_toNat]

theorem mapM_octet?_eq_some_iff {fs : List (List Char)} {os : List UInt8} :
    fs.mapM octet? = some os ↔ fs = os.map fun o => digits 10 o.toNat := by
  simp only [mapM_eq_some_iff, octet?_eq_some_iff]
  rw [← List.forall₂_map_right_iff (R := (· = ·)), List.forall₂_eq_eq_eq]

theorem isDigit_of_mem_digits {n : Nat} (h : c ∈ digits 10 n) : c.isDigit :=
  Nat.isDigit_of_mem_toDigits (by decide) (by decide) h

theorem read_eq_some_iff : read cs = some ip ↔ cs = ip.write := by
  have hfree : ∀ f ∈ [ip.a, ip.b, ip.c, ip.d].map fun o => digits 10 o.toNat, '.' ∉ f := by
    intro f hf hpoint
    obtain ⟨o, -, rfl⟩ := List.mem_map.1 hf
    exact absurd (isDigit_of_mem_digits hpoint) (by decide)
  unfold read
  constructor
  · intro h
    split at h
    case h_1 hoctets =>
      cases h
      rw [write, ← mapM_octet?_eq_some_iff.1 hoctets, joined_fields]
    case h_2 => cases h
  · rintro rfl
    have hfields := fields_joined (mt List.map_eq_nil_iff.1 (List.cons_ne_nil _ _)) hfree
    rw [write, hfields, mapM_octet?_eq_some_iff.2 rfl]

theorem of_mem_write (h : c ∈ ip.write) : c.isDigit ∨ c = '.' := by
  obtain hpoint | ⟨f, hf, hc⟩ := eq_or_mem_of_mem_joined h
  · exact .inr hpoint
  · obtain ⟨o, -, rfl⟩ := List.mem_map.1 hf
    exact .inl (isDigit_of_mem_digits hc)

theorem isLiteralChar_of_mem_write (h : c ∈ ip.write) : IsLiteralChar c := by
  obtain hdigit | hpoint := of_mem_write h
  · exact .inl (Bool.or_eq_true_iff.2 (.inr hdigit))
  · exact .inr (.inl hpoint)

theorem point_mem_write (ip : Ipv4) : '.' ∈ ip.write :=
  List.mem_append_right _ List.mem_cons_self

theorem colon_notMem_write (ip : Ipv4) : ':' ∉ ip.write := by
  intro h
  exact absurd (of_mem_write h) (by decide)

end Ipv4

namespace Ipv6

/-- A group is one to four hexadecimal digits. -/
def IsGroup (cs : List Char) (g : UInt16) : Prop := IsNumeral 16 4 cs g.toNat

/-- What stands between colons: groups, the last two perhaps as an IPv4 literal. -/
inductive Spells : List (List Char) → List UInt16 → Prop
  | nil : Spells [] []
  | embedded (ip : Ipv4) : Spells [ip.write] ip.groups
  | cons {f g fs gs} (group : IsGroup f g) (rest : Spells fs gs) : Spells (f :: fs) (g :: gs)

/-- The literals of an address. Two colons that follow each other leave out at least one group of
zeros. -/
inductive Literal (ip : Ipv6) : List Char → Prop
  | full {fs} (spelled : Spells fs ip.groups) : Literal ip (joined ':' fs)
  | gapped {fs gs fs' gs'} (front : List.Forall₂ IsGroup fs gs) (back : Spells fs' gs')
      (short : gs.length + gs'.length < 8)
      (filled : ip.groups = gs ++ List.replicate (8 - (gs.length + gs'.length)) 0 ++ gs') :
      Literal ip (joined ':' fs ++ ':' :: ':' :: joined ':' fs')

variable {cs f : List Char} {g : UInt16} {fs : List (List Char)} {gs : List UInt16} {ip : Ipv6}
  {c : Char}

theorem group?_eq_some_iff : group? cs = some g ↔ IsGroup cs g := by
  simp only [group?, Option.map_eq_some_iff, numeral?_eq_some_iff]
  constructor
  · rintro ⟨n, hn, rfl⟩
    have hsmall : n < 2 ^ 16 := hn.lt_pow (by decide)
    rwa [IsGroup, UInt16.toNat_ofNat', Nat.mod_eq_of_lt hsmall]
  · intro h
    exact ⟨_, h, UInt16.ofNat_toNat⟩

theorem IsGroup.read_eq_none (h : IsGroup f g) : Ipv4.read f = none := by
  refine Option.eq_none_iff_forall_ne_some.2 fun ip hread => ?_
  have hpoint : '.' ∈ f := Ipv4.read_eq_some_iff.1 hread ▸ ip.point_mem_write
  exact absurd (h.isAlphanum _ hpoint) (by decide)

theorem groups?_eq_some_iff : groups? fs = some gs ↔ Spells fs gs := by
  induction fs generalizing gs with
  | nil =>
    rw [groups?, Option.some.injEq]
    constructor
    · rintro rfl
      exact .nil
    · intro h
      cases h
      rfl
  | cons f fs ih =>
    cases fs with
    | nil =>
      simp only [groups?, Option.orElse_eq_orElse, Option.orElse_eq_or, Option.or_eq_some_iff,
        Option.map_eq_some_iff, Ipv4.read_eq_some_iff, group?_eq_some_iff]
      constructor
      · rintro (⟨ip, rfl, rfl⟩ | ⟨-, g, hgroup, rfl⟩)
        · exact .embedded ip
        · exact .cons hgroup .nil
      · intro h
        cases h with
        | embedded ip => exact .inl ⟨ip, rfl, rfl⟩
        | cons group rest =>
          cases rest
          exact .inr ⟨Option.map_eq_none_iff.2 group.read_eq_none, _, group, rfl⟩
    | cons f' fs =>
      rw [groups?.eq_3 f (f' :: fs) (List.cons_ne_nil f' fs)]
      constructor
      · intro h
        split at h
        case h_1 hgroup hrest =>
          cases h
          exact .cons (group?_eq_some_iff.1 hgroup) (ih.1 hrest)
        case h_2 => cases h
      · intro h
        cases h with
        | cons group rest => rw [group?_eq_some_iff.2 group, ih.2 rest]

/-! ## The gap -/

/-- Parts between which the only colons stand. -/
def Tidy (fs : List (List Char)) : Prop := ∀ f ∈ fs, f ≠ [] ∧ ':' ∉ f

theorem splitGap_cons (h : c = ':' → cs.head? ≠ some ':') :
    splitGap (c :: cs) = (splitGap cs).map fun (a, b) => (c :: a, b) := by
  rw [splitGap]
  rintro cs' rfl rfl
  exact h rfl rfl

theorem splitGap_append (h : ':' ∉ f) (cs : List Char) :
    splitGap (f ++ cs) = (splitGap cs).map fun (a, b) => (f ++ a, b) := by
  induction f with
  | nil => exact Option.map_id'.symm
  | cons c f ih =>
    obtain ⟨hc, hf⟩ := List.ne_and_not_mem_of_not_mem_cons h
    rw [List.cons_append, splitGap_cons (fun heq => absurd heq.symm hc), ih hf, Option.map_map]
    rfl

theorem exists_joined_eq_cons (h : Tidy fs) (hne : fs ≠ []) :
    ∃ c cs, joined ':' fs = c :: cs ∧ c ≠ ':' := by
  cases fs with
  | nil => exact absurd rfl hne
  | cons f fs =>
    obtain ⟨hnil, hcolon⟩ := h f List.mem_cons_self
    obtain ⟨c, f, rfl⟩ := List.exists_cons_of_ne_nil hnil
    have hc : c ≠ ':' := (List.ne_and_not_mem_of_not_mem_cons hcolon).1.symm
    cases fs with
    | nil => exact ⟨c, f, rfl, hc⟩
    | cons g fs => exact ⟨c, _, rfl, hc⟩

theorem splitGap_joined (h : Tidy fs) (cs : List Char) :
    splitGap (joined ':' fs ++ cs) = (splitGap cs).map fun (a, b) => (joined ':' fs ++ a, b) := by
  induction fs with
  | nil => exact Option.map_id'.symm
  | cons f fs ih =>
    obtain ⟨⟨-, hcolon⟩, hfs⟩ := List.forall_mem_cons.1 h
    cases fs with
    | nil => exact splitGap_append hcolon cs
    | cons g fs =>
      obtain ⟨c, rest, hcons, hc⟩ := exists_joined_eq_cons hfs (List.cons_ne_nil g fs)
      have hhead : (joined ':' (g :: fs) ++ cs).head? ≠ some ':' := by
        rw [hcons]
        exact fun heq => hc (Option.some.inj heq)
      rw [joined, List.append_assoc, List.cons_append, splitGap_append hcolon,
        splitGap_cons (fun _ => hhead), ih hfs, Option.map_map, Option.map_map]
      congr 1
      funext parts
      obtain ⟨a, b⟩ := parts
      simp

theorem eq_of_splitGap {a b : List Char} (h : splitGap cs = some (a, b)) :
    cs = a ++ ':' :: ':' :: b := by
  fun_induction splitGap cs generalizing a with
  | case1 cs =>
    cases h
    rfl
  | case2 c cs hgap ih =>
    obtain ⟨⟨a', b'⟩, hcs, hab⟩ := Option.map_eq_some_iff.1 h
    cases hab
    rw [ih hcs, List.cons_append]
  | case3 => cases h

theorem joined_parts (cs : List Char) : joined ':' (parts cs) = cs := by
  unfold parts
  split
  case isTrue h => rw [h, joined]
  case isFalse => exact joined_fields ':' cs

theorem parts_joined (h : Tidy fs) : parts (joined ':' fs) = fs := by
  unfold parts
  by_cases hne : fs = []
  case pos =>
    subst hne
    rfl
  case neg =>
    obtain ⟨c, cs, hcons, -⟩ := exists_joined_eq_cons h hne
    have hnil : joined ':' fs ≠ [] := hcons ▸ List.cons_ne_nil c cs
    rw [if_neg hnil, fields_joined hne fun f hf => (h f hf).2]

/-! ## Reading -/

theorem IsGroup.tidy (h : IsGroup f g) : f ≠ [] ∧ ':' ∉ f :=
  ⟨h.ne_nil, fun hcolon => absurd (h.isAlphanum _ hcolon) (by decide)⟩

theorem spells_of_groups (h : List.Forall₂ IsGroup fs gs) : Spells fs gs := by
  induction h with
  | nil => exact .nil
  | cons group _ ih => exact .cons group ih

theorem Spells.tidy (h : Spells fs gs) : Tidy fs := by
  induction h with
  | nil => exact fun f hf => nomatch hf
  | embedded ip =>
    intro f hf
    rw [List.mem_singleton.1 hf]
    exact ⟨List.ne_nil_of_mem ip.point_mem_write, ip.colon_notMem_write⟩
  | cons group _ ih => exact List.forall_mem_cons.2 ⟨group.tidy, ih⟩

theorem mapM_group?_eq_some_iff : fs.mapM group? = some gs ↔ List.Forall₂ IsGroup fs gs := by
  simp only [mapM_eq_some_iff, group?_eq_some_iff]

theorem ofGroups?_eq_some_iff : ofGroups? gs = some ip ↔ ip.groups = gs := by
  unfold ofGroups?
  constructor
  · intro h
    split at h
    case isTrue =>
      cases h
      rfl
    case isFalse => cases h
  · rintro rfl
    rw [dif_pos ip.length_groups]

theorem read_joined (h : Tidy fs) : read (joined ':' fs) = groups? fs >>= ofGroups? := by
  have hgap : splitGap (joined ':' fs) = none := by
    have hjoined := splitGap_joined h []
    rwa [List.append_nil] at hjoined
  rw [read, hgap, parts_joined h]

theorem splitGap_gapped (h : Tidy fs) (cs : List Char) :
    splitGap (joined ':' fs ++ ':' :: ':' :: cs) = some (joined ':' fs, cs) := by
  rw [splitGap_joined h, splitGap, Option.map_some]
  exact congrArg (fun a => some (a, cs)) (List.append_nil _)

theorem read_eq_some_iff : read cs = some ip ↔ Literal ip cs := by
  constructor
  · intro h
    unfold read at h
    split at h
    case h_1 =>
      obtain ⟨gs, hgs, hip⟩ := Option.bind_eq_some_iff.1 h
      rw [ofGroups?_eq_some_iff] at hip
      rw [groups?_eq_some_iff, ← hip] at hgs
      exact joined_parts cs ▸ .full hgs
    case h_2 before after hgap =>
      split at h
      case h_1 front back hfront hback =>
        split at h
        case isTrue hshort =>
          rw [eq_of_splitGap hgap, ← joined_parts before, ← joined_parts after]
          exact .gapped (mapM_group?_eq_some_iff.1 hfront) (groups?_eq_some_iff.1 hback) hshort
            (ofGroups?_eq_some_iff.1 h)
        case isFalse => cases h
      case h_2 => cases h
  · rintro (spelled | ⟨front, back, short, filled⟩)
    case full =>
      rw [read_joined spelled.tidy, groups?_eq_some_iff.2 spelled]
      exact ofGroups?_eq_some_iff.2 rfl
    case gapped =>
      have hfront := (spells_of_groups front).tidy
      rw [read, splitGap_gapped hfront]
      dsimp only
      rw [parts_joined hfront, parts_joined back.tidy, mapM_group?_eq_some_iff.2 front,
        groups?_eq_some_iff.2 back]
      dsimp only
      rw [if_pos short]
      exact ofGroups?_eq_some_iff.2 filled

theorem Spells.length_le (h : Spells fs gs) : gs.length ≤ fs.length + 1 := by
  induction h with
  | nil => exact Nat.zero_le _
  | embedded ip => exact Nat.le_refl 2
  | cons _ _ ih => exact Nat.succ_le_succ ih

theorem Literal.colon_mem (h : Literal ip cs) : ':' ∈ cs := by
  cases h with
  | @full fs spelled =>
    have hlength := spelled.length_le
    rw [ip.length_groups] at hlength
    -- Eight groups take more than one part.
    match fs, hlength with
    | f :: g :: fs, _ => exact List.mem_append_right _ List.mem_cons_self
  | gapped => exact List.mem_append_right _ List.mem_cons_self

theorem Spells.isLiteralChar (h : Spells fs gs) : ∀ c ∈ joined ':' fs, IsLiteralChar c := by
  have hparts : ∀ f ∈ fs, ∀ c ∈ f, IsLiteralChar c := by
    induction h with
    | nil => exact fun f hf => nomatch hf
    | embedded ip =>
      intro f hf c hc
      rw [List.mem_singleton.1 hf] at hc
      exact Ipv4.isLiteralChar_of_mem_write hc
    | cons group _ ih =>
      exact List.forall_mem_cons.2 ⟨fun c hc => .inl (group.isAlphanum c hc), ih⟩
  intro c hc
  obtain rfl | ⟨f, hf, hc⟩ := eq_or_mem_of_mem_joined hc
  · exact .inr (.inr rfl)
  · exact hparts f hf c hc

theorem Literal.isLiteralChar (h : Literal ip cs) : ∀ c ∈ cs, IsLiteralChar c := by
  cases h with
  | full spelled => exact spelled.isLiteralChar
  | gapped front back =>
    have hcolon : IsLiteralChar ':' := .inr (.inr rfl)
    exact List.forall_mem_append.2 ⟨(spells_of_groups front).isLiteralChar,
      List.forall_mem_cons.2 ⟨hcolon, List.forall_mem_cons.2 ⟨hcolon, back.isLiteralChar⟩⟩⟩

end Ipv6

namespace IpAddr

/-- The texts that stand for an address. -/
def Literal : IpAddr → List Char → Prop
  | v4 ip, cs => cs = ip.write
  | v6 ip, cs => ip.Literal cs

variable {cs : List Char} {ip : IpAddr}

theorem read_eq_some_iff : read cs = some ip ↔ ip.Literal cs := by
  simp only [read, Option.orElse_eq_orElse, Option.orElse_eq_or, Option.or_eq_some_iff,
    Option.map_eq_some_iff, Option.map_eq_none_iff, Ipv4.read_eq_some_iff, Ipv6.read_eq_some_iff]
  constructor
  · rintro (⟨a, rfl, rfl⟩ | ⟨-, a, hliteral, rfl⟩)
    · exact rfl
    · exact hliteral
  · intro h
    cases ip with
    | v4 a => exact .inl ⟨a, h, rfl⟩
    | v6 a =>
      -- What has a colon is no IPv4 literal.
      have hv4 : Ipv4.read cs = none := Option.eq_none_iff_forall_ne_some.2 fun b hread =>
        b.colon_notMem_write (Ipv4.read_eq_some_iff.1 hread ▸ h.colon_mem)
      exact .inr ⟨hv4, a, h, rfl⟩

theorem Literal.isLiteralChar (h : ip.Literal cs) : ∀ c ∈ cs, IsLiteralChar c := by
  cases ip with
  | v4 a =>
    obtain rfl := h
    exact fun c => Ipv4.isLiteralChar_of_mem_write
  | v6 a => exact Ipv6.Literal.isLiteralChar h

end IpAddr

end EndpointLifecycle

import EndpointLifecycle.Text.Numeral
import Mathlib.Data.List.Forall2
import Mathlib.Data.Nat.Digits.Defs

/-!
# What digits stand for

A numeral stands for the sum of its digits times the powers of the base. The digits with which a
number is written stand for it, and without leading zeros there are no others.
-/

namespace EndpointLifecycle.Text

theorem mapM_eq_some_iff {α β : Type} {f : α → Option β} {xs : List α} {ys : List β} :
    xs.mapM f = some ys ↔ List.Forall₂ (fun x y => f x = some y) xs ys := by
  induction xs generalizing ys with
  | nil => simp [eq_comm]
  | cons x xs ih =>
    simp only [List.mapM_cons, Option.bind_eq_bind, Option.pure_def, Option.bind_eq_some_iff,
      Option.some.injEq, List.forall₂_cons_left_iff, ih]
    constructor
    · rintro ⟨y, hy, ys, hys, rfl⟩
      exact ⟨y, ys, hy, hys, rfl⟩
    · rintro ⟨y, ys, hy, hys, rfl⟩
      exact ⟨y, hy, ys, hys, rfl⟩

theorem forall_of_forall₂ {α β : Type} {R : α → β → Prop} {P : α → Prop} {xs : List α}
    {ys : List β} (h : List.Forall₂ R xs ys) (himp : ∀ x y, R x y → P x) : ∀ x ∈ xs, P x := by
  have hboth := h.imp fun x y hxy => And.intro (himp x y hxy) hxy
  exact ((List.forall₂_and_left _ _).1 hboth).1

/-- The text is one to `limit` digits which stand for the number. -/
structure IsNumeral (base limit : Nat) (cs : List Char) (n : Nat) : Prop where
  ne_nil : cs ≠ []
  length_le : cs.length ≤ limit
  value : ∃ ds, List.Forall₂ (fun c d => digit? base c = some d) cs ds ∧
    Nat.ofDigits base ds.reverse = n

variable {base limit n d : Nat} {cs : List Char} {c : Char}

theorem foldl_eq_ofDigits (base : Nat) (ds : List Nat) :
    ds.foldl (fun n d => base * n + d) 0 = Nat.ofDigits base ds.reverse := by
  rw [Nat.ofDigits_eq_foldr, List.foldr_reverse]
  simp only [Nat.cast_id, Nat.add_comm]

theorem numeral?_eq_some_iff : numeral? base limit cs = some n ↔ IsNumeral base limit cs n := by
  unfold numeral?
  split
  case isTrue h =>
    constructor
    · intro hnone
      cases hnone
    · rintro ⟨hne, hle, -⟩
      exact absurd h (not_or.2 ⟨hne, Nat.not_lt.2 hle⟩)
  case isFalse h =>
    obtain ⟨hne, hle⟩ := not_or.1 h
    simp only [Option.map_eq_some_iff, mapM_eq_some_iff, foldl_eq_ofDigits]
    exact ⟨fun hvalue => ⟨hne, Nat.not_lt.1 hle, hvalue⟩, fun hnumeral => hnumeral.value⟩

theorem le_iff_toNat_le {a b : Char} : a ≤ b ↔ a.toNat ≤ b.toNat := Iff.rfl

/-- The digits of a smaller base are those of base 16 that are below it. -/
theorem digit?_eq_filter (hbase : base ≤ 16) (c : Char) :
    digit? base c = (digit? 16 c).filter (· < base) := by
  have hbelow : ∀ d, (decide (d < 16) && decide (d < base)) = decide (d < base) := by
    intro d
    rw [← Bool.decide_and]
    exact decide_eq_decide.2 ⟨fun h => h.2, fun h => ⟨Nat.lt_of_lt_of_le h hbase, h⟩⟩
  simp only [digit?, Option.filter_filter, hbelow]

theorem digit?_digitChar (hbase : base ≤ 16) (h : d < base) :
    digit? base d.digitChar = some d := by
  have htable : ∀ d < 16, digit? 16 (Nat.digitChar d) = some d := by decide
  rw [digit?_eq_filter hbase, htable d (Nat.lt_of_lt_of_le h hbase), Option.filter_some, if_pos]
  exact decide_eq_true h

theorem digit?_ten_eq_some_iff :
    digit? 10 c = some d ↔ c.isDigit ∧ c.toNat - '0'.toNat = d := by
  simp only [Char.isDigit_iff_toNat, digit?, le_iff_toNat_le, Option.filter_eq_some_iff,
    decide_eq_true_eq, Char.reduceToNat]
  split
  case isTrue h =>
    rw [Option.some.injEq]
    omega
  case isFalse h =>
    refine iff_of_false ?_ fun hd => h hd.1
    rintro ⟨hletter, hlt⟩
    split at hletter
    case isTrue =>
      have := Option.some.inj hletter
      omega
    case isFalse =>
      split at hletter
      case isTrue =>
        have := Option.some.inj hletter
        omega
      case isFalse => cases hletter

theorem isAlphanum_of_digit? (h : digit? base c = some d) : c.isAlphanum := by
  simp only [digit?, Option.filter_eq_some_iff] at h
  have hrange : ('0' ≤ c ∧ c ≤ '9') ∨ ('a' ≤ c ∧ c ≤ 'f') ∨ 'A' ≤ c ∧ c ≤ 'F' := by
    by_contra hnone
    obtain ⟨hdigit, hletters⟩ := not_or.1 hnone
    obtain ⟨hlower, hupper⟩ := not_or.1 hletters
    rw [if_neg hdigit, if_neg hlower, if_neg hupper] at h
    cases h.1
  obtain ⟨hlow, hhigh⟩ | ⟨hlow, hhigh⟩ | ⟨hlow, hhigh⟩ := hrange
  · have hdigit : c.isDigit :=
      Bool.and_eq_true_iff.2 ⟨decide_eq_true hlow, decide_eq_true hhigh⟩
    exact Bool.or_eq_true_iff.2 (.inr hdigit)
  · have hz : c ≤ 'z' := Char.le_trans hhigh (by decide)
    have hlower : c.isLower := Bool.and_eq_true_iff.2 ⟨decide_eq_true hlow, decide_eq_true hz⟩
    exact Bool.or_eq_true_iff.2 (.inl (Bool.or_eq_true_iff.2 (.inr hlower)))
  · have hz : c ≤ 'Z' := Char.le_trans hhigh (by decide)
    have hupper : c.isUpper := decide_eq_true ⟨hlow, hz⟩
    exact Bool.or_eq_true_iff.2 (.inl (Bool.or_eq_true_iff.2 (.inl hupper)))

theorem lt_of_digit? (h : digit? base c = some d) : d < base := by
  simp only [digit?, Option.filter_eq_some_iff, decide_eq_true_eq] at h
  exact h.2

theorem IsNumeral.isAlphanum (h : IsNumeral base limit cs n) : ∀ c ∈ cs, c.isAlphanum := by
  obtain ⟨ds, hds, -⟩ := h.value
  exact forall_of_forall₂ hds fun c d => isAlphanum_of_digit?

theorem IsNumeral.lt_pow (h : IsNumeral base limit cs n) (hbase : 1 < base) :
    n < base ^ limit := by
  obtain ⟨ds, hds, rfl⟩ := h.value
  have hdigits : ∀ d ∈ ds.reverse, d < base := fun d hd =>
    forall_of_forall₂ hds.flip (fun d c => lt_of_digit?) d (List.mem_reverse.1 hd)
  have hlength : ds.reverse.length ≤ limit := by
    rw [List.length_reverse, ← hds.length_eq]
    exact h.length_le
  exact Nat.lt_of_lt_of_le (Nat.ofDigits_lt_base_pow_length hbase hdigits)
    (Nat.pow_le_pow_right (Nat.zero_lt_of_lt hbase) hlength)

/-! ## Numerals of base ten -/

theorem ofDigits_reverse {ds : List Nat}
    (h : List.Forall₂ (fun c d => digit? 10 c = some d) cs ds) :
    Nat.ofDigits 10 ds.reverse = Nat.ofDigitChars 10 cs 0 := by
  rw [← foldl_eq_ofDigits, Nat.ofDigitChars_eq_foldl]
  generalize 0 = init
  induction h generalizing init with
  | nil => rfl
  | cons hd _ ih => rw [List.foldl_cons, List.foldl_cons, ih, (digit?_ten_eq_some_iff.1 hd).2]

theorem isNumeral_ten_iff : IsNumeral 10 limit cs n ↔
    cs ≠ [] ∧ cs.length ≤ limit ∧ (∀ c ∈ cs, c.isDigit) ∧ Nat.ofDigitChars 10 cs 0 = n := by
  constructor
  · rintro ⟨hne, hle, ds, hds, hvalue⟩
    have hdigits : ∀ c ∈ cs, c.isDigit :=
      forall_of_forall₂ hds fun c d hd => (digit?_ten_eq_some_iff.1 hd).1
    exact ⟨hne, hle, hdigits, ofDigits_reverse hds ▸ hvalue⟩
  · rintro ⟨hne, hle, hdigits, hvalue⟩
    have hds : List.Forall₂ (fun c d => digit? 10 c = some d) cs
        (cs.map fun c => c.toNat - '0'.toNat) := by
      rw [List.forall₂_map_right_iff, List.forall₂_same]
      exact fun c hc => digit?_ten_eq_some_iff.2 ⟨hdigits c hc, rfl⟩
    exact ⟨hne, hle, _, hds, (ofDigits_reverse hds).trans hvalue⟩

/-! ## The digits of a number -/

/-- The digits of a number are those of its quotient by the base, and then the remainder. -/
theorem digits_induction {P : Nat → List Char → Prop} (hbase : 1 < base)
    (one : ∀ d < base, P d [d.digitChar])
    (more : ∀ n d, 0 < n → d < base → P n (digits base n) →
      P (base * n + d) (digits base n ++ [d.digitChar])) (n : Nat) : P n (digits base n) := by
  induction n using Nat.strongRecOn with
  | ind n ih =>
    unfold digits at *
    rw [Nat.toDigits_eq_if hbase]
    split
    case isTrue h => exact one n h
    case isFalse h =>
      have hle : base ≤ n := Nat.not_lt.1 h
      have hbase0 : 0 < base := Nat.zero_lt_of_lt hbase
      have hpos : 0 < n / base := Nat.div_pos hle hbase0
      have hlt : n / base < n := Nat.div_lt_self (Nat.lt_of_lt_of_le hbase0 hle) hbase
      have hmore := more (n / base) (n % base) hpos (Nat.mod_lt _ hbase0) (ih _ hlt)
      rwa [Nat.div_add_mod] at hmore

theorem isNumeral_digits (hbase : 1 < base) (hbase' : base ≤ 16) (hlimit : 0 < limit)
    (h : n < base ^ limit) : IsNumeral base limit (digits base n) n where
  ne_nil := Nat.toDigits_ne_nil
  length_le := (Nat.length_toDigits_le_iff hbase hlimit).2 h
  value := by
    refine digits_induction (P := fun n cs => ∃ ds,
      List.Forall₂ (fun c d => digit? base c = some d) cs ds ∧ Nat.ofDigits base ds.reverse = n)
      hbase ?_ ?_ n
    · intro d hd
      exact ⟨[d], .cons (digit?_digitChar hbase' hd) .nil, Nat.ofDigits_singleton ..⟩
    · rintro n d - hd ⟨ds, hds, rfl⟩
      refine ⟨ds ++ [d], List.rel_append hds (.cons (digit?_digitChar hbase' hd) .nil), ?_⟩
      rw [List.reverse_concat, Nat.ofDigits_cons, Nat.add_comm]

theorem head?_digits (hbase : 1 < base) (h : 0 < n) : (digits base n).head? ≠ some '0' := by
  refine digits_induction (P := fun n cs => 0 < n → cs.head? ≠ some '0') hbase ?_ ?_ n h
  · rintro d - hd hhead
    exact Nat.ne_of_gt hd (Nat.digitChar_eq_zero.1 (Option.some.inj hhead))
  · intro n d hn _ ih _
    have hne : digits base n ≠ [] := Nat.toDigits_ne_nil
    rw [List.head?_append_of_ne_nil _ hne]
    exact ih hn

theorem digit_lt_ten (h : c.isDigit) : c.toNat - '0'.toNat < 10 := by
  have hc := (Char.isDigit_iff_toNat.1 h).2
  simp only [Char.reduceToNat] at hc ⊢
  omega

theorem digitChar_of_isDigit (h : c.isDigit) : Nat.digitChar (c.toNat - '0'.toNat) = c := by
  have hc := Char.isDigit_iff_toNat.1 h
  simp only [Char.reduceToNat] at hc ⊢
  rw [← Char.toNat_inj, Nat.toNat_digitChar_of_lt_ten (by omega)]
  omega

/-- More digits after a number that is not zero are written after its digits. -/
theorem digits_ofDigitChars_append (hdigits : ∀ c ∈ cs, c.isDigit) (h : 0 < n) :
    digits 10 (Nat.ofDigitChars 10 cs n) = digits 10 n ++ cs := by
  induction cs generalizing n with
  | nil => rw [Nat.ofDigitChars_nil, List.append_nil]
  | cons c cs ih =>
    obtain ⟨hc, hcs⟩ := List.forall_mem_cons.1 hdigits
    have hd := digit_lt_ten hc
    have hmore : digits 10 (10 * n + (c.toNat - '0'.toNat)) = digits 10 n ++ [c] := by
      unfold digits
      rw [← Nat.toDigits_append_toDigits (by decide) h hd, Nat.toDigits_of_lt_base hd,
        digitChar_of_isDigit hc]
    rw [Nat.ofDigitChars_cons, ih hcs (by omega), hmore, List.append_assoc]
    rfl

/-- Digits without a leading zero are the ones with which their value is written. -/
theorem digits_ofDigitChars (hdigits : ∀ c ∈ cs, c.isDigit) (hne : cs ≠ [])
    (hzero : cs.head? = some '0' → cs = ['0']) :
    digits 10 (Nat.ofDigitChars 10 cs 0) = cs := by
  cases cs with
  | nil => exact absurd rfl hne
  | cons c cs =>
    obtain ⟨hc, hcs⟩ := List.forall_mem_cons.1 hdigits
    by_cases h : c = '0'
    case pos =>
      obtain rfl : cs = [] := (List.cons.inj (hzero (congrArg some h))).2
      rw [h]
      rfl
    case neg =>
      have hpos : 0 < c.toNat - '0'.toNat := by
        have := (Char.isDigit_iff_toNat.1 hc).1
        have hne := mt Char.toNat_inj.1 h
        omega
      have hd := digit_lt_ten hc
      rw [Nat.ofDigitChars_cons, Nat.mul_zero, Nat.zero_add, digits_ofDigitChars_append hcs hpos,
        digits, Nat.toDigits_of_lt_base hd, digitChar_of_isDigit hc]
      rfl

end EndpointLifecycle.Text

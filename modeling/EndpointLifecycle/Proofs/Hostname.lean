import EndpointLifecycle.Hostname
import EndpointLifecycle.Proofs.Text.Cuts

/-!
# What a host name is

The scan of a host name keeps nothing but the length of the label that it reads. What it accepts is
said here of the whole name at once: cut at its points, one of which may end the name, it falls into
labels.
-/

namespace EndpointLifecycle.Hostname

open Text

/-- Letters, digits and the hyphen. -/
def IsLabelChar (c : Char) : Prop := c.isAlphanum ∨ c = '-'

structure IsLabel (cs : List Char) : Prop where
  ne_nil : cs ≠ []
  length_le : cs.length ≤ 63
  chars : ∀ c ∈ cs, IsLabelChar c
  head_ne : cs.head? ≠ some '-'

/-- A name without the one point that may end it. -/
def withoutFinalPoint (cs : List Char) : List Char :=
  if cs.getLast? = some '.' then cs.dropLast else cs

section FinalPoint

variable {cs f : List Char}

theorem withoutFinalPoint_of_notMem (h : '.' ∉ cs) : withoutFinalPoint cs = cs :=
  if_neg fun hlast => h (List.mem_of_getLast? hlast)

theorem withoutFinalPoint_append_point (f : List Char) : withoutFinalPoint (f ++ ['.']) = f := by
  simp [withoutFinalPoint]

/-- A point that does not end the name is kept. -/
theorem withoutFinalPoint_append (f : List Char) (h : cs ≠ []) :
    withoutFinalPoint (f ++ '.' :: cs) = f ++ '.' :: withoutFinalPoint cs := by
  have hlast : (f ++ '.' :: cs).getLast? = cs.getLast? := by
    simp [List.getLast?_append, List.getLast?_cons, List.getLast?_eq_some_getLast h]
  rw [withoutFinalPoint, withoutFinalPoint, hlast]
  split
  · rw [List.dropLast_append_of_ne_nil (List.cons_ne_nil _ _), List.dropLast_cons_of_ne_nil h]
  · rfl

end FinalPoint

section Scan

variable {length : Nat} {c : Char} {cs f : List Char}

theorem isLetterOrDigit_eq_isAlphanum (c : Char) : isLetterOrDigit c = c.isAlphanum := by
  have hupper : c.isUpper = ('A' ≤ c && c ≤ 'Z') := Bool.decide_and _ _
  calc isLetterOrDigit c = (c.isLower || c.isUpper || c.isDigit) := by rw [hupper]; rfl
    _ = c.isAlphanum := congrArg (· || c.isDigit) (Bool.or_comm _ _)

/-- What may follow the `length` characters of a label that have been read. -/
structure Continues (length : Nat) (cs : List Char) : Prop where
  length_le : length + cs.length ≤ 63
  chars : ∀ c ∈ cs, IsLabelChar c
  head_ne : length = 0 → cs.head? ≠ some '-'

theorem continues_nil (h : length ≤ 63) : Continues length [] := ⟨h, by simp, by simp⟩

theorem continues_cons : Continues length (c :: cs) ↔
    IsLabelChar c ∧ (length = 0 → c ≠ '-') ∧ Continues (length + 1) cs := by
  constructor
  · rintro ⟨hlength, hchars, hhead⟩
    obtain ⟨hc, hcs⟩ := List.forall_mem_cons.1 hchars
    refine ⟨hc, fun hzero hhyphen => hhead hzero (by rw [List.head?_cons, hhyphen]), ?_, hcs, ?_⟩
    · rw [List.length_cons] at hlength
      omega
    · exact fun hzero => absurd hzero (Nat.succ_ne_zero _)
  · rintro ⟨hc, hfirst, hlength, hchars, -⟩
    refine ⟨?_, List.forall_mem_cons.2 ⟨hc, hchars⟩, fun hzero hhead => ?_⟩
    · rw [List.length_cons]
      omega
    · exact hfirst hzero (Option.some.inj hhead)

theorem isLabel_iff_continues : IsLabel cs ↔ cs ≠ [] ∧ Continues 0 cs := by
  constructor
  · rintro ⟨hne, hlength, hchars, hhead⟩
    exact ⟨hne, by rwa [Nat.zero_add], hchars, fun _ => hhead⟩
  · rintro ⟨hne, hlength, hchars, hhead⟩
    exact ⟨hne, by rwa [Nat.zero_add] at hlength, hchars, hhead rfl⟩

theorem scan_cons (h : c ≠ '.') : scan length (c :: cs) ↔
    IsLabelChar c ∧ (length = 0 → c ≠ '-') ∧ length < 63 ∧ scan (length + 1) cs := by
  rw [scan, if_neg h, isLetterOrDigit_eq_isAlphanum]
  split
  case isTrue hhyphen =>
    simp [hhyphen]
  case isFalse hhyphen =>
    have hfirst : length = 0 → c ≠ '-' := fun hzero hc => hhyphen ⟨hc, hzero⟩
    by_cases hc : c.isAlphanum ∨ c = '-'
    · rw [if_pos hc, Bool.and_eq_true, decide_eq_true_eq]
      exact ⟨fun ⟨hlt, hscan⟩ => ⟨hc, hfirst, hlt, hscan⟩, fun ⟨_, _, hlt, hscan⟩ => ⟨hlt, hscan⟩⟩
    · rw [if_neg hc]
      exact ⟨fun hscan => absurd hscan Bool.false_ne_true, fun hscan => absurd hscan.1 hc⟩

theorem scan_append (h : '.' ∉ f) (hlength : length ≤ 63) (cs : List Char) :
    scan length (f ++ cs) ↔ Continues length f ∧ scan (length + f.length) cs := by
  induction f generalizing length with
  | nil => simp [continues_nil hlength]
  | cons c f ih =>
    obtain ⟨hpoint, hf⟩ := List.ne_and_not_mem_of_not_mem_cons h
    rw [List.cons_append, scan_cons (Ne.symm hpoint), continues_cons, List.length_cons,
      ← Nat.add_assoc, Nat.add_right_comm]
    constructor
    · rintro ⟨hc, hfirst, hlt, hscan⟩
      obtain ⟨hcontinues, hrest⟩ := (ih hf hlt).1 hscan
      exact ⟨⟨hc, hfirst, hcontinues⟩, hrest⟩
    · rintro ⟨⟨hc, hfirst, hcontinues⟩, hrest⟩
      have hlt : length + 1 ≤ 63 := Nat.le_of_add_right_le hcontinues.length_le
      exact ⟨hc, hfirst, hlt, (ih hf hlt).2 ⟨hcontinues, hrest⟩⟩

/-- A label is read up to its point, and what follows is read as a name of its own. -/
theorem scan_label (h : '.' ∉ f) (cs : List Char) :
    scan 0 (f ++ '.' :: cs) ↔ IsLabel f ∧ scan 0 cs := by
  rw [scan_append h (Nat.zero_le _), isLabel_iff_continues, Nat.zero_add, scan, if_pos rfl]
  simp only [Bool.and_eq_true, bne_iff_ne, ne_eq, List.length_eq_zero_iff]
  exact ⟨fun ⟨hf, hne, hcs⟩ => ⟨⟨hne, hf⟩, hcs⟩, fun ⟨⟨hne, hf⟩, hcs⟩ => ⟨hf, hne, hcs⟩⟩

theorem scan_of_notMem (h : '.' ∉ f) (hne : f ≠ []) : scan 0 f ↔ IsLabel f := by
  have hscan : scan 0 (f ++ []) ↔ _ := scan_append h (Nat.zero_le _) []
  rw [List.append_nil] at hscan
  rw [hscan, isLabel_iff_continues]
  exact ⟨fun hf => ⟨hne, hf.1⟩, fun hf => ⟨hf.2, by rw [scan]⟩⟩

theorem scan_iff_labels (hne : cs ≠ []) :
    scan 0 cs ↔ ∀ label ∈ fields '.' (withoutFinalPoint cs), IsLabel label := by
  induction cs using fields_induction '.' with
  | free cs hfree =>
    rw [scan_of_notMem hfree hne, withoutFinalPoint_of_notMem hfree, fields_of_notMem hfree,
      List.forall_mem_singleton]
  | cut f cs hfree ih =>
    rw [scan_label hfree]
    by_cases hcs : cs = []
    case pos =>
      rw [hcs, withoutFinalPoint_append_point, fields_of_notMem hfree, List.forall_mem_singleton]
      exact and_iff_left (by rw [scan])
    case neg =>
      rw [withoutFinalPoint_append f hcs, fields_append hfree, List.forall_mem_cons, ih hcs]

end Scan

/-- A host name is accepted if it has one to 255 bytes and falls into labels. -/
theorem isValid_iff_labels (name : String) : isValid name ↔
    (1 ≤ name.utf8ByteSize ∧ name.utf8ByteSize ≤ 255) ∧
      ∀ label ∈ fields '.' (withoutFinalPoint name.toList), IsLabel label := by
  by_cases hempty : name = ""
  case pos =>
    subst hempty
    simp [isValid]
  case neg =>
    have hne : name.toList ≠ [] := by simpa using hempty
    have hsize : 1 ≤ name.utf8ByteSize := by
      rw [Nat.one_le_iff_ne_zero, Ne, String.utf8ByteSize_eq_zero_iff]
      exact hempty
    rw [← scan_iff_labels hne, isValid, Bool.and_eq_true, Bool.and_eq_true, decide_eq_true_eq]
    simp [hempty, hsize, maxBytes]

/-- One point may end a name, but the point alone is no name. -/
example : isValid "a.b." ∧ ¬isValid "a..b" ∧ ¬isValid "." := by decide

end EndpointLifecycle.Hostname

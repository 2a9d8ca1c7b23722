import EndpointLifecycle.Text.Fields

/-!
# Where a text is cut

A cut at the first separator is the one whose left part has no separator, a cut at the last one the
one whose right part has none. The fields of a text join to it, and parts without a separator are
the fields of what they join to.
-/

namespace EndpointLifecycle.Text

variable {sep : Char} {cs a b f : List Char} {fs : List (List Char)}

theorem splitFirst_append (h : sep ∉ a) (b : List Char) :
    splitFirst sep (a ++ sep :: b) = some (a, b) := by
  induction a with
  | nil => rw [List.nil_append, splitFirst, if_pos rfl]
  | cons c a ih =>
    obtain ⟨hc, ha⟩ := List.ne_and_not_mem_of_not_mem_cons h
    rw [List.cons_append, splitFirst, if_neg (Ne.symm hc), ih ha]
    rfl

theorem splitFirst_eq_some_iff :
    splitFirst sep cs = some (a, b) ↔ cs = a ++ sep :: b ∧ sep ∉ a := by
  constructor
  · intro hcut
    have hmem : sep ∈ cs := Decidable.byContradiction fun hfree => by
      rw [splitFirst_eq_none.2 hfree] at hcut
      cases hcut
    obtain ⟨before, after, rfl, hfree⟩ := List.eq_append_cons_of_mem hmem
    rw [splitFirst_append hfree] at hcut
    cases hcut
    exact ⟨rfl, hfree⟩
  · rintro ⟨rfl, hfree⟩
    exact splitFirst_append hfree b

theorem splitLast_append (a : List Char) (h : sep ∉ b) :
    splitLast sep (a ++ sep :: b) = some (a, b) := by
  induction a with
  | nil => rw [List.nil_append, splitLast, splitLast_eq_none.2 h, if_pos rfl]
  | cons c a ih => rw [List.cons_append, splitLast, ih]

theorem splitLast_eq_some_iff :
    splitLast sep cs = some (a, b) ↔ cs = a ++ sep :: b ∧ sep ∉ b := by
  constructor
  · intro hcut
    have hmem : sep ∈ cs.reverse := Decidable.byContradiction fun hfree => by
      rw [splitLast_eq_none.2 (mt List.mem_reverse.2 hfree)] at hcut
      cases hcut
    obtain ⟨after, before, hreverse, hfree⟩ := List.eq_append_cons_of_mem hmem
    obtain rfl : cs = before.reverse ++ sep :: after.reverse := by
      rw [← List.reverse_inj, hreverse]
      simp
    rw [splitLast_append _ (mt List.mem_reverse.1 hfree)] at hcut
    cases hcut
    exact ⟨rfl, mt List.mem_reverse.1 hfree⟩
  · rintro ⟨rfl, hfree⟩
    exact splitLast_append a hfree

theorem joined_cons (sep : Char) (f : List Char) (h : fs ≠ []) :
    joined sep (f :: fs) = f ++ sep :: joined sep fs := by
  cases fs with
  | nil => exact absurd rfl h
  | cons g fs => rfl

theorem eq_or_mem_of_mem_joined {c : Char} (h : c ∈ joined sep fs) : c = sep ∨ ∃ f ∈ fs, c ∈ f := by
  induction fs with
  | nil => cases h
  | cons f fs ih =>
    cases fs with
    | nil => exact .inr ⟨f, List.mem_cons_self, h⟩
    | cons g fs =>
      rw [joined, List.mem_append, List.mem_cons] at h
      obtain hf | rfl | hmore := h
      · exact .inr ⟨f, List.mem_cons_self, hf⟩
      · exact .inl rfl
      · exact (ih hmore).imp_right fun ⟨f', hmem, hc⟩ => ⟨f', List.mem_cons_of_mem _ hmem, hc⟩

theorem joined_fields (sep : Char) (cs : List Char) : joined sep (fields sep cs) = cs := by
  induction cs with
  | nil => rfl
  | cons c cs ih =>
    rw [fields]
    split
    case isTrue h => rw [joined_cons _ _ (fields_ne_nil sep cs), ih, h, List.nil_append]
    case isFalse =>
      cases hfields : fields sep cs with
      | nil => exact absurd hfields (fields_ne_nil sep cs)
      | cons f fs =>
        rw [hfields] at ih
        cases fs with
        | nil => exact congrArg (c :: ·) ih
        | cons g fs => exact congrArg (c :: ·) ih

theorem fields_of_notMem (h : sep ∉ cs) : fields sep cs = [cs] := by
  induction cs with
  | nil => rfl
  | cons c cs ih =>
    obtain ⟨hc, hcs⟩ := List.ne_and_not_mem_of_not_mem_cons h
    rw [fields, if_neg (Ne.symm hc), ih hcs]

theorem fields_append (h : sep ∉ f) (cs : List Char) :
    fields sep (f ++ sep :: cs) = f :: fields sep cs := by
  induction f with
  | nil => rw [List.nil_append, fields, if_pos rfl]
  | cons c f ih =>
    obtain ⟨hc, hf⟩ := List.ne_and_not_mem_of_not_mem_cons h
    rw [List.cons_append, fields, if_neg (Ne.symm hc), ih hf]

theorem fields_joined (hne : fs ≠ []) (h : ∀ f ∈ fs, sep ∉ f) :
    fields sep (joined sep fs) = fs := by
  induction fs with
  | nil => exact absurd rfl hne
  | cons f fs ih =>
    obtain ⟨hf, hfs⟩ := List.forall_mem_cons.1 h
    cases fs with
    | nil => exact fields_of_notMem hf
    | cons g fs => rw [joined, fields_append hf, ih (List.cons_ne_nil g fs) hfs]

/-- A text has no separator, or it goes on behind its first one. -/
theorem fields_induction (sep : Char) {P : List Char → Prop} (free : ∀ cs, sep ∉ cs → P cs)
    (cut : ∀ f cs, sep ∉ f → P cs → P (f ++ sep :: cs)) (cs : List Char) : P cs := by
  by_cases hmem : sep ∈ cs
  case neg => exact free cs hmem
  case pos =>
    obtain ⟨f, rest, heq, hfree⟩ := List.eq_append_cons_of_mem hmem
    rw [heq]
    exact cut f rest hfree (fields_induction sep free cut rest)
termination_by cs.length
decreasing_by
  rw [heq, List.length_append, List.length_cons]
  omega

end EndpointLifecycle.Text

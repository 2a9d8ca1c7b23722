import EndpointLifecycle.Options.Load
import Mathlib.Algebra.Group.Nat.Defs
import Mathlib.Data.List.Induction
import Mathlib.Data.List.Nodup

/-!
# Which options are loaded

Entries are read one by one, but what comes of them is said of all of them at once: they load if
each names a field, none names one again, and each value is one that its field holds. The order in
which they stand plays no part in the options, and where they do not load it decides which entry is
the first at fault.
-/

namespace EndpointLifecycle.Options

/-- What a field of the options holds, as it would stand in a file. -/
def value (o : Options) : Field → Value
  | .ipv4Only => .bool o.ipv4Only
  | .reconnectMillis => .int o.reconnectMillis.toNat
  | .reconnectMaxMillis => .int o.reconnectMaxMillis.toNat
  | .sendBuffer => .int o.sendBuffer.toNat
  | .recvBuffer => .int o.recvBuffer.toNat
  | .backlog => .int o.backlog.toNat

/-- What has been read of a field. -/
def Overlay.value? (o : Overlay) : Field → Option Value
  | .ipv4Only => o.ipv4Only.map .bool
  | .reconnectMillis => o.reconnectMillis.map fun n => .int n.toNat
  | .reconnectMaxMillis => o.reconnectMaxMillis.map fun n => .int n.toNat
  | .sendBuffer => o.sendBuffer.map fun n => .int n.toNat
  | .recvBuffer => o.recvBuffer.map fun n => .int n.toNat
  | .backlog => o.backlog.map fun n => .int n.toNat

def Field.kind : Field → Kind
  | .ipv4Only => .boolean
  | .reconnectMillis | .reconnectMaxMillis => .word64
  | .sendBuffer | .recvBuffer => .size
  | .backlog => .word32

namespace Kind

/-- The first number that is too large, if there are numbers of the kind. -/
def bound? : Kind → Option Nat
  | boolean => none
  | word64 | size => some (2 ^ 64)
  | word32 => some (2 ^ 32)

inductive Holds : Kind → Value → Prop
  | truth (b : Bool) : Holds boolean (.bool b)
  | number {kind} {bound n : Nat} (bounded : kind.bound? = some bound) (lt : n < bound) :
      Holds kind (.int n)

/-- The values that a kind does not hold, each with what is said of it. -/
inductive Refuses : Kind → Value → LoadError → Prop
  | noTruth {v} (h : ∀ b, v ≠ .bool b) : Refuses boolean v (.invalidType v .boolean)
  | noNumber {kind v} {bound : Nat} (bounded : kind.bound? = some bound) (h : ∀ n, v ≠ .int n) :
      Refuses kind v (.invalidType v kind)
  | outOfRange {kind} {bound : Nat} {n : Int} (bounded : kind.bound? = some bound)
      (h : n < 0 ∨ bound ≤ n) : Refuses kind (.int n) (.invalidValue n kind)

theorem holds_or_refuses (kind : Kind) (v : Value) : kind.Holds v ∨ ∃ e, kind.Refuses v e := by
  cases hbound : kind.bound? with
  | none =>
    obtain rfl : kind = boolean := by cases kind <;> first | rfl | cases hbound
    by_cases h : ∃ b, v = .bool b
    · obtain ⟨b, rfl⟩ := h
      exact .inl (.truth b)
    · exact .inr ⟨_, .noTruth fun b hb => h ⟨b, hb⟩⟩
  | some bound =>
    by_cases h : ∃ n, v = .int n
    · obtain ⟨n, rfl⟩ := h
      by_cases hrange : 0 ≤ n ∧ n < bound
      · obtain ⟨m, rfl⟩ := Int.eq_ofNat_of_zero_le hrange.1
        exact .inl (.number hbound (Int.ofNat_lt.1 hrange.2))
      · exact .inr ⟨_, .outOfRange hbound (by omega)⟩
    · exact .inr ⟨_, .noNumber hbound fun n hn => h ⟨n, hn⟩⟩

end Kind

/-- Entries that load. -/
structure Loadable (entries : List (String × Value)) : Prop where
  known : ∀ entry ∈ entries, ∃ field : Field, field.name = entry.1
  distinct : (entries.map Prod.fst).Nodup
  held : ∀ (field : Field) v, (field.name, v) ∈ entries → field.kind.Holds v

/-- The options that hold what the entries say, and the defaults beside it. -/
structure Overlaid (entries : List (String × Value)) (o : Options) : Prop where
  named : ∀ (field : Field) v, (field.name, v) ∈ entries → o.value field = v
  others : ∀ field : Field, field.name ∉ entries.map Prod.fst → o.value field = value {} field

/-- What is wrong with an entry behind others with the names `seen`. Its value counts only if
nothing is wrong with its name. -/
inductive Fault (seen : List String) (key : String) (v : Value) : LoadError → Prop
  | unknown (h : ∀ field : Field, field.name ≠ key) : Fault seen key v (.unknownField key)
  | again {field : Field} (name : field.name = key) (h : key ∈ seen) :
      Fault seen key v (.duplicateField field)
  | value {field : Field} {e} (name : field.name = key) (first : key ∉ seen)
      (refused : field.kind.Refuses v e) : Fault seen key v e

/-- What is wrong with the first entry at fault. -/
def FirstFault (entries : List (String × Value)) (e : LoadError) : Prop :=
  ∃ before key v after, entries = before ++ (key, v) :: after ∧ Loadable before ∧
    Fault (before.map Prod.fst) key v e

section Fields

variable {key : String} {field other : Field} {o o' : Options}

theorem Field.name_inj : field.name = other.name ↔ field = other := by
  cases field <;> cases other <;> decide

theorem Field.ofName?_name (field : Field) : ofName? field.name = some field := by
  cases field <;> decide

theorem Field.ofName?_eq_none (h : ∀ field : Field, field.name ≠ key) : ofName? key = none := by
  rw [ofName?, List.find?_eq_none]
  exact fun field _ hname => h field (beq_iff_eq.1 hname)

theorem Overlay.isSome_value? (o : Overlay) (field : Field) :
    (o.value? field).isSome = o.has field := by
  cases field <;> exact Option.isSome_map

theorem value_toOptions (o : Overlay) (field : Field) :
    o.toOptions.value field = (o.value? field).getD (value {} field) := by
  obtain ⟨ipv4Only, reconnectMillis, reconnectMaxMillis, sendBuffer, recvBuffer, backlog⟩ := o
  cases field with
  | ipv4Only => cases ipv4Only <;> rfl
  | reconnectMillis => cases reconnectMillis <;> rfl
  | reconnectMaxMillis => cases reconnectMaxMillis <;> rfl
  | sendBuffer => cases sendBuffer <;> rfl
  | recvBuffer => cases recvBuffer <;> rfl
  | backlog => cases backlog <;> rfl

theorem eq_of_value_eq (h : ∀ field, o.value field = o'.value field) : o = o' := by
  have hword {a b : UInt64} (h : Value.int a.toNat = .int b.toNat) : a = b :=
    UInt64.toNat_inj.1 (Int.ofNat.inj (Value.int.inj h))
  have hword32 {a b : UInt32} (h : Value.int a.toNat = .int b.toNat) : a = b :=
    UInt32.toNat_inj.1 (Int.ofNat.inj (Value.int.inj h))
  cases o
  cases o'
  rw [mk.injEq]
  exact ⟨Value.bool.inj (h .ipv4Only), hword (h .reconnectMillis), hword (h .reconnectMaxMillis),
    hword (h .sendBuffer), hword (h .recvBuffer), hword32 (h .backlog)⟩

end Fields

section Set

variable {kind : Kind} {bound n : Nat} {v : Value} {e : LoadError} {field : Field} {o : Overlay}

theorem Value.toNat_of_lt (kind : Kind) (h : n < bound) :
    (Value.int n).toNat kind bound = .ok n := by
  simp [toNat, h]

theorem Value.toNat_of_refuses (bounded : kind.bound? = some bound) (h : kind.Refuses v e) :
    v.toNat kind bound = .error e := by
  cases h with
  | noTruth => cases bounded
  | noNumber _ h =>
    cases v with
    | int n => exact absurd rfl (h n)
    | null | bool | float | string | sequence | map => rfl
  | @outOfRange _ bound' n bounded' h =>
    obtain rfl : bound' = bound := Option.some.inj (bounded'.symm.trans bounded)
    exact if_neg (by omega)

theorem Value.toBool_of_refuses (h : Kind.boolean.Refuses v e) : v.toBool = .error e := by
  cases h with
  | noTruth h =>
    cases v with
    | bool b => exact absurd rfl (h b)
    | null | int | float | string | sequence | map => rfl
  | noNumber bounded | outOfRange bounded => cases bounded

/-- A value that its field does not hold is not taken. -/
theorem Overlay.set_of_refuses (o : Overlay) (h : field.kind.Refuses v e) :
    o.set v field = .error e := by
  cases field with
  | ipv4Only => exact congrArg (Except.map _) (Value.toBool_of_refuses h)
  | reconnectMillis | reconnectMaxMillis | sendBuffer | recvBuffer | backlog =>
    exact congrArg (Except.map _) (Value.toNat_of_refuses rfl h)

/-- A value that its field holds is taken, and read again as it was. -/
theorem Overlay.exists_set (o : Overlay) (h : field.kind.Holds v) :
    ∃ o', o.set v field = .ok o' ∧ o'.value? field = some v ∧
      ∀ other ≠ field, o'.value? other = o.value? other := by
  cases field with
  | ipv4Only =>
    cases h with
    | truth b =>
      refine ⟨_, rfl, rfl, fun other hne => ?_⟩
      cases other <;> first | rfl | exact absurd rfl hne
    | number bounded => cases bounded
  | reconnectMillis | reconnectMaxMillis | sendBuffer | recvBuffer | backlog =>
    cases h with
    | @number _ bound n bounded lt =>
      cases bounded
      refine ⟨_, congrArg (Except.map _) (Value.toNat_of_lt _ lt), ?_, fun other hne => ?_⟩
      · exact congrArg (fun m : Nat => some (Value.int m)) (Nat.mod_eq_of_lt lt)
      · cases other <;> first | rfl | exact absurd rfl hne

end Set

/-- The overlay holds what the entries say and nothing beside it. -/
structure Overlay.Reads (o : Overlay) (entries : List (String × Value)) : Prop where
  named : ∀ (field : Field) v, (field.name, v) ∈ entries → o.value? field = some v
  others : ∀ field : Field, field.name ∉ entries.map Prod.fst → o.value? field = none

section Entries

variable {entries entries' before after : List (String × Value)} {key : String} {v : Value}
  {e : LoadError} {field : Field} {o : Overlay}

theorem loadable_nil : Loadable [] := ⟨by simp, List.nodup_nil, by simp⟩

theorem Loadable.perm (h : Loadable entries) (hperm : entries.Perm entries') :
    Loadable entries' where
  known := fun entry hentry => h.known entry (hperm.mem_iff.2 hentry)
  distinct := (hperm.map Prod.fst).nodup_iff.1 h.distinct
  held := fun field v hv => h.held field v (hperm.mem_iff.2 hv)

/-- An entry goes well with those before it. -/
structure Fits (before : List (String × Value)) (field : Field) (v : Value) : Prop where
  first : field.name ∉ before.map Prod.fst
  held : field.kind.Holds v

theorem Loadable.fits (h : Loadable (before ++ (key, v) :: after)) :
    ∃ field : Field, field.name = key ∧ Fits before field v := by
  have hmem : (key, v) ∈ before ++ (key, v) :: after :=
    List.mem_append_right _ List.mem_cons_self
  obtain ⟨field, rfl⟩ := h.known _ hmem
  refine ⟨field, rfl, ⟨fun hseen => ?_, h.held field v hmem⟩⟩
  have hdistinct := h.distinct
  rw [List.map_append, List.nodup_append] at hdistinct
  exact hdistinct.2.2 _ hseen _ (List.mem_map_of_mem List.mem_cons_self) rfl

theorem Fits.loadable (h : Fits before field v) (hbefore : Loadable before) :
    Loadable (before ++ [(field.name, v)]) where
  known := by
    refine List.forall_mem_append.2 ⟨hbefore.known, ?_⟩
    exact List.forall_mem_singleton.2 ⟨field, rfl⟩
  distinct := by
    rw [List.map_append, List.map_singleton]
    exact hbefore.distinct.append (List.nodup_singleton _)
      (List.disjoint_singleton.2 h.first)
  held := by
    intro other w hw
    obtain hold | hnew := List.mem_append.1 hw
    · exact hbefore.held other w hold
    · obtain ⟨hname, rfl⟩ := Prod.mk.inj (List.mem_singleton.1 hnew)
      rw [Field.name_inj.1 hname]
      exact h.held

/-- An entry that goes well with those before it is no fault, and any other is. -/
theorem fits_or_fault (before : List (String × Value)) (key : String) (v : Value) :
    (∃ field : Field, field.name = key ∧ Fits before field v) ∨
      ∃ e, Fault (before.map Prod.fst) key v e := by
  by_cases hknown : ∃ field : Field, field.name = key
  case neg => exact .inr ⟨_, .unknown fun field hname => hknown ⟨field, hname⟩⟩
  case pos =>
    obtain ⟨field, rfl⟩ := hknown
    by_cases hseen : field.name ∈ before.map Prod.fst
    case pos => exact .inr ⟨_, .again rfl hseen⟩
    case neg =>
      obtain held | ⟨e, refused⟩ := field.kind.holds_or_refuses v
      · exact .inl ⟨field, rfl, hseen, held⟩
      · exact .inr ⟨e, .value rfl hseen refused⟩

/-- Entries that do not load have a first one at fault. -/
theorem exists_firstFault (h : ¬Loadable entries) : ∃ e, FirstFault entries e := by
  induction entries using List.reverseRecOn with
  | nil => exact absurd loadable_nil h
  | append_singleton before entry ih =>
    by_cases hbefore : Loadable before
    case neg =>
      obtain ⟨e, first, key, v, rest, rfl, hfirst, fault⟩ := ih hbefore
      exact ⟨e, first, key, v, rest ++ [entry], by simp, hfirst, fault⟩
    case pos =>
      obtain ⟨key, v⟩ := entry
      obtain ⟨field, rfl, fits⟩ | ⟨e, fault⟩ := fits_or_fault before key v
      · exact absurd (fits.loadable hbefore) h
      · exact ⟨e, before, key, v, [], rfl, hbefore, fault⟩

namespace Overlay

theorem reads_nil : Reads {} [] where
  named := by simp
  others := by
    intro field _
    cases field <;> rfl

theorem Reads.has_iff (h : o.Reads before) (field : Field) :
    o.has field ↔ field.name ∈ before.map Prod.fst := by
  rw [← isSome_value?]
  constructor
  · intro hsome
    by_contra hnot
    rw [h.others field hnot] at hsome
    cases hsome
  · intro hmem
    obtain ⟨⟨_, v⟩, hv, rfl⟩ := List.mem_map.1 hmem
    rw [h.named field v hv]
    rfl

theorem Reads.add_of_fault (h : o.Reads before) (fault : Fault (before.map Prod.fst) key v e) :
    o.add key v = .error e := by
  unfold add
  cases fault with
  | unknown hunknown => rw [Field.ofName?_eq_none hunknown]
  | @again field name hseen =>
    subst name
    rw [Field.ofName?_name]
    exact if_pos ((h.has_iff field).2 hseen)
  | @value field _ name hfirst refused =>
    subst name
    rw [Field.ofName?_name]
    exact (if_neg (mt (h.has_iff field).1 hfirst)).trans (o.set_of_refuses refused)

theorem Reads.exists_add (h : o.Reads before) (fits : Fits before field v) :
    ∃ o', o.add field.name v = .ok o' ∧ o'.Reads (before ++ [(field.name, v)]) := by
  obtain ⟨o', hset, hself, hothers⟩ := o.exists_set fits.held
  refine ⟨o', ?_, ?_, ?_⟩
  · unfold add
    rw [Field.ofName?_name]
    exact (if_neg (mt (h.has_iff field).1 fits.first)).trans hset
  · intro other w hw
    obtain hold | hnew := List.mem_append.1 hw
    · have hne : other ≠ field := by
        rintro rfl
        exact fits.first (List.mem_map_of_mem hold)
      rw [hothers other hne, h.named other w hold]
    · obtain ⟨hname, rfl⟩ := Prod.mk.inj (List.mem_singleton.1 hnew)
      rw [Field.name_inj.1 hname, hself]
  · intro other hother
    rw [List.map_append, List.mem_append, not_or] at hother
    have hne : other ≠ field := by
      rintro rfl
      exact hother.2 List.mem_cons_self
    rw [hothers other hne, h.others other hother.1]

theorem Reads.exists_addAll (h : o.Reads before) (loadable : Loadable (before ++ entries)) :
    ∃ o', o.addAll entries = .ok o' ∧ o'.Reads (before ++ entries) := by
  -- What was read before is carried along, so that the induction can be on what comes.
  induction entries generalizing o before with
  | nil => exact ⟨o, rfl, by rwa [List.append_nil]⟩
  | cons entry rest ih =>
    obtain ⟨key, v⟩ := entry
    obtain ⟨field, rfl, fits⟩ := loadable.fits
    obtain ⟨o', hadd, hreads⟩ := h.exists_add fits
    rw [List.append_cons] at loadable ⊢
    obtain ⟨o'', hall, hreads'⟩ := ih hreads loadable
    exact ⟨o'', by rw [addAll, hadd]; exact hall, hreads'⟩

theorem exists_addAll (loadable : Loadable entries) :
    ∃ o, addAll {} entries = .ok o ∧ o.Reads entries :=
  reads_nil.exists_addAll loadable

theorem addAll_append {o' : Overlay} (h : o.addAll before = .ok o')
    (after : List (String × Value)) : o.addAll (before ++ after) = o'.addAll after := by
  induction before generalizing o with
  | nil => cases h; rfl
  | cons entry rest ih =>
    obtain ⟨key, v⟩ := entry
    rw [addAll] at h
    rw [List.cons_append, addAll]
    cases hadd : o.add key v with
    | ok o₁ => rw [hadd] at h; exact ih h
    | error e => rw [hadd] at h; cases h

end Overlay

end Entries

section Load

variable {entries entries' : List (String × Value)} {e : LoadError} {o o' : Options}

theorem Overlaid.perm (h : Overlaid entries o) (hperm : entries.Perm entries') :
    Overlaid entries' o where
  named := fun field v hv => h.named field v (hperm.mem_iff.2 hv)
  others := fun field hfield => h.others field (mt ((hperm.map Prod.fst).mem_iff.1) hfield)

/-- The entries say of each field what it holds. -/
theorem Overlaid.unique (h : Overlaid entries o) (h' : Overlaid entries o') : o = o' := by
  refine eq_of_value_eq fun field => ?_
  by_cases hfield : field.name ∈ entries.map Prod.fst
  case pos =>
    obtain ⟨⟨_, v⟩, hv, rfl⟩ := List.mem_map.1 hfield
    rw [h.named field v hv, h'.named field v hv]
  case neg => rw [h.others field hfield, h'.others field hfield]

theorem exists_load (loadable : Loadable entries) :
    ∃ o, load entries = .ok o ∧ Overlaid entries o := by
  obtain ⟨o, hall, hreads⟩ := Overlay.exists_addAll loadable
  refine ⟨o.toOptions, congrArg (Except.map _) hall, ?_, ?_⟩
  · intro field v hv
    rw [value_toOptions, hreads.named field v hv, Option.getD_some]
  · intro field hfield
    rw [value_toOptions, hreads.others field hfield, Option.getD_none]

theorem load_of_firstFault (h : FirstFault entries e) : load entries = .error e := by
  obtain ⟨before, key, v, after, rfl, loadable, fault⟩ := h
  obtain ⟨o, hall, hreads⟩ := Overlay.exists_addAll loadable
  have hadd : o.add key v = .error e := hreads.add_of_fault fault
  have herror : Overlay.addAll {} (before ++ (key, v) :: after) = .error e := by
    rw [Overlay.addAll_append hall, Overlay.addAll, hadd]
  exact congrArg (Except.map _) herror

theorem load_eq_ok_iff : load entries = .ok o ↔ Loadable entries ∧ Overlaid entries o := by
  constructor
  · intro hload
    by_cases loadable : Loadable entries
    case pos =>
      obtain ⟨o', hload', overlaid⟩ := exists_load loadable
      rw [hload] at hload'
      cases hload'
      exact ⟨loadable, overlaid⟩
    case neg =>
      obtain ⟨e, fault⟩ := exists_firstFault loadable
      rw [load_of_firstFault fault] at hload
      cases hload
  · rintro ⟨loadable, overlaid⟩
    obtain ⟨o', hload, overlaid'⟩ := exists_load loadable
    rw [hload, overlaid.unique overlaid']

theorem load_eq_error_iff : load entries = .error e ↔ FirstFault entries e := by
  constructor
  · intro hload
    have hnot : ¬Loadable entries := fun loadable => by
      obtain ⟨o, hload', -⟩ := exists_load loadable
      rw [hload] at hload'
      cases hload'
    obtain ⟨e', fault⟩ := exists_firstFault hnot
    rw [load_of_firstFault fault] at hload
    cases hload
    exact fault
  · exact load_of_firstFault

/-- Entries load exactly if none is at fault, and then in any order to the defaults overlaid with
them. Otherwise the first one at fault is reported. -/
theorem load_overlays_or_reports_first_fault (entries : List (String × Value)) :
    ((∃ o, load entries = .ok o) ↔ Loadable entries) ∧
      (∀ o, load entries = .ok o → Overlaid entries o ∧
        ∀ entries', entries.Perm entries' → load entries' = .ok o) ∧
      ∀ e, load entries = .error e ↔ FirstFault entries e := by
  refine ⟨⟨?_, ?_⟩, ?_, fun e => load_eq_error_iff⟩
  · rintro ⟨o, hload⟩
    exact (load_eq_ok_iff.1 hload).1
  · intro loadable
    obtain ⟨o, hload, -⟩ := exists_load loadable
    exact ⟨o, hload⟩
  · intro o hload
    obtain ⟨loadable, overlaid⟩ := load_eq_ok_iff.1 hload
    exact ⟨overlaid, fun entries' hperm =>
      load_eq_ok_iff.2 ⟨loadable.perm hperm, overlaid.perm hperm⟩⟩

/-- A name that comes again is reported, whatever value comes with it. -/
example : load [("backlog", .int 7), ("backlog", .null)] = .error (.duplicateField .backlog) :=
  rfl

end Load

end EndpointLifecycle.Options

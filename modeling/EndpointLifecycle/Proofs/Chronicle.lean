import EndpointLifecycle.Duration
import EndpointLifecycle.Log
import EndpointLifecycle.Statistics
import Mathlib.Algebra.Group.Nat.Defs

/-!
# The log as a chronicle

Some of what an endpoint does shows twice: in its log, and in its statistics, its timer or its
phase. `Tells` says that both show the same on the way from one condition to a later one. It is
closed under composition, so that it is enough to know it of the parts of a request.
-/

namespace EndpointLifecycle

namespace Log

/-- How often a message was written. -/
def written (message : String) (entries : List Entry) : Nat := entries.countP (·.message = message)

/-- What the field said each time the message was written. -/
def texts (message field : String) (entries : List Entry) : List (Option String) :=
  (entries.filter (·.message = message)).map (·.fields.lookup field)

theorem written_add_written {message message' : String} (h : message ≠ message')
    (entries : List Entry) : written message entries + written message' entries =
      entries.countP fun entry => entry.message = message ∨ entry.message = message' := by
  unfold written
  induction entries with
  | nil => rfl
  | cons entry entries ih =>
    simp only [List.countP_cons, ← ih]
    by_cases hm : entry.message = message
    · have hm' : entry.message ≠ message' := hm ▸ h
      simp [hm, hm ▸ hm']
      omega
    · simp [hm]
      omega

end Log

/-- What an endpoint does that shows beside the log. -/
inductive Deed
  | counted (stat : Statistic)
  | waited (interval : Duration)
  | lookedUp (host : String)
  | listened
  | ended
  deriving DecidableEq

namespace Deed

@[simp] def interval? : Deed → Option Duration
  | waited interval => some interval
  | _ => none

@[simp] def host? : Deed → Option String
  | lookedUp host => some host
  | _ => none

@[simp] def isCounted : Deed → Bool
  | counted _ => true
  | _ => false

end Deed

/-- What can be seen of an endpoint that writes notices of the type `N`. -/
structure Chronicle (N : Type) where
  log : List N
  stats : Statistics
  intervals : List Duration
  hosts : List String
  listened : Bool
  ended : Bool

/-- Which notices tell of a deed, and which statistics change by such deeds alone. -/
structure Reading (N : Type) where
  deed? : N → Option Deed
  stats : List Statistic

namespace Reading

variable {N : Type} {r : Reading N} {s s' : Statistics} {stat : Statistic} {delta : Int64}

/-- The statistics that the log tells of are the same. -/
structure Same (r : Reading N) (s s' : Statistics) : Prop where
  get_eq : ∀ stat ∈ r.stats, s'.get stat = s.get stat

theorem Same.refl (r : Reading N) (s : Statistics) : r.Same s s := ⟨fun _ _ => rfl⟩

theorem same_record (h : stat ∉ r.stats) (s : Statistics) (delta : Int64) :
    r.Same s (s.record stat delta) :=
  ⟨fun _ hother => Statistics.get_record_of_ne s delta fun heq => h (heq ▸ hother)⟩

theorem Same.record (h : r.Same s s') : r.Same (s.record stat delta) (s'.record stat delta) := by
  refine ⟨fun other hother => ?_⟩
  by_cases heq : other = stat
  · rw [heq, Statistics.get_record_self, Statistics.get_record_self,
      h.get_eq stat (heq ▸ hother)]
  · rw [Statistics.get_record_of_ne _ _ heq, Statistics.get_record_of_ne _ _ heq,
      h.get_eq other hother]

theorem Same.setError (h : r.Same s s') (kind : ErrorKind) : r.Same s (s'.setError kind) :=
  ⟨fun other hother => (Statistics.get_setError s' kind other).trans (h.get_eq other hother)⟩

theorem Same.clearError (h : r.Same s s') : r.Same s s'.clearError :=
  ⟨fun other hother => (Statistics.get_clearError s' other).trans (h.get_eq other hother)⟩

theorem Same.markStopped (h : r.Same s s') : r.Same s s'.markStopped :=
  ⟨fun other hother => (Statistics.get_markStopped s' other).trans (h.get_eq other hother)⟩

end Reading

namespace Chronicle

variable {N : Type} {r : Reading N} {x x' x'' : Chronicle N} {n k : Nat}

/-- The deeds lead from one condition to the other, and at most `n` of them are counted. -/
structure Shows (stats : List Statistic) (n : Nat) (x : Chronicle N) (deeds : List Deed)
    (x' : Chronicle N) : Prop where
  counted : ∀ stat ∈ stats,
    x'.stats.get stat = x.stats.get stat + Int64.ofNat (deeds.count (.counted stat))
  waited : x'.intervals = x.intervals ++ deeds.filterMap Deed.interval?
  lookedUp : x'.hosts = x.hosts ++ deeds.filterMap Deed.host?
  listened : x'.listened.toNat = x.listened.toNat + deeds.count .listened
  ended : x'.ended.toNat = x.ended.toNat + deeds.count .ended
  few : deeds.countP Deed.isCounted ≤ n

/-- What was written tells of what was done. -/
def Tells (r : Reading N) (n : Nat) (x x' : Chronicle N) : Prop :=
  ∃ notices, x'.log = x.log ++ notices ∧ Shows r.stats n x (notices.filterMap r.deed?) x'

theorem Shows.append {stats : List Statistic} {deeds deeds' : List Deed}
    (h : Shows stats n x deeds x') (h' : Shows stats k x' deeds' x'') :
    Shows stats (n + k) x (deeds ++ deeds') x'' where
  counted := by
    intro stat hstat
    rw [h'.counted stat hstat, h.counted stat hstat, List.count_append, Int64.ofNat_add,
      Int64.add_assoc]
  waited := by rw [h'.waited, h.waited, List.filterMap_append, List.append_assoc]
  lookedUp := by rw [h'.lookedUp, h.lookedUp, List.filterMap_append, List.append_assoc]
  listened := by rw [h'.listened, h.listened, List.count_append, Nat.add_assoc]
  ended := by rw [h'.ended, h.ended, List.count_append, Nat.add_assoc]
  few := by
    rw [List.countP_append]
    exact Nat.add_le_add h.few h'.few

theorem Tells.trans (h : Tells r n x x') (h' : Tells r k x' x'') : Tells r (n + k) x x'' := by
  obtain ⟨notices, hlog, hshows⟩ := h
  obtain ⟨notices', hlog', hshows'⟩ := h'
  refine ⟨notices ++ notices', by rw [hlog', hlog, List.append_assoc], ?_⟩
  rw [List.filterMap_append]
  exact hshows.append hshows'

theorem Tells.followed (h : Tells r n x x') (h' : Tells r 0 x' x'') : Tells r n x x'' := h.trans h'

theorem Tells.mono (h : Tells r n x x') (hle : n ≤ k) : Tells r k x x' := by
  obtain ⟨notices, hlog, hshows⟩ := h
  exact ⟨notices, hlog, { hshows with few := Nat.le_trans hshows.few hle }⟩

theorem Tells.refl (r : Reading N) (n : Nat) (x : Chronicle N) : Tells r n x x :=
  ⟨[], (List.append_nil _).symm, by constructor <;> simp⟩

/-- It makes no difference what the statistics are that the log does not tell of. -/
theorem Shows.with_stats {deeds : List Deed} {s : Statistics}
    (h : Shows r.stats n x deeds { x' with stats := s }) (hstats : r.Same s x'.stats) :
    Shows r.stats n x deeds x' :=
  { h with counted := fun stat hstat => (hstats.get_eq stat hstat).trans (h.counted stat hstat) }

/-- Notices of no deed. -/
theorem tells_nothing (notices : List N) (hquiet : ∀ notice ∈ notices, r.deed? notice = none)
    (h : x' = { x with log := x.log ++ notices, stats := x'.stats })
    (hstats : r.Same x.stats x'.stats) : Tells r n x x' := by
  refine ⟨notices, by rw [h], Shows.with_stats ?_ hstats⟩
  rw [List.filterMap_eq_nil_iff.2 hquiet, h]
  constructor <;> simp

section Deeds

variable (notice : N)

theorem tells_one {deed : Deed} {s : Statistics} (hdeed : r.deed? notice = some deed)
    (hlog : x'.log = x.log ++ [notice]) (h : Shows r.stats n x [deed] { x' with stats := s })
    (hstats : r.Same s x'.stats) : Tells r n x x' := by
  refine ⟨[notice], hlog, ?_⟩
  rw [List.filterMap_cons_some hdeed, List.filterMap_nil]
  exact h.with_stats hstats

theorem shows_counted (stat : Statistic) (stats : List Statistic) :
    Shows stats 1 x [.counted stat] { x with stats := x.stats.record stat 1 } := by
  constructor
  case counted =>
    intro other _
    by_cases hsame : other = stat
    · rw [hsame, Statistics.get_record_self, List.count_singleton_self]
      rfl
    · have hne : Deed.counted stat ≠ .counted other := by simpa using Ne.symm hsame
      rw [Statistics.get_record_of_ne _ _ hsame, List.count_singleton, beq_false_of_ne hne]
      exact (Int64.add_zero _).symm
  all_goals simp

theorem tells_counted {stat : Statistic} (hdeed : r.deed? notice = some (.counted stat))
    (h : x' = { x with log := x.log ++ [notice], stats := x'.stats })
    (hstats : r.Same (x.stats.record stat 1) x'.stats) : Tells r 1 x x' := by
  refine tells_one notice hdeed (by rw [h]) ?_ hstats
  rw [h]
  exact { shows_counted stat r.stats with }

theorem tells_waited {interval : Duration} (hdeed : r.deed? notice = some (.waited interval))
    (h : x' = { x with log := x.log ++ [notice], intervals := x.intervals ++ [interval] }) :
    Tells r n x x' := by
  subst h
  exact tells_one notice hdeed rfl (by constructor <;> simp) (.refl ..)

theorem tells_lookedUp {host : String} (hdeed : r.deed? notice = some (.lookedUp host))
    (h : x' = { x with log := x.log ++ [notice], hosts := x.hosts ++ [host] }) :
    Tells r n x x' := by
  subst h
  exact tells_one notice hdeed rfl (by constructor <;> simp) (.refl ..)

theorem tells_listened (hdeed : r.deed? notice = some .listened) (hnew : x.listened = false)
    (h : x' = { x with log := x.log ++ [notice], stats := x'.stats, listened := true })
    (hstats : r.Same x.stats x'.stats) : Tells r n x x' := by
  refine tells_one notice hdeed (by rw [h]) ?_ hstats
  rw [h]
  constructor <;> simp [hnew]

theorem tells_ended (hdeed : r.deed? notice = some .ended) (hnew : x.ended = false)
    (h : x' = { x with log := x.log ++ [notice], stats := x'.stats, ended := true })
    (hstats : r.Same x.stats x'.stats) : Tells r n x x' := by
  refine tells_one notice hdeed (by rw [h]) ?_ hstats
  rw [h]
  constructor <;> simp [hnew]

end Deeds

/-- An endpoint that has done nothing yet. -/
def blank : Chronicle N := ⟨[], {}, [], [], false, false⟩

/-- The deeds that a whole log tells of. -/
theorem Tells.shows (h : Tells r n blank x) :
    Shows r.stats n blank (x.log.filterMap r.deed?) x := by
  obtain ⟨notices, hlog, hshows⟩ := h
  obtain rfl : x.log = notices := hlog
  exact hshows

/-- A counter has not wrapped around as long as there are few deeds. -/
theorem Shows.toInt_eq {stats : List Statistic} {deeds : List Deed} {stat : Statistic}
    (h : Shows stats n blank deeds x) (hstat : stat ∈ stats) (hn : n < 2 ^ 63) :
    (x.stats.get stat).toInt = deeds.count (.counted stat) := by
  have hzero : (blank : Chronicle N).stats.get stat = 0 := by cases stat <;> rfl
  have hle : deeds.count (.counted stat) ≤ deeds.countP Deed.isCounted := by
    rw [List.count_eq_countP]
    exact List.countP_mono_left fun deed _ hdeed => by rw [beq_iff_eq.1 hdeed]; rfl
  have hfew := h.few
  rw [h.counted stat hstat, hzero, Int64.zero_add]
  exact Int64.toInt_ofNat_of_lt (by omega)

section Written

variable {entry : N → Log.Entry} {message : String}

theorem countP_entries_eq {p : Log.Entry → Bool} {deed : Deed}
    (heads : ∀ notice, p (entry notice) ↔ r.deed? notice = some deed) (log : List N) :
    (log.map entry).countP p = (log.filterMap r.deed?).count deed := by
  rw [List.countP_map, List.count_eq_countP, List.countP_filterMap]
  refine List.countP_congr fun notice _ => ?_
  rw [Function.comp_apply, heads]
  cases r.deed? notice <;> simp

/-- A message that stands for one deed was written each time it was done. -/
theorem written_eq {deed : Deed}
    (heads : ∀ notice, (entry notice).message = message ↔ r.deed? notice = some deed)
    (log : List N) :
    Log.written message (log.map entry) = (log.filterMap r.deed?).count deed :=
  countP_entries_eq (fun notice => decide_eq_true_iff.trans (heads notice)) log

/-- Two messages that stand for the same deed. -/
theorem written_add_written_eq {message' : String} {deed : Deed} (hne : message ≠ message')
    (heads : ∀ notice, (entry notice).message = message ∨ (entry notice).message = message' ↔
      r.deed? notice = some deed) (log : List N) :
    Log.written message (log.map entry) + Log.written message' (log.map entry) =
      (log.filterMap r.deed?).count deed := by
  rw [Log.written_add_written hne]
  exact countP_entries_eq (fun notice => decide_eq_true_iff.trans (heads notice)) log

/-- A message that spells out in one of its fields what was done. -/
theorem texts_eq {α : Type} {field : String} {tell : Deed → Option α} {text : α → String}
    (heads : ∀ notice,
      (entry notice).message = message ↔ ((r.deed? notice).bind tell).isSome)
    (spells : ∀ notice a, (r.deed? notice).bind tell = some a →
      (entry notice).fields.lookup field = some (text a)) (log : List N) :
    Log.texts message field (log.map entry) =
      ((log.filterMap r.deed?).filterMap tell).map fun a => some (text a) := by
  rw [List.filterMap_filterMap, Log.texts]
  induction log with
  | nil => rfl
  | cons notice log ih =>
    have hheads := heads notice
    cases h : (r.deed? notice).bind tell with
    | none =>
      rw [h] at hheads
      simpa [h, hheads] using ih
    | some a =>
      rw [h] at hheads
      simpa [h, hheads, spells notice a h] using ih

variable (h : Shows r.stats n blank (x.log.filterMap r.deed?) x)

include h

theorem Shows.toInt_eq_written {stat : Statistic} (hstat : stat ∈ r.stats) (hn : n < 2 ^ 63)
    (heads : ∀ notice, (entry notice).message = message ↔ r.deed? notice = some (.counted stat)) :
    (x.stats.get stat).toInt = Log.written message (x.log.map entry) := by
  rw [h.toInt_eq hstat hn, written_eq heads]

theorem Shows.written_listened
    (heads : ∀ notice, (entry notice).message = message ↔ r.deed? notice = some .listened) :
    Log.written message (x.log.map entry) = x.listened.toNat := by
  rw [written_eq heads, h.listened]
  exact (Nat.zero_add _).symm

theorem Shows.written_ended
    (heads : ∀ notice, (entry notice).message = message ↔ r.deed? notice = some .ended) :
    Log.written message (x.log.map entry) = x.ended.toNat := by
  rw [written_eq heads, h.ended]
  exact (Nat.zero_add _).symm

theorem Shows.texts_waited {field : String}
    (heads : ∀ notice,
      (entry notice).message = message ↔ ((r.deed? notice).bind Deed.interval?).isSome)
    (spells : ∀ notice interval, (r.deed? notice).bind Deed.interval? = some interval →
      (entry notice).fields.lookup field = some interval.text) :
    Log.texts message field (x.log.map entry) =
      x.intervals.map fun interval => some interval.text := by
  rw [texts_eq heads spells, h.waited]
  rfl

end Written

end Chronicle

end EndpointLifecycle

import EndpointLifecycle.Proofs.System.Basic
import EndpointLifecycle.Proofs.System.OneShot

/-!
# Where collaborators can bring an endpoint

By what they do of their own accord, collaborators bring an endpoint from one state to another.
-/

namespace EndpointLifecycle.Wiring

open Channel

variable {M V C : Type} {R : C → Type} [DecidableEq C] (w : Wiring M V R)

/-- The collaborators can bring about a system as described. -/
def Attains (s : System M R) (P : System M R → Prop) : Prop := ∃ s', w.Leads s s' ∧ P s'

variable {w} {s : System M R} {P Q : System M R → Prop}

theorem Attains.refl (h : P s) : w.Attains s P := ⟨s, .refl, h⟩

theorem Attains.trans (h : w.Attains s P) (h' : ∀ t, P t → w.Attains t Q) : w.Attains s Q := by
  obtain ⟨t, hleads, ht⟩ := h
  obtain ⟨u, hleads', hu⟩ := h' t ht
  exact ⟨u, hleads.trans hleads', hu⟩

theorem Attains.imp (h : w.Attains s P) (h' : ∀ t, P t → Q t) : w.Attains s Q :=
  h.trans fun t ht => .refl (h' t ht)

theorem attains_deliver {c : C} {r : R c} {rest : List (R c)} {m : M}
    (hp : w.phase s.machine ≠ .stopped) (hq : (s.channel c).queue = r :: rest)
    (hm : w.handle s.machine c r = .done m) (h : P (w.after (s.take c) m)) : w.Attains s P :=
  ⟨_, .single ⟨.deliver c, trivial, ⟨by simp [hq], hp⟩, next_deliver hq hm⟩, h⟩

theorem attains_post {c : C} {r : R c} (ha : w.Allows s (.post c r)) (h : P (s.post c r)) :
    w.Attains s P :=
  ⟨_, .single ⟨.post c r, trivial, ha, rfl⟩, h⟩

/-- A collaborator that has not reported yet can make a report of choice. -/
theorem attains_report {c : C} {Q : R c → Prop}
    (ha : Armed Q (w.activity s.machine c) (s.channel c)) {r : R c} (hr : Q r)
    (hne : r ≠ w.ended c)
    (hmay : (s.channel c).posted = [] → w.mayPost (s.begun c) s.machine c [] r) (hs : P s)
    (hp : w.Allows s (.post c r) → P (s.post c r)) :
    w.Attains s fun t => P t ∧ ∃ e, Q e ∧ (t.channel c).queue = [e] ∧
      ((s.channel c).posted = [] → e = r) := by
  obtain ⟨hrun, hunheard, hposted | ⟨e, he, hposted⟩⟩ := ha
  · have hnone : w.mayPost (s.begun c) s.machine c (s.channel c).posted r := by
      rw [hposted]
      exact hmay hposted
    have hallows : w.Allows s (.post c r) := ⟨by simp [hrun], hne, hnone⟩
    refine attains_post hallows ⟨hp hallows, r, hr, ?_, fun _ => rfl⟩
    simp [Channel.post, hunheard, hposted]
  · refine .refl ⟨hs, e, he, hunheard.trans hposted, ?_⟩
    intro hnil
    simp [hposted] at hnil

/-- A collaborator that is being stopped can come to rest. -/
theorem attains_ended {c : C} {Before : R c → Prop}
    (hc : w.activity (w.completeStop s.machine c) c = (w.activity s.machine c).completeStop)
    (he : Ending (w.ended c) Before (w.activity s.machine c) (s.channel c)) (hs : P s)
    (hk : (w.activity s.machine c).status = .stopping →
      P (w.after s (w.completeStop s.machine c))) :
    w.Attains s fun t =>
      P t ∧ ∃ rest, (t.channel c).queue = rest ++ [w.ended c] ∧ ∀ r ∈ rest, Before r := by
  rcases he with ⟨hstopping, hq⟩ | ⟨-, rest, hq, hrest⟩
  · refine ⟨_, .single ⟨.complete c, trivial, hstopping, rfl⟩, hk hstopping,
      (s.channel c).queue, ?_, hq⟩
    refine queue_update_ended ((congrArg Activity.completions hc).trans ?_)
    simp only [Activity.completeStop, if_pos hstopping]
  · exact .refl ⟨hs, rest, hq, hrest⟩

/-- What has been reported before the end of a stop can be delivered. -/
theorem attains_drained {c : C} {Before : R c → Prop} {e : R c}
    (hstep : ∀ t r rest, P t → (t.channel c).queue = r :: rest → Before r →
      w.Attains t fun u => P u ∧ (u.channel c).queue = rest)
    (hs : P s) {rest : List (R c)} (hq : (s.channel c).queue = rest ++ [e])
    (hrest : ∀ r ∈ rest, Before r) :
    w.Attains s fun t => P t ∧ (t.channel c).queue = [e] := by
  induction rest generalizing s with
  | nil => exact .refl ⟨hs, hq⟩
  | cons r rest ih =>
    have hfirst := hstep s r (rest ++ [e]) hs hq (hrest r List.mem_cons_self)
    apply hfirst.trans
    intro t ht
    obtain ⟨ht, hqt⟩ := ht
    exact ih ht hqt fun x hx => hrest x (List.mem_cons_of_mem r hx)

end EndpointLifecycle.Wiring

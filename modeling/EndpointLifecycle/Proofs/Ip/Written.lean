import EndpointLifecycle.Proofs.Ip.Literal

/-!
# Written addresses

An address is written as one of its literals, whichever run of zeros is left out, and so what is
written is read back.
-/

namespace EndpointLifecycle

open Text

theorem Ipv4.groups_ofGroups (high low : UInt16) :
    (Ipv4.ofGroups high low).groups = [high, low] := by
  have halves (g : UInt16) : (g / 256).toUInt8.toUInt16 * 256 + g.toUInt8.toUInt16 = g := by
    have := g.toNat_lt
    rw [← UInt16.toNat_inj]
    simp
    omega
  simp only [groups, ofGroups, halves]

namespace Ipv6

theorem isGroup_digits (g : UInt16) : IsGroup (digits 16 g.toNat) g := by
  have hlt : g.toNat < 16 ^ 4 := g.toNat_lt
  exact isNumeral_digits (by decide) (by decide) (by decide) hlt

theorem groups_digits (gs : List UInt16) :
    List.Forall₂ IsGroup (gs.map fun g => digits 16 g.toNat) gs := by
  rw [List.forall₂_map_left_iff, List.forall₂_same]
  exact fun g _ => isGroup_digits g

theorem zeroRun_le (gs : List UInt16) : zeroRun gs ≤ gs.length :=
  (List.takeWhile_sublist _).length_le

theorem take_zeroRun (gs : List UInt16) :
    gs.take (zeroRun gs) = List.replicate (zeroRun gs) 0 := by
  have htake : gs.take (zeroRun gs) = gs.takeWhile (· == 0) :=
    (List.prefix_iff_eq_take.1 (List.takeWhile_prefix _)).symm
  rw [htake, List.eq_replicate_iff]
  exact ⟨rfl, fun g hg => eq_of_beq (List.all_eq_true.1 List.all_takeWhile g hg)⟩

/-- The longest run is one of zeros. -/
theorem longestRun_zeros (gs : List UInt16) :
    (longestRun gs).1 + (longestRun gs).2 ≤ gs.length ∧
      (gs.drop (longestRun gs).1).take (longestRun gs).2 =
        List.replicate (longestRun gs).2 0 := by
  induction gs with
  | nil => exact ⟨Nat.le_refl 0, rfl⟩
  | cons g gs ih =>
    rw [longestRun]
    dsimp only
    split
    case isTrue =>
      rw [Nat.zero_add]
      exact ⟨zeroRun_le _, take_zeroRun _⟩
    case isFalse =>
      rw [List.length_cons, List.drop_succ_cons]
      exact ⟨by omega, ih.2⟩

/-- The groups before the longest run, the run, and the groups after it. -/
theorem eq_around_longestRun (gs : List UInt16) :
    gs = gs.take (longestRun gs).1 ++ List.replicate (longestRun gs).2 0 ++
      gs.drop ((longestRun gs).1 + (longestRun gs).2) := by
  rw [← (longestRun_zeros gs).2, List.append_assoc, ← List.drop_drop, List.take_append_drop,
    List.take_append_drop]

theorem literal_write (ip : Ipv6) : ip.Literal ip.write := by
  unfold write
  split
  case h_1 high low hgroups =>
    -- Five groups of zeros are left out, and the last two are written as an IPv4 literal.
    have hmapped : Spells ["ffff".toList, (Ipv4.ofGroups high low).write] [0xffff, high, low] :=
      .cons (isGroup_digits 0xffff) (Ipv4.groups_ofGroups high low ▸ .embedded _)
    exact .gapped .nil hmapped (show 0 + 3 < 8 by decide) hgroups
  case h_2 =>
    dsimp only
    split
    case isTrue hlong =>
      have hzeros := longestRun_zeros ip.groups
      have hgroups := eq_around_longestRun ip.groups
      have hlength := ip.length_groups
      generalize longestRun ip.groups = run at *
      have hcount : 8 - ((ip.groups.take run.1).length +
          (ip.groups.drop (run.1 + run.2)).length) = run.2 := by
        rw [List.length_take, List.length_drop]
        omega
      rw [List.append_assoc]
      refine .gapped (groups_digits _) (spells_of_groups (groups_digits _)) ?_ ?_
      · omega
      · rw [hcount]
        exact hgroups
    case isFalse => exact .full (spells_of_groups (groups_digits ip.groups))

end Ipv6

theorem IpAddr.literal_write (ip : IpAddr) : ip.Literal ip.write := by
  cases ip with
  | v4 a => exact rfl
  | v6 a => exact a.literal_write

end EndpointLifecycle

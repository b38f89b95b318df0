import NestedTx.Proofs.Decimal.Exact
import NestedTx.Reachability.Backoff

namespace NestedTx

namespace Decimal.Magnitude

theorem floorUpTo_le (bound : Nat) (m : Magnitude) : m.floorUpTo bound ≤ bound := by
  cases m with
  | finite x => exact Nat.min_le_right _ _
  | infinite | undefined => exact Nat.le_refl _

namespace Clips

variable {m n : Magnitude} {v w : ℚ}

theorem floorUpTo_mono (hm : m.Clips v) (hn : n.Clips w) (le : v ≤ w) (bound : Nat) :
    m.floorUpTo bound ≤ n.floorUpTo bound := by
  by_cases small : w < Dyadic.limit
  · rw [hm.floorUpTo, hn.floorUpTo, if_pos (le.trans_lt small), if_pos small]
    exact min_le_min_right bound (Nat.floor_le_floor le)
  · rw [hn.floorUpTo, if_neg small]
    exact floorUpTo_le bound m

theorem zero_times (hm : m.Clips v) (bound : Nat) :
    (Magnitude.times exact (ofNat exact 0) m).floorUpTo bound =
      if v < Dyadic.limit then 0 else bound := by
  have zero : ofNat exact 0 = .finite ⟨0, 0⟩ := rfl
  split
  · rename_i small
    obtain ⟨x, rfl, _⟩ := hm.exists_finite small
    simp [zero, Magnitude.times, exact, Dyadic.overflows, Magnitude.floorUpTo, Dyadic.floor]
  · rename_i large
    rw [hm.eq_infinite (not_lt.mp large), zero]
    rfl

theorem scaled_mono (hm : m.Clips v) (hn : n.Clips w) (one : 1 ≤ v) (le : v ≤ w) (initial bound : Nat) :
    (Magnitude.times exact (ofNat exact initial) m).floorUpTo bound ≤
      (Magnitude.times exact (ofNat exact initial) n).floorUpTo bound := by
  cases initial with
  | zero =>
    rw [hm.zero_times, hn.zero_times]
    split
    · exact Nat.zero_le _
    · rename_i large
      rw [if_neg fun small => large (le.trans_lt small)]
  | succ initial =>
    have first : (1 : ℚ) ≤ (initial + 1 : Nat) := by exact_mod_cast Nat.le_add_left 1 initial
    have left := (clips_ofNat (initial + 1)).times hm first one
    have right := (clips_ofNat (initial + 1)).times hn first (one.trans le)
    exact left.floorUpTo_mono right
      (mul_le_mul_of_nonneg_left le (zero_le_one.trans first)) bound

end Clips

end Decimal.Magnitude

namespace Backoff

open Decimal Decimal.Magnitude

theorem clips_growth (multiplier : Float) :
    ∃ v, 1 ≤ v ∧ (ofFloat (growth multiplier)).Clips v := by
  unfold growth
  split
  · rename_i above
    exact clips_of_above_one above
  · have one : ofFloat 1 = .finite ⟨Dyadic.leadingBit, -52⟩ := by decide +kernel
    rw [one]
    exact ⟨_, Dyadic.one_le_toRat (le_refl _) (by decide),
      .of_finite (Dyadic.toRat_lt_limit (by decide) (by decide))⟩

theorem bound_le_cap (policy : Backoff) :
    (ofNat exact policy.cap).floorUpTo longestWait ≤ policy.cap := by
  rw [(clips_ofNat policy.cap).floorUpTo]
  split
  · rw [Nat.floor_natCast]
    exact Nat.min_le_left _ _
  · rename_i large
    have longest : ((longestWait : Nat) : ℚ) ≤ Dyadic.limit := by
      rw [Dyadic.limit]
      calc ((longestWait : Nat) : ℚ) ≤ 2 ^ (64 : Int) := by
            rw [longestWait, UInt64.size]
            norm_num
        _ ≤ 2 ^ (1024 : Int) := zpow_le_zpow_right₀ (by norm_num) (by norm_num)
    exact_mod_cast longest.trans (not_lt.mp large)

theorem intervalWith_le_cap (policy : Backoff) (n : Nat) :
    policy.intervalWith exact n ≤ policy.cap :=
  (floorUpTo_le _ _).trans policy.bound_le_cap

theorem intervalWith_mono (policy : Backoff) {i j : Nat} (le : i ≤ j) :
    policy.intervalWith exact i ≤ policy.intervalWith exact j := by
  obtain ⟨v, one, clips⟩ := clips_growth policy.multiplier
  have exponents : min i largestExponent ≤ min j largestExponent := min_le_min_right _ le
  exact (clips.power one _).scaled_mono (clips.power one _) (one_le_pow₀ one)
    (pow_le_pow_right₀ one exponents) _ _

end Backoff

end NestedTx

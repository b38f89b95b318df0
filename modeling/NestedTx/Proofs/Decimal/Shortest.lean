import Mathlib.Algebra.Order.Field.Power
import Mathlib.Tactic.FieldSimp
import Mathlib.Tactic.Linarith
import Mathlib.Tactic.NormNum
import Mathlib.Tactic.Positivity
import Mathlib.Tactic.Ring
import NestedTx.Decimal.Shortest

namespace NestedTx.Decimal

def Dyadic.toRat (x : Dyadic) : ℚ := x.significand * 2 ^ x.exponent

def Digits.toRat (d : Digits) : ℚ := d.value * 10 ^ d.exponent

theorem zpow_mul_pow_neg {b : ℚ} (nonzero : b ≠ 0) (n : Int) :
    b ^ n * b ^ (-n).toNat = b ^ n.toNat := by
  rw [← zpow_natCast, ← zpow_natCast, ← zpow_add₀ nonzero]
  congr 1
  omega

section

variable {a : Nat} {e : Int} {b : Nat} {r : Int}

theorem sides_eq (a : Nat) (e : Int) (b : Nat) (r : Int) :
    ((sides a e b r).1 : ℚ) = a * 10 ^ e * (10 ^ (-e).toNat * 2 ^ (-r).toNat) ∧
      ((sides a e b r).2 : ℚ) = b * 2 ^ r * (10 ^ (-e).toNat * 2 ^ (-r).toNat) := by
  have ten := zpow_mul_pow_neg (show (10 : ℚ) ≠ 0 by norm_num) e
  have two := zpow_mul_pow_neg (show (2 : ℚ) ≠ 0 by norm_num) r
  simp only [sides, Nat.pow_eq, Nat.cast_mul, Nat.cast_pow, Nat.cast_ofNat, ← ten, ← two]
  constructor <;> ring

theorem decimalLe_iff : decimalLe a e b r = true ↔ (a : ℚ) * 10 ^ e ≤ b * 2 ^ r := by
  obtain ⟨left, right⟩ := sides_eq a e b r
  have scale : (0 : ℚ) < 10 ^ (-e).toNat * 2 ^ (-r).toNat := by positivity
  rw [← mul_le_mul_iff_left₀ scale, ← left, ← right, Nat.cast_le, decimalLe, decide_eq_true_iff]

theorem decimalLt_iff : decimalLt a e b r = true ↔ (a : ℚ) * 10 ^ e < b * 2 ^ r := by
  obtain ⟨left, right⟩ := sides_eq a e b r
  have scale : (0 : ℚ) < 10 ^ (-e).toNat * 2 ^ (-r).toNat := by positivity
  rw [← mul_lt_mul_iff_left₀ scale, ← left, ← right, Nat.cast_lt, decimalLt, decide_eq_true_iff]

end

theorem Digits.toRat_strip (d : Digits) (fuel : Nat) : (d.strip fuel).toRat = d.toRat := by
  induction fuel generalizing d with
  | zero => rfl
  | succ fuel ih =>
    rw [strip]
    split
    · rename_i round
      simp only [Bool.and_eq_true, decide_eq_true_eq] at round
      have tenth : (d.value : ℚ) = 10 * (d.value / 10 : Nat) := by
        exact_mod_cast (Nat.mul_div_cancel' (Nat.dvd_of_mod_eq_zero round.2)).symm
      rw [ih, toRat, toRat, tenth, zpow_add₀ (by norm_num)]
      ring
    · rfl

namespace Dyadic

variable {x y : Dyadic} {d : Digits} {e : Int}

theorem floorAt_bounds (x : Dyadic) (e : Int) :
    (x.floorAt e : ℚ) * 10 ^ e ≤ x.toRat ∧ x.toRat < (x.floorAt e + 1) * 10 ^ e := by
  have ten := zpow_mul_pow_neg (show (10 : ℚ) ≠ 0 by norm_num) e
  have two := zpow_mul_pow_neg (show (2 : ℚ) ≠ 0 by norm_num) x.exponent
  have above_eq : ((x.significand * 2 ^ x.exponent.toNat * 10 ^ (-e).toNat : Nat) : ℚ) =
      x.toRat * (10 ^ (-e).toNat * 2 ^ (-x.exponent).toNat) := by
    simp only [toRat, Nat.cast_mul, Nat.cast_pow, Nat.cast_ofNat, ← two]
    ring
  have below_eq : ((2 ^ (-x.exponent).toNat * 10 ^ e.toNat : Nat) : ℚ) =
      10 ^ e * (10 ^ (-e).toNat * 2 ^ (-x.exponent).toNat) := by
    simp only [Nat.cast_mul, Nat.cast_pow, Nat.cast_ofNat, ← ten]
    ring
  have scale : (0 : ℚ) < 10 ^ (-e).toNat * 2 ^ (-x.exponent).toNat := by positivity
  have positive : 0 < 2 ^ (-x.exponent).toNat * 10 ^ e.toNat := by positivity
  simp only [floorAt, Nat.pow_eq]
  generalize (10 ^ (-e).toNat * 2 ^ (-x.exponent).toNat : ℚ) = k at above_eq below_eq scale
  generalize x.significand * 2 ^ x.exponent.toNat * 10 ^ (-e).toNat = above at above_eq ⊢
  generalize 2 ^ (-x.exponent).toNat * 10 ^ e.toNat = below at below_eq positive ⊢
  have lower : ((above / below : Nat) : ℚ) * below ≤ above := by
    exact_mod_cast Nat.div_mul_le_self above below
  have upper : (above : ℚ) < ((above / below : Nat) + 1) * below := by
    exact_mod_cast Nat.lt_mul_of_div_lt (Nat.lt_succ_self _) positive
  rw [below_eq, above_eq, ← mul_assoc, mul_le_mul_iff_left₀ scale] at lower
  rw [below_eq, above_eq, ← mul_assoc, mul_lt_mul_iff_left₀ scale] at upper
  exact ⟨lower, upper⟩

def quarter (x : Dyadic) : ℚ := 2 ^ (x.exponent - 2)

theorem quarter_pos (x : Dyadic) : 0 < x.quarter := zpow_pos (by norm_num) _

theorem toRat_eq (x : Dyadic) : x.toRat = 4 * x.significand * x.quarter := by
  rw [toRat, quarter, zpow_sub₀ (by norm_num)]
  ring

theorem owns_iff : x.owns d = true ↔
    if x.significand % 2 = 0 then x.lowerEnd * x.quarter ≤ d.toRat ∧ d.toRat ≤ x.upperEnd * x.quarter
    else x.lowerEnd * x.quarter < d.toRat ∧ d.toRat < x.upperEnd * x.quarter := by
  simp only [owns]
  split
  · rw [Bool.and_eq_true, Bool.not_eq_true', ← Bool.not_eq_true, decimalLt_iff, decimalLe_iff, not_lt]
    rfl
  · rw [Bool.and_eq_true, Bool.not_eq_true', ← Bool.not_eq_true, decimalLe_iff, decimalLt_iff, not_le]
    rfl

theorem owns_congr {d' : Digits} (same : d.toRat = d'.toRat) : x.owns d = x.owns d' := by
  rw [Bool.eq_iff_iff, owns_iff, owns_iff, same]

theorem owns_of_inside (above : x.lowerEnd * x.quarter < d.toRat)
    (below : d.toRat < x.upperEnd * x.quarter) : x.owns d = true := by
  rw [owns_iff]
  split
  · exact ⟨above.le, below.le⟩
  · exact ⟨above, below⟩

structure Canonical (x : Dyadic) : Prop where
  short : x.significand < 2 * leadingBit
  lowest : -1074 ≤ x.exponent
  highest : x.exponent ≤ 972
  leading : x.significand < leadingBit → x.exponent = -1074

theorem canonical_ofFloat (x : Float) : (ofFloat x).Canonical := by
  have fraction : x.toBits.toNat % leadingBit < leadingBit := Nat.mod_lt _ (by decide)
  have field : x.toBits.toNat / leadingBit % 0x800 < 0x800 := Nat.mod_lt _ (by decide)
  simp only [ofFloat]
  split
  · exact ⟨by simp only; omega, le_refl _, by simp only; decide, fun _ => rfl⟩
  · exact ⟨by simp only; omega, by simp only; omega, by simp only; omega, by simp only; omega⟩

theorem eq_of_ofFloat {x y : Float}
    (sign : UInt64.size / 2 ≤ x.toBits.toNat ↔ UInt64.size / 2 ≤ y.toBits.toNat)
    (same : ofFloat x = ofFloat y) : x = y := by
  have bits : x.toBits.toNat = y.toBits.toNat := by
    have fits := x.toBits.toNat_lt
    have fits' := y.toBits.toNat_lt
    have size : UInt64.size / 2 = 2 ^ 63 := rfl
    rw [size] at sign
    simp only [ofFloat, leadingBit] at same
    by_cases low : x.toBits.toNat / 0x10000000000000 % 0x800 = 0 <;>
      by_cases low' : y.toBits.toNat / 0x10000000000000 % 0x800 = 0 <;>
      simp only [low, low', ↓reduceIte, mk.injEq] at same <;> omega
  obtain ⟨⟨a, valid⟩⟩ := x
  obtain ⟨⟨b, valid'⟩⟩ := y
  obtain rfl : a = b := UInt64.toNat_inj.mp bits
  rfl

theorem Canonical.ends (hx : x.Canonical) (hy : y.Canonical)
    (before : x.exponent < y.exponent ∨
      x.exponent = y.exponent ∧ x.significand < y.significand) :
    x.upperEnd < y.lowerEnd * 2 ^ (y.exponent - x.exponent).toNat ∨
      x.upperEnd = y.lowerEnd * 2 ^ (y.exponent - x.exponent).toNat ∧
        ¬(x.significand % 2 = 0 ∧ y.significand % 2 = 0) := by
  have short := hx.short
  rcases before with lower | ⟨same, less⟩
  · have full : leadingBit ≤ y.significand := by
      by_contra small
      have := hy.leading (by omega)
      have := hx.lowest
      omega
    have wide : 2 ≤ 2 ^ (y.exponent - x.exponent).toNat :=
      Nat.le_self_pow (by omega) 2
    have far : 4 * leadingBit - 1 ≤ y.lowerEnd := by
      have := hx.lowest
      rw [lowerEnd]
      split
      · omega
      · rename_i wide
        simp only [Bool.and_eq_true, decide_eq_true_eq, not_and, not_not] at wide
        omega
    have := Nat.mul_le_mul far wide
    simp only [upperEnd]
    rw [leadingBit] at *
    omega
  · simp only [same, sub_self, Int.toNat_zero, pow_zero, mul_one, upperEnd, lowerEnd]
    split <;> omega

theorem Canonical.apart (hx : x.Canonical) (hy : y.Canonical)
    (before : x.exponent < y.exponent ∨
      x.exponent = y.exponent ∧ x.significand < y.significand) :
    x.upperEnd * x.quarter < y.lowerEnd * y.quarter ∨
      x.upperEnd * x.quarter = y.lowerEnd * y.quarter ∧
        ¬(x.significand % 2 = 0 ∧ y.significand % 2 = 0) := by
  have ratio : y.quarter = 2 ^ (y.exponent - x.exponent).toNat * x.quarter := by
    rw [quarter, quarter, ← zpow_natCast, ← zpow_add₀ (by norm_num)]
    congr 1
    omega
  have positive := x.quarter_pos
  rw [ratio, ← mul_assoc]
  rcases hx.ends hy before with less | ⟨same, odd⟩
  · left
    rw [mul_lt_mul_iff_left₀ positive]
    exact_mod_cast less
  · right
    refine ⟨?_, odd⟩
    rw [mul_left_inj' positive.ne']
    exact_mod_cast same

theorem Canonical.owner_unique (hx : x.Canonical) (hy : y.Canonical) (owned : x.owns d = true)
    (owned' : y.owns d = true) : x = y := by
  have none {x y : Dyadic} (hx : x.Canonical) (hy : y.Canonical) (owned : x.owns d = true)
      (owned' : y.owns d = true) : ¬(x.exponent < y.exponent ∨
        x.exponent = y.exponent ∧ x.significand < y.significand) := by
    intro before
    rw [owns_iff] at owned owned'
    have below : d.toRat ≤ x.upperEnd * x.quarter := by
      split at owned
      · exact owned.2
      · exact owned.2.le
    have above : y.lowerEnd * y.quarter ≤ d.toRat := by
      split at owned'
      · exact owned'.1
      · exact owned'.1.le
    rcases hx.apart hy before with less | ⟨same, odd⟩
    · linarith
    · by_cases even : x.significand % 2 = 0
      · have odd' : ¬y.significand % 2 = 0 := fun even' => odd ⟨even, even'⟩
        rw [if_neg odd'] at owned'
        linarith
      · rw [if_neg even] at owned
        linarith
  have first := none hx hy owned owned'
  have second := none hy hx owned' owned
  obtain ⟨s, e⟩ := x
  obtain ⟨s', e'⟩ := y
  simp only [mk.injEq] at first second ⊢
  omega

theorem owns_of_atGrid (found : x.atGrid? e = some d) : x.owns d = true := by
  simp only [atGrid?] at found
  split at found
  · rename_i below above
    cases found
    split
    · exact above
    · exact below
  · rename_i below _
    cases found
    exact below
  · rename_i _ above
    cases found
    exact above
  · cases found

theorem isSome_atGrid (x : Dyadic) (e : Int) : (x.atGrid? e).isSome =
    (x.owns ⟨x.floorAt e, e⟩ || x.owns ⟨x.floorAt e + 1, e⟩) := by
  simp only [atGrid?]
  split <;> simp_all

theorem owns_searchFrom {steps fuel : Nat} (enough : steps < fuel)
    (found : (x.atGrid? (e - steps)).isSome = true) : x.owns (x.searchFrom e fuel) = true := by
  induction fuel generalizing e steps with
  | zero => exact absurd enough (Nat.not_lt_zero _)
  | succ fuel ih =>
    rw [searchFrom]
    split
    · rename_i hd
      exact owns_of_atGrid hd
    · rename_i hd
      cases steps with
      | zero =>
        rw [Nat.cast_zero, sub_zero, hd] at found
        cases found
      | succ steps =>
        refine ih (Nat.lt_of_succ_lt_succ enough) ?_
        rw [show e - 1 - (steps : Int) = e - (steps + 1 : Nat) by push_cast; ring]
        exact found

theorem estimate_le : ∀ n : Nat, n < 2100 →
    decimalLe 1 (((n : Int) - 1074) * 30103 / 100000 - 1) 1 ((n : Int) - 1074) = true := by
  decide +kernel

theorem Canonical.leadingPower_le (hx : x.Canonical) (nonzero : x.significand ≠ 0) :
    (10 : ℚ) ^ x.leadingPower ≤ x.toRat := by
  have ten (e : Int) : (0 : ℚ) < 10 ^ e := zpow_pos (by norm_num) e
  have whole {e : Int} (he : x.floorAt e ≠ 0) : (10 : ℚ) ^ e ≤ x.toRat := by
    have one : (1 : ℚ) ≤ x.floorAt e := by exact_mod_cast Nat.one_le_iff_ne_zero.mpr he
    calc (10 : ℚ) ^ e = 1 * 10 ^ e := (one_mul _).symm
      _ ≤ x.floorAt e * 10 ^ e := mul_le_mul_of_nonneg_right one (ten e).le
      _ ≤ x.toRat := (x.floorAt_bounds e).1
  simp only [leadingPower]
  split
  · rename_i he
    exact whole he
  · split
    · rename_i he
      exact whole he
    · have log : x.significand.log2 < 53 := by
        rw [Nat.log2_lt nonzero]
        exact hx.short
      have lowest := hx.lowest
      have highest := hx.highest
      have estimate := estimate_le (x.significand.log2 + x.exponent + 1074).toNat (by omega)
      rw [decimalLe_iff, show ((x.significand.log2 + x.exponent + 1074).toNat : Int) - 1074 =
        x.significand.log2 + x.exponent by omega, Nat.cast_one, one_mul, one_mul] at estimate
      refine estimate.trans ?_
      have power : (2 : ℚ) ^ x.significand.log2 ≤ x.significand := by
        exact_mod_cast Nat.log2_self_le nonzero
      rw [zpow_add₀ (by norm_num), zpow_natCast, toRat]
      exact mul_le_mul_of_nonneg_right power (zpow_pos (by norm_num) _).le

theorem owns_of_above (nonzero : x.significand ≠ 0) (above : x.toRat < d.toRat)
    (below : d.toRat < x.toRat + 2 * x.quarter) : x.owns d = true := by
  have lower_lt : x.lowerEnd < 4 * x.significand := by
    rw [lowerEnd]
    split <;> omega
  have lower : (x.lowerEnd : ℚ) * x.quarter < x.toRat := by
    rw [toRat_eq]
    exact mul_lt_mul_of_pos_right (by exact_mod_cast lower_lt) x.quarter_pos
  have upper : (x.upperEnd : ℚ) * x.quarter = x.toRat + 2 * x.quarter := by
    rw [upperEnd, toRat_eq]
    push_cast
    ring
  refine owns_of_inside (lower.trans above) ?_
  rw [upper]
  exact below

theorem owns_of_below (nonzero : x.significand ≠ 0) (inner : x.significand ≠ leadingBit)
    (above : x.toRat - 2 * x.quarter < d.toRat) (below : d.toRat ≤ x.toRat) : x.owns d = true := by
  have lower_eq : x.lowerEnd + 2 = 4 * x.significand := by
    rw [lowerEnd, if_neg (by simp [inner])]
    omega
  have lower_eq : (x.lowerEnd : ℚ) + 2 = 4 * x.significand := by exact_mod_cast lower_eq
  have lower : (x.lowerEnd : ℚ) * x.quarter = x.toRat - 2 * x.quarter := by
    rw [toRat_eq, ← lower_eq]
    ring
  have upper : x.toRat < (x.upperEnd : ℚ) * x.quarter := by
    rw [toRat_eq, upperEnd]
    push_cast
    linarith [x.quarter_pos]
  refine owns_of_inside ?_ (below.trans_lt upper)
  rw [lower]
  exact above

theorem Canonical.isSome_atGrid (hx : x.Canonical) (nonzero : x.significand ≠ 0) :
    (x.atGrid? (x.leadingPower - 16)).isSome = true := by
  have positive := x.quarter_pos
  have value := x.toRat_eq
  have grid : (10 : ℚ) ^ (x.leadingPower - 16) * 10 ^ 16 ≤ x.toRat := by
    have leading := hx.leadingPower_le nonzero
    rwa [zpow_sub₀ (by norm_num), zpow_ofNat, div_mul_cancel₀ _ (by norm_num)]
  obtain ⟨lower, upper⟩ := x.floorAt_bounds (x.leadingPower - 16)
  have next : (Digits.mk (x.floorAt (x.leadingPower - 16) + 1) (x.leadingPower - 16)).toRat =
      (x.floorAt (x.leadingPower - 16) + 1) * 10 ^ (x.leadingPower - 16) := by
    rw [Digits.toRat, Nat.cast_succ]
  have above (fits : (Digits.mk (x.floorAt (x.leadingPower - 16) + 1) (x.leadingPower - 16)).toRat <
      x.toRat + 2 * x.quarter) := owns_of_above nonzero (upper.trans_eq next.symm) fits
  rw [Dyadic.isSome_atGrid, Bool.or_eq_true]
  rw [next] at above
  by_cases power : x.significand = leadingBit
  · -- The interval is narrower below a power of two, but the grid is finer as well.
    have size : (x.significand : ℚ) = 2 ^ 52 := by
      rw [power, leadingBit]
      norm_num
    have width := congrArg (· * x.quarter) size
    right
    apply above
    linarith
  · have size : (x.significand : ℚ) ≤ 2 ^ 53 := by
      have short := hx.short.le
      rw [leadingBit] at short
      exact_mod_cast short
    have width := mul_le_mul_of_nonneg_right size positive.le
    by_cases fits : (x.floorAt (x.leadingPower - 16) + 1) * 10 ^ (x.leadingPower - 16) <
        x.toRat + 2 * x.quarter
    · exact .inr (above fits)
    · left
      refine owns_of_below nonzero power ?_ lower
      rw [Digits.toRat]
      linarith

def digits (x : Dyadic) : Digits := if x.significand = 0 then ⟨0, 0⟩ else x.shortest

theorem Canonical.owns_digits (hx : x.Canonical) : x.owns x.digits = true := by
  rw [digits]
  split
  · rename_i zero
    have nothing : (Digits.mk 0 0).toRat = 0 := by simp [Digits.toRat]
    have lower_eq : x.lowerEnd = 0 := by
      rw [lowerEnd]
      split <;> omega
    rw [owns_iff, zero, nothing, lower_eq, if_pos rfl, Nat.cast_zero, zero_mul]
    exact ⟨le_refl _, mul_nonneg (Nat.cast_nonneg _) x.quarter_pos.le⟩
  · rename_i nonzero
    rw [shortest, owns_congr (Digits.toRat_strip _ _)]
    exact owns_searchFrom (by decide : 16 < 17) (hx.isSome_atGrid nonzero)

theorem Canonical.digits_inj (hx : x.Canonical) (hy : y.Canonical)
    (same : x.digits.toRat = y.digits.toRat) : x = y :=
  hx.owner_unique hy hx.owns_digits (by rw [owns_congr same]; exact hy.owns_digits)

end Dyadic

end NestedTx.Decimal

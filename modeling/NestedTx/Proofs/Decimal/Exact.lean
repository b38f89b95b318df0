import Mathlib.Algebra.Order.Floor.Semifield
import Mathlib.Data.Rat.Floor
import NestedTx.Decimal.Rounded
import NestedTx.Proofs.Decimal.Shortest

namespace NestedTx.Decimal

section

open Float.Model Float.Model.UnpackedFloat

abbrev mantissaBits (x : Float) : BitVec 52 := @unpackMantissa Format.binary64 x.toModel.toBits.toBitVec

abbrev exponentBits (x : Float) : BitVec 11 := @unpackExponent Format.binary64 x.toModel.toBits.toBitVec

theorem toNat_mantissaBits (x : Float) :
    (mantissaBits x).toNat = x.toBits.toNat % Dyadic.leadingBit := by
  simp only [mantissaBits, unpackMantissa, BitVec.toNat_cast, BitVec.extractLsb_toNat,
    UInt64.toNat_toBitVec, Nat.shiftRight_zero]
  rfl

theorem toNat_exponentBits (x : Float) :
    (exponentBits x).toNat = x.toBits.toNat / Dyadic.leadingBit % 0x800 := by
  simp only [exponentBits, unpackExponent, BitVec.toNat_cast, BitVec.extractLsb_toNat,
    UInt64.toNat_toBitVec, Nat.shiftRight_eq_div_pow]
  rfl

namespace Dyadic

theorem ofFloat_of_unpack {x : Float} {sign : Sign} {significand : Nat} {exponent : Int}
    {positive : 0 < significand}
    (unpack : x.toModel.unpack = .finite sign significand exponent positive) :
    ofFloat x = ⟨significand, exponent⟩ ∧ exponent ≤ 971 := by
  have fraction := toNat_mantissaBits x
  have field := toNat_exponentBits x
  have bias : Format.binary64.exponentBias = 1023 := rfl
  unfold Float.Model.unpack UnpackedFloat.unpack at unpack
  dsimp only at unpack
  by_cases full : exponentBits x = -1#11
  · rw [if_pos full] at unpack
    by_cases none : mantissaBits x = 0#52
    · rw [if_pos none] at unpack
      cases unpack
    · rw [if_neg none] at unpack
      cases unpack
  · rw [if_neg full] at unpack
    by_cases lowest : exponentBits x = 0#11
    · rw [if_pos lowest] at unpack
      by_cases none : mantissaBits x = 0#52
      · rw [dif_pos none] at unpack
        cases unpack
      · rw [dif_neg none] at unpack
        cases unpack
        have zero : x.toBits.toNat / leadingBit % 0x800 = 0 := by
          rw [← field, lowest]
          rfl
        rw [ofFloat, if_pos zero, fraction, field, zero, bias]
        exact ⟨rfl, by decide⟩
    · rw [if_neg lowest] at unpack
      cases unpack
      have some : x.toBits.toNat / leadingBit % 0x800 ≠ 0 := by
        rw [← field]
        exact fun zero => lowest (BitVec.toNat_inj.mp zero)
      have below : x.toBits.toNat / leadingBit % 0x800 ≠ 0x7ff := by
        rw [← field]
        exact fun last => full (BitVec.toNat_inj.mp last)
      have small : x.toBits.toNat % leadingBit < 2 ^ 52 := Nat.mod_lt _ (by decide)
      rw [ofFloat, if_neg some, bias, field, BitVec.toNat_append, fraction,
        ← Nat.shiftLeft_add_eq_or_of_lt small]
      refine ⟨?_, by omega⟩
      rw [mk.injEq]
      exact ⟨rfl, by omega⟩

end Dyadic

theorem unpack_of_above_one {x : Float} (above : x > 1) : x.toModel.unpack = .infinity .positive ∨
    ∃ significand exponent positive,
      x.toModel.unpack = .finite .positive significand exponent positive ∧
        (-52 < exponent ∨ exponent = -52 ∧ 2 ^ 52 < significand) := by
  have one : (1 : Float).toModel.unpack = .finite .positive (2 ^ 52) (-52) (by decide) := rfl
  have less : (1 : Float).toModel.unpack.lt x.toModel.unpack = true := of_decide_eq_true above
  rw [one, UnpackedFloat.lt] at less
  have compares := eq_of_beq less
  cases unpack : x.toModel.unpack with
  | infinity sign =>
    cases sign with
    | positive => exact .inl rfl
    | negative =>
      rw [unpack] at compares
      cases compares
  | notANumber | zero sign =>
    rw [unpack] at compares
    cases compares
  | finite sign significand exponent positive =>
    rw [unpack] at compares
    cases sign with
    | negative => cases compares
    | positive =>
      have order : some ((Ord.compare (-52) exponent).then (Ord.compare (2 ^ 52) significand)) =
          some Ordering.lt := compares
      simp only [Option.some.injEq, Ordering.then_eq_lt, Int.compare_eq_lt, Int.compare_eq_eq,
        Nat.compare_eq_lt] at order
      refine .inr ⟨_, _, _, rfl, ?_⟩
      omega

end

namespace Dyadic

variable {x y : Dyadic}

@[irreducible] def limit : ℚ := 2 ^ (1024 : Int)

theorem one_lt_limit : 1 < limit := by
  rw [limit]
  exact one_lt_zpow₀ (by norm_num) (by norm_num)

theorem overflows_iff : x.overflows = true ↔ limit ≤ x.toRat := by
  have power (e : Int) : (0 : ℚ) < 2 ^ e := zpow_pos (by norm_num) e
  simp only [overflows, Bool.and_eq_true, decide_eq_true_eq, toRat]
  by_cases zero : x.significand = 0
  · simp only [zero, ne_eq, not_true_eq_false, false_and, Nat.cast_zero, zero_mul, false_iff, not_le]
    exact zero_lt_one.trans one_lt_limit
  · simp only [ne_eq, zero, not_false_eq_true, true_and]
    have lower : (2 : ℚ) ^ x.significand.log2 ≤ x.significand := by
      exact_mod_cast Nat.log2_self_le zero
    have upper : (x.significand : ℚ) < 2 ^ (x.significand.log2 + 1) := by
      exact_mod_cast Nat.lt_log2_self
    constructor
    · intro high
      calc limit = 2 ^ (1024 : Int) := by rw [limit]
        _ ≤ 2 ^ ((x.significand.log2 : Int) + x.exponent) :=
          zpow_le_zpow_right₀ (by norm_num) high
        _ = 2 ^ x.significand.log2 * 2 ^ x.exponent := by
          rw [zpow_add₀ (by norm_num), zpow_natCast]
        _ ≤ x.significand * 2 ^ x.exponent := mul_le_mul_of_nonneg_right lower (power _).le
    · intro large
      by_contra low
      have less : (x.significand : ℚ) * 2 ^ x.exponent < limit :=
        calc (x.significand : ℚ) * 2 ^ x.exponent
            < 2 ^ (x.significand.log2 + 1) * 2 ^ x.exponent :=
              mul_lt_mul_of_pos_right upper (power _)
          _ = 2 ^ ((x.significand.log2 : Int) + 1 + x.exponent) := by
            rw [zpow_add₀ (by norm_num), ← zpow_natCast]
            push_cast
            rfl
          _ ≤ 2 ^ (1024 : Int) := zpow_le_zpow_right₀ (by norm_num) (by omega)
          _ = limit := by rw [limit]
      exact absurd large (not_le.mpr less)

theorem one_le_toRat {s : Nat} {e : Int} (full : leadingBit ≤ s) (exponent : -52 ≤ e) :
    1 ≤ (⟨s, e⟩ : Dyadic).toRat := by
  have significand : (2 : ℚ) ^ (52 : Int) ≤ s := by
    rw [leadingBit] at full
    exact_mod_cast full
  calc (1 : ℚ) = 2 ^ (0 : Int) := (zpow_zero 2).symm
    _ ≤ 2 ^ ((52 : Int) + e) := zpow_le_zpow_right₀ (by norm_num) (by omega)
    _ = 2 ^ (52 : Int) * 2 ^ e := zpow_add₀ (by norm_num) _ _
    _ ≤ s * 2 ^ e := mul_le_mul_of_nonneg_right significand (zpow_pos (by norm_num) _).le

theorem toRat_lt_limit {s : Nat} {e : Int} (short : s < 2 * leadingBit) (exponent : e ≤ 971) :
    (⟨s, e⟩ : Dyadic).toRat < limit := by
  have significand : (s : ℚ) < 2 ^ (53 : Int) := by
    rw [leadingBit] at short
    exact_mod_cast short
  rw [limit]
  calc (s : ℚ) * 2 ^ e
      < 2 ^ (53 : Int) * 2 ^ e := mul_lt_mul_of_pos_right significand (zpow_pos (by norm_num) _)
    _ = 2 ^ ((53 : Int) + e) := (zpow_add₀ (by norm_num) _ _).symm
    _ ≤ 2 ^ (1024 : Int) := zpow_le_zpow_right₀ (by norm_num) (by omega)

theorem toRat_mul (x y : Dyadic) :
    (⟨x.significand * y.significand, x.exponent + y.exponent⟩ : Dyadic).toRat = x.toRat * y.toRat := by
  simp only [toRat, Nat.cast_mul, zpow_add₀ (show (2 : ℚ) ≠ 0 by norm_num)]
  ring

theorem toRat_ofNat (n : Nat) : (⟨n, 0⟩ : Dyadic).toRat = n := by
  simp [toRat]

theorem floor_eq (x : Dyadic) : x.floor = ⌊x.toRat⌋₊ := by
  have two := zpow_mul_pow_neg (show (2 : ℚ) ≠ 0 by norm_num) x.exponent
  have scale : (2 : ℚ) ^ (-x.exponent).toNat ≠ 0 := by positivity
  have quotient : x.toRat = ((x.significand * 2 ^ x.exponent.toNat : Nat) : ℚ) /
      ((2 ^ (-x.exponent).toNat : Nat) : ℚ) := by
    rw [toRat, eq_div_iff (by exact_mod_cast scale)]
    push_cast
    rw [mul_assoc, two]
  rw [quotient, Nat.floor_div_eq_div]
  rfl

end Dyadic

namespace Magnitude

def Clips (m : Magnitude) (v : ℚ) : Prop :=
  if v < Dyadic.limit then ∃ x, m = .finite x ∧ x.toRat = v else m = .infinite

theorem clips_exact (x : Dyadic) : (exact x).Clips x.toRat := by
  have overflows := @Dyadic.overflows_iff x
  rw [Clips, exact]
  split
  · rename_i small
    have fits : ¬x.overflows = true := fun large => absurd (overflows.mp large) (not_le.mpr small)
    exact ⟨x, if_neg fits, rfl⟩
  · rename_i large
    exact if_pos (overflows.mpr (not_lt.mp large))

namespace Clips

variable {m n : Magnitude} {v w : ℚ}

theorem exists_finite (h : m.Clips v) (small : v < Dyadic.limit) : ∃ x, m = .finite x ∧ x.toRat = v := by
  rwa [Clips, if_pos small] at h

theorem eq_infinite (h : m.Clips v) (large : Dyadic.limit ≤ v) : m = .infinite := by
  rwa [Clips, if_neg (not_lt.mpr large)] at h

theorem of_infinite : Magnitude.infinite.Clips Dyadic.limit := by
  rw [Clips, if_neg (lt_irrefl _)]

theorem of_finite {x : Dyadic} (small : x.toRat < Dyadic.limit) : (finite x).Clips x.toRat := by
  rw [Clips, if_pos small]
  exact ⟨x, rfl, rfl⟩

theorem significand_ne_zero {x : Dyadic} (positive : 1 ≤ x.toRat) : x.significand ≠ 0 := by
  intro zero
  rw [Dyadic.toRat, zero, Nat.cast_zero, zero_mul] at positive
  exact absurd positive (by norm_num)

theorem times (hm : m.Clips v) (hn : n.Clips w) (one : 1 ≤ v) (one' : 1 ≤ w) :
    (Magnitude.times exact m n).Clips (v * w) := by
  by_cases small : v < Dyadic.limit
  · obtain ⟨x, rfl, rfl⟩ := hm.exists_finite small
    by_cases small' : w < Dyadic.limit
    · obtain ⟨y, rfl, rfl⟩ := hn.exists_finite small'
      rw [← Dyadic.toRat_mul]
      exact clips_exact _
    · obtain rfl := hn.eq_infinite (not_lt.mp small')
      have large : Dyadic.limit ≤ x.toRat * w :=
        (not_lt.mp small').trans (le_mul_of_one_le_left (zero_le_one.trans one') one)
      rw [Clips, if_neg (not_lt.mpr large), Magnitude.times, if_neg (significand_ne_zero one)]
  · obtain rfl := hm.eq_infinite (not_lt.mp small)
    have large : Dyadic.limit ≤ v * w :=
      (not_lt.mp small).trans (le_mul_of_one_le_right (zero_le_one.trans one) one')
    rw [Clips, if_neg (not_lt.mpr large)]
    by_cases small' : w < Dyadic.limit
    · obtain ⟨y, rfl, rfl⟩ := hn.exists_finite small'
      rw [Magnitude.times, if_neg (significand_ne_zero one')]
    · obtain rfl := hn.eq_infinite (not_lt.mp small')
      rfl

theorem powerFrom (hm : m.Clips v) (hn : n.Clips w) (one : 1 ≤ v) (one' : 1 ≤ w) (k : Nat) :
    (Magnitude.powerFrom exact m n k).Clips (v * w ^ k) := by
  induction k using Nat.strong_induction_on generalizing m n v w with
  | _ k ih =>
    have digit : (if k % 2 = 1 then Magnitude.times exact m n else m).Clips (v * w ^ (k % 2)) ∧
        1 ≤ v * w ^ (k % 2) := by
      rcases Nat.mod_two_eq_zero_or_one k with even | odd
      · rw [even, if_neg (by decide), pow_zero, mul_one]
        exact ⟨hm, one⟩
      · rw [odd, if_pos rfl, pow_one]
        exact ⟨hm.times hn one one', one_le_mul_of_one_le_of_one_le one one'⟩
    have split : v * w ^ k = v * w ^ (k % 2) * (w * w) ^ (k / 2) := by
      rw [← pow_two, ← pow_mul, mul_assoc, ← pow_add, Nat.mod_add_div]
    rw [Magnitude.powerFrom, split]
    split
    · rename_i last
      rw [last, pow_zero, mul_one]
      exact digit.1
    · rename_i more
      exact ih (k / 2) (by omega) digit.1 (hn.times hn one' one') digit.2
        (one_le_mul_of_one_le_of_one_le one' one')

theorem power (hn : n.Clips w) (one : 1 ≤ w) (k : Nat) :
    (Magnitude.power exact n k).Clips (w ^ k) := by
  have unit : (finite ⟨1, 0⟩).Clips 1 := by
    have small : (⟨1, 0⟩ : Dyadic).toRat < Dyadic.limit := by
      rw [Dyadic.toRat_ofNat, Nat.cast_one]
      exact Dyadic.one_lt_limit
    have clips := of_finite small
    rwa [Dyadic.toRat_ofNat, Nat.cast_one] at clips
  have clips := unit.powerFrom hn (le_refl 1) one k
  rwa [one_mul] at clips

theorem floorUpTo (hm : m.Clips v) (bound : Nat) :
    m.floorUpTo bound = if v < Dyadic.limit then min ⌊v⌋₊ bound else bound := by
  split
  · rename_i small
    obtain ⟨x, rfl, rfl⟩ := hm.exists_finite small
    rw [Magnitude.floorUpTo, Dyadic.floor_eq]
  · rename_i large
    rw [hm.eq_infinite (not_lt.mp large)]
    rfl

end Clips

theorem clips_ofNat (n : Nat) : (ofNat exact n).Clips n := by
  have clips := clips_exact ⟨n, 0⟩
  rwa [Dyadic.toRat_ofNat] at clips

theorem clips_of_above_one {x : Float} (above : x > 1) : ∃ v, 1 ≤ v ∧ (ofFloat x).Clips v := by
  rcases unpack_of_above_one above with unpack | ⟨s, e, positive, unpack, greater⟩
  · have infinite : ofFloat x = .infinite := by
      have finite : x.isFinite = false := by
        show x.toModel.unpack.isFinite = false
        rw [unpack]
        rfl
      have number : x.isNaN = false := by
        show x.toModel.unpack.isNaN = false
        rw [unpack]
        rfl
      rw [ofFloat, if_neg (Bool.eq_false_iff.mp finite), if_neg (Bool.eq_false_iff.mp number)]
    rw [infinite]
    exact ⟨Dyadic.limit, Dyadic.one_lt_limit.le, Clips.of_infinite⟩
  · have finite : x.isFinite = true := by
      show x.toModel.unpack.isFinite = true
      rw [unpack]
      rfl
    obtain ⟨parts, highest⟩ := Dyadic.ofFloat_of_unpack unpack
    have canonical := Dyadic.canonical_ofFloat x
    rw [parts] at canonical
    have full : Dyadic.leadingBit ≤ s := by
      by_contra small
      have lowest := canonical.leading (by simpa using small)
      simp only at lowest
      omega
    rw [ofFloat, if_pos finite, parts]
    exact ⟨_, Dyadic.one_le_toRat full (by omega),
      .of_finite (Dyadic.toRat_lt_limit canonical.short highest)⟩

end Magnitude

end NestedTx.Decimal

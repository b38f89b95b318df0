import Mathlib.Data.List.TakeWhile
import NestedTx.Decimal.Notation
import NestedTx.Proofs.Decimal.Shortest

namespace NestedTx.Decimal

def before (c : Char) (cs : List Char) : List Char := cs.takeWhile (· ≠ c)

def behind (c : Char) (cs : List Char) : List Char := (cs.dropWhile (· ≠ c)).tail

def digitsValue (cs : List Char) : Nat := Nat.ofDigitChars 10 cs 0

def pointValue (cs : List Char) : ℚ :=
  digitsValue (before '.' cs ++ behind '.' cs) * 10 ^ (-((behind '.' cs).length : Int))

def exponentValue : List Char → Int
  | '-' :: cs => -digitsValue cs
  | '+' :: cs => digitsValue cs
  | cs => digitsValue cs

def textValue (cs : List Char) : ℚ :=
  pointValue (before 'e' cs) * 10 ^ exponentValue (behind 'e' cs)

section

variable {c : Char} {cs ds : List Char}

theorem before_append (absent : c ∉ cs) : before c (cs ++ c :: ds) = cs := by
  have all : ∀ d ∈ cs, decide (d ≠ c) = true :=
    fun d mem => decide_eq_true fun he => absent (he ▸ mem)
  rw [before, List.takeWhile_append_of_pos all]
  simp

theorem behind_append (absent : c ∉ cs) : behind c (cs ++ c :: ds) = ds := by
  have all : ∀ d ∈ cs, decide (d ≠ c) = true :=
    fun d mem => decide_eq_true fun he => absent (he ▸ mem)
  rw [behind, List.dropWhile_append_of_pos all]
  simp

theorem before_of_not_mem (absent : c ∉ cs) : before c cs = cs :=
  List.takeWhile_eq_self_iff.mpr fun _ mem => decide_eq_true fun he => absent (he ▸ mem)

theorem behind_of_not_mem (absent : c ∉ cs) : behind c cs = [] := by
  have none : cs.dropWhile (· ≠ c) = [] :=
    List.dropWhile_eq_nil_iff.mpr fun _ mem => decide_eq_true fun he => absent (he ▸ mem)
  rw [behind, none, List.tail_nil]

theorem pointValue_append (absent : '.' ∉ cs) : pointValue (cs ++ '.' :: ds) =
    digitsValue (cs ++ ds) * 10 ^ (-(ds.length : Int)) := by
  rw [pointValue, before_append absent, behind_append absent]

theorem pointValue_of_not_mem (absent : '.' ∉ cs) : pointValue cs = digitsValue cs := by
  rw [pointValue, before_of_not_mem absent, behind_of_not_mem absent, List.append_nil]
  simp

theorem textValue_append (absent : 'e' ∉ cs) : textValue (cs ++ 'e' :: ds) =
    pointValue cs * 10 ^ exponentValue ds := by
  rw [textValue, before_append absent, behind_append absent]

theorem textValue_of_not_mem (absent : 'e' ∉ cs) : textValue cs = pointValue cs := by
  rw [textValue, before_of_not_mem absent, behind_of_not_mem absent]
  simp [exponentValue, digitsValue]

end

theorem isDigit_of_mem_natDigits {n : Nat} {c : Char} (mem : c ∈ natDigits n) : c.isDigit = true :=
  Nat.isDigit_of_mem_toDigits (by decide) (by decide) mem

theorem not_mem_natDigits {c : Char} (other : c.isDigit = false) (n : Nat) : c ∉ natDigits n := by
  intro mem
  rw [isDigit_of_mem_natDigits mem] at other
  cases other

theorem exists_natDigits (n : Nat) : ∃ c cs, natDigits n = c :: cs ∧ c.isDigit = true := by
  obtain ⟨c, cs, he⟩ := List.exists_cons_of_ne_nil (show natDigits n ≠ [] from Nat.toDigits_ne_nil)
  exact ⟨c, cs, he, isDigit_of_mem_natDigits (by rw [he]; exact List.mem_cons_self)⟩

theorem digitsValue_natDigits (n : Nat) : digitsValue (natDigits n) = n :=
  Nat.ofDigitChars_ten_toDigits

theorem natDigits_inj {m n : Nat} (same : natDigits m = natDigits n) : m = n := by
  rw [← digitsValue_natDigits m, same, digitsValue_natDigits]

theorem exponentValue_exponentChars (plusSign : Bool) (power : Int) :
    exponentValue (exponentChars plusSign power) = power := by
  cases power with
  | ofNat n =>
    rw [exponentChars]
    split
    · rw [exponentValue, digitsValue_natDigits]
      rfl
    · obtain ⟨c, cs, he, digit⟩ := exists_natDigits n
      have value := digitsValue_natDigits n
      rw [he] at value ⊢
      rw [exponentValue, value]
      · rfl
      · rintro _ ⟨⟩
        cases digit
      · rintro _ ⟨⟩
        cases digit
  | negSucc n =>
    rw [exponentChars, exponentValue, digitsValue_natDigits]
    rfl

namespace Digits

theorem length_natDigits_pos (d : Digits) : 0 < (natDigits d.value).length :=
  List.length_pos_iff.mpr Nat.toDigits_ne_nil

theorem not_mem_zeros {c : Char} (other : c.isDigit = false) (n : Nat) : c ∉ List.replicate n '0' := by
  intro mem
  rw [List.eq_of_mem_replicate mem] at other
  cases other

theorem exists_positional (d : Digits) : ∃ whole fraction : List Char,
    d.positional = whole ++ '.' :: fraction ∧
      (∀ c : Char, c.isDigit = false → c ∉ whole ∧ c ∉ fraction) ∧
      (digitsValue (whole ++ fraction) : ℚ) * 10 ^ (-(fraction.length : Int)) = d.toRat := by
  have length := d.length_natDigits_pos
  have value := digitsValue_natDigits d.value
  have absent {c : Char} (other : c.isDigit = false) := not_mem_natDigits other d.value
  simp only [positional]
  split
  · rename_i whole
    refine ⟨natDigits d.value ++ List.replicate d.exponent.toNat '0', ['0'], rfl, ?_, ?_⟩
    · intro c other
      refine ⟨?_, not_mem_zeros other 1⟩
      rw [List.mem_append, not_or]
      exact ⟨absent other, not_mem_zeros other _⟩
    · have shifted : digitsValue (natDigits d.value ++ List.replicate d.exponent.toNat '0' ++ ['0']) =
          10 * (10 ^ d.exponent.toNat * d.value) := by
        rw [digitsValue, Nat.ofDigitChars_append, Nat.ofDigitChars_append,
          Nat.ofDigitChars_replicate_zero, ← digitsValue, value]
        rfl
      obtain ⟨k, he⟩ := Int.eq_ofNat_of_zero_le whole
      rw [shifted, toRat, he]
      simp
      ring
  · split
    · rename_i negative power
      have split := List.take_append_drop (d.power.toNat + 1) (natDigits d.value)
      refine ⟨_, _, rfl, ?_, ?_⟩
      · intro c other
        exact ⟨fun mem => absent other (List.mem_of_mem_take mem),
          fun mem => absent other (List.mem_of_mem_drop mem)⟩
      · rw [split, value, List.length_drop, toRat]
        rw [Digits.power] at power ⊢
        congr 2
        omega
    · rename_i negative power
      refine ⟨['0'], List.replicate (-d.power - 1).toNat '0' ++ natDigits d.value, rfl, ?_, ?_⟩
      · intro c other
        refine ⟨not_mem_zeros other 1, ?_⟩
        rw [List.mem_append, not_or]
        exact ⟨not_mem_zeros other _, absent other⟩
      · have padded : digitsValue
            (['0'] ++ (List.replicate (-d.power - 1).toNat '0' ++ natDigits d.value)) = d.value := by
          rw [digitsValue, Nat.ofDigitChars_append, Nat.ofDigitChars_append,
            Nat.ofDigitChars_replicate_zero]
          exact value
        rw [padded, List.length_append, List.length_replicate, toRat]
        rw [Digits.power] at power ⊢
        congr 2
        omega

theorem textValue_positional (d : Digits) : textValue d.positional = d.toRat := by
  obtain ⟨whole, fraction, he, absent, value⟩ := d.exists_positional
  have power : 'e' ∉ whole ++ '.' :: fraction := by
    obtain ⟨inWhole, inFraction⟩ := absent 'e' rfl
    simp [inWhole, inFraction]
  rw [he, textValue_of_not_mem power, pointValue_append (absent '.' rfl).1, value]

theorem textValue_scientific (plusSign : Bool) (d : Digits) :
    textValue (d.scientific plusSign) = d.toRat := by
  have length := d.length_natDigits_pos
  have value := digitsValue_natDigits d.value
  have absent {c : Char} (other : c.isDigit = false) := not_mem_natDigits other d.value
  simp only [scientific]
  split
  · rename_i first second rest he
    have point := absent (c := '.') rfl
    have power := absent (c := 'e') rfl
    rw [he] at length value point power
    simp only [List.mem_cons, not_or] at point power
    rw [textValue_append (by simp [power]), exponentValue_exponentChars]
    rw [show first :: '.' :: second :: rest = [first] ++ '.' :: second :: rest from rfl,
      pointValue_append (by simp [point]), List.singleton_append, value, toRat, mul_assoc,
      ← zpow_add₀ (by norm_num)]
    congr 2
    rw [Digits.power, he]
    simp only [List.length_cons]
    push_cast
    ring
  · rename_i short
    rw [textValue_append (absent rfl), exponentValue_exponentChars, pointValue_of_not_mem (absent rfl),
      value, toRat]
    congr 2
    rw [Digits.power]
    have one : (natDigits d.value).length = 1 := by
      obtain ⟨first, rest, he, _⟩ := exists_natDigits d.value
      cases rest with
      | nil => rw [he, List.length_singleton]
      | cons second rest => exact absurd he (short first second rest)
    rw [one]
    ring

theorem exists_head_positional (d : Digits) : ∃ c cs, d.positional = c :: cs ∧ c.isDigit = true := by
  obtain ⟨c, cs, he, digit⟩ := exists_natDigits d.value
  simp only [positional, he]
  split
  · exact ⟨c, _, rfl, digit⟩
  · split
    · exact ⟨c, _, rfl, digit⟩
    · exact ⟨'0', _, rfl, rfl⟩

theorem exists_head_scientific (plusSign : Bool) (d : Digits) :
    ∃ c cs, d.scientific plusSign = c :: cs ∧ c.isDigit = true := by
  obtain ⟨c, cs, he, digit⟩ := exists_natDigits d.value
  simp only [scientific, he]
  cases cs with
  | nil => exact ⟨c, _, rfl, digit⟩
  | cons second rest => exact ⟨c, _, rfl, digit⟩

end Digits

def signChars (x : Float) : List Char := if UInt64.size / 2 ≤ x.toBits.toNat then ['-'] else []

theorem Notation.exists_unsigned (style : Notation) (x : Float) : ∃ c cs,
    style.finiteChars x = signChars x ++ c :: cs ∧ c.isDigit = true ∧
      textValue (c :: cs) = (Dyadic.ofFloat x).digits.toRat := by
  simp only [finiteChars]
  split
  · rename_i zero
    refine ⟨'0', ['.', '0'], rfl, rfl, ?_⟩
    rw [Dyadic.digits, if_pos zero]
    exact Digits.textValue_positional ⟨0, 0⟩
  · rename_i nonzero
    rw [Dyadic.digits, if_neg nonzero]
    generalize (Dyadic.ofFloat x).shortest = d
    cases style.lowest ≤ d.power && d.power < style.limit with
    | true =>
      obtain ⟨c, cs, he, digit⟩ := d.exists_head_positional
      exact ⟨c, cs, by rw [← he]; rfl, digit, by rw [← he, d.textValue_positional]⟩
    | false =>
      obtain ⟨c, cs, he, digit⟩ := d.exists_head_scientific style.plusSign
      exact ⟨c, cs, by rw [← he]; rfl, digit, by rw [← he, d.textValue_scientific]⟩

theorem Notation.finiteChars_inj (style : Notation) {x y : Float}
    (same : style.finiteChars x = style.finiteChars y) : x = y := by
  obtain ⟨c, cs, he, digit, value⟩ := style.exists_unsigned x
  obtain ⟨c', cs', he', digit', value'⟩ := style.exists_unsigned y
  rw [he, he'] at same
  have apart {c c' : Char} {cs cs' : List Char} (digit : c'.isDigit = true) : '-' :: c :: cs ≠ c' :: cs' := by
    rintro ⟨⟩
    cases digit
  have unsigned : (UInt64.size / 2 ≤ x.toBits.toNat ↔ UInt64.size / 2 ≤ y.toBits.toNat) ∧
      c :: cs = c' :: cs' := by
    simp only [signChars] at same
    split at same <;> split at same
    · rename_i negative negative'
      exact ⟨iff_of_true negative negative', List.append_cancel_left same⟩
    · exact absurd same (apart digit')
    · exact absurd same.symm (apart digit)
    · rename_i positive positive'
      exact ⟨iff_of_false positive positive', same⟩
  refine Dyadic.eq_of_ofFloat unsigned.1 ?_
  refine (Dyadic.canonical_ofFloat x).digits_inj (Dyadic.canonical_ofFloat y) ?_
  rw [← value, ← value', unsigned.2]

end NestedTx.Decimal

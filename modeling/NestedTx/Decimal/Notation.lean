import NestedTx.Decimal.Shortest

namespace NestedTx.Decimal

/-- A number is written positionally when the power of ten of its first digit is at least `lowest`
and below `limit`. -/
structure Notation where
  lowest : Int
  limit : Int
  plusSign : Bool

def natDigits (n : Nat) : List Char := Nat.toDigits 10 n

def exponentChars (plusSign : Bool) (power : Int) : List Char :=
  match power with
  | .ofNat n => if plusSign then '+' :: natDigits n else natDigits n
  | .negSucc n => '-' :: natDigits (n + 1)

namespace Digits

def power (d : Digits) : Int :=
  d.exponent + (natDigits d.value).length - 1

def positional (d : Digits) : List Char :=
  let digits := natDigits d.value
  if 0 ≤ d.exponent then digits ++ List.replicate d.exponent.toNat '0' ++ ['.', '0']
  else if 0 ≤ d.power then
    let whole := d.power.toNat + 1
    digits.take whole ++ '.' :: digits.drop whole
  else ['0', '.'] ++ List.replicate (-d.power - 1).toNat '0' ++ digits

def scientific (plusSign : Bool) (d : Digits) : List Char :=
  let mantissa := match natDigits d.value with
    | first :: second :: rest => first :: '.' :: second :: rest
    | digits => digits
  mantissa ++ 'e' :: exponentChars plusSign d.power

end Digits

def Notation.finiteChars (style : Notation) (x : Float) : List Char :=
  let sign := if UInt64.size / 2 ≤ x.toBits.toNat then ['-'] else []
  let magnitude := Dyadic.ofFloat x
  if magnitude.significand = 0 then sign ++ ['0', '.', '0']
  else
    let digits := magnitude.shortest
    sign ++
      if style.lowest ≤ digits.power && digits.power < style.limit then digits.positional
      else digits.scientific style.plusSign

def Notation.render (style : Notation) (x : Float) : String :=
  if x.isNaN then "NaN"
  else if x.isInf then if x < 0 then "-inf" else "inf"
  else String.ofList (style.finiteChars x)

def diagnostic : Notation := ⟨-4, 16, false⟩

end NestedTx.Decimal

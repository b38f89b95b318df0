/-!
The shortest decimal form of a binary number. A positive number `significand * 2 ^ exponent` owns
the interval of reals that round to it; of all decimals in that interval, `Dyadic.shortest` takes
one with the fewest digits, and of those the one nearest to the number itself.
-/

namespace NestedTx.Decimal

structure Dyadic where
  significand : Nat
  exponent : Int
deriving DecidableEq, Repr

structure Digits where
  value : Nat
  exponent : Int
deriving DecidableEq, Repr

/-- The two natural numbers whose order is the order of `a * 10 ^ e` and `b * 2 ^ r`. -/
def sides (a : Nat) (e : Int) (b : Nat) (r : Int) : Nat × Nat :=
  (a * Nat.pow 10 e.toNat * Nat.pow 2 (-r).toNat, b * Nat.pow 2 r.toNat * Nat.pow 10 (-e).toNat)

def decimalLe (a : Nat) (e : Int) (b : Nat) (r : Int) : Bool :=
  (sides a e b r).1 ≤ (sides a e b r).2

def decimalLt (a : Nat) (e : Int) (b : Nat) (r : Int) : Bool :=
  (sides a e b r).1 < (sides a e b r).2

namespace Dyadic

def leadingBit : Nat := 0x10000000000000

def ofFloat (x : Float) : Dyadic :=
  let bits : Nat := x.toBits.toNat
  let field : Nat := bits / leadingBit % 0x800
  let fraction : Nat := bits % leadingBit
  if field = 0 then ⟨fraction, -1074⟩ else ⟨leadingBit + fraction, (field : Int) - 1075⟩

/-- The lower end of the interval that rounds to the number, in units of a quarter of its last
place: half a place below, or a quarter where the next smaller number is closer. -/
def lowerEnd (x : Dyadic) : Nat :=
  if x.significand = leadingBit && x.exponent ≠ -1074 then 4 * x.significand - 1
  else 4 * x.significand - 2

def upperEnd (x : Dyadic) : Nat := 4 * x.significand + 2

/-- Whether a decimal rounds to the number. The ends belong to the interval exactly when the
significand is even. -/
def owns (x : Dyadic) (d : Digits) : Bool :=
  let unit := x.exponent - 2
  if x.significand % 2 = 0 then
    !decimalLt d.value d.exponent x.lowerEnd unit && decimalLe d.value d.exponent x.upperEnd unit
  else
    !decimalLe d.value d.exponent x.lowerEnd unit && decimalLt d.value d.exponent x.upperEnd unit

def floorAt (x : Dyadic) (e : Int) : Nat :=
  (x.significand * Nat.pow 2 x.exponent.toNat * Nat.pow 10 (-e).toNat) /
    (Nat.pow 2 (-x.exponent).toNat * Nat.pow 10 e.toNat)

def leadingPower (x : Dyadic) : Int :=
  let guess : Int := ((x.significand.log2 : Int) + x.exponent) * 30103 / 100000
  if x.floorAt (guess + 1) ≠ 0 then guess + 1
  else if x.floorAt guess ≠ 0 then guess
  else guess - 1

/-- Whether `d + 1` is nearer to the number than `d`, both in units of `10 ^ e`; halfway between
them, the even one is taken. -/
def nearerAbove (x : Dyadic) (d : Nat) (e : Int) : Bool :=
  let middle := 2 * d + 1
  let twice := x.exponent + 1
  decimalLt middle e x.significand twice ||
    (decimalLe middle e x.significand twice && d % 2 = 1)

def atGrid? (x : Dyadic) (e : Int) : Option Digits :=
  let d := x.floorAt e
  let below : Digits := ⟨d, e⟩
  let above : Digits := ⟨d + 1, e⟩
  match x.owns below, x.owns above with
  | true, true => some (if x.nearerAbove d e then above else below)
  | true, false => some below
  | false, true => some above
  | false, false => none

def searchFrom (x : Dyadic) (e : Int) : Nat → Digits
  | 0 => ⟨x.floorAt e, e⟩
  | fuel + 1 =>
    match x.atGrid? e with
    | some d => d
    | none => x.searchFrom (e - 1) fuel

end Dyadic

def Digits.strip (d : Digits) : Nat → Digits
  | 0 => d
  | fuel + 1 =>
    if d.value ≠ 0 && d.value % 10 = 0 then Digits.strip ⟨d.value / 10, d.exponent + 1⟩ fuel else d

def Dyadic.shortest (x : Dyadic) : Digits :=
  (x.searchFrom x.leadingPower 17).strip 17

end NestedTx.Decimal

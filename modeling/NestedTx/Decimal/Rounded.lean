import NestedTx.Decimal.Shortest

namespace NestedTx.Decimal

inductive Magnitude
  | finite (x : Dyadic)
  | infinite
  | undefined
deriving DecidableEq, Repr

abbrev Rounding := Dyadic → Magnitude

namespace Dyadic

def overflows (x : Dyadic) : Bool :=
  x.significand ≠ 0 && 1024 ≤ (x.significand.log2 : Int) + x.exponent

def toPrecision (x : Dyadic) : Dyadic :=
  let excess := x.significand.log2 + 1 - 53
  if excess = 0 then x
  else
    let kept := x.significand / Nat.pow 2 excess
    let lost := x.significand % Nat.pow 2 excess
    let half := Nat.pow 2 (excess - 1)
    let up := half < lost || (lost = half && kept % 2 = 1)
    ⟨if up then kept + 1 else kept, x.exponent + excess⟩

def floor (x : Dyadic) : Nat :=
  x.significand * Nat.pow 2 x.exponent.toNat / Nat.pow 2 (-x.exponent).toNat

end Dyadic

def exact : Rounding := fun x => if x.overflows then .infinite else .finite x

def nearest : Rounding := fun x => exact x.toPrecision

namespace Magnitude

def ofFloat (x : Float) : Magnitude :=
  if x.isFinite then .finite (.ofFloat x) else if x.isNaN then .undefined else .infinite

def ofNat (round : Rounding) (n : Nat) : Magnitude := round ⟨n, 0⟩

def times (round : Rounding) : Magnitude → Magnitude → Magnitude
  | undefined, _ => .undefined
  | _, undefined => .undefined
  | finite x, finite y => round ⟨x.significand * y.significand, x.exponent + y.exponent⟩
  | finite x, infinite => if x.significand = 0 then .undefined else .infinite
  | infinite, finite y => if y.significand = 0 then .undefined else .infinite
  | infinite, infinite => .infinite

def powerFrom (round : Rounding) (product base : Magnitude) (n : Nat) : Magnitude :=
  let product := if n % 2 = 1 then times round product base else product
  if n / 2 = 0 then product else powerFrom round product (times round base base) (n / 2)
termination_by n
decreasing_by omega

def power (round : Rounding) (base : Magnitude) (n : Nat) : Magnitude :=
  powerFrom round (.finite ⟨1, 0⟩) base n

def floorUpTo (bound : Nat) : Magnitude → Nat
  | finite x => min x.floor bound
  | infinite => bound
  | undefined => bound

end Magnitude

end NestedTx.Decimal

namespace NestedTx

structure Duration where
  nanos : Nat
deriving DecidableEq, Repr, Inhabited

namespace Duration

def zero : Duration := ⟨0⟩

def longest : Duration := ⟨UInt64.size * 1000000000 - 1⟩

def ofSeconds (seconds : Nat) : Duration := ⟨seconds * 1000000000⟩

def ofMillis (millis : Nat) : Duration := ⟨millis * 1000000⟩

def millis (d : Duration) : Nat := d.nanos / 1000000 % UInt64.size

def isZero (d : Duration) : Bool := d.nanos = 0

def add (a b : Duration) : Duration := ⟨a.nanos + b.nanos⟩

instance : Add Duration := ⟨add⟩

instance : LT Duration := ⟨fun a b => a.nanos < b.nanos⟩

instance (a b : Duration) : Decidable (a < b) := inferInstanceAs (Decidable (a.nanos < b.nanos))

@[simp] theorem nanos_add (a b : Duration) : (a + b).nanos = a.nanos + b.nanos := rfl

theorem lt_iff {a b : Duration} : a < b ↔ a.nanos < b.nanos := Iff.rfl

def decimalText (nanos unit places : Nat) : String :=
  let whole := toString (nanos / unit)
  let digits := Nat.toDigits 10 (nanos % unit)
  let padded := List.replicate (places - digits.length) '0' ++ digits
  let fraction := (padded.reverse.dropWhile (· == '0')).reverse
  if fraction.isEmpty then whole else whole ++ "." ++ String.ofList fraction

def describe (d : Duration) : String :=
  if 1000000000 ≤ d.nanos then decimalText d.nanos 1000000000 9 ++ "s"
  else if 1000000 ≤ d.nanos then decimalText d.nanos 1000000 6 ++ "ms"
  else if 1000 ≤ d.nanos then decimalText d.nanos 1000 3 ++ "µs"
  else toString d.nanos ++ "ns"

end Duration

end NestedTx

import NestedTx.Decimal.Rounded
import NestedTx.Duration
import NestedTx.Json.Printer
import NestedTx.Json.Record

namespace NestedTx

structure Backoff where
  initial : Nat
  multiplier : Float
  cap : Nat
  budget : Nat
deriving DecidableEq

namespace Backoff

def standard : Backoff := ⟨500, 1.5, 60000, 900000⟩

def growth (multiplier : Float) : Float := if multiplier > 1 then multiplier else 1

def withInitial (wait : Duration) (policy : Backoff) : Backoff := { policy with initial := wait.millis }

def withMultiplier (multiplier : Float) (policy : Backoff) : Backoff :=
  { policy with multiplier := growth multiplier }

def withCap (wait : Duration) (policy : Backoff) : Backoff := { policy with cap := wait.millis }

def withBudget (time : Duration) (policy : Backoff) : Backoff := { policy with budget := time.millis }

def largestExponent : Nat := UInt32.size / 2 - 1

def longestWait : Nat := UInt64.size - 1

/-- The wait behind the failed attempt number `n`, counted from 0, with products rounded as
`round` says. -/
def intervalWith (round : Decimal.Rounding) (policy : Backoff) (n : Nat) : Nat :=
  let base := Decimal.Magnitude.ofFloat (growth policy.multiplier)
  let scaled := Decimal.Magnitude.times round (.ofNat round policy.initial)
    (base.power round (min n largestExponent))
  scaled.floorUpTo ((Decimal.Magnitude.ofNat round policy.cap).floorUpTo longestWait)

def interval (policy : Backoff) (n : Nat) : Nat := intervalWith Decimal.nearest policy n

def fields : List (Json.Field Backoff) :=
  [.of "initial_interval_ms" Json.readNat fun policy n => { policy with initial := n },
    .of "multiplier" Json.readFloat fun policy x => { policy with multiplier := x },
    .of "max_interval_ms" Json.readNat fun policy n => { policy with cap := n },
    .of "max_elapsed_ms" Json.readNat fun policy n => { policy with budget := n }]

def read (text : String) : Except Json.ReadError Backoff :=
  (Json.readRecord fields standard).run text

def toJson (policy : Backoff) : Json.Value :=
  .ofMembers
    [("initial_interval_ms", .ofNat policy.initial),
      ("multiplier", .number (.real policy.multiplier)),
      ("max_interval_ms", .ofNat policy.cap),
      ("max_elapsed_ms", .ofNat policy.budget)]

end Backoff

end NestedTx

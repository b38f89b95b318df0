import NestedTx.Reachability.Backoff
import NestedTx.Server.Error

namespace NestedTx

structure Reached where
  attempts : Nat
  waits : List Nat
  elapsed : Duration
deriving DecidableEq, Repr

structure Unreachable where
  attempts : Nat
  elapsed : Duration
  lastError : DriverError
deriving DecidableEq, Repr

def Unreachable.message (fault : Unreachable) : String :=
  "database unreachable after " ++ toString fault.attempts ++ " attempts in " ++
    fault.elapsed.describe ++ ": " ++ fault.lastError.message

namespace Backoff

variable {σ : Type}

/-- Try something until it answers or the budget is used up, `patience` times at most; there is no
outcome if that was not enough. So far there were the waits in `waits`. Time passes while waiting, and
besides until attempt number `n` is over as `latency n` says. -/
def reachFrom (round : Decimal.Rounding) (policy : Backoff) (latency : Nat → Duration)
    (attempt : σ → Except DriverError Unit × σ) :
    Nat → List Nat → Duration → σ → Option (Except Unreachable Reached × σ)
  | 0, _, _, _ => none
  | patience + 1, waits, elapsed, s =>
    let attempts := waits.length + 1
    let elapsed := elapsed + latency waits.length
    match attempt s with
    | (.ok _, s) => some (.ok ⟨attempts, waits, elapsed⟩, s)
    | (.error error, s) =>
      let wait := policy.intervalWith round waits.length
      if Duration.ofMillis policy.budget < elapsed + .ofMillis wait then
        some (.error ⟨attempts, elapsed, error⟩, s)
      else
        reachFrom round policy latency attempt patience (waits ++ [wait]) (elapsed + .ofMillis wait) s

variable {round : Decimal.Rounding} {policy : Backoff} {latency : Nat → Duration}
  {attempt : σ → Except DriverError Unit × σ}

theorem isSome_reachFrom {unit : Nat}
    (slow : ∀ n, unit ≤ (latency n).nanos + (Duration.ofMillis (policy.intervalWith round n)).nanos)
    {patience : Nat} {waits : List Nat} {elapsed : Duration}
    (within : elapsed.nanos ≤ (Duration.ofMillis policy.budget).nanos)
    (enough : (Duration.ofMillis policy.budget).nanos < elapsed.nanos + unit * patience) (s : σ) :
    (reachFrom round policy latency attempt patience waits elapsed s).isSome = true := by
  induction patience generalizing waits elapsed s with
  | zero => omega
  | succ patience ih =>
    simp only [reachFrom]
    split
    · rfl
    · split
      · rfl
      · rename_i fits
        have took := slow waits.length
        rw [Duration.lt_iff, Nat.not_lt] at fits
        apply ih fits
        simp only [Duration.nanos_add]
        rw [Nat.mul_succ] at enough
        omega

def patience (policy : Backoff) : Nat := (Duration.ofMillis policy.budget).nanos + 1

theorem isSome_reach (policy : Backoff) (attempt : σ → Except DriverError Unit × σ) (s : σ) :
    (reachFrom Decimal.nearest policy (fun _ => ⟨1⟩) attempt policy.patience [] .zero s).isSome =
      true := by
  apply isSome_reachFrom fun _ => Nat.le_add_right 1 _
  · exact Nat.zero_le _
  · show _ < 0 + 1 * (_ + 1)
    omega

def reach (policy : Backoff) (attempt : σ → Except DriverError Unit × σ) (s : σ) :
    Except Unreachable Reached × σ :=
  (reachFrom Decimal.nearest policy (fun _ => ⟨1⟩) attempt policy.patience [] .zero s).get
    (policy.isSome_reach attempt s)

def announce (report : Unreachable → σ → σ) :
    Except Unreachable Reached × σ → Except Unreachable Reached × σ
  | (.ok reached, s) => (.ok reached, s)
  | (.error fault, s) => (.error fault, report fault s)

end Backoff

end NestedTx

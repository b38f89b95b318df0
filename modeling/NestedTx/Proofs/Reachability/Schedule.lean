import NestedTx.Database.Reachability
import NestedTx.Proofs.Reachability.Backoff

namespace NestedTx

namespace Backoff

section

variable {σ : Type} (round : Decimal.Rounding) (policy : Backoff) (clock : Nat → Duration)
  (attempt : σ → Except DriverError Unit × σ) (s : σ)

def after : Nat → σ
  | 0 => s
  | n + 1 => (attempt (after n)).2

def answer (n : Nat) : Except DriverError Unit := (attempt (after attempt s n)).1

def wait (n : Nat) : Duration := .ofMillis (policy.intervalWith round n)

def waits (n : Nat) : List Nat := (List.range n).map (policy.intervalWith round)

def earliest : Nat → Duration
  | 0 => .zero
  | n + 1 => clock n + policy.wait round n

def Steady : Prop := ∀ n, (clock n + policy.wait round n).nanos ≤ (clock (n + 1)).nanos

def reachAfter (n patience : Nat) : Option (Except Unreachable Reached × σ) :=
  reachFrom round policy (fun n => ⟨(clock n).nanos - (policy.earliest round clock n).nanos⟩) attempt
    patience (policy.waits round n) (policy.earliest round clock n) (after attempt s n)

def Fits (n : Nat) : Prop :=
  (clock n + policy.wait round n).nanos ≤ (Duration.ofMillis policy.budget).nanos

structure GoesOn (n : Nat) : Prop where
  failed : ∃ error, answer attempt s n = .error error
  fits : policy.Fits round clock n

inductive Ends (n : Nat) : Except Unreachable Reached → Prop
  | reached (ok : answer attempt s n = .ok ()) :
    Ends n (.ok ⟨n + 1, policy.waits round n, clock n⟩)
  | exhausted {error : DriverError} (failed : answer attempt s n = .error error)
    (late : ¬policy.Fits round clock n) : Ends n (.error ⟨n + 1, clock n, error⟩)

end

variable {σ : Type} {round : Decimal.Rounding} {policy : Backoff} {clock : Nat → Duration}
  {attempt : σ → Except DriverError Unit × σ} {s : σ}

theorem length_waits (n : Nat) : (policy.waits round n).length = n := by simp [waits]

theorem waits_succ (n : Nat) :
    policy.waits round (n + 1) = policy.waits round n ++ [policy.intervalWith round n] := by
  simp [waits, List.range_succ]

theorem Steady.reading (steady : policy.Steady round clock) (n : Nat) :
    policy.earliest round clock n +
      ⟨(clock n).nanos - (policy.earliest round clock n).nanos⟩ = clock n := by
  have le : (policy.earliest round clock n).nanos ≤ (clock n).nanos := by
    cases n with
    | zero => exact Nat.zero_le _
    | succ n => exact steady n
  exact congrArg Duration.mk (Nat.add_sub_cancel' le)

theorem fits_iff {n : Nat} : policy.Fits round clock n ↔
    ¬Duration.ofMillis policy.budget < clock n + .ofMillis (policy.intervalWith round n) :=
  Nat.not_lt.symm

theorem goesOn_or_ends (n : Nat) : policy.GoesOn round clock attempt s n ∨
    ∃ result, policy.Ends round clock attempt s n result := by
  cases answered : answer attempt s n with
  | ok _ => exact .inr ⟨_, .reached answered⟩
  | error error =>
    by_cases fits : policy.Fits round clock n
    · exact .inl ⟨⟨error, answered⟩, fits⟩
    · exact .inr ⟨_, .exhausted answered fits⟩

theorem attempt_after {n : Nat} {result : Except DriverError Unit}
    (answered : answer attempt s n = result) :
    attempt (after attempt s n) = (result, after attempt s (n + 1)) := Prod.ext answered rfl

theorem GoesOn.step (steady : policy.Steady round clock) {n : Nat}
    (goesOn : policy.GoesOn round clock attempt s n) (patience : Nat) :
    policy.reachAfter round clock attempt s n (patience + 1) =
      policy.reachAfter round clock attempt s (n + 1) patience := by
  obtain ⟨error, failed⟩ := goesOn.failed
  rw [reachAfter, reachFrom, attempt_after failed]
  simp only [length_waits, steady.reading]
  rw [if_neg (fits_iff.mp goesOn.fits), ← waits_succ]
  rfl

theorem Ends.step (steady : policy.Steady round clock) {n : Nat} {result : Except Unreachable Reached}
    (ends : policy.Ends round clock attempt s n result) (patience : Nat) :
    policy.reachAfter round clock attempt s n (patience + 1) =
      some (result, after attempt s (n + 1)) := by
  cases ends with
  | reached ok =>
    rw [reachAfter, reachFrom, attempt_after ok]
    simp only [length_waits, steady.reading]
  | exhausted failed late =>
    rw [reachAfter, reachFrom, attempt_after failed]
    simp only [length_waits, steady.reading]
    rw [if_pos (not_not.mp fun fits => late (fits_iff.mpr fits))]

theorem Steady.outcome (steady : policy.Steady round clock) (n patience : Nat) :
    (policy.reachAfter round clock attempt s n patience = none ∧
      ∀ i < patience, policy.GoesOn round clock attempt s (n + i)) ∨
    ∃ k < patience, (∀ i < k, policy.GoesOn round clock attempt s (n + i)) ∧
      ∃ result, policy.Ends round clock attempt s (n + k) result ∧
        policy.reachAfter round clock attempt s n patience =
          some (result, after attempt s (n + k + 1)) := by
  induction patience generalizing n with
  | zero => exact .inl ⟨rfl, nofun⟩
  | succ patience ih =>
    rcases goesOn_or_ends n with goesOn | ⟨result, ends⟩
    · have shift (i : Nat) : n + 1 + i = n + (i + 1) := by omega
      have first {k : Nat} (rest : ∀ i < k, policy.GoesOn round clock attempt s (n + 1 + i)) :
          ∀ i < k + 1, policy.GoesOn round clock attempt s (n + i) := by
        intro i below
        cases i with
        | zero => exact goesOn
        | succ i => exact shift i ▸ rest i (Nat.lt_of_succ_lt_succ below)
      rw [goesOn.step steady]
      rcases ih (n + 1) with ⟨none, rest⟩ | ⟨k, below, rest, result, ends, did⟩
      · exact .inl ⟨none, first rest⟩
      · rw [shift] at ends did
        exact .inr ⟨k + 1, Nat.succ_lt_succ below, first rest, result, ends, did⟩
    · exact .inr ⟨0, Nat.succ_pos _, nofun, result, ends, ends.step steady patience⟩

theorem Steady.patient (steady : policy.Steady round clock) {n patience more : Nat}
    (le : patience ≤ more) {outcome : Except Unreachable Reached × σ}
    (did : policy.reachAfter round clock attempt s n patience = some outcome) :
    policy.reachAfter round clock attempt s n more = some outcome := by
  induction patience generalizing n more with
  | zero => cases did
  | succ patience ih =>
    obtain ⟨more, rfl⟩ : ∃ m, more = m + 1 := ⟨more - 1, by omega⟩
    rcases goesOn_or_ends n with goesOn | ⟨result, ends⟩
    · rw [goesOn.step steady] at did ⊢
      exact ih (Nat.le_of_succ_le_succ le) did
    · rw [ends.step steady] at did ⊢
      exact did

theorem Steady.last (steady : policy.Steady round clock) {patience : Nat}
    {result : Except Unreachable Reached} {s' : σ}
    (did : policy.reachAfter round clock attempt s 0 patience = some (result, s')) :
    ∃ k, (∀ i < k, policy.GoesOn round clock attempt s i) ∧
      policy.Ends round clock attempt s k result ∧ s' = after attempt s (k + 1) := by
  rcases steady.outcome 0 patience with ⟨none, _⟩ | ⟨k, _, before, result', ends, did'⟩
  · cases none.symm.trans did
  · simp only [Nat.zero_add] at before ends did'
    cases did.symm.trans did'
    exact ⟨k, before, ends, rfl⟩

def begun (patience : Nat) : Option (Except Unreachable Reached × σ) → Nat
  | none => patience
  | some (.ok reached, _) => reached.attempts - 1
  | some (.error fault, _) => fault.attempts - 1

theorem Steady.goesOn (steady : policy.Steady round clock) {patience i : Nat}
    (below : i < begun patience (policy.reachAfter round clock attempt s 0 patience)) :
    policy.GoesOn round clock attempt s i := by
  rcases steady.outcome 0 patience with ⟨none, all⟩ | ⟨k, _, before, result, ends, did⟩
  · rw [none] at below
    simpa only [Nat.zero_add] using all i below
  · rw [did] at below
    have less : i < k := by
      cases ends <;> simpa [begun] using below
    simpa only [Nat.zero_add] using before i less

theorem Steady.sum_waits_le (steady : policy.Steady round clock) (n : Nat) :
    (policy.waits round n).sum * 1000000 ≤ (clock n).nanos := by
  induction n with
  | zero => simp [waits]
  | succ n ih =>
    have advances := steady n
    rw [Duration.nanos_add, wait, Duration.ofMillis] at advances
    rw [waits_succ, List.sum_append, List.sum_singleton, Nat.add_mul]
    exact (Nat.add_le_add_right ih _).trans advances

theorem Steady.within_budget (steady : policy.Steady round clock) {n : Nat}
    (fits : ∀ i < n, policy.Fits round clock i) : (policy.waits round n).sum ≤ policy.budget := by
  cases n with
  | zero => exact Nat.zero_le _
  | succ n =>
    have spent := steady.sum_waits_le n
    have last := fits n (Nat.lt_succ_self n)
    rw [Fits, Duration.nanos_add, wait, Duration.ofMillis, Duration.ofMillis] at last
    dsimp only at last
    rw [waits_succ, List.sum_append, List.sum_singleton]
    omega

theorem le_sum_waits (positive : ∀ i, 1 ≤ policy.intervalWith round i) (n : Nat) :
    n ≤ (policy.waits round n).sum := by
  induction n with
  | zero => exact Nat.zero_le _
  | succ n ih =>
    have next := positive n
    rw [waits_succ, List.sum_append, List.sum_singleton]
    omega

theorem waits_exact (policy : Backoff) (n : Nat) :
    (policy.waits Decimal.exact n).Pairwise (· ≤ ·) ∧
      ∀ wait ∈ policy.waits Decimal.exact n, wait ≤ policy.cap := by
  constructor
  · rw [waits, List.pairwise_map]
    exact List.pairwise_lt_range.imp fun less => policy.intervalWith_mono less.le
  · intro wait mem
    obtain ⟨i, _, rfl⟩ := List.mem_map.mp mem
    exact policy.intervalWith_le_cap i

def ticking (round : Decimal.Rounding) (policy : Backoff) : Nat → Duration
  | 0 => ⟨1⟩
  | n + 1 => ticking round policy n + policy.wait round n + ⟨1⟩

theorem steady_ticking (round : Decimal.Rounding) (policy : Backoff) :
    policy.Steady round (policy.ticking round) := fun _ => Nat.le_succ _

theorem ticking_eq (n : Nat) : (policy.ticking round n).nanos =
    (policy.earliest round (policy.ticking round) n).nanos + 1 := by
  cases n <;> rfl

theorem reach_eq (policy : Backoff) (attempt : σ → Except DriverError Unit × σ) (s : σ) :
    policy.Steady Decimal.nearest (policy.ticking Decimal.nearest) ∧
      policy.reachAfter Decimal.nearest (policy.ticking Decimal.nearest) attempt s 0
        policy.patience = some (policy.reach attempt s) := by
  refine ⟨steady_ticking _ policy, ?_⟩
  have latencies : (fun n => Duration.mk ((policy.ticking Decimal.nearest n).nanos -
      (policy.earliest Decimal.nearest (policy.ticking Decimal.nearest) n).nanos)) =
        fun _ => ⟨1⟩ := by
    funext n
    rw [ticking_eq, Nat.add_sub_cancel_left]
  rw [reachAfter, latencies, reach, Option.some_get]
  rfl

end Backoff

namespace Database

def alarmsOf : Except Unreachable Reached → List Alarm
  | .ok _ => []
  | .error fault => [.unreachable fault]

theorem ping_alarms (target : PingTarget) (db : Database) : (db.ping target).2.alarms = db.alarms := by
  cases target with
  | pool =>
    simp only [ping, pingPool]
    split <;> rfl
  | connection ref =>
    simp only [ping, pingConnection]
    split <;> rfl

theorem alarms_after (target : PingTarget) (db : Database) (n : Nat) :
    (Backoff.after (fun db => db.ping target) db n).alarms = db.alarms := by
  induction n with
  | zero => rfl
  | succ n ih => exact (ping_alarms target _).trans ih

theorem alarms_announce (outcome : Except Unreachable Reached) (db : Database) :
    (Backoff.announce (fun fault => raise (.unreachable fault)) (outcome, db)).1 = outcome ∧
      (Backoff.announce (fun fault => raise (.unreachable fault)) (outcome, db)).2.alarms =
        db.alarms ++ alarmsOf outcome := by
  cases outcome with
  | ok reached => exact ⟨rfl, (List.append_nil _).symm⟩
  | error fault => exact ⟨rfl, rfl⟩

end Database

namespace Backoff

variable {σ : Type} {round : Decimal.Rounding} {policy : Backoff} {clock : Nat → Duration}
  {attempt : σ → Except DriverError Unit × σ} {s : σ}

theorem alarms_of_reached (steady : policy.Steady round clock) {target : PingTarget}
    {db db' : Database} {patience : Nat} {outcome : Except Unreachable Reached}
    (did : policy.reachAfter round clock (fun db => db.ping target) db 0 patience =
      some (outcome, db')) : db'.alarms = db.alarms := by
  obtain ⟨k, _, _, rfl⟩ := steady.last did
  exact Database.alarms_after target db (k + 1)

theorem alarms_reach (policy : Backoff) (target : PingTarget) (db : Database) :
    (db.reach target policy).1 = (db.tryReach target policy).1 ∧
      (db.reach target policy).2.alarms =
        db.alarms ++ Database.alarmsOf (db.tryReach target policy).1 := by
  obtain ⟨steady, did⟩ := policy.reach_eq (fun db : Database => db.ping target) db
  rw [← Database.tryReach] at did
  rw [Database.reach]
  generalize db.tryReach target policy = result at did ⊢
  obtain ⟨outcome, db'⟩ := result
  rw [← alarms_of_reached steady did]
  exact Database.alarms_announce outcome db'

/-- However the attempts are answered and however the clock runs, as long as it advances by each wait:
something is reached with the first answer, after the waits of the policy between the attempts, or all
attempts failed and the next wait would have ended past the budget. No wait is begun that does, so the
budget bounds the sum of the waits, and the attempts as well if every wait is a millisecond at least.
In exact arithmetic the waits never get shorter, and none is longer than the cap. It is one alarm if
there was no answer, and none if there was. -/
theorem reached_on_schedule (round : Decimal.Rounding) (policy : Backoff) (clock : Nat → Duration)
    (attempt : σ → Except DriverError Unit × σ) (s : σ) (patience : Nat)
    (steady : policy.Steady round clock) :
    let did := policy.reachAfter round clock attempt s 0 patience
    let fails := fun i => ∃ error, answer attempt s i = .error error
    (∀ reached s', did = some (.ok reached, s') → ∃ failures,
      (∀ i < failures, fails i) ∧ answer attempt s failures = .ok () ∧
        reached.attempts = failures + 1 ∧ s' = after attempt s reached.attempts ∧
        reached.elapsed = clock failures ∧
        reached.waits = (List.range failures).map (policy.intervalWith round) ∧
        reached.waits.sum ≤ policy.budget ∧
        (round = Decimal.exact → reached.waits.Pairwise (· ≤ ·) ∧
          ∀ wait ∈ reached.waits, wait ≤ policy.cap)) ∧
    (∀ fault s', did = some (.error fault, s') → ∃ retries,
      fault.attempts = retries + 1 ∧ s' = after attempt s fault.attempts ∧
        (∀ i < fault.attempts, fails i) ∧
        answer attempt s retries = .error fault.lastError ∧ fault.elapsed = clock retries ∧
        ((List.range retries).map (policy.intervalWith round)).sum ≤ policy.budget ∧
        Duration.ofMillis policy.budget <
          fault.elapsed + .ofMillis (policy.intervalWith round retries)) ∧
    (∀ i < begun patience did, fails i ∧
      ¬Duration.ofMillis policy.budget < clock i + .ofMillis (policy.intervalWith round i)) ∧
    ((∀ i, 1 ≤ policy.intervalWith round i) → begun patience did ≤ policy.budget ∧
      (policy.budget < patience → did.isSome = true)) ∧
    (did.isSome = true → ∀ more, patience ≤ more →
      policy.reachAfter round clock attempt s 0 more = did) ∧
    (∀ target db outcome db',
      policy.reachAfter round clock (fun db => db.ping target) db 0 patience = some (outcome, db') →
        let announced := announce (fun fault => Database.raise (.unreachable fault)) (outcome, db')
        announced.1 = outcome ∧ announced.2.alarms = db.alarms ++ Database.alarmsOf outcome) ∧
    ∀ (db : Database) target,
      (db.reach target policy).1 = (db.tryReach target policy).1 ∧
        (db.reach target policy).2.alarms =
          db.alarms ++ Database.alarmsOf (db.tryReach target policy).1 := by
  intro did fails
  have goesOn {i : Nat} (below : i < begun patience did) := steady.goesOn below
  refine ⟨fun reached s' ok => ?_, fun fault s' failed => ?_, fun i below => ?_,
    fun positive => ?_, fun isSome more le => ?_, fun target db outcome db' did => ?_,
    fun db target => ?_⟩
  · obtain ⟨k, before, ends, rfl⟩ := steady.last ok
    cases ends with
    | reached answered =>
      refine ⟨k, fun i below => (before i below).failed, answered, rfl, rfl, rfl, rfl,
        steady.within_budget fun i below => (before i below).fits, ?_⟩
      rintro rfl
      exact policy.waits_exact k
  · obtain ⟨k, before, ends, rfl⟩ := steady.last failed
    cases ends with
    | exhausted refused late =>
      refine ⟨k, rfl, rfl, fun i below => ?_, refused, rfl,
        steady.within_budget fun i below => (before i below).fits, ?_⟩
      · rcases Nat.lt_succ_iff_lt_or_eq.mp below with less | rfl
        · exact (before i less).failed
        · exact ⟨_, refused⟩
      · exact not_not.mp fun fits => late (fits_iff.mpr fits)
  · exact ⟨(goesOn below).failed, fits_iff.mp (goesOn below).fits⟩
  · have bounded : begun patience did ≤ policy.budget :=
      (le_sum_waits positive _).trans (steady.within_budget fun i below => (goesOn below).fits)
    refine ⟨bounded, fun enough => ?_⟩
    cases outcome : did with
    | none =>
      rw [outcome] at bounded
      exact absurd enough (Nat.not_lt.mpr bounded)
    | some outcome => rfl
  · obtain ⟨outcome, did⟩ := Option.isSome_iff_exists.mp isSome
    exact (steady.patient le did).trans did.symm
  · have announced := Database.alarms_announce outcome db'
    rw [alarms_of_reached steady did] at announced
    exact announced
  · exact policy.alarms_reach target db

theorem reached_third :
    let policy : Backoff := ⟨100, 2, 1000, 900⟩
    let attempt : Nat → Except DriverError Unit × Nat :=
      fun n => (if n < 2 then .error .closed else .ok (), n + 1)
    let clock := policy.ticking Decimal.exact
    policy.Steady Decimal.exact clock ∧
      policy.reachAfter Decimal.exact clock attempt 0 0 5 =
        some (.ok ⟨3, [100, 200], ⟨300000003⟩⟩, 3) ∧
      [100, 200].sum ≤ policy.budget ∧ [100, 200].Pairwise (· ≤ ·) ∧
      (∀ wait ∈ [100, 200], wait ≤ policy.cap) := by
  intro policy attempt clock
  have steady : policy.Steady Decimal.exact clock := steady_ticking _ policy
  have did : policy.reachAfter Decimal.exact clock attempt 0 0 5 =
      some (.ok ⟨3, [100, 200], ⟨300000003⟩⟩, 3) := by decide +kernel
  obtain ⟨reached, _⟩ := reached_on_schedule Decimal.exact policy clock attempt 0 5 steady
  obtain ⟨_, _, _, _, _, _, _, within, sorted⟩ := reached _ _ did
  exact ⟨steady, did, within, sorted rfl⟩

end Backoff

end NestedTx

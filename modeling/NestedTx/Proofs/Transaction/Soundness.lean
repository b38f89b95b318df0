import NestedTx.Proofs.Transaction.Call

namespace NestedTx.Transaction

structure Sound (tx : Transaction) : Prop where
  carrier_eq_none : tx.carrier = none ↔ tx.carrierCommitted = true ∨ tx.rolledBack = true
  not_both : ¬(tx.carrierCommitted = true ∧ tx.rolledBack = true)
  carrierCommitted_iff : tx.carrierCommitted = true ↔ tx.outer = [] ∧ tx.status = .committed
  rolledBack_of_status : tx.status = .rolledBack → tx.rolledBack = true
  outer_ne_rolledBack : ∀ status ∈ tx.outer, status ≠ .rolledBack
  bottom : ∀ status, tx.outer.getLast? = some status → status = .pending ∨ status = .errored
  shown_eq : tx.shown = tx.status

variable {tx tx' : Transaction} {backend backend' : Backend}

theorem root_sound (id : String) (carrier : ServerTransaction) (settings : TransactionSettings) :
    (root id carrier settings).Sound := by
  constructor <;> simp [root]

namespace Sound

theorem carrierCommitted_eq_false (h : tx.Sound) (uncommitted : tx.status ≠ .committed) :
    tx.carrierCommitted = false :=
  Bool.eq_false_iff.mpr fun hc => uncommitted (h.carrierCommitted_iff.mp hc).2

theorem exists_carrier (h : tx.Sound) (whole : tx.rolledBack = false)
    (uncommitted : tx.carrierCommitted = false) : ∃ carrier, tx.carrier = some carrier := by
  cases hs : tx.carrier with
  | some carrier => exact ⟨carrier, rfl⟩
  | none =>
    have := h.carrier_eq_none.mp hs
    simp [whole, uncommitted] at this

theorem flags_of_carrier (h : tx.Sound) {carrier : ServerTransaction}
    (some : tx.carrier = some carrier) : tx.carrierCommitted = false ∧ tx.rolledBack = false := by
  have flags : ¬(tx.carrierCommitted = true ∨ tx.rolledBack = true) := by
    rw [← h.carrier_eq_none, some]
    exact nofun
  rwa [not_or, Bool.not_eq_true, Bool.not_eq_true] at flags

theorem undecided_of_root (h : tx.Sound) {carrier : ServerTransaction}
    (some : tx.carrier = some carrier) (root : tx.outer = []) : tx.Undecided := by
  obtain ⟨uncommitted, whole⟩ := h.flags_of_carrier some
  refine ⟨whole, fun committed => ?_, fun rolledBack => ?_⟩
  · simpa [uncommitted] using h.carrierCommitted_iff.mpr ⟨root, committed⟩
  · simpa [whole] using h.rolledBack_of_status rolledBack

theorem push (h : tx.Sound) (whole : tx.rolledBack = false)
    (uncommitted : tx.carrierCommitted = false) : tx.push.Sound := by
  obtain ⟨carrier, hs⟩ := h.exists_carrier whole uncommitted
  have hstatus : tx.status ≠ .rolledBack := fun he => by simpa [whole] using h.rolledBack_of_status he
  constructor
  · simp [Transaction.push, setStatus, hs, whole, uncommitted]
  · simp [Transaction.push, setStatus, whole]
  · simp [Transaction.push, setStatus, uncommitted]
  · simp [Transaction.push, setStatus]
  · intro status hm
    rcases List.mem_cons.mp hm with rfl | hm
    · exact hstatus
    · exact h.outer_ne_rolledBack status hm
  · intro status hb
    cases ho : tx.outer with
    | nil =>
      simp only [Transaction.push, setStatus, ho, List.getLast?_singleton, Option.some.injEq] at hb
      subst hb
      have hroot : tx.status ≠ .committed := fun he => by
        simpa [uncommitted] using h.carrierCommitted_iff.mpr ⟨ho, he⟩
      cases hst : tx.status <;> simp_all
    | cons saved outer =>
      simp only [Transaction.push, setStatus, ho, List.getLast?_cons_cons] at hb
      exact h.bottom status (ho ▸ hb)
  · rfl

theorem pop (h : tx.Sound) : tx.pop.Sound := by
  cases ho : tx.outer with
  | nil => simpa [Transaction.pop, ho] using h
  | cons saved outer =>
    have he : tx.pop = { tx with outer := outer, status := saved, shown := saved } := by
      simp [Transaction.pop, ho, setStatus]
    have hcommitted : tx.carrierCommitted = false :=
      Bool.eq_false_iff.mpr fun hc => by simpa [ho] using (h.carrierCommitted_iff.mp hc).1
    rw [he]
    constructor
    · exact h.carrier_eq_none
    · exact h.not_both
    · refine ⟨fun hc => by simp [hcommitted] at hc, ?_⟩
      rintro ⟨rfl, rfl⟩
      simpa using h.bottom .committed (by simp [ho])
    · rintro rfl
      exact absurd rfl (h.outer_ne_rolledBack .rolledBack (by simp [ho]))
    · exact fun status hm => h.outer_ne_rolledBack status (by simp [ho, hm])
    · intro status hb
      apply h.bottom status
      cases outer with
      | nil => simp at hb
      | cons next rest => rw [ho, List.getLast?_cons_cons]; exact hb
    · rfl

theorem note (h : tx.Sound) (undecided : tx.Undecided) (nested : tx.outer ≠ []) :
    (tx.setStatus .committed).Sound where
  carrier_eq_none := h.carrier_eq_none
  not_both := h.not_both
  carrierCommitted_iff := by
    simp [setStatus, nested, h.carrierCommitted_eq_false undecided.committed]
  rolledBack_of_status := by simp [setStatus]
  outer_ne_rolledBack := h.outer_ne_rolledBack
  bottom := h.bottom
  shown_eq := rfl

theorem attempt (h : tx.Sound) (whole : tx.rolledBack = false) (uncommitted : tx.status ≠ .committed)
    {action : ExitAction} (root : action = .commit → tx.outer = [])
    {result : Except DriverError Unit} (attempt : Attempt action tx backend result tx' backend') :
    tx'.Sound := by
  have hc := h.carrierCommitted_eq_false uncommitted
  cases attempt with
  | missing none =>
    obtain ⟨carrier, hs⟩ := h.exists_carrier whole hc
    simp [none] at hs
  | refused some finish =>
    constructor
    · simp [setStatus, whole, hc]
    · simp [setStatus, whole]
    · simp [setStatus, hc]
    · simp [setStatus]
    · exact h.outer_ne_rolledBack
    · exact h.bottom
    · rfl
  | done some finish =>
    cases action with
    | commit =>
      have ho := root rfl
      constructor <;> simp [settle, setStatus, whole, ho]
    | rollback =>
      constructor
      · simp [settle, setStatus]
      · simp [settle, setStatus, hc]
      · simp [settle, setStatus, hc]
      · simp [settle, setStatus]
      · exact h.outer_ne_rolledBack
      · exact h.bottom
      · rfl

theorem carry (h : tx.Sound) {carrier : ServerTransaction} (some : tx.carrier = some carrier)
    (carrier' : ServerTransaction) : ({ tx with carrier := .some carrier' } : Transaction).Sound where
  carrier_eq_none := by simpa [some] using h.carrier_eq_none
  not_both := h.not_both
  carrierCommitted_iff := h.carrierCommitted_iff
  rolledBack_of_status := h.rolledBack_of_status
  outer_ne_rolledBack := h.outer_ne_rolledBack
  bottom := h.bottom
  shown_eq := h.shown_eq

theorem expire (h : tx.Sound) : tx.expire.Sound := by
  unfold Transaction.expire
  split
  · exact ⟨h.carrier_eq_none, h.not_both, h.carrierCommitted_iff, h.rolledBack_of_status,
      h.outer_ne_rolledBack, h.bottom, h.shown_eq⟩
  · exact h

theorem step (h : tx.Sound) {call : Call} {answer : Except TransactionError Unit}
    (step : Step tx backend call answer tx' backend') : tx'.Sound := by
  cases step with
  | lateForAll | lateForRoot | lateForLevel | lateForCommit | barred | closed | fetched => exact h
  | entered whole uncommitted => exact h.push whole uncommitted
  | noted undecided nested => exact h.note undecided nested
  | left => exact h.pop
  | committing undecided root attempt =>
    exact h.attempt undecided.whole undecided.committed (fun _ => root) attempt
  | rollingBack whole uncommitted attempt =>
    exact h.attempt whole uncommitted (fun he => by cases he) attempt
  | leaving whole uncommitted root attempt =>
    exact (h.attempt whole uncommitted (fun he => (root he).2) attempt).pop
  | executed some free run => exact h.carry some _

theorem perform (h : tx.Sound) (call : Call) (backend : Backend) :
    (call.perform tx backend).2.1.Sound := h.step (tx.perform_step backend call)

theorem after (h : tx.Sound) (calls : List (Call × Backend)) : (tx.after calls).Sound := by
  induction calls generalizing tx with
  | nil => exact h
  | cons call calls ih => exact ih (h.perform call.1 call.2)

theorem isDriverFailure_eq_false (h : tx.Sound) {call : Call} {answer : Except TransactionError Unit}
    {error : TransactionError} (step : Step tx backend call answer tx' backend')
    (none : tx.carrier = none) (failed : answer = .error error) : error.isDriverFailure = false := by
  have hover (whole : tx.rolledBack = false) (uncommitted : tx.status ≠ .committed) : False := by
    obtain ⟨carrier, hs⟩ := h.exists_carrier whole (h.carrierCommitted_eq_false uncommitted)
    simp [none] at hs
  cases step with
  | lateForAll | lateForRoot | lateForCommit | barred | closed => cases failed; rfl
  | lateForLevel whole late asks =>
    cases failed
    rcases asks with ⟨_, rfl⟩ | ⟨_, rfl⟩ <;> rfl
  | entered | noted | left => cases failed
  | committing undecided => exact (hover undecided.whole undecided.committed).elim
  | rollingBack whole uncommitted => exact (hover whole uncommitted).elim
  | leaving whole uncommitted => exact (hover whole uncommitted).elim
  | executed some | fetched some => simp [none] at some

theorem answer_ne_rolledBack (h : tx.Sound) {call : Call} {answer : Except TransactionError Unit}
    (step : Step tx backend call answer tx' backend') : answer ≠ .error .rolledBack := by
  have hmap {ε : Type} {f : ε → TransactionError} (hf : ∀ error, f error ≠ .rolledBack)
      (result : Except ε Unit) : result.mapError f ≠ .error .rolledBack := by
    cases result with
    | error error => exact fun he => hf error (Except.error.inj he)
    | ok => exact nofun
  have hrefusal (action : ExitAction) (error : DriverError) : refusal action error ≠ .rolledBack := by
    cases action <;> exact nofun
  cases step with
  | lateForAll => simp [TransactionError.nestedRolledBack, TransactionError.rolledBack]
  | lateForLevel whole late asks => rcases asks with ⟨_, rfl⟩ | ⟨_, rfl⟩ <;> exact nofun
  | lateForCommit whole late => simp [h.rolledBack_of_status late] at whole
  | lateForRoot | entered | noted | left | barred | closed => exact nofun
  | committing | rollingBack | leaving => exact hmap (hrefusal _) _
  | executed | fetched => exact hmap (by intro _; exact nofun) _

end Sound

/-- Through all calls a transaction stays sound; once its server transaction is gone no call asks for
its end, and at no time is a level found rolled back by itself. -/
theorem root_calls_sound (id : String) (carrier : ServerTransaction) (settings : TransactionSettings)
    (calls : List (Call × Backend)) :
    ((root id carrier settings).after calls).Sound ∧
      ∀ (call : Call) (backend : Backend) (error : TransactionError),
        (call.perform ((root id carrier settings).after calls) backend).1 = .error error →
          (((root id carrier settings).after calls).carrier = none → error.isDriverFailure = false) ∧
          error ≠ .alreadyRolledBack "transaction has already been rolled back" := by
  have h := (root_sound id carrier settings).after calls
  refine ⟨h, fun call backend error failed => ⟨fun none => ?_, ?_⟩⟩
  · exact h.isDriverFailure_eq_false (perform_step _ backend call) none failed
  · rintro rfl
    exact h.answer_ne_rolledBack (perform_step _ backend call) failed

end NestedTx.Transaction

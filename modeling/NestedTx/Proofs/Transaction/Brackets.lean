import NestedTx.Proofs.Transaction.Soundness

namespace NestedTx.Transaction

inductive Reached : Transaction → Prop
  | root (id : String) (carrier : ServerTransaction) (settings : TransactionSettings) :
    Reached (root id carrier settings)
  | call {tx : Transaction} (reached : Reached tx) (call : Call) (backend : Backend) :
    Reached (call.perform tx backend).2.1
  | expired {tx : Transaction} (reached : Reached tx) : Reached tx.expire

def levels (tx : Transaction) : List Status := (tx.status :: tx.outer).reverse

def Call.stays {ε : Type} : Call → Except ε Unit → Bool
  | .begin, .ok _ => false
  | .exit _, _ => false
  | _, _ => true

inductive Bracketed : Transaction → List (Call × Backend) → Prop
  | nil {tx : Transaction} : Bracketed tx []
  | plain {tx : Transaction} {call : Call} {backend : Backend} {calls : List (Call × Backend)}
    (stays : call.stays (call.perform tx backend).1 = true)
    (rest : Bracketed (call.perform tx backend).2.1 calls) : Bracketed tx ((call, backend) :: calls)
  | pair {tx : Transaction} {first last : Backend} {action : ExitAction}
    {inner calls : List (Call × Backend)} (entered : (Call.begin.perform tx first).1 = .ok ())
    (inside : Bracketed tx.push inner)
    (rest : Bracketed (tx.after ((.begin, first) :: inner ++ [(.exit action, last)])) calls) :
    Bracketed tx ((.begin, first) :: inner ++ (.exit action, last) :: calls)

inductive Shift (tx : Transaction) : Call → Except TransactionError Unit → Transaction → Prop
  | entered : Shift tx .begin (.ok ()) tx.push
  | left {action : ExitAction} {answer : Except TransactionError Unit} {tx' : Transaction}
    (pops : tx'.status :: tx'.outer = tx.outer) : Shift tx (.exit action) answer tx'
  | remained {action : ExitAction} {answer : Except TransactionError Unit} {tx' : Transaction}
    (root : tx.outer = []) (outer : tx'.outer = []) : Shift tx (.exit action) answer tx'
  | stayed {call : Call} {answer : Except TransactionError Unit} {tx' : Transaction}
    (stays : call.stays answer = true) (outer : tx'.outer = tx.outer) : Shift tx call answer tx'

variable {tx tx' : Transaction} {backend backend' : Backend} {call : Call}
  {answer : Except TransactionError Unit}

theorem Reached.sound (h : Reached tx) : tx.Sound := by
  induction h with
  | root id carrier settings => exact root_sound id carrier settings
  | call _ call backend ih => exact ih.perform call backend
  | expired _ ih => exact ih.expire

theorem after_append (calls later : List (Call × Backend)) (tx : Transaction) :
    tx.after (calls ++ later) = (tx.after calls).after later := by
  induction calls generalizing tx with
  | nil => rfl
  | cons call calls ih => exact ih _

theorem Attempt.outer_eq {action : ExitAction} {result : Except DriverError Unit}
    (h : Attempt action tx backend result tx' backend') : tx'.outer = tx.outer := by
  cases h with
  | missing | refused => rfl
  | done => cases action <;> rfl

theorem shift_pop {action : ExitAction} (h : tx'.outer = tx.outer) :
    Shift tx (.exit action) answer tx'.pop := by
  cases ho : tx.outer with
  | nil =>
    apply Shift.remained ho
    simp [pop, h, ho]
  | cons saved outer =>
    apply Shift.left
    simp [pop, h, ho, setStatus]

theorem Step.shift (h : Step tx backend call answer tx' backend') : Shift tx call answer tx' := by
  cases h with
  | lateForAll _ asks => rcases asks with rfl | rfl | rfl <;> exact .stayed rfl rfl
  | lateForLevel _ _ asks => rcases asks with ⟨rfl, rfl⟩ | ⟨rfl, rfl⟩ <;> exact .stayed rfl rfl
  | lateForRoot | lateForCommit | noted | executed | fetched => exact .stayed rfl rfl
  | barred _ asks | closed _ asks => rcases asks with rfl | rfl <;> exact .stayed rfl rfl
  | entered => exact .entered
  | left => exact shift_pop rfl
  | committing _ _ attempt => exact .stayed rfl attempt.outer_eq
  | rollingBack _ _ attempt => exact .stayed rfl attempt.outer_eq
  | leaving _ _ _ attempt => exact shift_pop attempt.outer_eq

theorem perform_shift (call : Call) (tx : Transaction) (backend : Backend) :
    Shift tx call (call.perform tx backend).1 (call.perform tx backend).2.1 :=
  (tx.perform_step backend call).shift

theorem levels_push (tx : Transaction) : tx.push.levels = tx.levels ++ [.pending] := by
  simp [levels, push, setStatus]

theorem levels_getElem? {i : Nat} (hi : i < tx.depth) : tx.levels[i]? = tx.outer.reverse[i]? := by
  have h : i < tx.outer.reverse.length := by simpa [depth] using hi
  rw [levels, List.reverse_cons, List.getElem?_append_left h]

theorem levels_depth (tx : Transaction) : tx.levels[tx.depth]? = some tx.status := by
  simp [levels, depth]

theorem Shift.levels_below (h : Shift tx call answer tx') {i : Nat} (hi : i < tx.depth) :
    tx'.levels[i]? = tx.levels[i]? := by
  cases h with
  | entered =>
    have h : i < tx.levels.length := by
      simp only [levels, depth, List.length_reverse, List.length_cons] at hi ⊢
      omega
    rw [levels_push, List.getElem?_append_left h]
  | left pops => rw [levels_getElem? hi, levels, pops]
  | remained root => simp [depth, root] at hi
  | stayed _ outer =>
    have hi' : i < tx'.depth := by rwa [depth, outer]
    rw [levels_getElem? hi, levels_getElem? hi', outer]

theorem entered_eq (h : (Call.begin.perform tx backend).1 = .ok ()) :
    (Call.begin.perform tx backend).2.1 = tx.push := by
  have shift := perform_shift .begin tx backend
  rw [h] at shift
  generalize (Call.begin.perform tx backend).2.1 = tx' at shift
  cases shift with
  | entered => rfl
  | stayed stays => cases stays

theorem left_eq (h : (Call.begin.perform tx backend).1 = .ok ()) {inner : List (Call × Backend)}
    (outer : (tx.push.after inner).outer = tx.push.outer) (action : ExitAction) (last : Backend) :
    (tx.after ((.begin, backend) :: inner ++ [(.exit action, last)])).status = tx.status ∧
      (tx.after ((.begin, backend) :: inner ++ [(.exit action, last)])).outer = tx.outer := by
  have shift := perform_shift (.exit action) (tx.push.after inner) last
  have he : tx.after ((.begin, backend) :: inner ++ [(.exit action, last)]) =
      ((Call.exit action).perform (tx.push.after inner) last).2.1 := by
    rw [List.cons_append, after, entered_eq h, after_append]
    rfl
  rw [he]
  cases shift with
  | left pops =>
    rw [outer] at pops
    exact List.cons.inj pops
  | remained root =>
    rw [outer] at root
    cases root
  | stayed stays => cases stays

theorem Bracketed.outer_eq {calls : List (Call × Backend)} (h : Bracketed tx calls) :
    (tx.after calls).outer = tx.outer := by
  induction h with
  | nil => rfl
  | @plain tx call backend calls stays rest ih =>
    have shift := perform_shift call tx backend
    rw [after, ih]
    generalize call.perform tx backend = did at shift stays ⊢
    obtain ⟨answer, tx', backend'⟩ := did
    cases shift with
    | entered | left | remained => cases stays
    | stayed _ outer => exact outer
  | pair entered inside rest ihInside ihRest =>
    have h := left_eq entered ihInside
    rw [List.append_cons, after_append, ihRest, (h _ _).2]

namespace Sound

theorem over_of_decided (h : tx.Sound) (decided : tx.status = .committed ∨ tx.status = .rolledBack) :
    tx.rolledBack = true ∨ tx.status = .committed := by
  rcases decided with committed | rolledBack
  · exact .inr committed
  · exact .inl (h.rolledBack_of_status rolledBack)

theorem late_of_decided (h : tx.Sound) (decided : tx.status = .committed ∨ tx.status = .rolledBack)
    (step : Step tx backend call answer tx' backend') (asks : call = .commit ∨ call = .rollback) :
    (∃ error, answer = .error error ∧ error.isStateError = true) ∧ tx' = tx ∧ backend' = backend := by
  have late := h.over_of_decided decided
  cases step with
  | lateForAll | lateForCommit => exact ⟨⟨_, rfl, rfl⟩, rfl, rfl⟩
  | lateForLevel _ _ asks =>
    rcases asks with ⟨_, rfl⟩ | ⟨_, rfl⟩ <;> exact ⟨⟨_, rfl, rfl⟩, rfl, rfl⟩
  | noted undecided => simp [undecided.whole, undecided.committed] at late
  | committing undecided => simp [undecided.whole, undecided.committed] at late
  | rollingBack whole uncommitted => simp [whole, uncommitted] at late
  | lateForRoot | entered | left | leaving | executed | fetched => rcases asks with he | he <;> cases he
  | barred _ runs | closed _ runs =>
    rcases asks with rfl | rfl <;> rcases runs with he | he <;> cases he

theorem kept_of_decided (h : tx.Sound) (decided : tx.status = .committed ∨ tx.status = .rolledBack)
    (step : Step tx backend call answer tx' backend') (there : tx.depth ≤ tx'.depth) :
    tx'.levels[tx.depth]? = some tx.status := by
  have late := h.over_of_decided decided
  cases step with
  | lateForAll | lateForRoot | lateForLevel | lateForCommit | barred | closed | fetched | executed =>
    exact levels_depth tx
  | entered =>
    have hi : tx.depth < tx.levels.length := by simp [levels, depth]
    rw [levels_push, List.getElem?_append_left hi, levels_depth]
  | noted undecided => simp [undecided.whole, undecided.committed] at late
  | committing undecided => simp [undecided.whole, undecided.committed] at late
  | rollingBack whole uncommitted => simp [whole, uncommitted] at late
  | leaving whole uncommitted => simp [whole, uncommitted] at late
  | left =>
    have root : tx.outer = [] := by
      cases ho : tx.outer with
      | nil => rfl
      | cons saved outer =>
        simp only [depth, Transaction.pop, ho, setStatus, List.length_cons] at there
        omega
    have he : tx.pop = tx := by simp [Transaction.pop, root]
    rw [he, levels_depth]

theorem level_kept (h : tx.Sound) {calls : List (Call × Backend)} {i : Nat} {status : Status}
    (level : tx.levels[i]? = some status) (decided : status = .committed ∨ status = .rolledBack)
    (there : ∀ part, part <+: calls → i ≤ (tx.after part).depth) :
    (tx.after calls).levels[i]? = some status := by
  induction calls generalizing tx with
  | nil => exact level
  | cons call calls ih =>
    have first : i ≤ tx.depth := there [] List.nil_prefix
    have next : i ≤ (call.1.perform tx call.2).2.1.depth :=
      there [call] (List.cons_prefix_cons.mpr ⟨rfl, List.nil_prefix⟩)
    apply ih (h.perform call.1 call.2)
    · by_cases hi : i < tx.depth
      · rw [(perform_shift call.1 tx call.2).levels_below hi, level]
      · have he : i = tx.depth := by omega
        subst he
        rw [levels_depth, Option.some.injEq] at level
        subst level
        exact h.kept_of_decided decided (tx.perform_step call.2 call.1) next
    · intro part hp
      exact there (call :: part) (List.cons_prefix_cons.mpr ⟨rfl, hp⟩)

end Sound

/-- After the exit of a level everything is as it was before its entry. In between a level is changed
only while it is innermost, and once it was decided on it is not changed any more: commit and rollback
come too late for it, and the server is not asked. -/
theorem brackets_restore {tx : Transaction} (reached : Reached tx) {first : Backend}
    (entered : (Call.begin.perform tx first).1 = .ok ()) {inner : List (Call × Backend)}
    (bracketed : Bracketed tx.push inner) (action : ExitAction) (last : Backend) :
    let calls := (.begin, first) :: inner ++ [(.exit action, last)]
    (tx.after calls).status = tx.status ∧ (tx.after calls).outer = tx.outer ∧
      (∀ done call backend rest, calls = done ++ (call, backend) :: rest →
        let here := tx.after done
        let did := call.perform here backend
        (∀ i < here.depth, did.2.1.levels[i]? = here.levels[i]?) ∧
          (here.status = .committed ∨ here.status = .rolledBack → call = .commit ∨ call = .rollback →
            (∃ error, did.1 = .error error ∧ error.isStateError = true) ∧ did.2 = (here, backend))) ∧
      ∀ done during rest, calls = done ++ during ++ rest → ∀ i status,
        (tx.after done).levels[i]? = some status → status = .committed ∨ status = .rolledBack →
          (∀ part, part <+: during → i ≤ (tx.after (done ++ part)).depth) →
            (tx.after (done ++ during)).levels[i]? = some status := by
  intro calls
  have sound := reached.sound
  obtain ⟨status, outer⟩ := left_eq entered bracketed.outer_eq action last
  refine ⟨status, outer, ?_, ?_⟩
  · intro done call backend rest _ here did
    have shift := perform_shift call here backend
    constructor
    · intro i hi
      exact shift.levels_below hi
    · intro decided asks
      obtain ⟨late, same, idle⟩ :=
        (sound.after done).late_of_decided decided (here.perform_step backend call) asks
      exact ⟨late, Prod.ext same idle⟩
  · intro done during rest _ i status level decided there
    rw [after_append]
    apply (sound.after done).level_kept level decided
    intro part hp
    rw [← after_append]
    exact there part hp

theorem brackets_restore_committed :
    let backend : Backend := ⟨.empty, .empty 1⟩
    let refusing : Backend := ⟨{ Server.empty with faults := ⟨0, false, false, false, true⟩ }, .empty 1⟩
    let tx := (root "t" ⟨⟨1, true, ⟨some []⟩⟩, false⟩ ⟨false, .zero, false⟩).after
      [(.begin, backend), (.commit, backend)]
    let inner := [(.commit, backend), (.rollback, backend), (.begin, backend),
      (.rollback, refusing), (.exit .rollback, refusing)]
    let calls := (.begin, backend) :: inner ++ [(.exit .commit, backend)]
    Reached tx ∧ (Call.begin.perform tx backend).1 = .ok () ∧ Bracketed tx.push inner ∧
      (tx.after calls).status = .committed ∧ (tx.after calls).outer = [.pending] := by
  intro backend refusing tx inner calls
  have reached : Reached tx := .call (.call (.root _ _ _) .begin backend) .commit backend
  have entered : (Call.begin.perform tx backend).1 = .ok () := rfl
  have nested : Bracketed (tx.push.after [(.commit, backend), (.rollback, backend)])
      ([(.begin, backend)] ++ [(.rollback, refusing)] ++ [(.exit .rollback, refusing)]) :=
    .pair rfl (.plain rfl .nil) .nil
  have bracketed : Bracketed tx.push inner := .plain rfl (.plain rfl nested)
  obtain ⟨status, outer, _⟩ := brackets_restore reached entered bracketed .commit backend
  exact ⟨reached, entered, bracketed, status, outer⟩

end NestedTx.Transaction

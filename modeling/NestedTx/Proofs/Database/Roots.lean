import NestedTx.Proofs.Database.Journal
import NestedTx.Proofs.Transaction.Soundness

namespace NestedTx

namespace ServerTransaction

variable {tx tx' : ServerTransaction} {backend backend' : Backend}

theorem done_of_finish {action : ExitAction} {error : DriverError}
    (refused : tx.finish action backend = (.error error, tx', backend')) : tx'.done = tx.done := by
  rcases tx.finish_cases action backend with ⟨_, _, _, _, he, _⟩ | ⟨_, _, he, _⟩
  · cases he.symm.trans refused
    rfl
  · cases he.symm.trans refused

theorem done_of_execute {sql : String} {result : Except DriverError Nat}
    (run : tx.execute sql backend = (result, tx', backend')) : tx'.done = tx.done := by
  simp only [execute] at run
  split at run <;> cases run <;> rfl

end ServerTransaction

namespace Transaction

variable {tx tx' : Transaction} {backend backend' : Backend}

def KeepsOpen (tx : Transaction) : Prop :=
  ∀ carrier, tx.carrier = some carrier → carrier.done = false

namespace KeepsOpen

theorem attempt (h : tx.KeepsOpen) {action : ExitAction} {result : Except DriverError Unit}
    (attempt : Attempt action tx backend result tx' backend') : tx'.KeepsOpen := by
  intro carrier hc
  cases attempt with
  | missing none => exact h carrier hc
  | refused some finish =>
    cases hc
    rw [ServerTransaction.done_of_finish finish]
    exact h _ some
  | done some finish =>
    rw [settle_carrier] at hc
    cases hc

theorem step (h : tx.KeepsOpen) {call : Call} {answer : Except TransactionError Unit}
    (step : Step tx backend call answer tx' backend') : tx'.KeepsOpen := by
  cases step with
  | lateForAll | lateForRoot | lateForLevel | lateForCommit | barred | closed | fetched => exact h
  | entered => exact h
  | noted => exact h
  | left =>
    intro carrier hc
    rw [pop_carrier] at hc
    exact h carrier hc
  | committing undecided root attempt => exact h.attempt attempt
  | rollingBack whole uncommitted attempt => exact h.attempt attempt
  | leaving whole uncommitted root attempt =>
    intro carrier hc
    rw [pop_carrier] at hc
    exact h.attempt attempt carrier hc
  | executed some free run =>
    intro carrier hc
    cases hc
    rw [ServerTransaction.done_of_execute run]
    exact h _ some

end KeepsOpen

end Transaction

namespace Entry.Use

variable {entry entry' : Entry}

theorem sound (use : entry.Use entry') (h : 0 < entry.handles → entry.transaction.Sound)
    (held : 0 < entry'.handles) : entry'.transaction.Sound := by
  cases use with
  | called held' call backend => exact (h held').perform call backend
  | retained held' => exact h held'
  | dropped more => exact h (by omega)
  | abandoned => exact absurd held (Nat.lt_irrefl 0)
  | expired => exact (h held).expire

theorem keepsOpen (use : entry.Use entry') (h : entry.transaction.KeepsOpen) :
    entry'.transaction.KeepsOpen := by
  cases use with
  | called held call backend => exact h.step (entry.transaction.perform_step backend call)
  | retained => exact h
  | dropped => exact h
  | abandoned backend =>
    intro carrier hc
    simp only [Transaction.abandon] at hc
    split at hc
    · exact h carrier hc
    · cases hc
  | expired =>
    intro carrier hc
    simp only [Transaction.expire] at hc
    split at hc <;> exact h carrier hc

end Entry.Use

namespace Database

variable {entries entries' : List Entry}

theorem Roots.all {P : Entry → Prop} (roots : Roots entries entries')
    (kept : ∀ {entry entry' : Entry}, entry.Use entry' → P entry → P entry')
    (fresh : ∀ id carrier settings, P ⟨Transaction.root id carrier settings, 1⟩)
    (h : ∀ entry ∈ entries, P entry) : ∀ entry ∈ entries', P entry := by
  intro entry mem
  cases roots with
  | same => exact h entry mem
  | used known use =>
    rcases List.mem_or_eq_of_mem_set mem with mem | rfl
    · exact h entry mem
    · exact kept use (h _ (List.mem_of_getElem? known))
  | begun id carrier settings =>
    rcases List.mem_append.mp mem with mem | mem
    · exact h entry mem
    · cases List.mem_singleton.mp mem
      exact fresh id carrier settings

theorem Roots.stays {P : Entry → Prop} (roots : Roots entries entries')
    (kept : ∀ {entry entry' : Entry}, entry.Use entry' → P entry → P entry') {ref : Nat}
    {entry : Entry} (known : entries[ref]? = some entry) (h : P entry) :
    ∃ entry', entries'[ref]? = some entry' ∧ P entry' := by
  obtain ⟨hlt, _⟩ := List.getElem?_eq_some_iff.mp known
  cases roots with
  | same => exact ⟨entry, known, h⟩
  | @used other entry' entry'' known' use =>
    by_cases here : other = ref
    · subst other
      cases known.symm.trans known'
      exact ⟨entry'', by simp [hlt], kept use h⟩
    · exact ⟨entry, by simp [here, known], h⟩
  | begun => exact ⟨entry, by rw [List.getElem?_append_left hlt, known], h⟩

theorem Roots.sound (roots : Roots entries entries')
    (h : ∀ entry ∈ entries, 0 < entry.handles → entry.transaction.Sound) :
    ∀ entry ∈ entries', 0 < entry.handles → entry.transaction.Sound :=
  roots.all Entry.Use.sound (fun id carrier settings _ => Transaction.root_sound id carrier settings) h

end Database

namespace Run

variable {run : Run} {before : List String}

theorem Effect.roots {run' : Run} (effect : Effect run run') :
    Database.Roots run.db.entries run'.db.entries := by
  cases effect with
  | apart apart => exact apart.roots
  | alone apart => exact apart.roots
  | born born => exact born.roots
  | takenUp takenUp => exact takenUp.roots
  | moved moved => exact moved.roots

namespace Consistent

theorem all_steps {P : Entry → Prop} (h : run.Consistent before)
    (kept : ∀ {entry entry' : Entry}, entry.Use entry' → P entry → P entry')
    (fresh : ∀ id carrier settings, P ⟨Transaction.root id carrier settings, 1⟩)
    (all : ∀ entry ∈ run.db.entries, P entry) (actions : List Action) :
    ∀ entry ∈ (run.steps actions).db.entries, P entry := by
  induction actions generalizing run with
  | nil => exact all
  | cons action actions ih =>
    have effect := h.backed.effect action
    exact ih (h.effect effect) (effect.roots.all kept fresh all)

theorem stays_steps {P : Entry → Prop} (h : run.Consistent before)
    (kept : ∀ {entry entry' : Entry}, entry.Use entry' → P entry → P entry') {ref : Nat}
    {entry : Entry} (known : run.db.entries[ref]? = some entry) (stays : P entry)
    (actions : List Action) :
    ∃ entry', (run.steps actions).db.entries[ref]? = some entry' ∧ P entry' := by
  induction actions generalizing run entry with
  | nil => exact ⟨entry, known, stays⟩
  | cons action actions ih =>
    have effect := h.backed.effect action
    obtain ⟨entry', known', stays'⟩ := effect.roots.stays kept known stays
    exact ih (h.effect effect) known' stays'

theorem keepsOpen_steps (h : run.Consistent before) {ref : Nat} {entry : Entry}
    (known : run.db.entries[ref]? = some entry) (keepsOpen : entry.transaction.KeepsOpen)
    (actions : List Action) :
    ∃ entry', (run.steps actions).db.entries[ref]? = some entry' ∧
      entry'.transaction.KeepsOpen :=
  h.stays_steps Entry.Use.keepsOpen known keepsOpen actions

end Consistent

theorem start_all {P : Entry → Prop}
    (kept : ∀ {entry entry' : Entry}, entry.Use entry' → P entry → P entry')
    (fresh : ∀ id carrier settings, P ⟨Transaction.root id carrier settings, 1⟩) (server : Server)
    (settings : Settings) (actions : List Action) :
    ∀ entry ∈ ((start server settings).steps actions).db.entries, P entry := by
  apply (start_consistent server settings).all_steps kept fresh
  intro entry mem
  simp [start, Database.on] at mem

theorem start_sound (server : Server) (settings : Settings) (actions : List Action) :
    ∀ entry ∈ ((start server settings).steps actions).db.entries,
      0 < entry.handles → entry.transaction.Sound :=
  start_all Entry.Use.sound (fun id carrier settings _ => Transaction.root_sound id carrier settings)
    server settings actions

end Run

end NestedTx

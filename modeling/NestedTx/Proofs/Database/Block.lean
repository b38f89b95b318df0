import NestedTx.Proofs.Database.Journal
import NestedTx.Proofs.Database.Levels

namespace NestedTx

structure PlainStatement where
  sql : String
  params : List Json.Value
  count : Nat
  free : barred? sql = none
  counts : Server.statementCount sql = .ok count

inductive Block (ε α : Type)
  | finish (ending : Ending ε α)
  | execute (statement : PlainStatement) (next : Except QueryError Nat → Block ε α)
  | rollback (next : Except TransactionError Unit → Block ε α)
  | nest (inner : Block ε α) (next : Ending ε α → Block ε α)

inductive Observation (ε α : Type)
  | executed (statement : PlainStatement) (answer : Except QueryError Nat)
  | rolledBack (answer : Except TransactionError Unit)
  | entered
  | left (before after : Nat) (ending : Ending ε α)
  | refused (before after : Nat) (ending : Ending ε α)
  | ended (ending : Ending ε α)

namespace Ending

variable {ε α : Type}

def action : Ending ε α → ExitAction
  | ok _ => .commit
  | error _ => .rollback
  | panic _ => .rollback

end Ending

namespace Block

variable {ε α : Type} (ofError : TransactionError → ε)

def run : Block ε α → Nat → Database → Ending ε α × Database
  | finish ending, _, db => (ending, db)
  | execute statement next, ref, db =>
    match db.execute (.transaction ref) statement.sql statement.params with
    | (answer, db) => (next answer).run ref db
  | rollback next, ref, db =>
    match db.rollback ref with
    | (answer, db) => (next answer).run ref db
  | nest inner next, ref, db =>
    match db.nested ofError ref (fun ref db => inner.run ref db) with
    | (ending, db) => (next ending).run ref db

def observe : Block ε α → Nat → Database → List (Observation ε α)
  | finish ending, _, _ => [.ended ending]
  | execute statement next, ref, db =>
    match db.execute (.transaction ref) statement.sql statement.params with
    | (answer, db) => .executed statement answer :: (next answer).observe ref db
  | rollback next, ref, db =>
    match db.rollback ref with
    | (answer, db) => .rolledBack answer :: (next answer).observe ref db
  | nest inner next, ref, db =>
    match db.nested ofError ref (fun ref db => inner.run ofError ref db) with
    | (ending, after) =>
      let before := (db.transaction ref).depth
      let depth := (after.transaction ref).depth
      (match db.enterNested ref with
        | (.ok scope, db) =>
          .entered :: inner.observe scope.ref db ++ [.left before depth ending]
        | (.error _, _) => [.refused before depth ending]) ++ (next ending).observe ref after

end Block

namespace Observation

variable {ε α : Type}

def isPoison : Observation ε α → Bool
  | rolledBack _ => true
  | ended ending => ending.action == .rollback
  | _ => false

def statement? : Observation ε α → Option String
  | executed statement _ => some statement.sql
  | _ => none

def Early : Observation ε α → Prop
  | executed statement answer => answer = .ok statement.count
  | rolledBack _ => False
  | entered => True
  | left before after _ => after = before
  | refused _ _ _ => False
  | ended ending => ending.action = .commit

def Late (ofError : TransactionError → ε) : Observation ε α → Prop
  | executed _ answer => answer = .error (.driver .closed)
  | rolledBack _ => True
  | entered => False
  | left before after _ => after = before
  | refused before after ending => after = before ∧ ending = .error (ofError .nestedRolledBack)
  | ended _ => True

def IsLevel : Observation ε α → Prop
  | left before after _ => after = before
  | refused before after _ => after = before
  | _ => True

variable {observation : Observation ε α}

theorem Early.isPoison_eq_false (early : observation.Early) : observation.isPoison = false := by
  cases observation with
  | executed | entered | left | refused => rfl
  | rolledBack => cases early
  | ended ending =>
    have good : ending.action = .commit := early
    simp [isPoison, good]

theorem Early.isLevel (early : observation.Early) : observation.IsLevel := by
  cases observation with
  | left => exact early
  | refused => cases early
  | executed | rolledBack | entered | ended => trivial

theorem Late.isLevel {ofError : TransactionError → ε} (late : observation.Late ofError) :
    observation.IsLevel := by
  cases observation with
  | left => exact late
  | refused => exact late.1
  | executed | rolledBack | entered | ended => trivial

theorem isLevel_of_isPoison (poisons : observation.isPoison = true) : observation.IsLevel := by
  cases observation with
  | left | refused => cases poisons
  | executed | rolledBack | entered | ended => trivial

end Observation

variable {ε α : Type} {ofError : TransactionError → ε}

/-- The transaction was rolled back at some point of what was seen. -/
def Poisoned (ofError : TransactionError → ε) (seen : List (Observation ε α)) : Prop :=
  ∃ early poison late, seen = early ++ poison :: late ∧ (∀ o ∈ early, Observation.Early o) ∧
    poison.isPoison = true ∧ ∀ o ∈ late, Observation.Late ofError o

namespace Poisoned

variable {seen more : List (Observation ε α)}

theorem first {poison : Observation ε α} (poisons : poison.isPoison = true)
    (late : ∀ o ∈ more, Observation.Late ofError o) : Poisoned ofError (poison :: more) :=
  ⟨[], poison, more, rfl, fun _ mem => absurd mem List.not_mem_nil, poisons, late⟩

theorem prepend (h : Poisoned ofError seen) (before : ∀ o ∈ more, Observation.Early o) :
    Poisoned ofError (more ++ seen) := by
  obtain ⟨early, poison, late, rfl, hearly, poisons, hlate⟩ := h
  have hearly' : ∀ o ∈ more ++ early, Observation.Early o :=
    List.forall_mem_append.mpr ⟨before, hearly⟩
  exact ⟨more ++ early, poison, late, by rw [List.append_assoc], hearly', poisons, hlate⟩

theorem append (h : Poisoned ofError seen) (after : ∀ o ∈ more, Observation.Late ofError o) :
    Poisoned ofError (seen ++ more) := by
  obtain ⟨early, poison, late, rfl, hearly, poisons, hlate⟩ := h
  have hlate' : ∀ o ∈ late ++ more, Observation.Late ofError o :=
    List.forall_mem_append.mpr ⟨hlate, after⟩
  exact ⟨early, poison, late ++ more, by rw [List.append_assoc, List.cons_append], hearly, poisons,
    hlate'⟩

theorem around (h : Poisoned ofError seen) (depth : Nat) (ending : Ending ε α) :
    Poisoned ofError (.entered :: seen ++ [.left depth depth ending]) := by
  have entered : Poisoned ofError ([.entered] ++ seen) :=
    h.prepend (List.forall_mem_singleton.mpr trivial)
  exact entered.append (List.forall_mem_singleton.mpr rfl)

theorem isLevel (h : Poisoned ofError seen) : ∀ o ∈ seen, o.IsLevel := by
  obtain ⟨early, poison, late, rfl, hearly, poisons, hlate⟩ := h
  intro o mem
  rcases List.mem_append.mp mem with mem | mem
  · exact (hearly o mem).isLevel
  · rcases List.mem_cons.mp mem with rfl | mem
    · exact Observation.isLevel_of_isPoison poisons
    · exact (hlate o mem).isLevel

theorem exists_isPoison (h : Poisoned ofError seen) : ∃ o ∈ seen, o.isPoison = true := by
  obtain ⟨early, poison, late, rfl, _, poisons, _⟩ := h
  exact ⟨poison, List.mem_append_right _ List.mem_cons_self, poisons⟩

theorem late_of_dropWhile (h : Poisoned ofError seen) :
    ∀ o ∈ (seen.dropWhile fun o => !o.isPoison).tail, Observation.Late ofError o := by
  obtain ⟨early, poison, late, rfl, hearly, poisons, hlate⟩ := h
  have first : ∀ o ∈ early, (!o.isPoison) = true := by
    intro o mem
    rw [(hearly o mem).isPoison_eq_false]
    rfl
  rw [List.dropWhile_append_of_pos first, List.dropWhile_cons_of_neg (by simp [poisons]),
    List.tail_cons]
  exact hlate

end Poisoned

theorem Scope.close_eq {ending : Ending ε α} {scope : Scope} {db db' : Database}
    (left : scope.finishAs ending.action db = (.ok (), db')) :
    scope.close ofError ending db = (ending, db') := by
  cases ending with
  | ok value =>
    have left : scope.finishAs .commit db = _ := left
    simp only [close, left]
  | error fault | panic reason =>
    have left : scope.finishAs .rollback db = _ := left
    simp only [close, unwind, left]

namespace Block

variable {origin : Server} {ref depth : Nat} {texts : List String} {db : Database}

def statements (seen : List (Observation ε α)) : List String :=
  seen.filterMap Observation.statement?

theorem early_around {seen : List (Observation ε α)} (depth : Nat) (ending : Ending ε α)
    (early : ∀ o ∈ seen, Observation.Early o) :
    ∀ o ∈ .entered :: seen ++ [.left depth depth ending], Observation.Early o := by
  have first : ∀ o ∈ .entered :: seen, Observation.Early o :=
    List.forall_mem_cons.mpr ⟨trivial, early⟩
  exact List.forall_mem_append.mpr ⟨first, List.forall_mem_singleton.mpr rfl⟩

theorem statements_around (seen : List (Observation ε α)) (depth : Nat) (ending : Ending ε α) :
    statements (.entered :: seen ++ [.left depth depth ending]) = statements seen := by
  have last : [Observation.left depth depth ending].filterMap Observation.statement? = [] := rfl
  rw [statements, List.cons_append, List.filterMap_cons_none rfl, List.filterMap_append, last,
    List.append_nil]
  rfl

inductive Outcome (ofError : TransactionError → ε) (origin : Server) (ref depth : Nat)
    (texts : List String) (seen : List (Observation ε α)) (ending : Ending ε α) (db : Database) : Prop
  | well (early : ∀ o ∈ seen, Observation.Early o) (good : ending.action = .commit)
    (entered : db.Entered origin ref depth (texts ++ statements seen))
  | badly {texts' : List String} (poisoned : Poisoned ofError seen) (bad : ending.action = .rollback)
    (entered : db.Entered origin ref depth texts')
  | undone (poisoned : Poisoned ofError seen) (undone : db.Undone origin ref depth)

theorem Outcome.prepend {before seen : List (Observation ε α)} {ending : Ending ε α}
    (h : Outcome ofError origin ref depth (texts ++ statements before) seen ending db)
    (early : ∀ o ∈ before, Observation.Early o) :
    Outcome ofError origin ref depth texts (before ++ seen) ending db := by
  cases h with
  | well early' good entered =>
    refine .well (List.forall_mem_append.mpr ⟨early, early'⟩) good ?_
    rw [statements, List.filterMap_append, ← List.append_assoc]
    exact entered
  | badly poisoned bad entered => exact .badly (poisoned.prepend early) bad entered
  | undone poisoned undone => exact .undone (poisoned.prepend early) undone

theorem late_of_undone (ofError : TransactionError → ε) (block : Block ε α)
    (h : db.Undone origin ref depth) :
    (∀ o ∈ block.observe ofError ref db, Observation.Late ofError o) ∧
      (block.run ofError ref db).2.Undone origin ref depth := by
  induction block generalizing db with
  | finish ending =>
    exact ⟨List.forall_mem_singleton.mpr trivial, h⟩
  | execute statement next ih =>
    obtain ⟨db', did, h'⟩ := h.execute statement.free statement.params
    obtain ⟨late, undone⟩ := ih (.error (.driver .closed)) h'
    simp only [observe, run, did]
    exact ⟨List.forall_mem_cons.mpr ⟨rfl, late⟩, undone⟩
  | rollback next ih =>
    obtain ⟨db', did, h'⟩ := h.rollback
    obtain ⟨late, undone⟩ := ih (.error .nestedRolledBack) h'
    simp only [observe, run, did]
    exact ⟨List.forall_mem_cons.mpr ⟨trivial, late⟩, undone⟩
  | nest inner next _ ihNext =>
    have refused := h.enter
    obtain ⟨late, undone⟩ := ihNext (.error (ofError .nestedRolledBack)) h
    simp only [observe, run, Database.nested, Database.runIn, refused]
    exact ⟨List.forall_mem_cons.mpr ⟨⟨rfl, rfl⟩, late⟩, undone⟩

theorem Outcome.close {seen : List (Observation ε α)} {ending : Ending ε α}
    (h : Outcome ofError origin ref (depth + 1) texts seen ending db) (obliging : origin.Obliging)
    (onExit : ExitAction) : ∃ db', (⟨ref, onExit⟩ : Scope).close ofError ending db = (ending, db') ∧
      ((∀ o ∈ seen, Observation.Early o) ∧ db'.Entered origin ref depth (texts ++ statements seen) ∨
        Poisoned ofError seen ∧ db'.Undone origin ref depth) := by
  cases h with
  | well early good entered =>
    obtain ⟨db', left, entered'⟩ := entered.pass onExit
    exact ⟨db', Scope.close_eq (good ▸ left), .inl ⟨early, entered'⟩⟩
  | badly poisoned bad entered =>
    obtain ⟨db', left, undone⟩ := entered.undo obliging onExit
    exact ⟨db', Scope.close_eq (bad ▸ left), .inr ⟨poisoned, undone⟩⟩
  | undone poisoned undone =>
    obtain ⟨db', left, undone'⟩ := undone.leave ending.action onExit
    exact ⟨db', Scope.close_eq left, .inr ⟨poisoned, undone'⟩⟩

theorem Outcome.close_root {seen : List (Observation ε α)} {ending : Ending ε α}
    (h : Outcome ofError origin ref 0 texts seen ending db) (obliging : origin.Obliging)
    (onExit : ExitAction) : ∃ db', (⟨ref, onExit⟩ : Scope).close ofError ending db = (ending, db') ∧
      ((∀ o ∈ seen, Observation.Early o) ∧ db'.Over origin ref (texts ++ statements seen) 1 0 ∨
        Poisoned ofError seen ∧ db'.Over origin ref [] 0 1) := by
  cases h with
  | well early good entered =>
    obtain ⟨db', left, spent⟩ := entered.commit_root obliging onExit
    exact ⟨db', Scope.close_eq (good ▸ left), .inl ⟨early, spent⟩⟩
  | badly poisoned bad entered =>
    obtain ⟨db', left, spent⟩ := entered.undo_root obliging onExit
    exact ⟨db', Scope.close_eq (bad ▸ left), .inr ⟨poisoned, spent⟩⟩
  | undone poisoned undone =>
    obtain ⟨db', left, spent⟩ := undone.leave_root ending.action onExit
    exact ⟨db', Scope.close_eq left, .inr ⟨poisoned, spent⟩⟩

theorem outcome (obliging : origin.Obliging) (block : Block ε α)
    (h : db.Entered origin ref depth texts) : Outcome ofError origin ref depth texts
      (block.observe ofError ref db) (block.run ofError ref db).1 (block.run ofError ref db).2 := by
  -- A nested block begins one level deeper, and what follows a statement begins with one more waiting.
  induction block generalizing depth texts db with
  | finish ending =>
    simp only [observe, run]
    cases good : ending.action with
    | commit =>
      have none : statements [Observation.ended ending] = [] := rfl
      refine .well (List.forall_mem_singleton.mpr good) good ?_
      rwa [none, List.append_nil]
    | rollback =>
      have poisons : (Observation.ended ending).isPoison = true := by
        simp [Observation.isPoison, good]
      exact .badly (.first poisons fun _ mem => absurd mem List.not_mem_nil) good h
  | execute statement next ih =>
    obtain ⟨db', did, h'⟩ := h.execute statement.free statement.counts statement.params
    have rest := ih (.ok statement.count) h'
    have early : ∀ o ∈ [(.executed statement (.ok statement.count) : Observation ε α)], o.Early :=
      List.forall_mem_singleton.mpr rfl
    simp only [observe, run, did]
    exact Outcome.prepend rest early
  | rollback next ih =>
    obtain ⟨db', did, undone⟩ := h.rollback obliging
    obtain ⟨late, undone'⟩ := late_of_undone ofError (next (.ok ())) undone
    simp only [observe, run, did]
    exact .undone (.first rfl late) undone'
  | nest inner next ihInner ihNext =>
    obtain ⟨db₁, enters, entered⟩ := h.enter
    have inside := ihInner entered
    rcases ran : inner.run ofError ref db₁ with ⟨ending, db'⟩
    rw [ran] at inside
    obtain ⟨db₂, closes, which⟩ := inside.close obliging .rollback
    have nested : db.nested ofError ref (fun ref db => inner.run ofError ref db) = (ending, db₂) := by
      simp only [Database.nested, Database.runIn, enters, ran, closes]
    simp only [observe, run, nested, enters, h.depth_eq]
    rcases which with ⟨early, entered'⟩ | ⟨poisoned, undone⟩
    · rw [entered'.depth_eq]
      have around := early_around depth ending early
      rw [← statements_around _ depth ending] at entered'
      exact (ihNext ending entered').prepend around
    · rw [undone.depth_eq]
      obtain ⟨late, undone'⟩ := late_of_undone ofError (next ending) undone
      exact .undone ((poisoned.around depth ending).append late) undone'

end Block

namespace Run

/-- A program of nested blocks is run as a transaction on a server that refuses nothing. Without a
rollback and without a block that ends badly, there is one commit and all statements take effect in
their order. Otherwise there is one rollback and nothing takes effect, and from that point on no
statement and no nested block is run. The program's answer is that of its outermost block. -/
theorem withTransaction_block (server : Server) (settings : Settings) (before : List Action)
    {run : Run} (reached : (start server settings).steps before = run)
    (willing : run.db.backend.server.Willing)
    (room : run.db.backend.pool.idle ≠ [] ∨
      run.db.backend.pool.created < run.db.backend.pool.limit)
    (ofError : TransactionError → ε) (block : Block ε α) :
    let ref := run.db.entries.length
    let answer := run.db.withTransaction ofError fun ref db => block.run ofError ref db
    let counters := run.db.backend.server.counters
    let ended := answer.2.backend.server
    ∃ begun, run.db.begin = (.ok ref, begun) ∧ answer.1 = (block.run ofError ref begun).1 ∧
      let seen := block.observe ofError ref begun
      ((∀ o ∈ seen, o.isPoison = false) →
        ended.counters.commits = counters.commits + 1 ∧
          ended.counters.rollbacks = counters.rollbacks ∧
          ended.journal = run.db.backend.server.journal ++ Block.statements seen) ∧
      ((∃ o ∈ seen, o.isPoison = true) →
        ended.counters.commits = counters.commits ∧
          ended.counters.rollbacks = counters.rollbacks + 1 ∧
          ended.journal = run.db.backend.server.journal ∧
          ∀ o ∈ (seen.dropWhile fun o => !o.isPoison).tail, Observation.Late ofError o) ∧
      (∀ o ∈ seen, o.IsLevel) ∧
      (answer.2.transaction ref).isFinalized = true ∧ (answer.2.transaction ref).depth = 0 ∧
      answer.2.isHeld ref = false := by
  subst reached
  intro ref answer counters ended
  have tidy := ((start_consistent server settings).steps before).tidy
  obtain ⟨begun, begins, entered⟩ := Database.begin_ok tidy willing room
  have inside := @Block.outcome _ _ ofError _ _ _ _ _ willing.toObliging block entered
  obtain ⟨after, closes, which⟩ := inside.close_root willing.toObliging .rollback
  have did : answer = ((block.run ofError ref begun).1, after) := by
    simp only [answer, Database.withTransaction, Database.enter, begins, Database.runIn, closes, ref]
  refine ⟨begun, begins, by rw [did], ?_⟩
  have closed : ended = after.backend.server := by simp only [ended, did]
  rw [closed, did]
  rcases which with ⟨early, spent⟩ | ⟨poisoned, spent⟩
  · have change := spent.change
    refine ⟨fun _ => ⟨change.commits, change.rollbacks, change.journal⟩, fun poisoned => ?_,
      fun o mem => (early o mem).isLevel, spent.closed⟩
    obtain ⟨o, mem, poisons⟩ := poisoned
    rw [(early o mem).isPoison_eq_false] at poisons
    cases poisons
  · have change := spent.change
    have journal := change.journal
    rw [List.append_nil] at journal
    refine ⟨fun clean => ?_, fun _ => ⟨change.commits, change.rollbacks, journal,
      poisoned.late_of_dropWhile⟩, poisoned.isLevel, spent.closed⟩
    obtain ⟨o, mem, poisons⟩ := poisoned.exists_isPoison
    rw [clean o mem] at poisons
    cases poisons

theorem statementCount_deletion : Server.statementCount "DELETE FROM t" = .ok 1 := by
  have counts : (Server.statementCount "DELETE FROM t").toOption = some 1 := by decide +kernel
  cases counted : Server.statementCount "DELETE FROM t" with
  | error error =>
    rw [counted] at counts
    cases counts
  | ok count =>
    rw [counted] at counts
    cases counts
    rfl

def deletion : PlainStatement :=
  ⟨"DELETE FROM t", [], 1, by decide +kernel, statementCount_deletion⟩

def swallowing : Block Unit Unit :=
  .execute deletion fun _ =>
    .nest (.execute deletion fun _ => .finish (.error ())) fun _ =>
      .execute deletion fun _ => .finish (.ok ())

theorem withTransaction_swallowing :
    let run := start .empty .standard
    let answer := run.db.withTransaction (fun _ => ()) fun ref db =>
      swallowing.run (fun _ => ()) ref db
    run.db.backend.server.Willing ∧ answer.1.action = .commit ∧
      answer.2.backend.server.journal = [] ∧ answer.2.backend.server.counters.rollbacks = 1 := by
  intro run
  have willing : run.db.backend.server.Willing := ⟨⟨rfl, rfl⟩, rfl, rfl⟩
  have room : run.db.backend.pool.idle ≠ [] ∨
      run.db.backend.pool.created < run.db.backend.pool.limit := .inr (by decide)
  have reached : (start .empty .standard).steps [] = run := rfl
  have found : (swallowing.observe (fun _ => ()) run.db.entries.length run.db.begin.2).any
      (·.isPoison) = true := by
    decide +kernel
  have good :
      (swallowing.run (fun _ => ()) run.db.entries.length run.db.begin.2).1.action = .commit := by
    decide +kernel
  have journal : run.db.backend.server.journal = [] := rfl
  have rollbacks : run.db.backend.server.counters.rollbacks = 0 := rfl
  have ends :=
    withTransaction_block .empty .standard [] reached willing room (fun _ => ()) swallowing
  dsimp only at ends
  generalize run.db.withTransaction (fun _ => ())
    (fun ref db => swallowing.run (fun _ => ()) ref db) = answer at ends ⊢
  obtain ⟨begun, begins, same, _, poisoned, _⟩ := ends
  rw [begins] at found good
  obtain ⟨_, undone, unchanged, _⟩ := poisoned (List.any_eq_true.mp found)
  rw [rollbacks] at undone
  rw [journal] at unchanged
  rw [← same] at good
  exact ⟨willing, good, unchanged, undone⟩

end Run

end NestedTx

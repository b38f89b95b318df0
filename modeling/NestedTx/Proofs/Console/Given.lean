import NestedTx.CommandLine
import NestedTx.Proofs.Console.Desk
import NestedTx.Proofs.Database.Control
import NestedTx.Proofs.Json.Reading
import NestedTx.Proofs.Query.Agreement
import NestedTx.Proofs.Sql.Pieces

/-!
One text, given with the command line or typed as a line. The command line cuts a text at every semicolon
before anybody reads it as SQL, and a line is read as a whole. The two come to the same as long as no
semicolon is inside of the statement; a semicolon in a literal, a quoted name or a comment tells them apart.
-/

namespace NestedTx

open Console (command perform)

def CommandLine.given (text : String) (console : Console) (db : Database) :
    List Printed × Bool × Console × Database :=
  executeAll (Text.pieces ';' text.toList) console db

def Console.typed (text : String) (console : Console) (db : Database) :
    List Printed × Option Stop × Console × Database :=
  console.answer true text.toUTF8.data.toList db

/-- It makes no difference whether a text is given with the command line or typed as a line. -/
structure Concur (text : String) (console : Console) (db : Database) : Prop where
  out : Printed.outText (CommandLine.given text console db).1 =
    Printed.outText (console.typed text db).1
  err : Printed.errText (CommandLine.given text console db).1 =
    Printed.errText (console.typed text db).1
  handles : (CommandLine.given text console db).2.2.1 = (console.typed text db).2.2.1
  journal : (CommandLine.given text console db).2.2.2.backend.server.journal =
    (console.typed text db).2.2.2.backend.server.journal
  entries : (CommandLine.given text console db).2.2.2.entries = (console.typed text db).2.2.2.entries
  pool : (CommandLine.given text console db).2.2.2.backend.pool =
    (console.typed text db).2.2.2.backend.pool

variable {text sql : String} {console : Console} {db : Database}

theorem intercalate_cons (text : String) (texts : List String) :
    "".intercalate (text :: texts) = text ++ "".intercalate texts := by
  cases texts with
  | nil => simp
  | cons => rw [String.intercalate_cons_of_ne_nil (List.cons_ne_nil _ _), String.append_empty]

namespace Printed

@[simp] theorem outText_out (text : String) (printed : List Printed) :
    outText (.out text :: printed) = text ++ outText printed := intercalate_cons text _

@[simp] theorem outText_err (text : String) (printed : List Printed) :
    outText (.err text :: printed) = outText printed := rfl

@[simp] theorem errText_out (text : String) (printed : List Printed) :
    errText (.out text :: printed) = errText printed := rfl

@[simp] theorem errText_err (text : String) (printed : List Printed) :
    errText (.err text :: printed) = text ++ errText printed := intercalate_cons text _

theorem texts_blank (printed : List Printed) (n : Nat) :
    outText (printed ++ List.replicate n (.out "")) = outText printed ∧
      errText (printed ++ List.replicate n (.out "")) = errText printed := by
  induction printed with
  | nil =>
    induction n with
    | zero => exact ⟨rfl, rfl⟩
    | succ n ih => simpa [List.replicate_succ] using ih
  | cons first printed ih => cases first <;> simp [ih.1, ih.2]

end Printed

namespace Console

theorem typed_eq (text : String) (console : Console) (db : Database) : console.typed text db =
    match console.executeLine text db with
    | (result, console, after) =>
      if db.alarms.length < after.alarms.length then ([], some .alarm, console, after)
      else
        match result with
        | .ok .exit => ([], some .left, console, after)
        | .ok output => ([.out output.render], none, console, after)
        | .error error => ([.error error.message], none, console, after) := by
  have whole : String.fromUTF8? ⟨text.toUTF8.data.toList.toArray⟩ = some text := fromUTF8_toUTF8 text
  simp only [typed, answer, whole]
  rcases console.executeLine text db with ⟨result, console', after⟩
  by_cases raised : db.alarms.length < after.alarms.length
  · simp [raised]
  · rcases result with error | output
    · simp [raised]
    · cases output <;> simp [raised]

theorem typed_state (text : String) (console : Console) (db : Database) :
    (console.typed text db).2.2 = (console.executeLine text db).2 := by
  rw [typed_eq]
  generalize console.executeLine text db = ran
  rcases ran with ⟨result, console', after⟩
  dsimp only
  split
  · rfl
  · split <;> rfl

theorem command_congr {line line' : String}
    (same : Text.statementChars line.toList = Text.statementChars line'.toList) :
    command line = command line' := by
  simp only [command, same]

theorem command_of_nothing (line : String) (none : Text.statementChars line.toList = []) :
    command line = .nothing := by
  simp only [command, none]

theorem eq_of_command {line : String} (asks : command line = .sql sql) :
    sql = String.ofList (Text.statementChars line.toList) := by
  simp only [command] at asks
  generalize Text.statementChars line.toList = chars at asks ⊢
  split at asks
  · cases asks
  · cases asks
  · generalize String.ofList (Text.upperKey chars) = word at asks
    repeat' split at asks
    all_goals cases asks
    rfl

theorem command_of_separator (inside : ';' ∈ Text.statementChars text.toList)
    (point : ∀ rest, Text.statementChars text.toList ≠ '.' :: rest) :
    command text = .sql (String.ofList (Text.statementChars text.toList)) := by
  have kept : ';' ∈ (String.ofList (Text.upperKey (Text.statementChars text.toList))).toList := by
    rw [String.toList_ofList]
    exact List.mem_flatMap.mpr ⟨';', inside, List.mem_singleton_self _⟩
  have other {word : String} (free : ';' ∉ word.toList) :
      String.ofList (Text.upperKey (Text.statementChars text.toList)) ≠ word :=
    fun same => free (same ▸ kept)
  simp only [command]
  split
  · rename_i none
    rw [none] at inside
    cases inside
  · exact absurd ‹_› (point _)
  · rw [if_neg (other (by decide)), if_neg (other (by decide)), if_neg (other (by decide)),
      if_neg (other (by decide)), if_neg (other (by decide)), if_neg (other (by decide))]

end Console

namespace CommandLine

theorem executeAll_cons (first : List Char) (commands : List (List Char)) (console : Console)
    (db : Database) :
    let did := console.executeLine (String.ofList first) db
    let later := executeAll commands did.2.1 did.2.2
    (∃ printed success, executeAll (first :: commands) console db = (printed, success, did.2) ∧
        Printed.outText printed = "") ∨
      ∃ output, did.1 = .ok output ∧ output ≠ .exit ∧
        executeAll (first :: commands) console db = (.out output.render :: later.1, later.2) := by
  intro did later
  rcases ran : console.executeLine (String.ofList first) db with ⟨result, console', after⟩
  simp only [did, later, executeAll, ran]
  split
  · exact .inl ⟨_, _, rfl, rfl⟩
  · rcases result with error | output
    · exact .inl ⟨_, _, rfl, rfl⟩
    · cases output with
      | exit => exact .inl ⟨_, _, rfl, rfl⟩
      | _ => exact .inr ⟨_, rfl, Output.noConfusion, rfl⟩

theorem executeAll_nothing {commands : List (List Char)}
    (none : ∀ chars ∈ commands, Text.statementChars chars = []) (console : Console) (db : Database) :
    executeAll commands console db =
      (List.replicate commands.length (.out ""), true, console, db) := by
  induction commands with
  | nil => rfl
  | cons first commands ih =>
    obtain ⟨first, later⟩ := List.forall_mem_cons.mp none
    have nothing := Console.command_of_nothing (String.ofList _) (by rwa [String.toList_ofList])
    simp only [executeAll, Console.executeLine_eq, nothing, perform, lt_irrefl, if_false, ih later]
    rfl

theorem given_of_free (free : ';' ∉ Text.statementChars text.toList) (console : Console)
    (db : Database) : ∃ n,
      (given text console db).1 = (console.typed text db).1 ++ List.replicate n (.out "") ∧
        (given text console db).2.2 = (console.typed text db).2.2 := by
  obtain ⟨first, others, cut, same, none⟩ := Text.exists_pieces_eq free
  have asks : command (String.ofList first) = command text :=
    Console.command_congr (by rwa [String.toList_ofList])
  rw [given, cut, Console.typed_eq]
  simp only [executeAll, Console.executeLine_eq, asks, executeAll_nothing none]
  generalize perform (command text) console db = ran
  rcases ran with ⟨result, console', after⟩
  dsimp only
  split
  · exact ⟨0, rfl, rfl⟩
  · rcases result with error | output
    · exact ⟨0, rfl, rfl⟩
    · cases output with
      | exit => exact ⟨0, rfl, rfl⟩
      | _ => exact ⟨others.length, rfl, rfl⟩

end CommandLine

theorem Concur.of_free (free : ';' ∉ Text.statementChars text.toList) (console : Console)
    (db : Database) : Concur text console db := by
  obtain ⟨n, printed, state⟩ := CommandLine.given_of_free free console db
  obtain ⟨out, err⟩ := Printed.texts_blank (console.typed text db).1 n
  exact {
    out := by rw [printed, out]
    err := by rw [printed, err]
    handles := by rw [state]
    journal := by rw [state]
    entries := by rw [state]
    pool := by rw [state] }

namespace Console

theorem statement_of_line {line : String} {action : Action} (mem : action ∈ console.lineActions line)
    (states : action.statement? = some sql) : command line = .sql sql := by
  rw [lineActions_eq] at mem
  refine Command.forall_actions (fun action => action.statement? = some sql → command line = .sql sql)
    (fun top call asks states => ?_) nofun nofun nofun (fun _ _ => nofun) (fun text asks states => ?_)
    console action mem states
  · generalize command line = asked at asks ⊢
    cases asks with
    | execute text =>
      cases states
      rfl
    | begin | leave | fetch => cases states
    | finish action => cases action <;> cases states
  · cases states
    exact asks

end Console

theorem CommandLine.executeAll_after (counted : console.Counted db) (commands : List (List Char)) :
    ∃ actions, (executeAll commands console db).2.2.2 = db.after actions ∧
      ∀ action ∈ actions, ∀ sql, action.statement? = some sql →
        ∃ chars ∈ commands, sql = String.ofList (Text.statementChars chars) := by
  induction commands generalizing console db with
  | nil => exact ⟨[], rfl, nofun⟩
  | cons first commands ih =>
    have does := Console.executeLine_does counted (String.ofList first)
    have states : ∀ action ∈ console.lineActions (String.ofList first), ∀ sql,
        action.statement? = some sql →
          ∃ chars ∈ first :: commands, sql = String.ofList (Text.statementChars chars) := by
      intro action mem sql states
      have same := Console.eq_of_command (Console.statement_of_line mem states)
      rw [String.toList_ofList] at same
      exact ⟨first, List.mem_cons_self, same⟩
    rcases executeAll_cons first commands console db with ⟨_, _, stopped, _⟩ | ⟨_, _, _, goesOn⟩
    · refine ⟨console.lineActions (String.ofList first), ?_, states⟩
      rw [stopped, ← does.did]
    · obtain ⟨actions, later, others⟩ := ih (does.counted counted)
      refine ⟨console.lineActions (String.ofList first) ++ actions, ?_,
        List.forall_mem_append.mpr ⟨states, fun action mem sql told => ?_⟩⟩
      · rw [goesOn, Database.after_append, ← does.did, later]
      · obtain ⟨chars, found, same⟩ := others action mem sql told
        exact ⟨chars, List.mem_cons_of_mem _ found, same⟩

namespace Database

theorem journal_execute_first {count : Nat} (counts : Server.statementCount sql = .ok count) :
    ((on .empty .standard).execute .database sql []).2.backend.server.journal = [sql] := by
  simp [execute, on, Backend.checkout, Pool.empty, Settings.standard, Server.connect, Server.empty,
    Faults.none, Connection.execute, Link.execute, counts, Backend.release, Link.inTransaction,
    Backend.giveBack, Server.publish]

theorem fetch_first (sql text : String) (rows : List Row) :
    let did := (on (Server.empty.answer sql rows) .standard).fetch .database text []
    did.1 = ((Server.statementCount text).map fun _ => if text = sql then rows else []).mapError
        .driver ∧ did.2.alarms = [] := by
  have known : (Server.empty.answer sql rows).rows text = if text = sql then rows else [] := by
    simp only [Server.rows, Server.answer, Server.empty]
    by_cases same : text = sql
    · rw [same, List.lookup_cons_self, if_pos rfl]
      rfl
    · rw [List.lookup_cons, beq_eq_false_iff_ne.mpr same, if_neg same]
      rfl
  rw [← known]
  simp only [fetch, on, Backend.checkout, Pool.empty, Settings.standard, Server.connect,
    Server.answer, Server.empty, Faults.none, Connection.fetch, Link.fetch]
  cases Server.statementCount text <;> exact ⟨rfl, rfl⟩

end Database

def telltale : List Row := [[("x", .null)]]

theorem Output.head_render {output : Output} {line : String} {lines : List String} {c : Char}
    (shown : output.lines = line :: lines) (head : line.toList.head? = some c) :
    output.render.toList.head? = some c := by
  rw [render, shown, List.map_cons, intercalate_cons]
  simp only [String.toList_append, List.head?_append, head, Option.some_or]

namespace Console

def Unmarked (output : Output) : Prop :=
  output = .exit ∨
    ∃ line lines c, output.lines = line :: lines ∧ line.toList.head? = some c ∧ c ≠ 'x'

theorem Unmarked.message {c : Char} {text : String} (head : text.toList.head? = some c) (ne : c ≠ 'x') :
    Unmarked (.message text) := .inr ⟨text, [], c, rfl, head, ne⟩

theorem unmarked_affected (count : Nat) : Unmarked (.affected count) := by
  obtain ⟨c, digits, he⟩ := List.exists_cons_of_ne_nil (Nat.toDigits_ne_nil (b := 10) (n := count))
  have digit : c.isDigit = true :=
    Nat.isDigit_of_mem_toDigits (by decide) (by decide) (he ▸ List.mem_cons_self)
  refine .inr ⟨_, [], c, rfl, ?_, ?_⟩
  · rw [String.toList_append, Nat.toString_eq_repr, Nat.toList_repr, he]
    rfl
  · rintro rfl
    cases digit

theorem unmarked_status (console : Console) (db : Database) {output : Output}
    (ok : (console.status db).1 = .ok output) : Unmarked output := by
  cases ok
  exact .inr ⟨_, _, 'D', rfl, by rw [String.toList_append]; rfl, by decide⟩

theorem head_help : help.toList.head? = some 'T' := by
  rw [help, String.intercalate_cons_of_ne_nil (List.cons_ne_nil _ _)]
  simp only [String.toList_append]
  rfl

theorem unmarked_dot (text : List Char) (console : Console) (db : Database) {output : Output}
    (ok : (console.dotCommand text db).1 = .ok output) : Unmarked output := by
  simp only [dotCommand] at ok
  split at ok
  · cases ok
    exact .message head_help (by decide)
  · split at ok
    · cases ok
      exact .inl rfl
    · split at ok
      · exact unmarked_status console db ok
      · cases ok
        exact .message (c := 'U') (by simp only [String.toList_append]; rfl) (by decide)

theorem unmarked_perform {asked : Command} {output : Output} (other : asked ≠ .sql sql)
    (asks : asked ≠ .nothing)
    (ok : (perform asked .new (.on (Server.empty.answer sql telltale) .standard)).1 = .ok output) :
    Unmarked output := by
  cases asked with
  | nothing => exact absurd rfl asks
  | dot text => exact unmarked_dot text _ _ ok
  | begin =>
    simp only [perform, begin, new] at ok
    split at ok <;> cases ok
    exact .message (c := 'B') (by simp only [String.toList_append]; rfl) (by decide)
  | finish action => cases action <;> cases ok
  | leave action => cases action <;> cases ok
  | status => exact unmarked_status _ _ ok
  | sql text =>
    simp only [perform, runSql] at ok
    split at ok
    · cases ok
    · have ne : text ≠ sql := fun same => other (same ▸ rfl)
      have answer := (Database.fetch_first sql text telltale).1
      rw [if_neg ne] at answer
      simp only [target, new, answer] at ok
      cases counts : Server.statementCount text with
      | error error =>
        rw [counts] at ok
        cases ok
      | ok count =>
        rw [counts] at ok
        cases ok
        exact .inr ⟨_, [], '(', rfl, rfl, by decide⟩
    · dsimp only at ok
      generalize (Database.execute _ _ _ _).1 = result at ok
      cases result with
      | error error => cases ok
      | ok count =>
        cases ok
        exact unmarked_affected count

end Console

theorem CommandLine.unmarked_executeAll {commands : List (List Char)}
    (others : ∀ chars ∈ commands, command (String.ofList chars) ≠ .sql sql) :
    (Printed.outText (executeAll commands .new
      (.on (Server.empty.answer sql telltale) .standard)).1).toList.head? ≠ some 'x' := by
  have silent : ("" : String).toList.head? ≠ some 'x' := by decide
  induction commands with
  | nil => exact silent
  | cons first commands ih =>
    obtain ⟨other, others⟩ := List.forall_mem_cons.mp others
    rcases executeAll_cons first commands .new (.on (Server.empty.answer sql telltale) .standard) with
      ⟨_, _, stopped, none⟩ | ⟨output, ok, further, goesOn⟩
    · rw [stopped, none]
      exact silent
    · rw [Console.executeLine_eq] at ok
      by_cases nothing : command (String.ofList first) = .nothing
      · rw [nothing] at ok
        cases ok
        rw [goesOn, Console.executeLine_eq, nothing, Printed.outText_out]
        exact ih others
      · rcases Console.unmarked_perform other nothing ok with exit | ⟨line, lines, c, shown, head, ne⟩
        · exact absurd exit further
        · rw [goesOn, Printed.outText_out, String.toList_append, List.head?_append,
            Output.head_render shown head]
          exact fun same => ne (Option.some.inj same)

namespace Console

theorem typed_read {count : Nat} (asks : command text = .sql sql) (read : kindOf sql = .ok .read)
    (counts : Server.statementCount sql = .ok count) :
    (typed text .new (.on (Server.empty.answer sql telltale) .standard)).1 =
      [.out (Output.rows telltale).render] := by
  obtain ⟨answer, silent⟩ := Database.fetch_first sql sql telltale
  rw [if_pos rfl, counts] at answer
  have alarms : (Database.on (Server.empty.answer sql telltale) .standard).alarms = [] := rfl
  rw [typed_eq, executeLine_eq, asks]
  simp only [perform, runSql, read, target, new, answer, silent, alarms, lt_irrefl, if_false]
  rfl

theorem journal_typed {kind : Sql.Kind} {count : Nat} (asks : command text = .sql sql)
    (known : kindOf sql = .ok kind) (other : kind ≠ .read)
    (counts : Server.statementCount sql = .ok count) :
    (typed text .new (.on .empty .standard)).2.2.2.backend.server.journal = [sql] := by
  have runs := Database.journal_execute_first counts
  rw [typed_state, executeLine_eq, asks]
  simp only [perform, runSql, known, target, new]
  cases kind with
  | read => exact absurd rfl other
  | other | write | schema | transactionControl => exact runs

end Console

theorem CommandLine.journal_given {server : Server} {settings : Settings}
    (mem : sql ∈ (given text .new (.on server settings)).2.2.2.backend.server.journal) :
    sql ∈ server.journal ∨
      ∃ piece ∈ Text.pieces ';' text.toList, sql = String.ofList (Text.statementChars piece) := by
  have counted : Console.new.Counted (.on server settings) := fun _ => Nat.zero_le _
  obtain ⟨actions, did, states⟩ := executeAll_after counted (Text.pieces ';' text.toList)
  have same : ((Run.start server settings).steps actions).db = _ := (Run.db_steps _ _).trans did.symm
  rw [given, ← same] at mem
  rcases Run.statement_of_mem_journal server settings actions mem with
    mem | ⟨past, action, later, rfl, told, _⟩
  · exact .inl mem
  · exact .inr (states action (List.mem_append_right _ List.mem_cons_self) sql told)

theorem Concur.of_separator {statement : Sql.Statement}
    (parsed : Sql.Script.parse (Text.statementChars text.toList) = .ok [statement])
    (same : Sql.SameStatements (String.ofList (Text.statementChars text.toList)))
    (inside : ';' ∈ Text.statementChars text.toList) :
    ∃ server, ¬Concur text .new (.on server .standard) := by
  have asks := Console.command_of_separator inside fun rest point =>
    Sql.parse_period rest [statement] (point ▸ parsed)
  have none : ∀ piece ∈ Text.pieces ';' text.toList,
      String.ofList (Text.statementChars text.toList) ≠ String.ofList (Text.statementChars piece) := by
    intro piece found same
    rw [String.ofList_inj] at same
    exact (Text.mem_of_pieces found (Text.mem_of_statementChars (same ▸ inside))).2 rfl
  generalize whole : String.ofList (Text.statementChars text.toList) = sql at same asks none
  rw [← String.toList_ofList (l := Text.statementChars text.toList), whole] at parsed
  have counts : Server.statementCount sql = .ok 1 :=
    Server.statementCount_of_parse parsed (List.cons_ne_nil _ _)
  cases known : kindOf sql with
  | error error =>
    obtain ⟨cause, refused⟩ := Agreed.refused_of_same same known
    cases counts.symm.trans refused
  | ok kind =>
    by_cases read : kind = .read
    · subst read
      refine ⟨.answer sql telltale .empty, fun concur => ?_⟩
      have told := CommandLine.unmarked_executeAll fun piece found asks => none piece found <|
        (Console.eq_of_command asks).trans (by rw [String.toList_ofList])
      rw [← CommandLine.given, concur.out, Console.typed_read asks known counts] at told
      exact told (by decide +kernel)
    · refine ⟨.empty, fun concur => ?_⟩
      have told := concur.journal.trans (Console.journal_typed asks known read counts)
      rcases CommandLine.journal_given (told ▸ List.mem_singleton_self sql) with
        mem | ⟨piece, found, same⟩
      · cases mem
      · exact none piece found same

/-- A text of one statement, which stays one when it is trimmed and its closing semicolons are cut off, does
the same whether it is given with the command line or typed as a line, at every console at which anything
may have been done before, exactly if no semicolon is left in it then. Without such a semicolon it does the
same at all consoles, whatever the text is. -/
theorem concur_iff (text : String) :
    (';' ∉ Text.statementChars text.toList → ∀ console db, Concur text console db ∧
      (CommandLine.given text console db).2.2 = (console.typed text db).2.2) ∧
    ∀ statement, Sql.Script.parse text.toList = .ok [statement] → Sql.SameStatements text →
      Sql.SameStatements (String.ofList (Text.statementChars text.toList)) →
      ((∀ server settings turns, let desk := (Desk.start server settings).turns turns
        Concur text desk.console desk.run.db) ↔ ';' ∉ Text.statementChars text.toList) := by
  refine ⟨fun free console db => ⟨.of_free free console db, ?_⟩, fun statement parsed same again =>
    ⟨fun concur inside => ?_, fun free server settings turns => .of_free free _ _⟩⟩
  · obtain ⟨_, _, state⟩ := CommandLine.given_of_free free console db
    exact state
  · obtain ⟨server, differs⟩ := Concur.of_separator (same.parse_trimmed parsed) again inside
    exact differs (concur server .standard [])

theorem concur_comment :
    let text := " INSERT INTO t (id) VALUES ('a, b') -- done;;\n"
    (∃ statement, Sql.Script.parse text.toList = .ok [statement]) ∧ Sql.SameStatements text ∧
      Sql.SameStatements (String.ofList (Text.statementChars text.toList)) ∧
      ∀ server settings turns, let desk := (Desk.start server settings).turns turns
        Concur text desk.console desk.run.db := by
  intro text
  have one : (Sql.Script.parse text.toList).toOption.map List.length = some 1 := by decide +kernel
  obtain ⟨statements, parsed, length⟩ := Option.map_eq_some_iff.mp one
  obtain ⟨statement, rfl⟩ := List.length_eq_one_iff.mp length
  have parsed := Sql.ok_of_toOption parsed
  have same : Sql.SameStatements text := .of_tokens (by decide +kernel)
  have again : Sql.SameStatements (String.ofList (Text.statementChars text.toList)) :=
    .of_tokens (by decide +kernel)
  have free : ';' ∉ Text.statementChars text.toList := by decide +kernel
  exact ⟨⟨statement, parsed⟩, same, again, ((concur_iff text).2 statement parsed same again).mpr free⟩

/-- A literal with a semicolon is one statement for the parser. Typed as a line it is run; given with the
command line it is cut within the literal, and nothing is run. -/
theorem literal_cut :
    let text := "INSERT INTO t (id) VALUES ('a;b')"
    let db := Database.on .empty .standard
    (Sql.Script.parse text.toList).toOption.map List.length = some 1 ∧ Sql.SameStatements text ∧
      (Console.new.typed text db).1 = [.out "1 row(s) affected\n"] ∧
      (Console.new.typed text db).2.2.2.backend.server.journal = [text] ∧
      Printed.outText (CommandLine.given text .new db).1 = "" ∧
      Printed.errText (CommandLine.given text .new db).1 ≠ "" ∧
      (CommandLine.given text .new db).2.2.2.backend.server.journal = [] ∧
      ¬Concur text .new db := by
  intro text db
  have ran : (Console.new.typed text db).2.2.2.backend.server.journal = [text] := by decide +kernel
  have kept : (CommandLine.given text .new db).2.2.2.backend.server.journal = [] := by
    decide +kernel
  refine ⟨by decide +kernel, .of_tokens (by decide +kernel), by decide +kernel, ran,
    by decide +kernel, by decide +kernel, kept, fun concur => ?_⟩
  have same := kept.symm.trans (concur.journal.trans ran)
  cases same

end NestedTx

import NestedTx.Proofs.Sql.Hollow
import NestedTx.Query.Error
import NestedTx.Server.Basic

namespace NestedTx

namespace Sql

variable {sql : String} {cs : List Char}

theorem ok_of_toOption {ε α : Type} {result : Except ε α} {a : α} (some : result.toOption = some a) :
    result = .ok a := by
  cases result with
  | error error => cases some
  | ok found => exact congrArg Except.ok (Option.some.inj some)

/-- The text holds the same statements without what is cut off of it, if it can be read. -/
def SameStatements (sql : String) : Prop :=
  (Script.parse (Text.statementChars sql.toList)).toOption = (Script.parse sql.toList).toOption

namespace SameStatements

theorem of_tokens (same : tokens (Text.statementChars sql.toList) = tokens sql.toList) :
    SameStatements sql := by
  rw [SameStatements, Script.parse, Script.parse, same]

theorem of_hollow (hollow : Hollow sql.toList) : SameStatements sql := by
  rw [SameStatements, parse_eq_nil_iff.mpr hollow, parse_eq_nil_iff.mpr hollow.statementChars]

theorem parse_ok (same : SameStatements sql) {statements : List Statement}
    (parsed : Script.parse (Text.statementChars sql.toList) = .ok statements) :
    Script.parse sql.toList = .ok statements :=
  ok_of_toOption (same.symm.trans (congrArg Except.toOption parsed))

theorem parse_trimmed (same : SameStatements sql) {statements : List Statement}
    (parsed : Script.parse sql.toList = .ok statements) :
    Script.parse (Text.statementChars sql.toList) = .ok statements :=
  ok_of_toOption (Eq.trans same (congrArg Except.toOption parsed))

theorem parse_error (same : SameStatements sql) {error : ParseError}
    (failed : Script.parse (Text.statementChars sql.toList) = .error error) :
    ∃ error, Script.parse sql.toList = .error error := by
  rw [SameStatements, failed] at same
  cases whole : Script.parse sql.toList with
  | error error => exact ⟨error, rfl⟩
  | ok found =>
    rw [whole] at same
    cases same

end SameStatements

theorem classify_cases (sql : String) :
    (Text.statementChars sql.toList = [] ∧ classify sql = .error .empty) ∨
    classify sql = .ok .transactionControl ∨
    (∃ error, Script.parse (Text.statementChars sql.toList) = .error error ∧
      classify sql = .error (.invalid error)) ∨
    ∃ statements, Script.parse (Text.statementChars sql.toList) = .ok statements ∧
      classify sql = .ok (Kind.ofScript (statements.map Statement.kind)) := by
  simp only [classify]
  split
  · exact .inl ⟨List.isEmpty_iff.mp ‹_›, rfl⟩
  · split
    · exact .inr (.inl rfl)
    · split
      · exact .inr (.inr (.inl ⟨_, ‹_›, rfl⟩))
      · exact .inr (.inr (.inr ⟨_, ‹_›, rfl⟩))

theorem Hollow.uncontrolled (hollow : Hollow cs) :
    controlWords.contains (Text.upperKey (Text.firstWord cs)) = false := by
  cases hollow with
  | nil => rfl
  | blank blank _ =>
    rw [Text.firstWord, List.takeWhile_cons_of_neg (by simpa using blank)]
    rfl
  | separator _ => rfl
  | line _ _ _ => rfl
  | block _ _ => rfl

theorem classify_of_hollow (hollow : Hollow sql.toList) :
    classify sql = if Text.statementChars sql.toList = [] then .error .empty else .ok .read := by
  have trimmed := hollow.statementChars
  simp only [classify, trimmed.uncontrolled, parse_eq_nil_iff.mpr trimmed, List.isEmpty_iff,
    Bool.false_eq_true, if_false]
  rfl

end Sql

variable {sql : String}

theorem Server.statementCount_of_hollow (hollow : Sql.Hollow sql.toList) :
    statementCount sql = .error (.invalid "empty statement") := by
  rw [statementCount, Sql.parse_eq_nil_iff.mpr hollow]

theorem Server.statementCount_of_parse {statements : List Sql.Statement}
    (parsed : Sql.Script.parse sql.toList = .ok statements) (some : statements ≠ []) :
    statementCount sql = .ok statements.length := by
  rw [statementCount, parsed]
  cases statements with
  | nil => exact absurd rfl some
  | cons => rfl

structure Agreed (sql : String) : Prop where
  accepted : ∀ kind, kindOf sql = .ok kind → kind ≠ .transactionControl →
    ∃ count, 0 < count ∧ Server.statementCount sql = .ok count
  refused : ∀ error, kindOf sql = .error error → ∃ cause, Server.statementCount sql = .error cause

namespace Agreed

theorem iff_of_hollow (hollow : Sql.Hollow sql.toList) :
    Agreed sql ↔ Text.statementChars sql.toList = [] := by
  have kind : kindOf sql = _ := congrArg (Except.mapError _) (Sql.classify_of_hollow hollow)
  have count := Server.statementCount_of_hollow hollow
  constructor
  · intro agreed
    by_contra some
    rw [if_neg some] at kind
    obtain ⟨n, _, accepted⟩ := agreed.accepted .read kind nofun
    cases count.symm.trans accepted
  · intro none
    rw [if_pos none] at kind
    refine ⟨fun kind' ok => ?_, fun _ _ => ⟨_, count⟩⟩
    cases kind.symm.trans ok

theorem refused_of_same (same : Sql.SameStatements sql) {error : QueryError}
    (failed : kindOf sql = .error error) : ∃ cause, Server.statementCount sql = .error cause := by
  rcases Sql.classify_cases sql with ⟨none, _⟩ | ok | ⟨error', parsed, _⟩ | ⟨_, _, ok⟩
  · have trimmed : Sql.Script.parse (Text.statementChars sql.toList) = .ok [] := by
      rw [none]
      rfl
    have parsed := same.parse_ok trimmed
    exact ⟨_, Server.statementCount_of_hollow (Sql.parse_eq_nil_iff.mp parsed)⟩
  · rw [kindOf, ok] at failed
    cases failed
  · obtain ⟨error, parsed⟩ := same.parse_error parsed
    exact ⟨_, by rw [Server.statementCount, parsed]⟩
  · rw [kindOf, ok] at failed
    cases failed

theorem of_statements (same : Sql.SameStatements sql) (filled : ¬Sql.Hollow sql.toList) :
    Agreed sql := by
  refine ⟨fun kind ok uncontrolled => ?_, fun error => refused_of_same same⟩
  rw [kindOf] at ok
  rcases Sql.classify_cases sql with ⟨_, he⟩ | he | ⟨_, _, he⟩ | ⟨statements, parsed, _⟩
  · rw [he] at ok
    cases ok
  · rw [he] at ok
    cases ok
    exact absurd rfl uncontrolled
  · rw [he] at ok
    cases ok
  · have whole := same.parse_ok parsed
    have some : statements ≠ [] := by
      rintro rfl
      exact filled (Sql.parse_eq_nil_iff.mp whole)
    exact ⟨_, List.length_pos_iff.mpr some, Server.statementCount_of_parse whole some⟩

end Agreed

/-- A text that holds the same statements when it is trimmed and its closing semicolons are cut off is
agreed on, unless it holds no statement and something is left of it. In any case a text that the
classifier refuses is refused by the server. A text that holds no statement is refused by the server,
and the classifier takes it for a read if something is left of it. -/
theorem agreed_iff (same : Sql.SameStatements sql) :
    (Agreed sql ↔ (Sql.Hollow sql.toList → Text.statementChars sql.toList = [])) ∧
      (∀ error, kindOf sql = .error error → ∃ cause, Server.statementCount sql = .error cause) ∧
      (Sql.Hollow sql.toList → Server.statementCount sql = .error (.invalid "empty statement") ∧
        kindOf sql = if Text.statementChars sql.toList = [] then .error .empty else .ok .read) := by
  refine ⟨⟨fun agreed hollow => (Agreed.iff_of_hollow hollow).mp agreed, fun empty => ?_⟩,
    fun error => Agreed.refused_of_same same, fun hollow => ⟨?_, ?_⟩⟩
  · by_cases hollow : Sql.Hollow sql.toList
    · exact (Agreed.iff_of_hollow hollow).mpr (empty hollow)
    · exact .of_statements same hollow
  · exact Server.statementCount_of_hollow hollow
  · rw [kindOf, Sql.classify_of_hollow hollow]
    split <;> rfl

theorem agreed_comment :
    let sql := " SELECT 1; /* two */ DELETE FROM t -- done;\n"
    Sql.SameStatements sql ∧ Agreed sql ∧ kindOf sql = .ok .write ∧
      Server.statementCount sql = .ok 2 := by
  intro sql
  have same : Sql.SameStatements sql := .of_tokens (by decide +kernel)
  have count : Server.statementCount sql = .ok 2 := by decide +kernel
  refine ⟨same, (agreed_iff same).1.mpr fun hollow => ?_, by decide +kernel, count⟩
  cases count.symm.trans (Server.statementCount_of_hollow hollow)

/-- A comment is taken for a read, and the server refuses it. -/
theorem comment_read :
    let sql := "-- nothing"
    Sql.SameStatements sql ∧ Sql.Hollow sql.toList ∧ kindOf sql = .ok .read ∧
      Sql.Kind.isCacheable .read = true ∧
      Server.statementCount sql = .error (.invalid "empty statement") ∧ ¬Agreed sql := by
  intro sql
  have text : sql.toList = '-' :: '-' :: (" nothing".toList ++ []) := by decide
  have hollow : Sql.Hollow sql.toList := text ▸ .line (by decide) nofun .nil
  refine ⟨.of_hollow hollow, hollow, by decide +kernel, rfl,
    Server.statementCount_of_hollow hollow, fun agreed => ?_⟩
  exact absurd ((Agreed.iff_of_hollow hollow).mp agreed) (by decide +kernel)

end NestedTx

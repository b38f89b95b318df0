import Mathlib.Data.Finset.Lattice.Fold
import NestedTx.Proofs.Query.Agreement
import NestedTx.Proofs.Query.Writes

namespace NestedTx.Sql

namespace Kind

def strength : Kind → Nat
  | .read => 0
  | .other => 1
  | .write => 2
  | .schema => 3
  | .transactionControl => 4

theorem strength_injective : Function.Injective strength := by
  intro kind kind' same
  cases kind <;> cases kind' <;> first | rfl | cases same

instance : LinearOrder Kind := .lift' strength strength_injective

instance : OrderBot Kind where
  bot := .read
  bot_le _ := Nat.zero_le _

variable {kinds : List Kind}

theorem ne_of_lacks {kind : Kind} (lacks : ¬kinds.contains kind = true) :
    ∀ kind' ∈ kinds, kind' ≠ kind := by
  rintro kind' mem rfl
  exact lacks (List.contains_iff_mem.mpr mem)

theorem ofScript_strongest (kinds : List Kind) :
    (ofScript kinds = ⊥ ∨ ofScript kinds ∈ kinds) ∧ ∀ kind ∈ kinds, kind ≤ ofScript kinds := by
  rw [ofScript]
  split
  · rename_i found
    exact ⟨.inr (List.contains_iff_mem.mp found), fun kind _ => by cases kind <;> decide⟩
  rename_i lacks
  have control := ne_of_lacks lacks
  split
  · rename_i found
    refine ⟨.inr (List.contains_iff_mem.mp found), fun kind mem => ?_⟩
    cases kind with
    | transactionControl => exact absurd rfl (control _ mem)
    | _ => decide
  rename_i lacks
  have schema := ne_of_lacks lacks
  split
  · rename_i found
    refine ⟨.inr (List.contains_iff_mem.mp found), fun kind mem => ?_⟩
    cases kind with
    | transactionControl => exact absurd rfl (control _ mem)
    | schema => exact absurd rfl (schema _ mem)
    | _ => decide
  rename_i lacks
  have write := ne_of_lacks lacks
  split
  · rename_i reads
    refine ⟨.inl rfl, fun kind mem => ?_⟩
    rw [beq_iff_eq.mp (List.all_eq_true.mp reads kind mem)]
  · rename_i some
    have left : ∀ kind ∈ kinds, kind ≠ .read → kind = .other := by
      intro kind mem ne
      cases kind with
      | read => exact absurd rfl ne
      | other => rfl
      | write => exact absurd rfl (write _ mem)
      | schema => exact absurd rfl (schema _ mem)
      | transactionControl => exact absurd rfl (control _ mem)
    constructor
    · rw [List.all_eq_true] at some
      push Not at some
      obtain ⟨kind, mem, ne⟩ := some
      have ne : kind ≠ .read := by simpa using ne
      exact .inr (left kind mem ne ▸ mem)
    · intro kind mem
      by_cases read : kind = .read
      · exact read ▸ bot_le
      · exact (left kind mem read).le

theorem ofScript_eq_sup (kinds : List Kind) : ofScript kinds = kinds.toFinset.sup id := by
  obtain ⟨attained, above⟩ := ofScript_strongest kinds
  apply le_antisymm
  · rcases attained with none | mem
    · rw [none]
      exact bot_le
    · exact Finset.le_sup (f := id) (List.mem_toFinset.mpr mem)
  · exact Finset.sup_le fun kind mem => above kind (List.mem_toFinset.mp mem)

theorem ofScript_append (kinds kinds' : List Kind) :
    ofScript (kinds ++ kinds') = max (ofScript kinds) (ofScript kinds') := by
  simp only [ofScript_eq_sup, List.toFinset_append, Finset.sup_union]

theorem ofScript_eq_transactionControl (mem : .transactionControl ∈ kinds) :
    ofScript kinds = .transactionControl := by
  rw [ofScript, if_pos (List.contains_iff_mem.mpr mem)]

theorem isCacheable_iff {kind : Kind} : kind.isCacheable = true ↔ kind = .read := by
  rw [isCacheable, beq_iff_eq]

end Kind

def Script.kind (statements : List Statement) : Kind := Kind.ofScript (statements.map Statement.kind)

variable {sql : String} {statements : List Statement}

theorem classify_of_rest (rest : Text.statementChars sql.toList ≠ [])
    (parsed : Script.parse (Text.statementChars sql.toList) = .ok statements) :
    classify sql = .ok (if startsControl sql then .transactionControl else Script.kind statements) := by
  rw [classify, startsControl]
  simp only [List.isEmpty_iff, rest, if_false, parsed]
  split <;> rfl

/-- A text that does not start with a word of transaction control is of the strongest kind among its
statements, which depends only on which kinds there are; statements behind others add to a script what they
have of strength, and no more. A text with a statement that is no read cannot be cached, and one with a
statement of transaction control is transaction control, wherever the statement stands. -/
theorem classify_strongest (rest : Text.statementChars sql.toList ≠ [])
    (parsed : Script.parse (Text.statementChars sql.toList) = .ok statements) :
    (Kind.read < .other ∧ Kind.other < .write ∧ Kind.write < .schema ∧
      Kind.schema < .transactionControl) ∧
    (startsControl sql = false → classify sql = .ok (Script.kind statements)) ∧
    Script.kind statements = (statements.map Statement.kind).toFinset.sup id ∧
    (∀ first second : List Statement,
      Script.kind (first ++ second) = max (Script.kind first) (Script.kind second)) ∧
    (∀ first second : List Statement,
      (first.map Statement.kind).toFinset = (second.map Statement.kind).toFinset →
        Script.kind first = Script.kind second) ∧
    ((∃ statement ∈ statements, statement.kind ≠ .read) →
      ∃ kind, classify sql = .ok kind ∧ kind.isCacheable = false) ∧
    ((∃ statement ∈ statements, statement.kind = .transactionControl) →
      classify sql = .ok .transactionControl) := by
  have classified := classify_of_rest rest parsed
  refine ⟨by decide, fun plain => ?_, Kind.ofScript_eq_sup _, fun first second => ?_,
    fun first second same => ?_, ?_, ?_⟩
  · rw [classified, plain]
    rfl
  · rw [Script.kind, List.map_append, Kind.ofScript_append, Script.kind, Script.kind]
  · rw [Script.kind, Script.kind, Kind.ofScript_eq_sup, Kind.ofScript_eq_sup, same]
  · rintro ⟨statement, mem, ne⟩
    refine ⟨_, classified, Bool.eq_false_iff.mpr fun cacheable => ?_⟩
    have read := Kind.isCacheable_iff.mp cacheable
    split at read
    · cases read
    · have mem : statement.kind ∈ statements.map Statement.kind := List.mem_map_of_mem mem
      have below : statement.kind ≤ Script.kind statements := (Kind.ofScript_strongest _).2 _ mem
      exact ne (le_bot_iff.mp (below.trans_eq read))
  · rintro ⟨statement, mem, control⟩
    have mem : statement.kind ∈ statements.map Statement.kind := List.mem_map_of_mem mem
    rw [control] at mem
    rw [classified, Script.kind, Kind.ofScript_eq_transactionControl mem, ite_self]

theorem classify_strongest_schema :
    let sql := "SELECT 1; DROP TABLE users; DELETE FROM teams; SELECT 2"
    Text.statementChars sql.toList ≠ [] ∧ ∃ statements,
      Script.parse (Text.statementChars sql.toList) = .ok statements ∧
      statements.map Statement.kind = [.read, .schema, .write, .read] ∧
      classify sql = .ok .schema := by
  intro sql
  have rest : Text.statementChars sql.toList ≠ [] := by decide +kernel
  have found : (Script.parse (Text.statementChars sql.toList)).toOption.map
      (List.map Statement.kind) = some [.read, .schema, .write, .read] := by decide +kernel
  obtain ⟨statements, parsed, kinds⟩ := Option.map_eq_some_iff.mp found
  have parsed := ok_of_toOption parsed
  refine ⟨rest, statements, parsed, kinds, ?_⟩
  rw [(classify_strongest rest parsed).2.1 (by decide +kernel), Script.kind, kinds]
  rfl

end NestedTx.Sql

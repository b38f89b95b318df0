import Mathlib.Data.List.DropRight
import NestedTx.Proofs.Sql.Hollow

namespace NestedTx

namespace Text

variable {p : Char → Bool} {separator c : Char} {cs front piece : List Char}

theorem dropEnd_eq (p : Char → Bool) (cs : List Char) : dropEnd p cs = cs.rdropWhile p := rfl

theorem dropEnd_of_free (free : ∀ c ∈ cs, p c = false) : dropEnd p cs = cs :=
  List.rdropWhile_eq_self_iff.mpr fun some => by simp [free _ (List.getLast_mem some)]

theorem trimChars_of_blank (blank : ∀ c ∈ cs, isBlank c = true) : trimChars cs = [] := by
  rw [trimChars, List.dropWhile_eq_nil_iff.mpr blank]
  rfl

theorem trimChars_append (blank : ∀ c ∈ front, isBlank c = true) (cs : List Char) :
    trimChars (front ++ cs) = trimChars cs := by
  rw [trimChars, List.dropWhile_append_of_pos blank, trimChars]

theorem exists_trimChars (cs : List Char) : ∃ front back, cs = front ++ (trimChars cs ++ back) ∧
    (∀ c ∈ front, isBlank c = true) ∧ ∀ c ∈ back, isBlank c = true := by
  refine ⟨cs.takeWhile isBlank, (cs.dropWhile isBlank).rtakeWhile isBlank, ?_,
    fun c => List.mem_takeWhile_imp, fun c => List.mem_rtakeWhile_imp⟩
  rw [trimChars, dropEnd_eq, List.rdropWhile_append_rtakeWhile, List.takeWhile_append_dropWhile]

theorem trimChars_trimChars (cs : List Char) : trimChars (trimChars cs) = trimChars cs := by
  have front : (trimChars cs).dropWhile isBlank = trimChars cs := by
    cases first : trimChars cs with
    | nil => rfl
    | cons c rest =>
      obtain ⟨back, whole⟩ := dropEnd_prefix isBlank (cs.dropWhile isBlank)
      have visible := List.head?_dropWhile_not isBlank cs
      rw [← whole, ← trimChars, first] at visible
      exact List.dropWhile_cons_of_neg (by simpa using visible)
  rw [trimChars, front, trimChars, dropEnd_eq, dropEnd_eq, List.rdropWhile_idempotent]

theorem mem_of_statementChars (mem : c ∈ statementChars cs) : c ∈ cs := by
  have cut {p : Char → Bool} {cs : List Char} (mem : c ∈ dropEnd p cs) : c ∈ cs := by
    have front := dropEnd_prefix p cs
    exact front.subset mem
  have trim {cs : List Char} (mem : c ∈ trimChars cs) : c ∈ cs :=
    (List.dropWhile_suffix _).subset (cut mem)
  exact trim (cut (trim mem))

theorem statementChars_of_blank (blank : ∀ c ∈ cs, isBlank c = true) : statementChars cs = [] := by
  rw [statementChars, trimChars_of_blank blank]
  rfl

theorem pieces_append (free : separator ∉ front) (back : List Char) :
    pieces separator (front ++ separator :: back) = front :: pieces separator back := by
  induction front with
  | nil => simp [pieces]
  | cons c front ih =>
    simp only [List.mem_cons, not_or] at free
    rw [List.cons_append, pieces, if_neg (by simpa using Ne.symm free.1), ih free.2]

theorem mem_of_pieces (found : piece ∈ pieces separator cs) (mem : c ∈ piece) :
    c ∈ cs ∧ c ≠ separator := by
  induction cs generalizing piece with
  | nil =>
    cases List.mem_singleton.mp found
    cases mem
  | cons d cs ih =>
    rw [pieces] at found
    split at found
    · rcases List.mem_cons.mp found with rfl | found
      · cases mem
      · exact (ih found mem).imp_left (List.mem_cons_of_mem _)
    · rename_i ne
      split at found
      · rename_i first others he
        rw [he] at ih
        rcases List.mem_cons.mp found with rfl | found
        · rcases List.mem_cons.mp mem with rfl | mem
          · exact ⟨List.mem_cons_self, by simpa using ne⟩
          · exact (ih List.mem_cons_self mem).imp_left (List.mem_cons_of_mem _)
        · exact (ih (List.mem_cons_of_mem _ found) mem).imp_left (List.mem_cons_of_mem _)
      · exact absurd ‹_› (pieces_ne_nil _ _)

theorem separator_of_blank (blank : ∀ c ∈ cs, isBlank c = true) : ';' ∉ cs :=
  fun mem => by cases blank _ mem

theorem exists_cut (free : ';' ∉ statementChars cs) : ∃ front closing back,
    cs = front ++ (closing ++ back) ∧ statementChars front = statementChars cs ∧ ';' ∉ front ∧
      (∀ c ∈ closing, c = ';') ∧ ∀ c ∈ back, isBlank c = true := by
  obtain ⟨before, back, whole, blankBefore, blankBack⟩ := exists_trimChars cs
  let bare := dropEnd (· == ';') (trimChars cs)
  have cut : trimChars cs = bare ++ (trimChars cs).rtakeWhile (· == ';') :=
    List.rdropWhile_append_rtakeWhile.symm
  rw [cut, List.append_assoc, ← List.append_assoc] at whole
  refine ⟨before ++ bare, _, back, whole, ?_, ?_, fun c mem => ?_, blankBack⟩
  · have kept : dropEnd (· == ';') (trimChars bare) = trimChars bare :=
      dropEnd_of_free fun c mem => beq_eq_false_iff_ne.mpr fun he => free (he ▸ mem)
    rw [statementChars, trimChars_append blankBefore, kept, trimChars_trimChars]
    rfl
  · obtain ⟨front, behind, inner, blankFront, blankBehind⟩ := exists_trimChars bare
    rw [inner]
    simp only [List.mem_append, not_or]
    exact ⟨separator_of_blank blankBefore, separator_of_blank blankFront, free,
      separator_of_blank blankBehind⟩
  · exact beq_iff_eq.mp (List.mem_rtakeWhile_imp (p := (· == ';')) mem)

theorem exists_pieces_eq (free : ';' ∉ statementChars cs) : ∃ first others,
    pieces ';' cs = first :: others ∧ statementChars first = statementChars cs ∧
      ∀ piece ∈ others, statementChars piece = [] := by
  obtain ⟨front, closing, back, whole, same, inside, closes, blank⟩ := exists_cut free
  cases closing with
  | nil =>
    have none : ';' ∉ cs := by
      rw [whole, List.nil_append, List.mem_append, not_or]
      exact ⟨inside, separator_of_blank blank⟩
    exact ⟨cs, [], pieces_eq_singleton none, rfl, nofun⟩
  | cons c closing =>
    obtain ⟨rfl, later⟩ := List.forall_mem_cons.mp closes
    refine ⟨front, pieces ';' (closing ++ back), ?_, same, fun piece found => ?_⟩
    · rw [whole, List.cons_append, pieces_append inside]
    · refine statementChars_of_blank fun c mem => ?_
      obtain ⟨inside, other⟩ := mem_of_pieces found mem
      rcases List.mem_append.mp inside with mem | mem
      · exact absurd (later c mem) other
      · exact blank c mem

end Text

namespace Sql

variable {token : Token}

def Token.IsPoint (token : Token) : Prop := token = .symbol "." ∨ ∃ text, token = .number text

theorem numberToken_point (rest : List Char) : (numberToken ('.' :: rest)).1.IsPoint := by
  have whole : ('.' :: rest).takeWhile Char.isDigit = [] := rfl
  have behind : ('.' :: rest).dropWhile Char.isDigit = '.' :: rest := rfl
  simp only [numberToken, whole, behind]
  split
  · exact .inl rfl
  · exact .inr ⟨_, rfl⟩

theorem nextToken_point {inWord : Bool} {rest more : List Char}
    (read : nextToken inWord ('.' :: rest) = .ok (token, more)) : token.IsPoint := by
  have number {rest : List Char} (read : Except.ok (numberToken ('.' :: rest)) =
      (.ok (token, more) : Except ParseError (Token × List Char))) : token.IsPoint := by
    have first := numberToken_point rest
    rwa [Except.ok.inj read] at first
  unfold nextToken at read
  split at read <;> rename_i he
  case h_9 =>
    split at read <;> cases read
    exact .inl rfl
  case h_10 | h_11 | h_12 =>
    cases he
    exact number read
  case h_13 =>
    cases he
    exact number read
  all_goals cases he

theorem statement_of_point (below : Nested) (point : token.IsPoint) (rest : List Token) :
    Grammar.statement below (token :: rest) = .error (.unexpected (some token)) := by
  rcases point with rfl | ⟨text, rfl⟩ <;> rfl

theorem afterSeparators_of_point (point : token.IsPoint) (rest : List Token) :
    Script.afterSeparators (token :: rest) = token :: rest := by
  rcases point with rfl | ⟨text, rfl⟩ <;> rfl

theorem tokens_period {rest : List Char} {found : List Token} (read : tokens ('.' :: rest) = .ok found) :
    ∃ token others, found = token :: others ∧ token.IsPoint := by
  rw [tokens, tokensFrom_other (by decide) (by decide), if_neg (by decide)] at read
  split at read
  · cases read
  · rename_i token more first
    obtain ⟨others, _, rfl⟩ := exists_of_map_ok read
    exact ⟨token, others, rfl, nextToken_point first⟩

theorem parse_period (rest : List Char) (statements : List Statement) :
    Script.parse ('.' :: rest) ≠ .ok statements := by
  intro parsed
  rw [Script.parse] at parsed
  cases read : tokens ('.' :: rest) with
  | error error =>
    rw [read] at parsed
    cases parsed
  | ok found =>
    obtain ⟨token, others, rfl, point⟩ := tokens_period read
    rw [read] at parsed
    simp only [bind, Except.bind, Script.statementsFrom, afterSeparators_of_point point] at parsed
    have failed : (Nested.upTo nestingLimit).statement (token :: others) =
        .error (.unexpected (some token)) := statement_of_point (Nested.upTo 49) point others
    rw [failed] at parsed
    cases parsed

end Sql

end NestedTx

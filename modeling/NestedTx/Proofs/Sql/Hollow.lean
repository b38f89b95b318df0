import Mathlib.Data.List.TakeWhile
import NestedTx.Sql.Kind

namespace NestedTx

namespace Text

variable {p : Char → Bool} {c : Char} {cs ds : List Char}

theorem dropEnd_append (p : Char → Bool) (cs ds : List Char) :
    dropEnd p (cs ++ ds) = if dropEnd p ds = [] then dropEnd p cs else cs ++ dropEnd p ds := by
  have empty : dropEnd p ds = [] ↔ ds.reverse.dropWhile p = [] := List.reverse_eq_nil_iff
  rw [dropEnd, List.reverse_append, List.dropWhile_append]
  simp only [empty, List.isEmpty_iff]
  split
  · rfl
  · rw [List.reverse_append, List.reverse_reverse]
    rfl

theorem dropEnd_cons (p : Char → Bool) (c : Char) (cs : List Char) :
    dropEnd p (c :: cs) = if dropEnd p cs = [] ∧ p c = true then [] else c :: dropEnd p cs := by
  have alone : dropEnd p [c] = if p c then [] else [c] := dropEnd_concat p [] c
  rw [← List.singleton_append, dropEnd_append, alone]
  by_cases h : dropEnd p cs = [] <;> by_cases hc : p c = true <;> simp [h, hc]

theorem dropEnd_behind (kept : p c = false) (cs ds : List Char) :
    dropEnd p (cs ++ c :: ds) = cs ++ c :: dropEnd p ds := by
  have some : dropEnd p (c :: ds) = c :: dropEnd p ds := by
    rw [dropEnd_cons, if_neg fun h => Bool.false_ne_true (kept.symm.trans h.2)]
  rw [dropEnd_append, some, if_neg (List.cons_ne_nil _ _)]

theorem dropEnd_prefix (p : Char → Bool) (cs : List Char) : dropEnd p cs <+: cs := by
  rw [dropEnd, ← List.reverse_suffix, List.reverse_reverse]
  exact List.dropWhile_suffix p

end Text

namespace Sql

open Text (isBlank dropEnd)

/-- The rest of a comment from inside of some levels of it, up to its end. -/
inductive Remark : Nat → List Char → Prop
  | done : Remark 0 []
  | enter {depth : Nat} {text : List Char} (rest : Remark (depth + 2) text) :
    Remark (depth + 1) ('/' :: '*' :: text)
  | leave {depth : Nat} {text : List Char} (rest : Remark depth text) :
    Remark (depth + 1) ('*' :: '/' :: text)
  | char {depth : Nat} {c : Char} {text : List Char} (enters : ¬(c = '/' ∧ text.head? = some '*'))
    (leaves : ¬(c = '*' ∧ text.head? = some '/')) (rest : Remark (depth + 1) text) :
    Remark (depth + 1) (c :: text)

inductive Hollow : List Char → Prop
  | nil : Hollow []
  | blank {c : Char} {rest : List Char} (blank : isBlank c = true) (hollow : Hollow rest) :
    Hollow (c :: rest)
  | separator {rest : List Char} (hollow : Hollow rest) : Hollow (';' :: rest)
  | line {text rest : List Char} (inLine : '\n' ∉ text) (ends : ∀ c ∈ rest.head?, c = '\n')
    (hollow : Hollow rest) : Hollow ('-' :: '-' :: (text ++ rest))
  | block {text rest : List Char} (remark : Remark 1 text) (hollow : Hollow rest) :
    Hollow ('/' :: '*' :: (text ++ rest))

variable {depth : Nat} {text rest cs : List Char}

theorem afterComment_char {c : Char} (enters : ¬(c = '/' ∧ text.head? = some '*'))
    (leaves : ¬(c = '*' ∧ text.head? = some '/')) :
    afterComment depth (c :: text) = afterComment depth text := by
  rw [afterComment]
  · rintro rest rfl rfl
    exact enters ⟨rfl, rfl⟩
  · rintro rest rfl rfl
    exact leaves ⟨rfl, rfl⟩

theorem Remark.afterComment (remark : Remark (depth + 1) text) (rest : List Char) :
    Sql.afterComment (depth + 1) (text ++ rest) = some rest := by
  generalize levels : depth + 1 = level at remark
  induction remark generalizing depth with
  | done => cases levels
  | enter _ ih => exact ih rfl
  | @leave level text inner ih =>
    rw [List.cons_append, List.cons_append, Sql.afterComment]
    cases level with
    | zero =>
      cases inner
      rfl
    | succ level => exact ih rfl
  | @char level c text enters leaves inner ih =>
    have some : text ≠ [] := by
      rintro rfl
      cases inner
    have same : (text ++ rest).head? = text.head? := by
      cases text with
      | nil => exact absurd rfl some
      | cons => rfl
    rw [List.cons_append, afterComment_char (same ▸ enters) (same ▸ leaves)]
    exact ih rfl

theorem exists_remark (ends : afterComment (depth + 1) cs = some rest) :
    ∃ text, cs = text ++ rest ∧ Remark (depth + 1) text := by
  generalize levels : depth + 1 = level at ends ⊢
  induction level, cs using afterComment.induct generalizing depth with
  | case1 level cs ih =>
    subst levels
    obtain ⟨text, rfl, remark⟩ := ih rfl ends
    exact ⟨'/' :: '*' :: text, rfl, .enter remark⟩
  | case2 level cs last =>
    rw [afterComment, if_pos last] at ends
    cases ends
    obtain rfl : level = 1 := by omega
    exact ⟨['*', '/'], rfl, .leave .done⟩
  | case3 level cs more ih =>
    rw [afterComment, if_neg more] at ends
    obtain ⟨depth, rfl⟩ : ∃ depth, level = depth + 2 := ⟨level - 2, by omega⟩
    obtain ⟨text, rfl, remark⟩ := ih rfl ends
    exact ⟨'*' :: '/' :: text, rfl, .leave remark⟩
  | case4 level c cs enters leaves ih =>
    subst levels
    rw [afterComment.eq_3 _ _ _ enters leaves] at ends
    obtain ⟨text, rfl, remark⟩ := ih rfl ends
    refine ⟨c :: text, rfl, .char ?_ ?_ remark⟩
    · rintro ⟨rfl, head⟩
      obtain ⟨text, rfl⟩ := List.head?_eq_some_iff.mp head
      exact enters _ rfl rfl
    · rintro ⟨rfl, head⟩
      obtain ⟨text, rfl⟩ := List.head?_eq_some_iff.mp head
      exact leaves _ rfl rfl
  | case5 => cases ends

theorem afterComment_iff :
    afterComment 1 cs = some rest ↔ ∃ text, cs = text ++ rest ∧ Remark 1 text := by
  constructor
  · exact exists_remark
  · rintro ⟨text, rfl, remark⟩
    exact remark.afterComment rest

theorem Remark.exists_last (remark : Remark (depth + 1) text) : ∃ init, text = init ++ ['/'] := by
  generalize levels : depth + 1 = level at remark
  induction remark generalizing depth with
  | done => cases levels
  | enter _ ih =>
    obtain ⟨init, rfl⟩ := ih rfl
    exact ⟨'/' :: '*' :: init, rfl⟩
  | @leave level text inner ih =>
    cases inner with
    | done => exact ⟨['*'], rfl⟩
    | _ =>
      obtain ⟨init, he⟩ := ih rfl
      exact ⟨'*' :: '/' :: init, by rw [he]; rfl⟩
  | @char level c _ _ _ _ ih =>
    obtain ⟨init, rfl⟩ := ih rfl
    exact ⟨c :: init, rfl⟩

theorem stringToken_ne {found : Option (List Char × List Char)} {token : Token × List Char}
    (read : stringToken found = .ok token) : token.1 ≠ .symbol ";" := by
  cases found <;> cases read
  nofun

theorem dollarToken_ne {token : Token × List Char} (read : dollarToken cs = .ok token) :
    token.1 ≠ .symbol ";" := by
  simp only [dollarToken] at read
  split at read
  · split at read <;> cases read
    nofun
  · cases read
    nofun

theorem numberToken_ne (cs : List Char) : (numberToken cs).1 ≠ .symbol ";" := by
  simp only [numberToken]
  split
  · simp
  · split <;> dsimp only <;> split <;> simp

theorem signToken_ne {sign : Char} (ne : sign ≠ ';') (rest : List Char) :
    (signToken sign rest).1 ≠ .symbol ";" := by
  have alone : Token.symbol (String.singleton sign) ≠ .symbol ";" := by
    intro same
    have same := congrArg String.toList (Token.symbol.inj same)
    rw [String.toList_singleton] at same
    exact ne (List.cons.inj same).1
  simp only [signToken]
  split
  · split <;> try split
    all_goals simp
  · split
    · rename_i op known
      intro same
      cases Token.symbol.inj same
      exact absurd (List.mem_of_find?_eq_some known) (by decide)
    · split
      · exact alone
      · split
        · simp
        · exact alone

theorem symbolToken_separator (rest : List Char) : symbolToken ';' rest = (.symbol ";", rest) := by
  have none : operators.find? (fun op => op.toList.isPrefixOf (';' :: rest)) = none := rfl
  rw [symbolToken, none]
  rfl

theorem separator_of_symbolToken {c : Char} {more : List Char}
    (read : symbolToken c rest = (.symbol ";", more)) : c = ';' ∧ more = rest := by
  rw [symbolToken] at read
  split at read
  · rename_i op known
    cases Token.symbol.inj (Prod.mk.inj read).1
    exact absurd (List.mem_of_find?_eq_some known) (by decide)
  · have same := congrArg String.toList (Token.symbol.inj (Prod.mk.inj read).1)
    rw [String.toList_singleton] at same
    exact ⟨(List.cons.inj same).1, (Prod.mk.inj read).2.symm⟩

def plainToken (c : Char) (rest : List Char) : Token × List Char :=
  if isWordStart c then wordToken (c :: rest)
  else if c.isDigit || c = '.' then numberToken (c :: rest)
  else symbolToken c rest

theorem plainToken_eq (c : Char) (rest : List Char) :
    (if isWordStart c then .ok (wordToken (c :: rest))
      else if c.isDigit || c = '.' then .ok (numberToken (c :: rest))
      else .ok (symbolToken c rest) : Except ParseError (Token × List Char)) =
    .ok (plainToken c rest) := by
  rw [plainToken]
  split
  · rfl
  · split <;> rfl

theorem plainToken_separator (rest : List Char) : plainToken ';' rest = (.symbol ";", rest) := by
  rw [plainToken, if_neg (by decide), if_neg (by decide), symbolToken_separator]

theorem separator_of_plainToken {c : Char} {more : List Char}
    (read : plainToken c rest = (.symbol ";", more)) : c = ';' ∧ more = rest := by
  rw [plainToken] at read
  split at read
  · cases read
  · split at read
    · exact absurd (congrArg Prod.fst read) (numberToken_ne _)
    · exact separator_of_symbolToken read

theorem nextToken_separator (inWord : Bool) (rest : List Char) :
    nextToken inWord (';' :: rest) = .ok (.symbol ";", rest) := by
  rw [← plainToken_separator rest, ← plainToken_eq]
  unfold nextToken
  split <;> rename_i he
  case h_10 | h_11 | h_12 =>
    obtain ⟨rfl, rfl⟩ := List.cons.inj he
    rfl
  case h_13 =>
    obtain ⟨rfl, rfl⟩ := List.cons.inj he
    rfl
  all_goals simp at he

theorem separator_of_nextToken {inWord : Bool} {c : Char} {more : List Char}
    (read : nextToken inWord (c :: rest) = .ok (.symbol ";", more)) : c = ';' ∧ more = rest := by
  unfold nextToken at read
  split at read <;> rename_i he
  case h_1 => cases he
  case h_2 => exact absurd rfl (stringToken_ne read)
  case h_3 | h_4 => split at read <;> cases read
  case h_5 | h_6 => exact absurd (congrArg Prod.fst (Except.ok.inj read)) (signToken_ne (by decide) _)
  case h_7 => exact absurd rfl (dollarToken_ne read)
  case h_8 => cases read
  case h_9 => split at read <;> simp at read
  case h_10 =>
    obtain ⟨rfl, rfl⟩ := List.cons.inj he
    split at read
    · exact absurd rfl (stringToken_ne read)
    · split at read
      · exact absurd rfl (stringToken_ne read)
      · rw [plainToken_eq] at read
        exact separator_of_plainToken (Except.ok.inj read)
  case h_11 | h_12 =>
    obtain ⟨rfl, rfl⟩ := List.cons.inj he
    split at read
    · exact absurd rfl (stringToken_ne read)
    · rw [plainToken_eq] at read
      exact separator_of_plainToken (Except.ok.inj read)
  case h_13 =>
    obtain ⟨rfl, rfl⟩ := List.cons.inj he
    rw [plainToken_eq] at read
    exact separator_of_plainToken (Except.ok.inj read)

variable {fuel : Nat} {inWord : Bool} {c : Char} {tokens : List Token}

theorem tokensFrom_succ (fuel : Nat) (inWord : Bool) (cs : List Char) :
    tokensFrom (fuel + 1) inWord cs =
      match cs with
      | [] => .ok []
      | '-' :: '-' :: rest => tokensFrom fuel false (rest.dropWhile (· ≠ '\n'))
      | '/' :: '*' :: rest =>
        match afterComment 1 rest with
        | some rest => tokensFrom fuel false rest
        | none => .error (.unterminated "comment")
      | c :: rest =>
        if isBlank c then tokensFrom fuel false rest
        else
          match nextToken inWord (c :: rest) with
          | .error e => .error e
          | .ok (token, rest) =>
            let isWord := match token with
              | .word _ _ => true
              | _ => false
            (tokensFrom fuel isWord rest).map (token :: ·) := by
  rfl

theorem tokensFrom_other (line : c ≠ '-') (block : c ≠ '/') :
    tokensFrom (fuel + 1) inWord (c :: rest) =
      if isBlank c then tokensFrom fuel false rest
      else
        match nextToken inWord (c :: rest) with
        | .error e => .error e
        | .ok (token, rest) =>
          let isWord := match token with
            | .word _ _ => true
            | _ => false
          (tokensFrom fuel isWord rest).map (token :: ·) := by
  rw [tokensFrom_succ]
  split
  · cases ‹c :: rest = []›
  · exact absurd (List.cons.inj ‹c :: rest = _›).1 line
  · exact absurd (List.cons.inj ‹c :: rest = _›).1 block
  · rename_i he
    obtain ⟨rfl, rfl⟩ := List.cons.inj he
    rfl

theorem tokensFrom_blank (blank : isBlank c = true) :
    tokensFrom (fuel + 1) inWord (c :: rest) = tokensFrom fuel false rest := by
  have other {d : Char} (visible : isBlank d = false) : c ≠ d := by
    rintro rfl
    cases blank.symm.trans visible
  rw [tokensFrom_other (other (by decide)) (other (by decide)), if_pos blank]

theorem tokensFrom_separator : tokensFrom (fuel + 1) inWord (';' :: rest) =
    (tokensFrom fuel false rest).map (.symbol ";" :: ·) := by
  rw [tokensFrom_other (by decide) (by decide), if_neg (by decide), nextToken_separator]

theorem dropWhile_line (inLine : '\n' ∉ text) (ends : ∀ c ∈ rest.head?, c = '\n') :
    (text ++ rest).dropWhile (· ≠ '\n') = rest := by
  have passed : ∀ c ∈ text, (decide (c ≠ '\n')) = true := by
    rintro c mem
    exact decide_eq_true fun he => inLine (he ▸ mem)
  rw [List.dropWhile_append_of_pos passed]
  cases rest with
  | nil => rfl
  | cons c rest => simp [ends c rfl]

theorem exists_of_map_ok {ε α β : Type} {f : α → β} {result : Except ε α} {b : β}
    (ok : result.map f = .ok b) : ∃ a, result = .ok a ∧ f a = b := by
  cases result with
  | error error => cases ok
  | ok a => exact ⟨a, rfl, Except.ok.inj ok⟩

theorem tokensFrom_of_hollow (hollow : Hollow cs) (enough : cs.length < fuel) (inWord : Bool) :
    ∃ n, tokensFrom fuel inWord cs = .ok (List.replicate n (.symbol ";")) := by
  obtain ⟨fuel, rfl⟩ : ∃ less, fuel = less + 1 := ⟨fuel - 1, by omega⟩
  induction hollow generalizing fuel inWord with
  | nil => exact ⟨0, rfl⟩
  | blank blank _ ih =>
    rw [List.length_cons] at enough
    obtain ⟨fuel, rfl⟩ : ∃ less, fuel = less + 1 := ⟨fuel - 1, by omega⟩
    rw [tokensFrom_blank blank]
    exact ih false fuel (by omega)
  | separator _ ih =>
    rw [List.length_cons] at enough
    obtain ⟨fuel, rfl⟩ : ∃ less, fuel = less + 1 := ⟨fuel - 1, by omega⟩
    obtain ⟨n, read⟩ := ih false fuel (by omega)
    rw [tokensFrom_separator, read]
    exact ⟨n + 1, rfl⟩
  | line inLine ends _ ih =>
    simp only [List.length_cons, List.length_append] at enough
    obtain ⟨fuel, rfl⟩ : ∃ less, fuel = less + 1 := ⟨fuel - 1, by omega⟩
    rw [tokensFrom_succ]
    simp only [dropWhile_line inLine ends]
    exact ih false fuel (by omega)
  | block remark _ ih =>
    simp only [List.length_cons, List.length_append] at enough
    obtain ⟨fuel, rfl⟩ : ∃ less, fuel = less + 1 := ⟨fuel - 1, by omega⟩
    rw [tokensFrom_succ]
    simp only [remark.afterComment]
    exact ih false fuel (by omega)

theorem hollow_of_tokensFrom (enough : cs.length < fuel)
    (read : tokensFrom fuel inWord cs = .ok tokens) (separators : ∀ token ∈ tokens, token = .symbol ";") :
    Hollow cs := by
  induction fuel generalizing cs inWord tokens with
  | zero => omega
  | succ fuel ih =>
    rw [tokensFrom_succ] at read
    split at read
    · exact .nil
    · rename_i rest
      have short := (List.dropWhile_suffix (· ≠ '\n') (l := rest)).length_le
      simp only [List.length_cons] at enough
      have later := ih (by omega) read separators
      rw [← List.takeWhile_append_dropWhile (p := (· ≠ '\n')) (l := rest)]
      refine .line (fun mem => ?_) (fun c head => ?_) later
      · have inside := List.mem_takeWhile_imp mem
        simp at inside
      · have stops := List.head?_dropWhile_not (· ≠ '\n') rest
        rw [Option.mem_def.mp head] at stops
        simpa using stops
    · split at read
      · rename_i rest after
        obtain ⟨text, rfl, remark⟩ := afterComment_iff.mp after
        simp only [List.length_cons, List.length_append] at enough
        exact .block remark (ih (by omega) read separators)
      · cases read
    · rename_i c rest _ _
      simp only [List.length_cons] at enough
      split at read
      · exact .blank ‹_› (ih (by omega) read separators)
      · split at read
        · cases read
        · rename_i token more next
          obtain ⟨tokens, later, rfl⟩ := exists_of_map_ok read
          cases separators token List.mem_cons_self
          obtain ⟨rfl, rfl⟩ := separator_of_nextToken next
          exact .separator (ih (by omega) later fun token mem =>
            separators token (List.mem_cons_of_mem _ mem))

theorem afterSeparators_eq_nil_iff :
    Script.afterSeparators tokens = [] ↔ ∀ token ∈ tokens, token = .symbol ";" := by
  induction tokens using Script.afterSeparators.induct with
  | case1 tokens ih => simp [Script.afterSeparators, ih]
  | case2 tokens other =>
    rw [Script.afterSeparators]
    cases tokens with
    | nil => simp
    | cons token tokens =>
      simp only [reduceCtorEq, List.mem_cons, forall_eq_or_imp, false_iff, not_and]
      rintro rfl
      exact absurd rfl (other tokens)
    · exact other

theorem statementsFrom_eq_nil_iff :
    Script.statementsFrom (fuel + 1) tokens = .ok [] ↔ ∀ token ∈ tokens, token = .symbol ";" := by
  rw [← afterSeparators_eq_nil_iff, Script.statementsFrom]
  cases front : Script.afterSeparators tokens with
  | nil => simp
  | cons token tokens =>
    simp only [reduceCtorEq, iff_false]
    intro read
    cases statement : (Nested.upTo nestingLimit).statement (token :: tokens) with
    | error error =>
      rw [statement] at read
      cases read
    | ok found =>
      simp only [statement, bind, Except.bind] at read
      split at read
      · cases read
      · split at read <;> cases read
      · cases read
      · cases read

theorem parse_eq_nil_iff : Script.parse cs = .ok [] ↔ Hollow cs := by
  have enough : cs.length < cs.length + 1 := Nat.lt_succ_self _
  constructor
  · intro read
    rw [Script.parse] at read
    cases tokens : Sql.tokens cs with
    | error error =>
      rw [tokens] at read
      cases read
    | ok found =>
      rw [tokens] at read
      exact hollow_of_tokensFrom enough tokens (statementsFrom_eq_nil_iff.mp read)
  · intro hollow
    obtain ⟨n, tokens⟩ := tokensFrom_of_hollow hollow enough false
    rw [Script.parse, Sql.tokens, tokens]
    exact statementsFrom_eq_nil_iff.mpr fun token mem => List.eq_of_mem_replicate mem

namespace Hollow

theorem dropBlank (hollow : Hollow cs) : Hollow (cs.dropWhile isBlank) := by
  induction hollow with
  | nil => exact .nil
  | blank blank _ ih =>
    rw [List.dropWhile_cons_of_pos blank]
    exact ih
  | separator hollow => exact .separator hollow
  | line inLine ends hollow => exact .line inLine ends hollow
  | block remark hollow => exact .block remark hollow

theorem dropEnd {p : Char → Bool} (dash : p '-' = false) (slash : p '/' = false)
    (hollow : Hollow cs) : Hollow (Text.dropEnd p cs) := by
  induction hollow with
  | nil => exact .nil
  | blank blank _ ih =>
    rw [Text.dropEnd_cons]
    split
    · exact .nil
    · exact .blank blank ih
  | separator _ ih =>
    rw [Text.dropEnd_cons]
    split
    · exact .nil
    · exact .separator ih
  | @line text rest inLine ends _ ih =>
    have kept := Text.dropEnd_behind dash ['-'] (text ++ rest)
    rw [List.singleton_append, List.singleton_append, Text.dropEnd_append] at kept
    rw [kept]
    split
    · have inside : '\n' ∉ Text.dropEnd p text := fun mem =>
        inLine ((Text.dropEnd_prefix p text).subset mem)
      simpa using @Hollow.line _ [] inside nofun .nil
    · rename_i some
      refine .line inLine (fun c head => ?_) ih
      obtain ⟨dropped, whole⟩ := Text.dropEnd_prefix p rest
      obtain ⟨more, kept⟩ := List.head?_eq_some_iff.mp head
      rw [kept] at whole
      exact ends c (by rw [← whole]; rfl)
  | @block text rest remark _ ih =>
    obtain ⟨init, rfl⟩ := remark.exists_last
    have kept := Text.dropEnd_behind slash ('/' :: '*' :: init) rest
    rw [List.append_assoc]
    simp only [List.cons_append, List.nil_append] at kept ⊢
    rw [kept]
    simpa using Hollow.block remark ih

theorem statementChars (hollow : Hollow cs) : Hollow (Text.statementChars cs) := by
  have trimmed {cs : List Char} (hollow : Hollow cs) : Hollow (Text.trimChars cs) :=
    hollow.dropBlank.dropEnd (by decide) (by decide)
  exact trimmed ((trimmed hollow).dropEnd (by decide) (by decide))

end Hollow

end Sql

end NestedTx

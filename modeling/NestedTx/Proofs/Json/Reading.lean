import Mathlib.Data.List.Perm.Basic
import NestedTx.Json.Record
import NestedTx.Proofs.Json.Uniqueness

namespace NestedTx

theorem fromUTF8_toUTF8 (text : String) : String.fromUTF8? text.toUTF8 = some text := by
  obtain ⟨bytes, valid⟩ := text
  rw [String.fromUTF8?, String.toUTF8, dif_pos valid]
  rfl

namespace Json

inductive Closing : List Char → Prop
  | comma (cs : List Char) : Closing (',' :: cs)
  | brace (cs : List Char) : Closing ('\x7d' :: cs)

theorem closing_membersChars (members : List (String × Value)) (rest : List Char) :
    Closing (membersChars members ++ rest) := by
  cases members with
  | nil => exact .brace _
  | cons => exact .comma _

namespace Closing

variable {rest : List Char}

theorem takeWhile_append (closing : Closing rest) (cs : List Char) :
    (cs ++ rest).takeWhile Char.isDigit = cs.takeWhile Char.isDigit := by
  induction cs with
  | nil => cases closing <;> rfl
  | cons c cs ih => simp only [List.cons_append, List.takeWhile_cons, ih]

theorem dropWhile_append (closing : Closing rest) {p : Char → Bool}
    (stops : p ',' = false ∧ p '\x7d' = false) (cs : List Char) :
    (cs ++ rest).dropWhile p = cs.dropWhile p ++ rest := by
  have stays : rest.dropWhile p = rest := by
    cases closing with
    | comma => exact List.dropWhile_cons_of_neg (Bool.eq_false_iff.mp stops.1)
    | brace => exact List.dropWhile_cons_of_neg (Bool.eq_false_iff.mp stops.2)
  rw [List.dropWhile_append, stays]
  split
  · rename_i none
    rw [List.isEmpty_iff.mp none, List.nil_append]
  · rfl

theorem dropWhile_isDigit_append (closing : Closing rest) (cs : List Char) :
    (cs ++ rest).dropWhile Char.isDigit = cs.dropWhile Char.isDigit ++ rest :=
  closing.dropWhile_append (by decide) cs

theorem skipGaps_append (closing : Closing rest) (cs : List Char) :
    skipGaps (cs ++ rest) = skipGaps cs ++ rest :=
  closing.dropWhile_append (by decide) cs

theorem head?_append (closing : Closing rest) (cs : List Char) :
    (cs ++ rest).head?.any Char.isDigit = cs.head?.any Char.isDigit := by
  cases cs with
  | nil => cases closing <;> rfl
  | cons => rfl

end Closing

def Reader.Local {α : Type} (reader : Reader α) : Prop :=
  ∀ ⦃cs value left⦄, reader cs = .ok (value, left) →
    ∀ ⦃rest⦄, Closing rest → reader (cs ++ rest) = .ok (value, left ++ rest)

theorem Reader.Local.map {α β : Type} {reader : Reader α} (read : reader.Local) (f : α → β) :
    Reader.Local fun cs => (reader cs).map fun r => (f r.1, r.2) := by
  intro cs y left done rest closing
  cases he : reader cs with
  | error e =>
    simp only [he] at done
    cases done
  | ok r =>
    simp only [he] at done
    simp only [read he closing]
    cases done
    rfl

theorem map_append {α β : Type} {result : Except ReadError α} {f : α → β} {x : β}
    {behind left : List Char} (read : result.map (f ·, behind) = .ok (x, left)) (rest : List Char) :
    result.map (f ·, behind ++ rest) = .ok (x, left ++ rest) := by
  cases result with
  | error => cases read
  | ok =>
    cases read
    rfl

section

variable {negative : Bool} {significand : Nat} {exponent : Int}

def readPower (negative : Bool) (significand : Nat) (exponent : Int) (down : Bool) :
    Reader Float := fun cs =>
  match cs with
  | [] => .error .unfinished
  | c :: _ =>
    if !c.isDigit then .error .malformed
    else
      let rest := cs.dropWhile Char.isDigit
      let size := (cs.takeWhile Char.isDigit).foldl (fun n d => n * 10 + (d.toNat - '0'.toNat)) 0
      if UInt32.size / 2 ≤ size then
        if significand ≠ 0 && !down then .error .malformed
        else .ok (if negative then -0.0 else 0.0, rest)
      else
        match realOf negative significand (if down then exponent - size else exponent + size) with
        | .ok x => .ok (x, rest)
        | .error e => .error e

def signOf (cs : List Char) : Bool × List Char :=
  match cs with
  | '+' :: rest => (false, rest)
  | '-' :: rest => (true, rest)
  | _ => (false, cs)

theorem readExponent_eq (cs : List Char) : readExponent negative significand exponent cs =
    readPower negative significand exponent (signOf cs).1 (signOf cs).2 := rfl

theorem signOf_append (cs : List Char) {rest : List Char} (closing : Closing rest) :
    signOf (cs ++ rest) = ((signOf cs).1, (signOf cs).2 ++ rest) := by
  cases cs with
  | nil => cases closing <;> rfl
  | cons c cs =>
    by_cases plus : c = '+'
    · subst plus
      rfl
    · by_cases minus : c = '-'
      · subst minus
        rfl
      · simp [signOf, plus, minus]

theorem local_readPower (down : Bool) :
    (readPower negative significand exponent down).Local := by
  intro cs x left read rest closing
  cases cs with
  | nil => cases read
  | cons c cs =>
    simp only [readPower, List.cons_append] at read ⊢
    rw [← List.cons_append, closing.takeWhile_append, closing.dropWhile_isDigit_append]
    split at read
    · cases read
    · rename_i digit
      rw [if_neg digit]
      split at read
      · rename_i large
        rw [if_pos large]
        split at read
        · cases read
        · rename_i zero
          rw [if_neg zero]
          cases read
          rfl
      · rename_i small
        rw [if_neg small]
        split at read
        · cases read
          rfl
        · cases read

theorem local_readExponent : (readExponent negative significand exponent).Local := by
  intro cs x left read rest closing
  rw [readExponent_eq, signOf_append cs closing]
  exact local_readPower _ read closing

theorem local_readFraction : (readFraction negative significand exponent).Local := by
  intro cs x left read rest closing
  simp only [readFraction] at read ⊢
  rw [closing.takeWhile_append, closing.dropWhile_isDigit_append]
  split at read
  · cases read
  · rename_i digits
    rw [if_neg digits]
    generalize absorb significand (cs.takeWhile Char.isDigit) = absorbed at read ⊢
    cases he : cs.dropWhile Char.isDigit with
    | nil =>
      simp only [he] at read
      cases closing with
      | comma => exact map_append (f := id) read _
      | brace => exact map_append (f := id) read _
    | cons c more =>
      simp only [he] at read
      simp only [List.cons_append]
      split at read
      · rename_i letter
        rw [if_pos letter]
        exact local_readExponent read closing
      · rename_i letter
        rw [if_neg letter]
        exact map_append (f := id) read rest

theorem finish_append {absorbed : Nat × List Char} {n : Number} {behind left : List Char}
    (read : (if absorbed.2.isEmpty then .ok (wholeNumber negative absorbed.1, behind)
      else (realOf negative absorbed.1 absorbed.2.length).map (Number.real ·, behind)) = .ok (n, left))
    (rest : List Char) :
    (if absorbed.2.isEmpty then .ok (wholeNumber negative absorbed.1, behind ++ rest)
      else (realOf negative absorbed.1 absorbed.2.length).map (Number.real ·, behind ++ rest)) =
      .ok (n, left ++ rest) := by
  split at read
  · rename_i whole
    rw [if_pos whole]
    cases read
    rfl
  · rename_i whole
    rw [if_neg whole]
    exact map_append read rest

theorem local_readNumber : (readNumber negative).Local := by
  intro cs n left read rest closing
  cases cs with
  | nil => cases read
  | cons c after =>
    simp only [readNumber, List.cons_append] at read ⊢
    rw [← List.cons_append, closing.head?_append, closing.takeWhile_append,
      closing.dropWhile_isDigit_append]
    split at read
    · cases read
    · rename_i digit
      rw [if_neg digit]
      split at read
      · cases read
      · rename_i leading
        rw [if_neg leading]
        generalize absorb 0 ((c :: after).takeWhile Char.isDigit) = absorbed at read ⊢
        cases he : (c :: after).dropWhile Char.isDigit with
        | nil =>
          simp only [he] at read
          cases closing with
          | comma => exact finish_append read _
          | brace => exact finish_append read _
        | cons d more =>
          rw [he] at read
          by_cases point : d = '.'
          · subst point
            exact local_readFraction.map Number.real read closing
          · simp only [List.cons_append] at read ⊢
            split at read
            · rename_i letter
              rw [if_pos letter]
              exact local_readExponent.map Number.real read closing
            · rename_i letter
              rw [if_neg letter]
              exact finish_append read rest

theorem local_readAnyNumber : Reader.Local readAnyNumber := by
  intro cs n left read rest closing
  rw [readAnyNumber] at read ⊢
  rw [closing.skipGaps_append]
  cases he : skipGaps cs with
  | nil =>
    rw [he] at read
    cases read
  | cons c more =>
    rw [he] at read
    by_cases minus : c = '-'
    · subst minus
      exact local_readNumber read closing
    · simp only [List.cons_append] at read ⊢
      split at read
      · rename_i digit
        rw [if_pos digit, ← List.cons_append, local_readNumber read closing]
      · cases read

theorem local_readFloat : Reader.Local readFloat := local_readAnyNumber.map Number.toFloat

theorem local_readNat : Reader.Local readNat := by
  intro cs n left read rest closing
  rw [readNat] at read ⊢
  split at read
  · rename_i he
    rw [local_readAnyNumber he closing]
    cases read
    rfl
  · cases read
  · cases read

end

theorem isGap_of_isDigit {c : Char} (digit : c.isDigit = true) : isGap c = false := by
  rw [Bool.eq_false_iff]
  intro gap
  simp only [isGap, Bool.or_eq_true, beq_iff_eq] at gap
  rcases gap with ((rfl | rfl) | rfl) | rfl <;> cases digit

theorem eq_zero_of_natDigits {n : Nat} {cs : List Char} (he : Decimal.natDigits n = '0' :: cs) :
    n = 0 := by
  induction n using Nat.strongRecOn generalizing cs with
  | ind n ih =>
    by_cases small : n < 10
    · have only : ∀ d < 10, Nat.digitChar d = '0' → d = 0 := by decide
      rw [Decimal.natDigits, Nat.toDigits_of_lt_base small] at he
      exact only n small (List.cons.inj he).1
    · obtain ⟨c, tens, first, -⟩ := Decimal.exists_natDigits (n / 10)
      rw [Decimal.natDigits, Nat.toDigits_of_base_le (by decide) (Nat.le_of_not_lt small)] at he
      rw [Decimal.natDigits] at first
      rw [first] at he
      have none := ih (n / 10) (by omega) (first.trans (congrArg (· :: tens) (List.cons.inj he).1))
      omega

theorem absorb_eq {significand : Nat} {cs : List Char}
    (small : Nat.ofDigitChars 10 cs significand < UInt64.size) :
    absorb significand cs = (Nat.ofDigitChars 10 cs significand, []) := by
  induction cs generalizing significand with
  | nil => rfl
  | cons d ds ih =>
    rw [Nat.ofDigitChars_cons, Nat.mul_comm 10] at small ⊢
    generalize hn : significand * 10 + (d.toNat - '0'.toNat) = next at small ⊢
    have value : Nat.ofDigitChars 10 ds next = 10 ^ ds.length * next + Nat.ofDigitChars 10 ds 0 :=
      Nat.ofDigitChars_eq_ofDigitChars_zero
    have grows : next ≤ 10 ^ ds.length * next := Nat.le_mul_of_pos_left next (Nat.pow_pos (by decide))
    have fits : next < UInt64.size := by omega
    rw [absorb, hn, if_pos fits, ih small]

theorem readNat_natDigits {n : Nat} (small : n < UInt64.size) :
    readNat (Decimal.natDigits n) = .ok (n, []) := by
  have value : Nat.ofDigitChars 10 (Decimal.natDigits n) 0 = n := Decimal.digitsValue_natDigits n
  have digits : (Decimal.natDigits n).takeWhile Char.isDigit = Decimal.natDigits n :=
    List.takeWhile_eq_self_iff.mpr fun _ mem => Decimal.isDigit_of_mem_natDigits mem
  have none : (Decimal.natDigits n).dropWhile Char.isDigit = [] :=
    List.dropWhile_eq_nil_iff.mpr fun _ mem => Decimal.isDigit_of_mem_natDigits mem
  have absorbed : absorb 0 (Decimal.natDigits n) = (n, []) := by
    rw [absorb_eq (value.symm ▸ small), value]
  obtain ⟨c, cs, he, digit⟩ := Decimal.exists_natDigits n
  have leading : ¬(c = '0' && cs.head?.any Char.isDigit) = true := by
    intro zero
    rw [Bool.and_eq_true, decide_eq_true_iff] at zero
    obtain ⟨rfl, more⟩ := zero
    rw [eq_zero_of_natDigits he] at he
    cases he
    cases more
  rw [he] at digits none absorbed ⊢
  have gap : skipGaps (c :: cs) = c :: cs :=
    List.dropWhile_cons_of_neg (Bool.eq_false_iff.mp (isGap_of_isDigit digit))
  have minus : c ≠ '-' := by
    rintro rfl
    cases digit
  have read : readNumber false (c :: cs) = .ok (.integer n, []) := by
    simp only [readNumber, digits, none, absorbed, digit, if_neg leading]
    rfl
  have number : readAnyNumber (c :: cs) = .ok (.integer n, []) := by
    rw [readAnyNumber, gap]
    simp only [digit, if_true, read]
  rw [readNat, number]

theorem readNat_ofNat {n : Nat} (small : n < UInt64.size) {rest : List Char} (closing : Closing rest) :
    readNat ((Value.ofNat n).chars ++ rest) = .ok (n, rest) :=
  local_readNat (readNat_natDigits small) closing

theorem readBool_chars (b : Bool) (rest : List Char) :
    readBool ((Value.bool b).chars ++ rest) = .ok (b, rest) := by
  cases b <;> rfl

theorem perm_insertMember {key : String} {value : Value} {members : List (String × Value)}
    (new : key ∉ members.map Prod.fst) :
    (insertMember key value members).Perm ((key, value) :: members) := by
  induction members with
  | nil => exact .refl _
  | cons member members ih =>
    obtain ⟨other, later⟩ := not_or.mp (List.mem_cons.not.mp new)
    rw [insertMember]
    split
    · exact .refl _
    · exact ((ih later).cons member).trans (.swap _ _ _)

theorem perm_insertMembers (members sorted : List (String × Value))
    (once : ((members ++ sorted).map Prod.fst).Nodup) : (members ++ sorted).Perm
      (members.foldl (fun sorted m => insertMember m.1 m.2 sorted) sorted) := by
  induction members generalizing sorted with
  | nil => exact .refl _
  | cons member members ih =>
    obtain ⟨new, -⟩ := List.nodup_cons.mp once
    have inserted : (insertMember member.1 member.2 sorted).Perm (member :: sorted) :=
      perm_insertMember fun mem => by
        obtain ⟨other, held, same⟩ := List.mem_map.mp mem
        exact new (List.mem_map.mpr ⟨other, List.mem_append_right members held, same⟩)
    have moved : (member :: members ++ sorted).Perm
        (members ++ insertMember member.1 member.2 sorted) :=
      List.perm_middle.symm.trans (inserted.symm.append_left members)
    exact moved.trans (ih _ ((moved.map Prod.fst).nodup once))

theorem ofMembers_perm {members : List (String × Value)} (once : (members.map Prod.fst).Nodup) :
    ∃ sorted, Value.ofMembers members = .object sorted ∧ members.Perm sorted := by
  have sorted := perm_insertMembers members []
  rw [List.append_nil] at sorted
  exact ⟨_, rfl, sorted once⟩

theorem nextKey_first (key : String) (cs : List Char) :
    nextKey true (stringChars key ++ cs) = .ok (some key, cs) := by
  have quoted : stringChars key ++ cs = '"' :: (key.toList.flatMap escapeChar ++ '"' :: cs) := by
    simp only [stringChars, List.cons_append, List.append_assoc, List.nil_append]
  have stays : skipGaps ('"' :: (key.toList.flatMap escapeChar ++ '"' :: cs)) =
      '"' :: (key.toList.flatMap escapeChar ++ '"' :: cs) := rfl
  rw [quoted, nextKey, stays]
  simp only [readString_escaped, if_true]
  rfl

theorem nextKey_comma (key : String) (cs : List Char) :
    nextKey false (',' :: (stringChars key ++ cs)) = .ok (some key, cs) := by
  rw [← nextKey_first key cs]
  rfl

section

variable {α : Type} {fields unread : List (Field α)} {update : α → α} {updates : List (α → α)}
  {member : String × Value} {members declared : List (String × Value)}

def Reads (fields : List (Field α)) (update : α → α) (member : String × Value) : Prop :=
  ∃ field, fields.find? (·.name = member.1) = some field ∧ ∀ record rest, Closing rest →
    field.read record (member.2.chars ++ rest) = .ok (update record, rest)

theorem Field.read_of {β : Type} {name : String} {read : Reader β} {set : α → β → α}
    {cs rest : List Char} {x : β} (done : read cs = .ok (x, rest)) (record : α) :
    (Field.of name read set).read record cs = .ok (set record x, rest) := by
  simp only [Field.of, done]
  rfl

theorem Reads.any (reads : Reads fields update member) :
    fields.any (·.name = member.1) = true := by
  obtain ⟨field, found, -⟩ := reads
  have some : (fields.find? (·.name = member.1)).isSome = true := by rw [found, Option.isSome_some]
  exact List.any_eq_true.mpr (List.find?_isSome.mp some)

theorem any_filter_of_ne {key key' : String} (wait : unread.any (·.name = key) = true)
    (different : key ≠ key') : (unread.filter (·.name ≠ key')).any (·.name = key) = true := by
  obtain ⟨field, held, named⟩ := List.any_eq_true.mp wait
  have kept : field.name ≠ key' := (of_decide_eq_true named).symm ▸ different
  exact List.any_eq_true.mpr ⟨field, List.mem_filter.mpr ⟨held, decide_eq_true kept⟩, named⟩

theorem readFieldMembers_member {first : Bool} {cs rest : List Char}
    (key : nextKey first cs = .ok (some member.1, ':' :: (member.2.chars ++ rest)))
    (closing : Closing rest) (reads : Reads fields update member)
    (waits : unread.any (·.name = member.1) = true) (record : α) (fuel : Nat) :
    readFieldMembers fields unread record (fuel + 1) first cs =
      readFieldMembers fields (unread.filter (·.name ≠ member.1)) (update record) fuel false rest := by
  obtain ⟨field, found, read⟩ := reads
  have colon : readColon (':' :: (member.2.chars ++ rest)) = .ok ((), member.2.chars ++ rest) := rfl
  rw [readFieldMembers, key]
  simp only [found, waits, colon, read record rest closing, if_true]

theorem readFieldMembers_members (reads : List.Forall₂ (Reads fields) updates members)
    (once : (members.map Prod.fst).Nodup)
    (wait : ∀ member ∈ members, unread.any (·.name = member.1) = true) (record : α) {fuel : Nat}
    (enough : members.length < fuel) (rest : List Char) :
    readFieldMembers fields unread record fuel false (membersChars members ++ rest) =
      .ok (updates.foldl (fun record update => update record) record, rest) := by
  induction reads generalizing unread record fuel with
  | nil =>
    obtain ⟨fuel, rfl⟩ := Nat.exists_eq_add_one_of_ne_zero (Nat.ne_of_gt enough)
    rfl
  | @cons update member updates members first _ ih =>
    obtain ⟨fuel, rfl⟩ := Nat.exists_eq_add_one_of_ne_zero (Nat.ne_of_gt (Nat.zero_lt_of_lt enough))
    obtain ⟨new, once⟩ := List.nodup_cons.mp once
    have key : nextKey false (membersChars (member :: members) ++ rest) =
        .ok (some member.1, ':' :: (member.2.chars ++ (membersChars members ++ rest))) := by
      simp only [membersChars, List.cons_append, List.append_assoc, nextKey_comma]
    rw [readFieldMembers_member key (closing_membersChars members rest) first
      (wait member List.mem_cons_self)]
    refine ih once (fun other mem => ?_) _ (Nat.lt_of_succ_lt_succ enough)
    exact any_filter_of_ne (wait other (List.mem_cons_of_mem _ mem))
      fun same => new (same ▸ List.mem_map_of_mem mem)

theorem length_lt_membersChars (members : List (String × Value)) :
    members.length < (membersChars members).length := by
  induction members with
  | nil => exact Nat.zero_lt_one
  | cons member members ih =>
    simp only [membersChars, List.length_cons, List.length_append]
    omega

theorem any_of_reads (reads : List.Forall₂ (Reads fields) updates members) :
    ∀ member ∈ members, fields.any (·.name = member.1) = true := by
  induction reads with
  | nil => exact List.forall_mem_nil _
  | cons first _ ih => exact List.forall_mem_cons.mpr ⟨first.any, ih⟩

theorem readRecord_object (reads : List.Forall₂ (Reads fields) updates members)
    (once : (members.map Prod.fst).Nodup) (defaults : α) (rest : List Char) :
    readRecord fields defaults ((Value.object members).chars ++ rest) =
      .ok (updates.foldl (fun record update => update record) defaults, rest) := by
  cases reads with
  | nil => rfl
  | @cons update member updates members first others =>
    obtain ⟨new, once⟩ := List.nodup_cons.mp once
    have text : (Value.object (member :: members)).chars ++ rest =
        '\x7b' :: (stringChars member.1 ++ ':' :: (member.2.chars ++ (membersChars members ++ rest))) := by
      simp only [Value.chars, List.cons_append, List.append_assoc]
    have opened (cs : List Char) : readRecord fields defaults ('\x7b' :: cs) =
        readFieldMembers fields fields defaults (cs.length + 1) true cs := rfl
    have wait : ∀ other ∈ members,
        (fields.filter (·.name ≠ member.1)).any (·.name = other.1) = true := fun other mem =>
      any_filter_of_ne (any_of_reads others other mem) fun same => new (same ▸ List.mem_map_of_mem mem)
    rw [text, opened, readFieldMembers_member (nextKey_first _ _) (closing_membersChars members rest)
      first first.any, readFieldMembers_members others once wait]
    · rfl
    · have shorter := length_lt_membersChars members
      simp only [List.length_append, List.length_cons]
      omega

theorem readRecord_perm (reads : List.Forall₂ (Reads fields) updates declared)
    (order : declared.Perm members) (once : (declared.map Prod.fst).Nodup)
    (commute : ∀ u ∈ updates, ∀ v ∈ updates, ∀ record, v (u record) = u (v record)) (defaults : α)
    (rest : List Char) :
    readRecord fields defaults ((Value.object members).chars ++ rest) =
      .ok (updates.foldl (fun record update => update record) defaults, rest) := by
  have moved : Relation.Comp List.Perm (List.Forall₂ (Reads fields)) updates members := by
    rw [← List.forall₂_comp_perm_eq_perm_comp_forall₂]
    exact ⟨declared, reads, order⟩
  obtain ⟨updates', order', reads'⟩ := moved
  rw [readRecord_object reads' ((order.map Prod.fst).nodup once), order'.foldl_eq' commute]

end

end Json

end NestedTx

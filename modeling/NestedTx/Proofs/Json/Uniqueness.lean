import NestedTx.Json.Printer
import NestedTx.Json.Reader
import NestedTx.Proofs.Decimal.Notation

/-!
JSON text stands for one value only, and tells where it ends: a number ends before the first character
that numbers are not written with, a string at its closing quote, and everything else at its bracket.
-/

namespace NestedTx.Json

def isNumeral (c : Char) : Bool := c.isDigit || c == '-' || c == '+' || c == '.' || c == 'e'

def Numeral (cs : List Char) : Prop := ∀ c ∈ cs, isNumeral c = true

def Number.isFinite : Number → Bool
  | .integer _ => true
  | .real x => !(x.isNaN || x.isInf)

namespace Numeral

variable {cs ds : List Char}

theorem nil : Numeral [] := nofun

theorem append (h : Numeral cs) (h' : Numeral ds) : Numeral (cs ++ ds) := by
  intro c mem
  rcases List.mem_append.mp mem with mem | mem
  · exact h c mem
  · exact h' c mem

theorem cons {c : Char} (first : isNumeral c = true) (h : Numeral cs) : Numeral (c :: cs) := by
  intro d mem
  rcases List.mem_cons.mp mem with rfl | mem
  · exact first
  · exact h d mem

theorem natDigits (n : Nat) : Numeral (Decimal.natDigits n) := by
  intro c mem
  have digit : c.isDigit = true := Nat.isDigit_of_mem_toDigits (by decide) (by decide) mem
  rw [isNumeral, digit]
  rfl

theorem zeros (n : Nat) : Numeral (List.replicate n '0') := by
  intro c mem
  rw [List.eq_of_mem_replicate mem]
  rfl

theorem exponentChars (plusSign : Bool) (power : Int) :
    Numeral (Decimal.exponentChars plusSign power) := by
  cases power with
  | ofNat n =>
    rw [Decimal.exponentChars]
    split
    · exact .cons rfl (.natDigits n)
    · exact .natDigits n
  | negSucc n => exact .cons rfl (.natDigits (n + 1))

theorem positional (d : Decimal.Digits) : Numeral d.positional := by
  have digits := natDigits d.value
  simp only [Decimal.Digits.positional]
  split
  · exact (digits.append (.zeros _)).append (.cons rfl (.cons rfl .nil))
  · split
    · refine append ?_ (.cons rfl ?_)
      · exact fun c mem => digits c (List.mem_of_mem_take mem)
      · exact fun c mem => digits c (List.mem_of_mem_drop mem)
    · exact (append (.cons rfl (.cons rfl .nil)) (.zeros _)).append digits

theorem scientific (plusSign : Bool) (d : Decimal.Digits) : Numeral (d.scientific plusSign) := by
  have digits := natDigits d.value
  simp only [Decimal.Digits.scientific]
  refine append ?_ (.cons rfl (.exponentChars plusSign d.power))
  split
  · rename_i first second rest he
    rw [he] at digits
    refine .cons (digits first List.mem_cons_self) (.cons rfl ?_)
    exact fun c mem => digits c (List.mem_cons_of_mem _ mem)
  · exact digits

theorem finiteChars (style : Decimal.Notation) (x : Float) : Numeral (style.finiteChars x) := by
  have sign : Numeral (if UInt64.size / 2 ≤ x.toBits.toNat then ['-'] else []) := by
    split
    · exact .cons rfl .nil
    · exact .nil
  simp only [Decimal.Notation.finiteChars]
  split
  · exact sign.append (.cons rfl (.cons rfl (.cons rfl .nil)))
  · refine sign.append ?_
    split
    · exact .positional _
    · exact .scientific _ _

end Numeral

theorem mem_positional (d : Decimal.Digits) : '.' ∈ d.positional := by
  simp only [Decimal.Digits.positional]
  split
  · simp
  · split <;> simp

theorem mem_scientific (plusSign : Bool) (d : Decimal.Digits) : 'e' ∈ d.scientific plusSign := by
  simp [Decimal.Digits.scientific]

theorem mem_finiteChars (style : Decimal.Notation) (x : Float) :
    '.' ∈ style.finiteChars x ∨ 'e' ∈ style.finiteChars x := by
  have either (d : Decimal.Digits) (small : Bool) :
      '.' ∈ (if small then d.positional else d.scientific style.plusSign) ∨
        'e' ∈ (if small then d.positional else d.scientific style.plusSign) := by
    cases small with
    | true => exact .inl (mem_positional d)
    | false => exact .inr (mem_scientific _ d)
  simp only [Decimal.Notation.finiteChars]
  split
  · exact .inl (List.mem_append_right _ (by decide))
  · exact (either _ _).imp (List.mem_append_right _) (List.mem_append_right _)

namespace Number

theorem chars_real {x : Float} (finite : (real x).isFinite = true) :
    (real x).chars = numberNotation.finiteChars x := by
  rw [isFinite, Bool.not_eq_true'] at finite
  rw [chars, if_neg (Bool.eq_false_iff.mp finite)]

theorem numeral_chars {n : Number} (finite : n.isFinite = true) : Numeral n.chars := by
  cases n with
  | integer n =>
    cases n with
    | ofNat n => exact .natDigits n
    | negSucc n => exact .cons rfl (.natDigits (n + 1))
  | real x =>
    rw [chars_real finite]
    exact .finiteChars _ x

theorem chars_ne_nil {n : Number} (finite : n.isFinite = true) : n.chars ≠ [] := by
  cases n with
  | integer n =>
    cases n with
    | ofNat n => exact Nat.toDigits_ne_nil
    | negSucc n => exact List.cons_ne_nil _ _
  | real x =>
    rw [chars_real finite]
    rcases mem_finiteChars numberNotation x with mem | mem
    · exact List.ne_nil_of_mem mem
    · exact List.ne_nil_of_mem mem

theorem mem_chars_integer {n : Int} {c : Char} (mem : c ∈ (integer n).chars) :
    c.isDigit = true ∨ c = '-' := by
  cases n with
  | ofNat n => exact .inl (Decimal.isDigit_of_mem_natDigits mem)
  | negSucc n =>
    rcases List.mem_cons.mp mem with rfl | mem
    · exact .inr rfl
    · exact .inl (Decimal.isDigit_of_mem_natDigits mem)

theorem chars_integer_ne_real {n : Int} {x : Float} (finite : (real x).isFinite = true) :
    (integer n).chars ≠ (real x).chars := by
  intro same
  rw [chars_real finite] at same
  rcases mem_finiteChars numberNotation x with mem | mem
  · rcases mem_chars_integer (same ▸ mem) with digit | minus
    · exact absurd digit (by decide)
    · exact absurd minus (by decide)
  · rcases mem_chars_integer (same ▸ mem) with digit | minus
    · exact absurd digit (by decide)
    · exact absurd minus (by decide)

theorem chars_integer_inj {m n : Int} (same : (integer m).chars = (integer n).chars) : m = n := by
  have unsigned {k : Nat} {rest : List Char} : Decimal.natDigits k ≠ '-' :: rest := by
    intro he
    have minus : '-' ∈ Decimal.natDigits k := he ▸ List.mem_cons_self
    exact absurd (Decimal.isDigit_of_mem_natDigits minus) (by decide)
  cases m with
  | ofNat m =>
    cases n with
    | ofNat n => rw [Decimal.natDigits_inj same]
    | negSucc n => exact absurd same unsigned
  | negSucc m =>
    cases n with
    | ofNat n => exact absurd same.symm unsigned
    | negSucc n => rw [Nat.succ.inj (Decimal.natDigits_inj (List.cons.inj same).2)]

theorem chars_inj {m n : Number} (finite : m.isFinite = true) (finite' : n.isFinite = true)
    (same : m.chars = n.chars) : m = n := by
  cases m with
  | integer m =>
    cases n with
    | integer n => rw [chars_integer_inj same]
    | real y => exact absurd same (chars_integer_ne_real finite')
  | real x =>
    cases n with
    | integer n => exact absurd same.symm (chars_integer_ne_real finite)
    | real y =>
      rw [chars_real finite, chars_real finite'] at same
      rw [numberNotation.finiteChars_inj same]

end Number

def Stops (rest : List Char) : Prop := ∀ c, rest.head? = some c → isNumeral c = false

theorem Numeral.append_inj {cs ds rest rest' : List Char} (h : Numeral cs) (h' : Numeral ds)
    (stops : Stops rest) (stops' : Stops rest') (same : cs ++ rest = ds ++ rest') :
    cs = ds ∧ rest = rest' := by
  induction cs generalizing ds with
  | nil =>
    cases ds with
    | nil => exact ⟨rfl, same⟩
    | cons d ds =>
      have longer := stops d (by rw [show rest = d :: (ds ++ rest') from same]; rfl)
      rw [h' d List.mem_cons_self] at longer
      cases longer
  | cons c cs ih =>
    cases ds with
    | nil =>
      have longer := stops' c (by rw [show rest' = c :: (cs ++ rest) from same.symm]; rfl)
      rw [h c List.mem_cons_self] at longer
      cases longer
    | cons d ds =>
      obtain ⟨rfl, tails⟩ := List.cons.inj same
      have tail : Numeral cs := fun e mem => h e (List.mem_cons_of_mem _ mem)
      have tail' : Numeral ds := fun e mem => h' e (List.mem_cons_of_mem _ mem)
      obtain ⟨rfl, rfl⟩ := ih tail tail' tails
      exact ⟨rfl, rfl⟩

theorem hexValue?_digitChar : ∀ d < 16, hexValue? (Nat.digitChar d) = some d := by decide

theorem readHex_controlDigits {code : Nat} (small : code < 0x100) (rest : List Char) :
    readHex ('0' :: '0' :: (controlDigits code ++ rest)) = .ok (code, rest) := by
  have high := hexValue?_digitChar (code / 16) (by omega)
  have low := hexValue?_digitChar (code % 16) (by omega)
  have zero : hexValue? '0' = some 0 := rfl
  simp only [controlDigits, List.cons_append, List.nil_append, readHex, zero, high, low]
  rw [show ((0 * 16 + 0) * 16 + code / 16) * 16 + code % 16 = code by omega]

theorem readStringFrom_escapeChar (c : Char) (acc rest : List Char) (fuel : Nat) :
    readStringFrom acc (fuel + 1) (escapeChar c ++ rest) = readStringFrom (c :: acc) fuel rest := by
  unfold escapeChar
  split
  · simp [readStringFrom, escaped?]
  · simp [readStringFrom, escaped?]
  · simp [readStringFrom, escaped?]
  · simp [readStringFrom, escaped?]
  · simp [readStringFrom, escaped?]
  · simp [readStringFrom, escaped?]
  · simp [readStringFrom, escaped?]
  · rename_i quote backslash _ _ _ _ _
    split
    · rename_i control
      have code := readHex_controlDigits (Nat.lt_trans control (by decide)) rest
      have low : ¬0xD800 ≤ c.toNat := by omega
      have low' : ¬0xDC00 ≤ c.toNat := by omega
      simp [readStringFrom, code, low, low', Char.ofNat_toNat]
    · rename_i printed
      have unquoted : c ≠ '"' := quote
      have unescaped : c ≠ '\\' := backslash
      simp [readStringFrom, unquoted, unescaped, printed]

theorem readStringFrom_escaped (cs acc rest : List Char) (fuel : Nat) :
    readStringFrom acc (cs.length + fuel + 1) (cs.flatMap escapeChar ++ '"' :: rest) =
      .ok (String.ofList (acc.reverse ++ cs), rest) := by
  induction cs generalizing acc with
  | nil => simp [readStringFrom]
  | cons c cs ih =>
    have more : (c :: cs).length + fuel + 1 = (cs.length + fuel + 1) + 1 := by
      simp only [List.length_cons]
      omega
    rw [more, List.flatMap_cons, List.append_assoc, readStringFrom_escapeChar, ih]
    simp

theorem escapeChar_ne_nil (c : Char) : escapeChar c ≠ [] := by
  unfold escapeChar
  split
  case h_8 => split <;> exact List.cons_ne_nil _ _
  all_goals exact List.cons_ne_nil _ _

theorem length_le_escaped (cs : List Char) : cs.length ≤ (cs.flatMap escapeChar).length := by
  induction cs with
  | nil => exact Nat.le_refl 0
  | cons c cs ih =>
    have one := List.length_pos_iff.mpr (escapeChar_ne_nil c)
    simp only [List.flatMap_cons, List.length_append, List.length_cons]
    omega

theorem readString_escaped (text : String) (rest : List Char) :
    readString (text.toList.flatMap escapeChar ++ '"' :: rest) = .ok (text, rest) := by
  have short := length_le_escaped text.toList
  obtain ⟨fuel, enough⟩ := Nat.exists_eq_add_of_le
    (show text.toList.length ≤ (text.toList.flatMap escapeChar ++ '"' :: rest).length by
      rw [List.length_append]
      omega)
  rw [readString, enough, readStringFrom_escaped]
  simp

theorem stringChars_append_inj {text text' : String} {rest rest' : List Char}
    (same : stringChars text ++ rest = stringChars text' ++ rest') : text = text' ∧ rest = rest' := by
  simp only [stringChars, List.cons_append, List.append_assoc, List.nil_append, List.cons.injEq,
    true_and] at same
  have read := readString_escaped text rest
  rw [same, readString_escaped] at read
  injection read with read
  injection read with texts rests
  exact ⟨texts.symm, rests.symm⟩

mutual

def Value.numbers : Value → List Number
  | .null => []
  | .bool _ => []
  | .number n => [n]
  | .string _ => []
  | .array items => numbersOf items
  | .object members => numbersOfMembers members

def numbersOf : List Value → List Number
  | [] => []
  | item :: rest => item.numbers ++ numbersOf rest

def numbersOfMembers : List (String × Value) → List Number
  | [] => []
  | (_, value) :: rest => value.numbers ++ numbersOfMembers rest

end

def Finite (numbers : List Number) : Prop := ∀ n ∈ numbers, n.isFinite = true

instance (numbers : List Number) : Decidable (Finite numbers) :=
  inferInstanceAs (Decidable (∀ n ∈ numbers, n.isFinite = true))

namespace Finite

variable {first rest : List Number}

theorem left (h : Finite (first ++ rest)) : Finite first :=
  fun n mem => h n (List.mem_append_left _ mem)

theorem right (h : Finite (first ++ rest)) : Finite rest :=
  fun n mem => h n (List.mem_append_right _ mem)

end Finite

def leadOf (c : Char) : Char := if isNumeral c then '0' else c

def Value.lead : Value → Char
  | .null => 'n'
  | .bool true => 't'
  | .bool false => 'f'
  | .number _ => '0'
  | .string _ => '"'
  | .array _ => '['
  | .object _ => '\x7b'

theorem Value.exists_lead {value : Value} (finite : Finite value.numbers) :
    ∃ c rest, value.chars = c :: rest ∧ leadOf c = value.lead := by
  cases value with
  | null => exact ⟨_, _, rfl, rfl⟩
  | bool b => cases b <;> exact ⟨_, _, rfl, rfl⟩
  | number n =>
    have finite : n.isFinite = true := finite n List.mem_cons_self
    obtain ⟨c, rest, he⟩ := List.exists_cons_of_ne_nil (Number.chars_ne_nil finite)
    have numeral := Number.numeral_chars finite c (by rw [he]; exact List.mem_cons_self)
    exact ⟨c, rest, he, by rw [leadOf, numeral]; rfl⟩
  | string text => exact ⟨_, _, rfl, rfl⟩
  | array items => cases items <;> exact ⟨_, _, rfl, rfl⟩
  | object members => cases members <;> exact ⟨_, _, rfl, rfl⟩

inductive Value.Alike : Value → Value → Prop
  | null : Alike .null .null
  | bool (b : Bool) : Alike (.bool b) (.bool b)
  | number (m n : Number) : Alike (.number m) (.number n)
  | string (text text' : String) : Alike (.string text) (.string text')
  | array (items items' : List Value) : Alike (.array items) (.array items')
  | object (members members' : List (String × Value)) : Alike (.object members) (.object members')

section

variable {value value' : Value} {rest rest' : List Char}

theorem Value.alike_of_lead (same : value.lead = value'.lead) : Alike value value' := by
  cases value with
  | bool b => cases b <;> cases value' with
    | bool b' => cases b' <;> first | constructor | cases same
    | _ => cases same
  | _ => cases value' with
    | bool b => cases b <;> cases same
    | _ => first | constructor | cases same

theorem Value.lead_of_cons {c : Char} (finite : Finite value.numbers)
    (same : c :: rest = value.chars ++ rest') : leadOf c = value.lead := by
  obtain ⟨d, more, he, lead⟩ := Value.exists_lead finite
  rw [he] at same
  rw [(List.cons.inj same).1, lead]

theorem Value.alike (finite : Finite value.numbers) (finite' : Finite value'.numbers)
    (same : value.chars ++ rest = value'.chars ++ rest') : Alike value value' := by
  obtain ⟨c, more, he, lead⟩ := Value.exists_lead finite
  apply Value.alike_of_lead
  rw [← lead]
  exact Value.lead_of_cons finite' (by rw [← same, he]; rfl)

theorem Value.array_nil_ne {item : Value} (finite : Finite item.numbers)
    (items : List Value) : (array []).chars ++ rest ≠ (array (item :: items)).chars ++ rest' := by
  intro same
  have inner : ']' :: rest = item.chars ++ (itemsChars items ++ rest') := by
    rw [← List.append_assoc]
    exact (List.cons.inj same).2
  have lead : ']' = item.lead := Value.lead_of_cons finite inner
  cases item with
  | bool b => cases b <;> cases lead
  | _ => cases lead

end

theorem stops_itemsChars (items : List Value) (rest : List Char) : Stops (itemsChars items ++ rest) := by
  rintro c he
  cases items <;> cases he <;> rfl

theorem stops_membersChars (members : List (String × Value)) (rest : List Char) :
    Stops (membersChars members ++ rest) := by
  rintro c he
  rcases members with _ | ⟨⟨key, value⟩, members⟩ <;> cases he <;> rfl

mutual

theorem Value.chars_append_inj (value value' : Value) (rest rest' : List Char)
    (finite : Finite value.numbers) (finite' : Finite value'.numbers) (stops : Stops rest)
    (stops' : Stops rest') (same : value.chars ++ rest = value'.chars ++ rest') :
    value = value' ∧ rest = rest' := by
  cases Value.alike finite finite' same with
  | null => exact ⟨rfl, List.append_cancel_left same⟩
  | bool b => exact ⟨rfl, List.append_cancel_left same⟩
  | number m n =>
    have finite : m.isFinite = true := finite m List.mem_cons_self
    have finite' : n.isFinite = true := finite' n List.mem_cons_self
    have numeral := Number.numeral_chars finite
    have numeral' := Number.numeral_chars finite'
    obtain ⟨texts, rests⟩ := numeral.append_inj numeral' stops stops' same
    exact ⟨congrArg Value.number (Number.chars_inj finite finite' texts), rests⟩
  | string text text' =>
    obtain ⟨texts, rests⟩ := stringChars_append_inj same
    exact ⟨congrArg Value.string texts, rests⟩
  | array items items' =>
    cases items with
    | nil =>
      cases items' with
      | nil => exact ⟨rfl, List.append_cancel_left same⟩
      | cons item' items' =>
        exact absurd same (Value.array_nil_ne (Finite.left finite') items')
    | cons item items =>
      cases items' with
      | nil =>
        exact absurd same.symm (Value.array_nil_ne (Finite.left finite) items)
      | cons item' items' =>
        -- Behind its bracket an array is written as what comes behind the comma of its items.
        have tails : itemsChars (item :: items) ++ rest = itemsChars (item' :: items') ++ rest' :=
          congrArg (',' :: ·) (List.cons.inj same).2
        obtain ⟨he, rests⟩ :=
          itemsChars_append_inj (item :: items) (item' :: items') rest rest' finite finite' tails
        exact ⟨congrArg Value.array he, rests⟩
  | object members members' =>
    cases members with
    | nil =>
      cases members' with
      | nil => exact ⟨rfl, List.append_cancel_left same⟩
      | cons => exact absurd (List.cons.inj (List.cons.inj same).2).1 (by decide)
    | cons member members =>
      cases members' with
      | nil => exact absurd (List.cons.inj (List.cons.inj same).2).1 (by decide)
      | cons member' members' =>
        have tails : membersChars (member :: members) ++ rest =
            membersChars (member' :: members') ++ rest' :=
          congrArg (',' :: ·) (List.cons.inj same).2
        obtain ⟨he, rests⟩ :=
          membersChars_append_inj (member :: members) (member' :: members') rest rest' finite finite' tails
        exact ⟨congrArg Value.object he, rests⟩

theorem itemsChars_append_inj (items items' : List Value) (rest rest' : List Char)
    (finite : Finite (numbersOf items)) (finite' : Finite (numbersOf items'))
    (same : itemsChars items ++ rest = itemsChars items' ++ rest') :
    items = items' ∧ rest = rest' := by
  cases items with
  | nil =>
    cases items' with
    | nil => exact ⟨rfl, (List.cons.inj same).2⟩
    | cons item' items' => exact absurd (List.cons.inj same).1 (by decide)
  | cons item items =>
    cases items' with
    | nil => exact absurd (List.cons.inj same).1 (by decide)
    | cons item' items' =>
      simp only [itemsChars, List.cons_append, List.append_assoc, List.cons.injEq, true_and] at same
      obtain ⟨rfl, tails⟩ := Value.chars_append_inj item item' _ _ finite.left finite'.left
        (stops_itemsChars items rest) (stops_itemsChars items' rest') same
      obtain ⟨rfl, rests⟩ := itemsChars_append_inj items items' rest rest' finite.right finite'.right tails
      exact ⟨rfl, rests⟩

theorem membersChars_append_inj (members members' : List (String × Value)) (rest rest' : List Char)
    (finite : Finite (numbersOfMembers members)) (finite' : Finite (numbersOfMembers members'))
    (same : membersChars members ++ rest = membersChars members' ++ rest') :
    members = members' ∧ rest = rest' := by
  rcases members with _ | ⟨⟨key, item⟩, members⟩
  · rcases members' with _ | ⟨⟨key', item'⟩, members'⟩
    · exact ⟨rfl, (List.cons.inj same).2⟩
    · exact absurd (List.cons.inj same).1 (by decide)
  · rcases members' with _ | ⟨⟨key', item'⟩, members'⟩
    · exact absurd (List.cons.inj same).1 (by decide)
    · simp only [membersChars, List.cons_append, List.append_assoc, List.cons.injEq, true_and] at same
      obtain ⟨rfl, values⟩ := stringChars_append_inj same
      obtain ⟨rfl, tails⟩ := Value.chars_append_inj item item' _ _ finite.left finite'.left
        (stops_membersChars members rest) (stops_membersChars members' rest') (List.cons.inj values).2
      obtain ⟨rfl, rests⟩ := membersChars_append_inj members members' rest rest' finite.right finite'.right tails
      exact ⟨rfl, rests⟩

end

end NestedTx.Json

import NestedTx.Proofs.Json.Uniqueness

namespace NestedTx.Json

inductive Place
  | between (depth : Nat)
  | quoted (depth : Nat)
  | escaped (depth : Nat)
deriving DecidableEq, Repr

namespace Place

/-- Go past a character. Outside of strings there are no backslashes, and colons are in brackets only. -/
def step (c : Char) : Place → Option Place
  | between depth =>
    if c = '"' then some (quoted depth)
    else if c = '[' || c = '\x7b' then some (between (depth + 1))
    else if c = '\\' then none
    else match depth with
      | 0 => if c = ']' || c = '\x7d' || c = ':' then none else some (between 0)
      | depth + 1 =>
        if c = ']' || c = '\x7d' then some (between depth) else some (between (depth + 1))
  | quoted depth =>
    if c = '"' then some (between depth)
    else if c = '\\' then some (escaped depth)
    else some (quoted depth)
  | escaped depth => some (quoted depth)

def walk : Place → List Char → Option Place
  | place, [] => some place
  | place, c :: cs => (place.step c).bind fun next => next.walk cs

def isInString : Place → Bool
  | between _ => false
  | quoted _ => true
  | escaped _ => true

variable {place place' : Place}

theorem walk_append (place : Place) (cs ds : List Char) :
    place.walk (cs ++ ds) = (place.walk cs).bind fun next => next.walk ds := by
  induction cs generalizing place with
  | nil => rfl
  | cons c cs ih =>
    simp only [List.cons_append, walk, Option.bind_assoc, ih]

theorem walk_through {cs : List Char} (led : place.walk cs = some place') (rest : List Char) :
    place.walk (cs ++ rest) = place'.walk rest := by
  rw [walk_append, led]
  rfl

theorem walk_cons {c : Char} (led : place.step c = some place') (rest : List Char) :
    place.walk (c :: rest) = place'.walk rest := by
  rw [walk, led]
  rfl

theorem walk_open {c : Char} (opens : c = '[' ∨ c = '\x7b') (depth : Nat) (rest : List Char) :
    (between depth).walk (c :: rest) = (between (depth + 1)).walk rest := by
  rcases opens with rfl | rfl <;> rfl

theorem walk_inner {c : Char} (separates : c = ',' ∨ c = ':') (depth : Nat) (rest : List Char) :
    (between (depth + 1)).walk (c :: rest) = (between (depth + 1)).walk rest := by
  rcases separates with rfl | rfl <;> rfl

theorem step_numeral {c : Char} (numeral : isNumeral c = true) (depth : Nat) :
    (between depth).step c = some (between depth) := by
  have other (d : Char) (not : isNumeral d = false) : c ≠ d := by
    rintro rfl
    rw [numeral] at not
    cases not
  have := other '"' rfl
  have := other '[' rfl
  have := other '\x7b' rfl
  have := other '\\' rfl
  have := other ']' rfl
  have := other '\x7d' rfl
  have := other ':' rfl
  cases depth <;> simp [step, *]

theorem walk_numeral {cs : List Char} (numeral : Numeral cs) (depth : Nat) :
    (between depth).walk cs = some (between depth) := by
  induction cs with
  | nil => rfl
  | cons c cs ih =>
    rw [walk_cons (step_numeral (numeral c List.mem_cons_self) depth)]
    exact ih fun d mem => numeral d (List.mem_cons_of_mem _ mem)

theorem walk_quoted {cs : List Char} (plain : ∀ c ∈ cs, c ≠ '"' ∧ c ≠ '\\') (depth : Nat) :
    (quoted depth).walk cs = some (quoted depth) := by
  induction cs with
  | nil => rfl
  | cons c cs ih =>
    obtain ⟨unquoted, unescaped⟩ := plain c List.mem_cons_self
    have stays : (quoted depth).step c = some (quoted depth) := by
      rw [step, if_neg unquoted, if_neg unescaped]
    rw [walk_cons stays]
    exact ih fun d mem => plain d (List.mem_cons_of_mem _ mem)

theorem plain_controlDigits {code : Nat} (small : code < 0x100) :
    ∀ c ∈ controlDigits code, c ≠ '"' ∧ c ≠ '\\' := by
  intro c mem
  obtain ⟨d, digit⟩ : ∃ d, hexValue? c = some d := by
    rcases List.mem_pair.mp mem with rfl | rfl
    · exact ⟨_, hexValue?_digitChar (code / 16) (by omega)⟩
    · exact ⟨_, hexValue?_digitChar (code % 16) (by omega)⟩
  have quote : hexValue? '"' = none := rfl
  have backslash : hexValue? '\\' = none := rfl
  constructor
  · rintro rfl
    cases quote.symm.trans digit
  · rintro rfl
    cases backslash.symm.trans digit

theorem walk_escapeChar (c : Char) (depth : Nat) :
    (quoted depth).walk (escapeChar c) = some (quoted depth) := by
  unfold escapeChar
  split
  case h_8 quote backslash _ _ _ _ _ =>
    split
    · rename_i control
      have begun : (quoted depth).walk ['\\', 'u', '0', '0'] = some (quoted depth) := rfl
      rw [walk_through begun]
      exact walk_quoted (plain_controlDigits (Nat.lt_trans control (by decide))) depth
    · apply walk_quoted
      intro d mem
      rw [List.mem_singleton.mp mem]
      exact ⟨quote, backslash⟩
  all_goals rfl

theorem walk_stringChars (text : String) (depth : Nat) :
    (between depth).walk (stringChars text) = some (between depth) := by
  have inner (cs : List Char) : (quoted depth).walk (cs.flatMap escapeChar) = some (quoted depth) := by
    induction cs with
    | nil => rfl
    | cons c cs ih => rw [List.flatMap_cons, walk_through (walk_escapeChar c depth), ih]
  have opened : (between depth).step '"' = some (quoted depth) := rfl
  rw [stringChars, walk_cons opened, walk_through (inner text.toList)]
  rfl

theorem walk_number {n : Number} (finite : n.isFinite = true) (depth : Nat) :
    (between depth).walk n.chars = some (between depth) :=
  walk_numeral (Number.numeral_chars finite) depth

mutual

theorem walk_value (value : Value) (finite : Finite value.numbers) (depth : Nat) :
    (between depth).walk value.chars = some (between depth) := by
  cases value with
  | null => cases depth <;> rfl
  | bool b => cases b <;> cases depth <;> rfl
  | number n => exact walk_number (finite n List.mem_cons_self) depth
  | string text => exact walk_stringChars text depth
  | array items =>
    cases items with
    | nil => rfl
    | cons item items =>
      have first := walk_value item (Finite.left finite) (depth + 1)
      have rest := walk_items items (Finite.right finite) depth
      rw [Value.chars, walk_open (.inl rfl), walk_through first, rest]
  | object members =>
    rcases members with _ | ⟨⟨key, item⟩, members⟩
    · rfl
    · have first := walk_value item (Finite.left finite) (depth + 1)
      have rest := walk_members members (Finite.right finite) depth
      rw [Value.chars, walk_open (.inr rfl), walk_through (walk_stringChars key _),
        walk_inner (.inr rfl), walk_through first, rest]

theorem walk_items (items : List Value) (finite : Finite (numbersOf items))
    (depth : Nat) : (between (depth + 1)).walk (itemsChars items) = some (between depth) := by
  cases items with
  | nil => rfl
  | cons item items =>
    have first := walk_value item (Finite.left finite) (depth + 1)
    have rest := walk_items items (Finite.right finite) depth
    rw [itemsChars, walk_inner (.inl rfl), walk_through first, rest]

theorem walk_members (members : List (String × Value))
    (finite : Finite (numbersOfMembers members)) (depth : Nat) :
    (between (depth + 1)).walk (membersChars members) = some (between depth) := by
  rcases members with _ | ⟨⟨key, item⟩, members⟩
  · rfl
  · have first := walk_value item (Finite.left finite) (depth + 1)
    have rest := walk_members members (Finite.right finite) depth
    rw [membersChars, walk_inner (.inl rfl), walk_through (walk_stringChars key _),
      walk_inner (.inr rfl), walk_through first, rest]

end

theorem between_of_step {c : Char} {depth : Nat} (led : (between depth).step c = some place')
    (unquoted : c ≠ '"') : c ≠ '\\' ∧ ∃ depth', place' = between depth' := by
  constructor
  · rintro rfl
    cases led
  · simp only [step, if_neg unquoted] at led
    split at led
    · exact ⟨_, (Option.some.inj led).symm⟩
    · split at led
      · cases led
      · split at led
        · split at led
          · cases led
          · exact ⟨_, (Option.some.inj led).symm⟩
        · split at led
          · exact ⟨_, (Option.some.inj led).symm⟩
          · exact ⟨_, (Option.some.inj led).symm⟩

theorem isInString_ne {cs : List Char} {outer inner : Nat} {last last' : Place}
    (led : (between outer).walk cs = some last) (led' : (quoted inner).walk cs = some last') :
    last.isInString ≠ last'.isInString := by
  induction cs generalizing outer inner last last' with
  | nil =>
    cases led
    cases led'
    exact Bool.false_ne_true
  | cons c cs ih =>
    by_cases quote : c = '"'
    · subst quote
      exact (ih led' led).symm
    · obtain ⟨next, stepped, rest⟩ := Option.bind_eq_some_iff.mp led
      obtain ⟨unescaped, depth, rfl⟩ := between_of_step stepped quote
      have stays : (quoted inner).step c = some (quoted inner) := by
        rw [step, if_neg quote, if_neg unescaped]
      rw [walk_cons stays] at led'
      exact ih rest led'

end Place

theorem Value.chars_ne_append {value value' : Value} (finite : Finite value.numbers)
    (finite' : Finite value'.numbers) (before : List Char) :
    value.chars ≠ before ++ ':' :: value'.chars := by
  intro same
  have unquoted (depth : Nat) : (Place.quoted depth).walk value'.chars ≠ some (.between 0) :=
    fun led => Place.isInString_ne (Place.walk_value value' finite' 0) led rfl
  have led := Place.walk_value value finite 0
  rw [same, Place.walk_append] at led
  obtain ⟨place, _, led⟩ := Option.bind_eq_some_iff.mp led
  cases place with
  | between depth =>
    cases depth with
    | zero => cases led
    | succ depth =>
      rw [Place.walk_inner (.inr rfl), Place.walk_value value' finite' (depth + 1)] at led
      cases led
  | quoted depth => exact unquoted depth led
  | escaped depth => exact unquoted depth led

end NestedTx.Json

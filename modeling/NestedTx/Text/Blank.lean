namespace NestedTx.Text

def isBlank (c : Char) : Bool :=
  let code := c.toNat
  (9 ≤ code && code ≤ 13) || code == 0x20 || code == 0x85 || code == 0xa0 || code == 0x1680 ||
    (0x2000 ≤ code && code ≤ 0x200a) || code == 0x2028 || code == 0x2029 || code == 0x202f ||
    code == 0x205f || code == 0x3000

def dropEnd (p : Char → Bool) (cs : List Char) : List Char :=
  (cs.reverse.dropWhile p).reverse

def trimChars (cs : List Char) : List Char :=
  dropEnd isBlank (cs.dropWhile isBlank)

def trim (text : String) : String :=
  String.ofList (trimChars text.toList)

def statementChars (cs : List Char) : List Char :=
  trimChars (dropEnd (· == ';') (trimChars cs))

def firstWord (cs : List Char) : List Char :=
  cs.takeWhile fun c => !isBlank c

def pieces (separator : Char) : List Char → List (List Char)
  | [] => [[]]
  | c :: rest =>
    if c == separator then [] :: pieces separator rest
    else match pieces separator rest with
      | piece :: others => (c :: piece) :: others
      | [] => [[c]]

theorem dropEnd_concat (p : Char → Bool) (cs : List Char) (c : Char) :
    dropEnd p (cs ++ [c]) = if p c then dropEnd p cs else cs ++ [c] := by
  by_cases h : p c <;> simp [dropEnd, h]

theorem pieces_ne_nil (separator : Char) (cs : List Char) : pieces separator cs ≠ [] := by
  cases cs with
  | nil => simp [pieces]
  | cons c rest =>
    rw [pieces]
    split
    · simp
    · split <;> simp

theorem pieces_eq_singleton {separator : Char} {cs : List Char} (h : separator ∉ cs) :
    pieces separator cs = [cs] := by
  induction cs with
  | nil => rfl
  | cons c rest ih =>
    simp only [List.mem_cons, not_or] at h
    rw [pieces, if_neg (by simpa using Ne.symm h.1), ih h.2]

end NestedTx.Text

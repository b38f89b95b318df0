import NestedTx.Json.Basic

/-!
Reading JSON text. A reader takes the characters in front of it and answers what it read together
with the rest. The first fault in reading order is the one reported, and it is of one of three kinds:
the text is not JSON, a value is not of the wanted type, or the text ends too early.
-/

namespace NestedTx.Json

inductive ReadError
  | malformed
  | mismatch
  | unfinished
deriving DecidableEq, Repr

def ReadError.message : ReadError → String
  | .malformed => "not valid JSON"
  | .mismatch => "a value has the wrong type"
  | .unfinished => "the text ends too early"

abbrev Reader (α : Type) := List Char → Except ReadError (α × List Char)

def isGap (c : Char) : Bool := c == ' ' || c == '\n' || c == '\t' || c == '\r'

def skipGaps (cs : List Char) : List Char := cs.dropWhile isGap

def readWord : List Char → Reader Unit
  | [], cs => .ok ((), cs)
  | _ :: _, [] => .error .unfinished
  | w :: word, c :: cs => if w = c then readWord word cs else .error .malformed

def absorb (significand : Nat) : List Char → Nat × List Char
  | [] => (significand, [])
  | d :: ds =>
    let next := significand * 10 + (d.toNat - '0'.toNat)
    if next < UInt64.size then absorb next ds else (significand, d :: ds)

def powerOfTen (n : Nat) : Float := Float.ofScientific 1 false n

/-- Bring `x * 10 ^ exponent` into the range of the powers of ten that are doubles, and scale once.
A number past the largest double is refused. -/
def scale (x : Float) (exponent : Int) : Nat → Option Float
  | 0 => some 0
  | fuel + 1 =>
    if exponent.natAbs ≤ 308 then
      if 0 ≤ exponent then
        let y := x * powerOfTen exponent.natAbs
        if y.isInf then none else some y
      else some (x / powerOfTen exponent.natAbs)
    else if x == 0 then some x
    else if 0 ≤ exponent then none
    else scale (x / powerOfTen 308) (exponent + 308) fuel

def realOf (negative : Bool) (significand : Nat) (exponent : Int) : Except ReadError Float :=
  match scale significand.toUInt64.toFloat exponent 4 with
  | some x => .ok (if negative then -x else x)
  | none => .error .malformed

def readExponent (negative : Bool) (significand : Nat) (exponent : Int) : Reader Float := fun cs =>
  let (down, cs) := match cs with
    | '+' :: rest => (false, rest)
    | '-' :: rest => (true, rest)
    | _ => (false, cs)
  match cs with
  | [] => .error .unfinished
  | c :: _ =>
    if !c.isDigit then .error .malformed
    else
      let rest := cs.dropWhile Char.isDigit
      let size := (cs.takeWhile Char.isDigit).foldl (fun n d => n * 10 + (d.toNat - '0'.toNat)) 0
      if UInt32.size / 2 ≤ size then
        if significand ≠ 0 && !down then .error .malformed
        else .ok (if negative then -0.0 else 0.0, rest)
      else
        match realOf negative significand (if down then exponent - size else exponent + size) with
        | .ok x => .ok (x, rest)
        | .error e => .error e

def readFraction (negative : Bool) (significand : Nat) (exponent : Int) : Reader Float := fun cs =>
  let digits := cs.takeWhile Char.isDigit
  let rest := cs.dropWhile Char.isDigit
  if digits.isEmpty then .error (if rest.isEmpty then .unfinished else .malformed)
  else
    let (significand, extra) := absorb significand digits
    let exponent := exponent - ((digits.length - extra.length : Nat) : Int)
    match rest with
    | c :: more =>
      if c = 'e' || c = 'E' then readExponent negative significand exponent more
      else (realOf negative significand exponent).map (·, rest)
    | [] => (realOf negative significand exponent).map (·, rest)

def wholeNumber (negative : Bool) (significand : Nat) : Number :=
  if !negative then .integer significand
  else if 0 < significand && significand ≤ UInt64.size / 2 then .integer (-(significand : Int))
  else .real (-significand.toUInt64.toFloat)

def readNumber (negative : Bool) : Reader Number := fun cs =>
  match cs with
  | [] => .error .unfinished
  | c :: after =>
    if !c.isDigit then .error .malformed
    else if c = '0' && (after.head?.any Char.isDigit) then .error .malformed
    else
      let digits := cs.takeWhile Char.isDigit
      let rest := cs.dropWhile Char.isDigit
      let (significand, extra) := absorb 0 digits
      let exponent : Int := extra.length
      let finish : Except ReadError (Number × List Char) :=
        if extra.isEmpty then .ok (wholeNumber negative significand, rest)
        else (realOf negative significand exponent).map (.real ·, rest)
      match rest with
      | '.' :: more => (readFraction negative significand exponent more).map fun r => (.real r.1, r.2)
      | c :: more =>
        if c = 'e' || c = 'E' then
          (readExponent negative significand exponent more).map fun r => (.real r.1, r.2)
        else finish
      | [] => finish

def hexValue? (c : Char) : Option Nat :=
  if c.isDigit then some (c.toNat - '0'.toNat)
  else if 'a' ≤ c && c ≤ 'f' then some (c.toNat - 'a'.toNat + 10)
  else if 'A' ≤ c && c ≤ 'F' then some (c.toNat - 'A'.toNat + 10)
  else none

def readHex : Reader Nat := fun cs =>
  match cs with
  | a :: b :: c :: d :: rest =>
    match hexValue? a, hexValue? b, hexValue? c, hexValue? d with
    | some a, some b, some c, some d => .ok (((a * 16 + b) * 16 + c) * 16 + d, rest)
    | _, _, _, _ => .error .malformed
  | cs => .error (if (String.ofList cs).utf8ByteSize < 4 then .unfinished else .malformed)

def escaped? : Char → Option Char
  | '"' => some '"'
  | '\\' => some '\\'
  | '/' => some '/'
  | 'b' => some '\x08'
  | 'f' => some '\x0c'
  | 'n' => some '\n'
  | 'r' => some '\r'
  | 't' => some '\t'
  | _ => none

def readTrail (lead : Nat) : Reader Char := fun cs =>
  match cs with
  | [] => .error .unfinished
  | '\\' :: 'u' :: rest =>
    match readHex rest with
    | .error e => .error e
    | .ok (trail, rest) =>
      if 0xDC00 ≤ trail && trail ≤ 0xDFFF then
        .ok (Char.ofNat (0x10000 + (lead - 0xD800) * 0x400 + (trail - 0xDC00)), rest)
      else .error .malformed
  | ['\\'] => .error .unfinished
  | _ => .error .malformed

def readStringFrom (acc : List Char) (fuel : Nat) : Reader String := fun cs =>
  match fuel, cs with
  | 0, _ => .error .unfinished
  | _, [] => .error .unfinished
  | fuel + 1, c :: rest =>
    if c = '"' then .ok (String.ofList acc.reverse, rest)
    else if c = '\\' then
      match rest with
      | [] => .error .unfinished
      | 'u' :: rest =>
        match readHex rest with
        | .error e => .error e
        | .ok (code, rest) =>
          if 0xD800 ≤ code && code ≤ 0xDBFF then
            match readTrail code rest with
            | .error e => .error e
            | .ok (c, rest) => readStringFrom (c :: acc) fuel rest
          else if 0xDC00 ≤ code && code ≤ 0xDFFF then .error .malformed
          else readStringFrom (Char.ofNat code :: acc) fuel rest
      | c :: rest =>
        match escaped? c with
        | some c => readStringFrom (c :: acc) fuel rest
        | none => .error .malformed
    else if c.toNat < 0x20 then .error .malformed
    else readStringFrom (c :: acc) fuel rest

def readString : Reader String := fun cs => readStringFrom [] (cs.length + 1) cs

def skipString (fuel : Nat) : Reader Unit := fun cs =>
  match fuel, cs with
  | 0, _ => .error .unfinished
  | _, [] => .error .unfinished
  | fuel + 1, c :: rest =>
    if c = '"' then .ok ((), rest)
    else if c = '\\' then
      match rest with
      | [] => .error .unfinished
      | 'u' :: rest =>
        match readHex rest with
        | .error e => .error e
        | .ok (_, rest) => skipString fuel rest
      | c :: rest =>
        match escaped? c with
        | some _ => skipString fuel rest
        | none => .error .malformed
    else if c.toNat < 0x20 then .error .malformed
    else skipString fuel rest

def nextItem (first : Bool) : Reader Bool := fun cs =>
  match skipGaps cs with
  | [] => .error .unfinished
  | ']' :: rest => .ok (false, rest)
  | ',' :: rest =>
    if first then .error .malformed
    else match skipGaps rest with
      | [] => .error .unfinished
      | ']' :: _ => .error .malformed
      | rest => .ok (true, rest)
  | rest => if first then .ok (true, rest) else .error .malformed

def nextKey (first : Bool) : Reader (Option String) := fun cs =>
  match skipGaps cs with
  | [] => .error .unfinished
  | '\x7d' :: rest => .ok (none, rest)
  | ',' :: rest =>
    if first then .error .malformed
    else match skipGaps rest with
      | [] => .error .unfinished
      | '"' :: rest => (readString rest).map fun r => (some r.1, r.2)
      | _ => .error .malformed
  | '"' :: rest =>
    if first then (readString rest).map fun r => (some r.1, r.2) else .error .malformed
  | _ => .error .malformed

def readColon : Reader Unit := fun cs =>
  match skipGaps cs with
  | [] => .error .unfinished
  | ':' :: rest => .ok ((), rest)
  | _ => .error .malformed

mutual

def readValue (depth fuel : Nat) : Reader Value := fun cs =>
  match fuel with
  | 0 => .error .unfinished
  | fuel + 1 =>
    match skipGaps cs with
    | [] => .error .unfinished
    | 'n' :: rest => (readWord ['u', 'l', 'l'] rest).map fun r => (.null, r.2)
    | 't' :: rest => (readWord ['r', 'u', 'e'] rest).map fun r => (.bool true, r.2)
    | 'f' :: rest => (readWord ['a', 'l', 's', 'e'] rest).map fun r => (.bool false, r.2)
    | '"' :: rest => (readString rest).map fun r => (.string r.1, r.2)
    | '-' :: rest => (readNumber true rest).map fun r => (.number r.1, r.2)
    | '[' :: rest =>
      match depth with
      | 0 => .error .malformed
      | depth + 1 => (readItems depth fuel true [] rest).map fun r => (.array r.1, r.2)
    | '\x7b' :: rest =>
      match depth with
      | 0 => .error .malformed
      | depth + 1 => (readMembers depth fuel true [] rest).map fun r => (.object r.1, r.2)
    | c :: rest =>
      if c.isDigit then (readNumber false (c :: rest)).map fun r => (.number r.1, r.2)
      else .error .malformed

def readItems (depth fuel : Nat) (first : Bool) (acc : List Value) : Reader (List Value) := fun cs =>
  match fuel with
  | 0 => .error .unfinished
  | fuel + 1 =>
    match nextItem first cs with
    | .error e => .error e
    | .ok (false, rest) => .ok (acc.reverse, rest)
    | .ok (true, rest) =>
      match readValue depth fuel rest with
      | .error e => .error e
      | .ok (item, rest) => readItems depth fuel false (item :: acc) rest

def readMembers (depth fuel : Nat) (first : Bool) (acc : List (String × Value)) :
    Reader (List (String × Value)) := fun cs =>
  match fuel with
  | 0 => .error .unfinished
  | fuel + 1 =>
    match nextKey first cs with
    | .error e => .error e
    | .ok (none, rest) => .ok (acc, rest)
    | .ok (some key, rest) =>
      match readColon rest with
      | .error e => .error e
      | .ok (_, rest) =>
        match readValue depth fuel rest with
        | .error e => .error e
        | .ok (value, rest) => readMembers depth fuel false (insertMember key value acc) rest

end

def atEnd {α : Type} : α × List Char → Except ReadError α
  | (value, rest) => if (skipGaps rest).isEmpty then .ok value else .error .malformed

def Reader.run {α : Type} (reader : Reader α) (text : String) : Except ReadError α :=
  reader text.toList >>= atEnd

def Value.parse (text : String) : Except ReadError Value :=
  Reader.run (fun cs => readValue 127 (2 * cs.length + 2) cs) text

end NestedTx.Json

import NestedTx.Json.Reader

/-!
Reading JSON text into a record whose fields are known. The fields may come as an object in any order
or as an array in the order of the record; fields that are missing keep their default. A known field
may not come twice, and unknown members are passed over.
-/

namespace NestedTx.Json

structure Field (α : Type) where
  name : String
  read : α → Reader α

def otherType (cs : List Char) : ReadError :=
  match cs with
  | [] => .unfinished
  | '[' :: _ => .mismatch
  | '\x7b' :: _ => .mismatch
  | cs =>
    match readValue 0 2 cs with
    | .error e => e
    | .ok _ => .mismatch

def readBool : Reader Bool := fun cs =>
  match skipGaps cs with
  | 't' :: rest => (readWord ['r', 'u', 'e'] rest).map fun r => (true, r.2)
  | 'f' :: rest => (readWord ['a', 'l', 's', 'e'] rest).map fun r => (false, r.2)
  | cs => .error (otherType cs)

def readAnyNumber : Reader Number := fun cs =>
  match skipGaps cs with
  | '-' :: rest => readNumber true rest
  | c :: rest => if c.isDigit then readNumber false (c :: rest) else .error (otherType (c :: rest))
  | [] => .error .unfinished

def readNat : Reader Nat := fun cs =>
  match readAnyNumber cs with
  | .ok (.integer (.ofNat n), rest) => .ok (n, rest)
  | .ok _ => .error .mismatch
  | .error e => .error e

def Number.toFloat : Number → Float
  | .integer (.ofNat n) => n.toUInt64.toFloat
  | .integer (.negSucc n) => -(n + 1).toUInt64.toFloat
  | .real x => x

def readFloat : Reader Float := fun cs =>
  (readAnyNumber cs).map fun r => (r.1.toFloat, r.2)

def skipNumber : Reader Unit := fun cs =>
  let exponent (cs : List Char) : Except ReadError (Unit × List Char) :=
    let digits := match cs with
      | '+' :: rest => rest
      | '-' :: rest => rest
      | cs => cs
    if digits.head?.any Char.isDigit then .ok ((), digits.dropWhile Char.isDigit)
    else .error .malformed
  let afterWhole (cs : List Char) : Except ReadError (Unit × List Char) :=
    match cs with
    | '.' :: rest =>
      if rest.head?.any Char.isDigit then
        match rest.dropWhile Char.isDigit with
        | c :: more => if c = 'e' || c = 'E' then exponent more else .ok ((), c :: more)
        | [] => .ok ((), [])
      else .error .malformed
    | c :: more => if c = 'e' || c = 'E' then exponent more else .ok ((), cs)
    | [] => .ok ((), [])
  match cs with
  | '0' :: rest => if rest.head?.any Char.isDigit then .error .malformed else afterWhole rest
  | c :: rest => if c.isDigit then afterWhole (rest.dropWhile Char.isDigit) else .error .malformed
  | [] => .error .malformed

mutual

def skipValue (fuel : Nat) : Reader Unit := fun cs =>
  match fuel with
  | 0 => .error .unfinished
  | fuel + 1 =>
    match skipGaps cs with
    | [] => .error .unfinished
    | 'n' :: rest => readWord ['u', 'l', 'l'] rest
    | 't' :: rest => readWord ['r', 'u', 'e'] rest
    | 'f' :: rest => readWord ['a', 'l', 's', 'e'] rest
    | '"' :: rest => skipString (rest.length + 1) rest
    | '-' :: rest => skipNumber rest
    | '[' :: rest => skipItems fuel true rest
    | '\x7b' :: rest => skipMembers fuel true rest
    | c :: rest => if c.isDigit then skipNumber (c :: rest) else .error .malformed

def skipItems (fuel : Nat) (first : Bool) : Reader Unit := fun cs =>
  match fuel with
  | 0 => .error .unfinished
  | fuel + 1 =>
    match nextItem first cs with
    | .error e => .error e
    | .ok (false, rest) => .ok ((), rest)
    | .ok (true, rest) =>
      match skipValue fuel rest with
      | .error e => .error e
      | .ok (_, rest) => skipItems fuel false rest

def skipMembers (fuel : Nat) (first : Bool) : Reader Unit := fun cs =>
  match fuel with
  | 0 => .error .unfinished
  | fuel + 1 =>
    let key : Except ReadError (Bool × List Char) :=
      match skipGaps cs with
      | [] => .error .unfinished
      | '\x7d' :: rest => .ok (false, rest)
      | ',' :: rest =>
        if first then .error .malformed
        else match skipGaps rest with
          | [] => .error .unfinished
          | '"' :: rest => (skipString (rest.length + 1) rest).map fun r => (true, r.2)
          | _ => .error .malformed
      | '"' :: rest =>
        if first then (skipString (rest.length + 1) rest).map fun r => (true, r.2)
        else .error .malformed
      | _ => .error .malformed
    match key with
    | .error e => .error e
    | .ok (false, rest) => .ok ((), rest)
    | .ok (true, rest) =>
      match readColon rest with
      | .error e => .error e
      | .ok (_, rest) =>
        match skipValue fuel rest with
        | .error e => .error e
        | .ok (_, rest) => skipMembers fuel false rest

end

variable {α : Type}

def readFieldItems (record : α) (first : Bool) : List (Field α) → Reader α
  | [], cs =>
    match skipGaps cs with
    | [] => .error .unfinished
    | ']' :: rest => .ok (record, rest)
    | _ => .error .malformed
  | field :: fields, cs =>
    match nextItem first cs with
    | .error e => .error e
    | .ok (false, rest) => .ok (record, rest)
    | .ok (true, rest) =>
      match field.read record rest with
      | .error e => .error e
      | .ok (record, rest) => readFieldItems record false fields rest

def readFieldMembers (fields unread : List (Field α)) (record : α) (fuel : Nat) (first : Bool) :
    Reader α := fun cs =>
  match fuel with
  | 0 => .error .unfinished
  | fuel + 1 =>
    match nextKey first cs with
    | .error e => .error e
    | .ok (none, rest) => .ok (record, rest)
    | .ok (some key, rest) =>
      match fields.find? (·.name = key) with
      | none =>
        match readColon rest with
        | .error e => .error e
        | .ok (_, rest) =>
          match skipValue (2 * rest.length + 2) rest with
          | .error e => .error e
          | .ok (_, rest) => readFieldMembers fields unread record fuel false rest
      | some field =>
        if unread.any (·.name = key) then
          match readColon rest with
          | .error e => .error e
          | .ok (_, rest) =>
            match field.read record rest with
            | .error e => .error e
            | .ok (record, rest) =>
              readFieldMembers fields (unread.filter (·.name ≠ key)) record fuel false rest
        else .error .mismatch

def readRecord (fields : List (Field α)) (defaults : α) : Reader α := fun cs =>
  match skipGaps cs with
  | '[' :: rest => readFieldItems defaults true fields rest
  | '\x7b' :: rest => readFieldMembers fields fields defaults (rest.length + 1) true rest
  | cs => .error (otherType cs)

def Field.of {β : Type} (name : String) (read : Reader β) (set : α → β → α) : Field α :=
  ⟨name, fun record cs => (read cs).map fun r => (set record r.1, r.2)⟩

def Field.nested {β : Type} (name : String) (fields : List (Field β)) (defaults : β)
    (set : α → β → α) : Field α :=
  .of name (readRecord fields defaults) set

end NestedTx.Json

import NestedTx.Decimal.Notation
import NestedTx.Json.Basic

namespace NestedTx.Json

def numberNotation : Decimal.Notation := ⟨-5, 16, true⟩

def Number.chars : Number → List Char
  | .integer (.ofNat n) => Decimal.natDigits n
  | .integer (.negSucc n) => '-' :: Decimal.natDigits (n + 1)
  | .real x =>
    if x.isNaN || x.isInf then ['n', 'u', 'l', 'l'] else numberNotation.finiteChars x

def controlDigits (code : Nat) : List Char :=
  [Nat.digitChar (code / 16), Nat.digitChar (code % 16)]

def escapeChar (c : Char) : List Char :=
  match c with
  | '"' => ['\\', '"']
  | '\\' => ['\\', '\\']
  | '\x08' => ['\\', 'b']
  | '\x0c' => ['\\', 'f']
  | '\n' => ['\\', 'n']
  | '\r' => ['\\', 'r']
  | '\t' => ['\\', 't']
  | c => if c.toNat < 0x20 then ['\\', 'u', '0', '0'] ++ controlDigits c.toNat else [c]

def stringChars (text : String) : List Char :=
  '"' :: (text.toList.flatMap escapeChar ++ ['"'])

mutual

def Value.chars : Value → List Char
  | .null => ['n', 'u', 'l', 'l']
  | .bool true => ['t', 'r', 'u', 'e']
  | .bool false => ['f', 'a', 'l', 's', 'e']
  | .number n => n.chars
  | .string text => stringChars text
  | .array [] => ['[', ']']
  | .array (item :: rest) => '[' :: (item.chars ++ itemsChars rest)
  | .object [] => ['\x7b', '\x7d']
  | .object ((key, value) :: rest) =>
    '\x7b' :: (stringChars key ++ ':' :: (value.chars ++ membersChars rest))

def itemsChars : List Value → List Char
  | [] => [']']
  | item :: rest => ',' :: (item.chars ++ itemsChars rest)

def membersChars : List (String × Value) → List Char
  | [] => ['\x7d']
  | (key, value) :: rest =>
    ',' :: (stringChars key ++ ':' :: (value.chars ++ membersChars rest))

end

def Value.render (value : Value) : String := String.ofList value.chars

end NestedTx.Json

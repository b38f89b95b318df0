import NestedTx.Sql.Token
import NestedTx.Text.Blank
import NestedTx.Text.Case
import NestedTx.Text.Letter

/-!
From SQL text to tokens. White space and comments separate tokens and leave no trace; block comments
nest. A text with an unterminated literal or comment anywhere has no tokens at all.
-/

namespace NestedTx.Sql

open Text

def isWordStart (c : Char) : Bool := isLetter c || c == '_' || c == '#' || c == '@'

def isWordPart (c : Char) : Bool :=
  isLetter c || c.isDigit || c == '_' || c == '#' || c == '@' || c == '$'

def afterComment (depth : Nat) : List Char → Option (List Char)
  | '/' :: '*' :: rest => afterComment (depth + 1) rest
  | '*' :: '/' :: rest => if depth ≤ 1 then some rest else afterComment (depth - 1) rest
  | _ :: rest => afterComment depth rest
  | [] => none

def untilQuote (quote : Char) : List Char → Option (List Char × List Char)
  | [] => none
  | [c] => if c = quote then some ([], []) else none
  | c :: d :: rest =>
    if c = quote then
      if d = quote then (untilQuote quote rest).map fun r => (quote :: r.1, r.2)
      else some ([], d :: rest)
    else (untilQuote quote (d :: rest)).map fun r => (c :: r.1, r.2)

def untilQuoteEscaped : List Char → Option (List Char × List Char)
  | [] => none
  | ['\\'] => none
  | '\\' :: c :: rest => (untilQuoteEscaped rest).map fun r => (c :: r.1, r.2)
  | '\x27' :: '\x27' :: rest => (untilQuoteEscaped rest).map fun r => ('\x27' :: r.1, r.2)
  | '\x27' :: rest => some ([], rest)
  | c :: rest => (untilQuoteEscaped rest).map fun r => (c :: r.1, r.2)

def untilDelimiter (delimiter : List Char) : List Char → Option (List Char × List Char)
  | [] => none
  | c :: rest =>
    if delimiter.isPrefixOf (c :: rest) then some ([], (c :: rest).drop delimiter.length)
    else (untilDelimiter delimiter rest).map fun r => (c :: r.1, r.2)

def exponentPart (cs : List Char) : List Char × List Char :=
  match cs with
  | e :: rest =>
    if e = 'e' || e = 'E' then
      let (sign, digits) := match rest with
        | '+' :: more => (['+'], more)
        | '-' :: more => (['-'], more)
        | more => ([], more)
      if digits.head?.any Char.isDigit then
        (e :: sign ++ digits.takeWhile Char.isDigit, digits.dropWhile Char.isDigit)
      else ([], cs)
    else ([], cs)
  | [] => ([], [])

def numberToken (cs : List Char) : Token × List Char :=
  let whole := cs.takeWhile Char.isDigit
  match whole, cs.dropWhile Char.isDigit with
  | ['0'], 'x' :: rest =>
    let isHex (c : Char) : Bool := c.isDigit || ('a' ≤ c && c ≤ 'f') || ('A' ≤ c && c ≤ 'F')
    (.string (String.ofList (rest.takeWhile isHex)), rest.dropWhile isHex)
  | whole, rest =>
    let (point, rest) := match rest with
      | '.' :: more => (['.'], more)
      | more => ([], more)
    let fraction := rest.takeWhile Char.isDigit
    let rest := rest.dropWhile Char.isDigit
    let digits := whole ++ point ++ fraction
    if digits = ['.'] then (.symbol ".", rest)
    else
      let (exponent, rest) := exponentPart rest
      let rest := match rest with
        | 'L' :: more => more
        | more => more
      (.number (String.ofList (digits ++ exponent)), rest)

def operators : List String :=
  ["!~~*", "->>", "<=>", "||/", "!~*", "!~~", "~~*", "<->", "<=", "<>", "<<", "<@", ">=", ">>",
    "=>", "==", "!=", "!!", "!~", "||", "|/", "|>", "&&", "::", ":=", "->", "~*", "~~"]

def symbolToken (c : Char) (rest : List Char) : Token × List Char :=
  match operators.find? fun op => op.toList.isPrefixOf (c :: rest) with
  | some op => (.symbol op, (c :: rest).drop op.length)
  | none => (.symbol (String.singleton c), rest)

def wordToken (cs : List Char) : Token × List Char :=
  let text := cs.takeWhile isWordPart
  (.word (String.ofList text) (String.ofList (upperKey text)), cs.dropWhile isWordPart)

def signToken (sign : Char) (rest : List Char) : Token × List Char :=
  let isWord (cs : List Char) : Bool :=
    match cs with
    | [] => false
    | c :: _ => !([' ', '\x27', '"', '\x60'].contains c)
  match sign, rest with
  | '@', '@' :: rest =>
    if isWord rest then
      match wordToken (rest.drop 1) with
      | (_, more) =>
        let text := '@' :: '@' :: rest.take (rest.length - more.length)
        (.word (String.ofList text) (String.ofList (upperKey text)), more)
    else (.symbol "@@", rest)
  | sign, rest =>
    match ["@>", "@?", "#>>", "#>", "#-"].find? fun op => op.toList.isPrefixOf (sign :: rest) with
    | some op => (.symbol op, (sign :: rest).drop op.length)
    | none =>
      if isWord rest then
        match wordToken (rest.drop 1) with
        | (_, more) =>
          let text := sign :: rest.take (rest.length - more.length)
          (.word (String.ofList text) (String.ofList (upperKey text)), more)
      else (.symbol (String.singleton sign), rest)

def dollarToken (cs : List Char) : Except ParseError (Token × List Char) :=
  let isName (c : Char) : Bool := isLetter c || isNumeric c || c == '_'
  let name := cs.takeWhile isName
  match cs.dropWhile isName with
  | '$' :: rest =>
    match untilDelimiter ('$' :: name ++ ['$']) rest with
    | some (text, rest) => .ok (.string (String.ofList text), rest)
    | none => .error (.unterminated "dollar-quoted string")
  | rest => .ok (.placeholder (String.ofList ('$' :: name)), rest)

def stringToken (found : Option (List Char × List Char)) : Except ParseError (Token × List Char) :=
  match found with
  | some (text, rest) => .ok (.string (String.ofList text), rest)
  | none => .error (.unterminated "string literal")

/-- The first token of a text that begins neither with white space nor with a comment; `inWord` says
that a word ends right before it. -/
def nextToken (inWord : Bool) (cs : List Char) : Except ParseError (Token × List Char) :=
  match cs with
  | [] => .error (.unexpected none)
  | '\x27' :: rest => stringToken (untilQuote '\x27' rest)
  | '"' :: rest =>
    match untilQuote '"' rest with
    | some (text, rest) => .ok (.word (String.ofList text) "", rest)
    | none => .error (.unterminated "quoted identifier")
  | '\x60' :: rest =>
    match untilQuote '\x60' rest with
    | some (text, rest) => .ok (.word (String.ofList text) "", rest)
    | none => .error (.unterminated "quoted identifier")
  | '#' :: rest => .ok (signToken '#' rest)
  | '@' :: rest => .ok (signToken '@' rest)
  | '$' :: rest => dollarToken rest
  | '?' :: rest =>
    .ok (.placeholder (String.ofList ('?' :: rest.takeWhile isNumeric)), rest.dropWhile isNumeric)
  | '.' :: '_' :: rest =>
    if inWord then .ok (.symbol ".", '_' :: rest) else .error (.unexpected (some (.symbol "_")))
  | c :: '\x27' :: rest =>
    if c = 'E' || c = 'e' then stringToken (untilQuoteEscaped rest)
    else if ['B', 'b', 'N', 'n', 'R', 'r', 'X', 'x'].contains c then
      stringToken (untilQuote '\x27' rest)
    else if isWordStart c then .ok (wordToken cs)
    else if c.isDigit || c = '.' then .ok (numberToken cs)
    else .ok (symbolToken c ('\x27' :: rest))
  | c :: '"' :: rest =>
    if ['B', 'b', 'R', 'r'].contains c then stringToken (untilQuote '"' rest)
    else if isWordStart c then .ok (wordToken cs)
    else if c.isDigit || c = '.' then .ok (numberToken cs)
    else .ok (symbolToken c ('"' :: rest))
  | c :: '&' :: '\x27' :: rest =>
    if c = 'U' || c = 'u' then stringToken (untilQuote '\x27' rest)
    else if isWordStart c then .ok (wordToken cs)
    else if c.isDigit || c = '.' then .ok (numberToken cs)
    else .ok (symbolToken c ('&' :: '\x27' :: rest))
  | c :: rest =>
    if isWordStart c then .ok (wordToken cs)
    else if c.isDigit || c = '.' then .ok (numberToken cs)
    else .ok (symbolToken c rest)

def tokensFrom (fuel : Nat) (inWord : Bool) (cs : List Char) : Except ParseError (List Token) :=
  match fuel with
  | 0 => .ok []
  | fuel + 1 =>
    match cs with
    | [] => .ok []
    | '-' :: '-' :: rest => tokensFrom fuel false (rest.dropWhile (· ≠ '\n'))
    | '/' :: '*' :: rest =>
      match afterComment 1 rest with
      | some rest => tokensFrom fuel false rest
      | none => .error (.unterminated "comment")
    | c :: rest =>
      if isBlank c then tokensFrom fuel false rest
      else
        match nextToken inWord (c :: rest) with
        | .error e => .error e
        | .ok (token, rest) =>
          let isWord := match token with
            | .word _ _ => true
            | _ => false
          (tokensFrom fuel isWord rest).map (token :: ·)

def tokens (cs : List Char) : Except ParseError (List Token) :=
  tokensFrom (cs.length + 1) false cs

end NestedTx.Sql

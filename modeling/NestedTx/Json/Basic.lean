namespace NestedTx.Json

inductive Number
  | integer (n : Int)
  | real (x : Float)
deriving DecidableEq

inductive Value
  | null
  | bool (b : Bool)
  | number (n : Number)
  | string (text : String)
  | array (items : List Value)
  | object (members : List (String × Value))
deriving Inhabited

def insertMember (key : String) (value : Value) : List (String × Value) → List (String × Value)
  | [] => [(key, value)]
  | (k, v) :: rest =>
    if key < k then (key, value) :: (k, v) :: rest
    else if key = k then (key, value) :: rest
    else (k, v) :: insertMember key value rest

def Value.ofMembers (members : List (String × Value)) : Value :=
  .object (members.foldl (fun sorted m => insertMember m.1 m.2 sorted) [])

def member? (key : String) (members : List (String × Value)) : Option Value :=
  members.lookup key

def Value.ofNat (n : Nat) : Value := .number (.integer n)

end NestedTx.Json

namespace NestedTx

abbrev Row := List (String × Json.Value)

end NestedTx

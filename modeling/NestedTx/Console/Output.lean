import NestedTx.Console.Table
import NestedTx.Database.Tracking

namespace NestedTx

inductive Output
  | message (text : String)
  | affected (count : Nat)
  | rows (rows : List Row)
  | status (depth : Nat) (transaction : Option Snapshot) (stats : Stats)
  | empty
  | exit

namespace Output

def yesNo (b : Bool) : String := if b then "true" else "false"

def transactionLines : Option Snapshot → List String
  | none => ["Transaction: none"]
  | some tx =>
    ["Transaction: " ++ tx.id,
      "  State: " ++ tx.status.name,
      "  Nested depth: " ++ toString tx.depth,
      "  Rolled back: " ++ yesNo tx.rolledBack,
      "  Finalized: " ++ yesNo tx.finalized]

def lines : Output → List String
  | .message text => [text]
  | .affected count => [toString count ++ " row(s) affected"]
  | .rows found => Table.lines found
  | .status depth transaction stats =>
    ("Depth: " ++ toString depth) :: transactionLines transaction ++
      ["Connections: " ++ toString stats.created ++ " created, " ++ toString stats.available ++
          " idle, " ++ toString stats.limit ++ " max",
        "Active transactions: " ++ toString stats.active]
  | .empty => []
  | .exit => []

def render (output : Output) : String :=
  "".intercalate (output.lines.map (· ++ "\n"))

end Output

end NestedTx

import NestedTx.Json.Printer

/-!
Rows as a table of text. The columns are those of the first row, each as wide as its longest cell;
widths are counted in bytes, and cells are filled up by characters.
-/

namespace NestedTx.Table

def cell : Json.Value → String
  | .null => "NULL"
  | .bool b => if b then "true" else "false"
  | .string text => text
  | value => value.render

def columns (rows : List Row) : List String :=
  match rows with
  | [] => []
  | first :: _ => first.map Prod.fst

def cellOf (row : Row) (column : String) : String :=
  match row.lookup column with
  | some value => cell value
  | none => ""

def width (rows : List Row) (column : String) : Nat :=
  rows.foldl (fun widest row => max widest (cellOf row column).utf8ByteSize) column.utf8ByteSize

def pad (width : Nat) (text : String) : String :=
  text ++ String.ofList (List.replicate (width - text.length) ' ')

def line (joiner : String) (cells : List String) : String := joiner.intercalate cells

def header (rows : List Row) : String :=
  line " | " ((columns rows).map fun column => pad (width rows column) column)

def separator (rows : List Row) : String :=
  line "-+-" ((columns rows).map fun column => String.ofList (List.replicate (width rows column) '-'))

def body (rows : List Row) (row : Row) : String :=
  line " | " ((columns rows).map fun column => pad (width rows column) (cellOf row column))

def lines (rows : List Row) : List String :=
  if rows.isEmpty then ["(0 rows)"]
  else header rows :: separator rows :: rows.map (body rows) ++ ["(" ++ toString rows.length ++ " rows)"]

end NestedTx.Table

namespace NestedTx.Identifier

def digits : List Char := "0123456789abcdefghjkmnpqrstvwxyz".toList

def digit (n : Nat) : Char := digits.getD (n % 32) '0'

def write (n : Nat) : Nat → List Char
  | 0 => []
  | width + 1 => write (n / 32) width ++ [digit n]

def width : Nat := 26

def ofSerial (serial : Nat) : String := String.ofList (write serial width)

end NestedTx.Identifier

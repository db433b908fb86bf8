namespace TestTwins.Word

def count : Nat := 0x10000000000000000

def half : Nat := 0x8000000000000000

def isSigned (n : Int) : Bool := -(half : Int) ≤ n && n < half

end TestTwins.Word

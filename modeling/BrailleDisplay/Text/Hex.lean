/-!
# Bytes in hexadecimal

A byte string is written as two lowercase hexadecimal digits for each byte, without separators.
-/
namespace BrailleDisplay.Hex

def digit (n : Nat) : Char :=
  if n < 10 then Char.ofNat ('0'.toNat + n) else Char.ofNat ('a'.toNat + (n - 10))

def byte (b : UInt8) : List Char := [digit (b.toNat / 16), digit (b.toNat % 16)]

def encode (bytes : List UInt8) : String := String.ofList (bytes.flatMap byte)

end BrailleDisplay.Hex

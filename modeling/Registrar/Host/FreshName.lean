import Registrar.Text.Hexadecimal

/-!
# Fresh names

A name that is never given twice is made of sixteen random bytes: 32 hexadecimal digits in groups of 8, 4, 4, 4 and 12.
Two of the digits say that the bytes are random.
-/

namespace Registrar

namespace FreshName

/-- Marks a byte at a position: the seventh names the method, the ninth the layout. -/
def marked (position : Nat) (b : UInt8) : UInt8 :=
  if position = 6 then 64 + b % 16 else if position = 8 then 128 + b % 64 else b

/-- The bytes before which a group begins. -/
def beginsGroup (position : Nat) : Bool := [4, 6, 8, 10].contains position

/-- The name made of random bytes. -/
def ofBytes (bytes : List UInt8) : String :=
  String.ofList (bytes.zipIdx.flatMap fun (b, position) =>
    (if beginsGroup position then ['-'] else []) ++ Text.hexDigits 2 (marked position b).toNat)

end FreshName

end Registrar

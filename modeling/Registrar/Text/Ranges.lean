/-!
# Tables of character ranges

A character property is a table of inclusive ranges of code points in ascending order; `Ranges.contains` looks a
character up.
-/

namespace Registrar.Text

/-- Inclusive ranges of code points. -/
abbrev Ranges := List (Nat × Nat)

/-- Whether some range of the table holds the character. -/
def Ranges.contains (table : Ranges) (c : Char) : Bool :=
  table.any fun (first, last) => first ≤ c.toNat && c.toNat ≤ last

end Registrar.Text

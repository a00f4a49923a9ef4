/-!
# Finding parts of a text

`holds needle cs` says whether a text has a part, `lineCount` counts its lines.
-/

namespace Registrar.Text

/-- Whether `needle` stands somewhere in the text. -/
def holds (needle : List Char) : List Char → Bool
  | [] => needle.isEmpty
  | c :: cs => needle.isPrefixOf (c :: cs) || holds needle cs

/-- The text starts with `lead`. -/
def startsWith (lead s : String) : Bool := lead.toList.isPrefixOf s.toList

/-- The text ends with `tail`. -/
def endsWith (tail s : String) : Bool := tail.toList.reverse.isPrefixOf s.toList.reverse

/-- The number of lines; a line end closes the line before it and opens none. -/
def lineCount (s : String) : Nat :=
  let cs := s.toList
  cs.count '\n' + match cs.getLast? with
    | some c => if c = '\n' then 0 else 1
    | none => 0

end Registrar.Text

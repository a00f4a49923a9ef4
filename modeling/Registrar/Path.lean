import Registrar.Text.Split

/-!
# Paths

A path is a text of components between slashes. An absolute path starts with a slash. Empty components and components
`.` do not count, except a `.` in front.
-/

namespace Registrar

/-- A place in a file system. -/
abbrev Path := String

namespace Path

/-- A path that starts at the root. -/
def isAbsolute (p : Path) : Bool := p.toList.head? = some '/'

/-- The path `q` seen from the folder `p`; an absolute `q` replaces it. -/
def join (p q : Path) : Path :=
  if isAbsolute q then q
  else if p.isEmpty || p.toList.getLast? = some '/' then p ++ q
  else p ++ "/" ++ q

/-- The pieces that count, from the left. -/
def pieces (p : Path) : List String :=
  ((Text.splitAt '/' p.toList).map String.ofList).filter fun c => c ≠ "" ∧ c ≠ "."

/-- The components: the root of an absolute path, a `.` in front of a relative one, and the pieces that count. -/
def components (p : Path) : List String :=
  if isAbsolute p then "/" :: pieces p
  else match Text.splitAt '/' p.toList with
    | ['.'] :: _ => "." :: pieces p
    | _ => pieces p

/-- A path from components. -/
def ofComponents : List String → Path
  | "/" :: rest => "/" ++ String.intercalate "/" rest
  | cs => String.intercalate "/" cs

/-- The folder above; the empty path and the root have none. -/
def parent? (p : Path) : Option Path :=
  match components p with
  | [] | ["/"] => none
  | cs => some (ofComponents cs.dropLast)

end Path

end Registrar

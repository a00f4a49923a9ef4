import Registrar.Text.Hexadecimal
import Registrar.Text.Split

/-!
# Addresses

The address of a request: a server and what is asked of it. Reading an address (`Url.parse?`) settles its path: dots
that mean a folder are resolved, and characters that an address cannot hold are written as their bytes in hexadecimal.
`formText` writes fields as the body of a request.
-/

namespace Registrar

/-- The address of a request. -/
structure Url where
  /-- The scheme and the server. -/
  origin : String
  /-- The path from the root of the server. -/
  path : String
  query : Option String := none
  deriving DecidableEq

namespace Url

/-- What is asked of the server. -/
def target (u : Url) : String :=
  match u.query with
  | some q => u.path ++ "?" ++ q
  | none => u.path

/-- The address as a text. -/
def text (u : Url) : String := u.origin ++ u.target

/-! ## Encoding -/

/-- One byte as a percent sign and two hexadecimal digits. -/
def percent (b : UInt8) : List Char := '%' :: (Text.hexDigits 2 b.toNat).map Char.toUpper

/-- Writes the bytes of every character that is not kept. -/
def encode (keeps : Char → Bool) (cs : List Char) : List Char :=
  cs.flatMap fun c => if keeps c then [c] else (String.singleton c).toUTF8.toList.flatMap percent

/-- The characters that a path keeps. -/
def pathKeeps (c : Char) : Bool :=
  '!' ≤ c && c ≤ '~' && c ∉ ['"', '#', '<', '>', '?', '\x60', '{', '}']

/-- The characters that a query keeps. -/
def queryKeeps (c : Char) : Bool := '!' ≤ c && c ≤ '~' && c ∉ ['"', '#', '<', '>', '\'']

/-- The characters that a form keeps. -/
def formKeeps (c : Char) : Bool := c.isAlphanum || c = '*' || c = '-' || c = '.' || c = '_'

/-- A name or a value of a form; a space is a plus. -/
def formPart (s : String) : String :=
  String.ofList (s.toList.flatMap fun c => if c = ' ' then ['+'] else encode formKeeps [c])

/-- Fields as the body of a form. -/
def formText (fields : List (String × String)) : String :=
  String.intercalate "&" (fields.map fun (name, value) => formPart name ++ "=" ++ formPart value)

/-- Adds fields to the query. -/
def withQuery (u : Url) (fields : List (String × String)) : Url :=
  let more := formText fields
  { u with query := some (match u.query with
      | some q => if q.isEmpty then more else q ++ "&" ++ more
      | none => more) }

/-! ## Reading -/

/-- A slash of either kind. -/
def isSlash (c : Char) : Bool := c = '/' || c = '\\'

/-- A step that stays in the folder. -/
def isHere (step : String) : Bool := step = "." || step.toLower = "%2e"

/-- A step that goes to the folder above. -/
def isAbove (step : String) : Bool := ["..", ".%2e", "%2e.", "%2e%2e"].contains step.toLower

/-- Resolves the steps of a path; the names so far are given latest first. -/
def resolve (names : List String) : List String → List String
  | [] => names.reverse
  | step :: rest =>
    let isLast := rest.isEmpty
    if isAbove step then resolve (if isLast then "" :: names.drop 1 else names.drop 1) rest
    else if isHere step then resolve (if isLast then "" :: names else names) rest
    else resolve (String.ofList (encode pathKeeps step.toList) :: names) rest

/-- A path from the root. -/
def pathText (cs : List Char) : String :=
  let steps := (Text.splitAt '/' (cs.map fun c => if isSlash c then '/' else c)).map String.ofList
  "/" ++ String.intercalate "/" (resolve [] (if cs.isEmpty then [] else steps.drop 1))

/-- The characters that do not count at the ends of an address. -/
def isEdge (c : Char) : Bool := c ≤ ' '

/-- Reads an address of the web. -/
def parse? (text : String) : Option Url := do
  let cs := ((text.toList.dropWhile isEdge).reverse.dropWhile isEdge).reverse
  let cs := cs.filter fun c => c ≠ '\t' && c ≠ '\n' && c ≠ '\r'
  let (scheme, rest) ← Text.cutFirst ':' cs
  let scheme := (String.ofList scheme).toLower
  if scheme ≠ "http" && scheme ≠ "https" then none
  let rest := rest.dropWhile isSlash
  let isEnd (c : Char) : Bool := isSlash c || c = '?' || c = '#'
  let server := rest.takeWhile fun c => !isEnd c
  if server.isEmpty then none
  let rest := (rest.drop server.length).takeWhile (· ≠ '#')
  let path := rest.takeWhile (· ≠ '?')
  return {
    origin := scheme ++ "://" ++ String.ofList server
    path := pathText path
    query := (Text.cutFirst '?' rest).map fun (_, q) => String.ofList (encode queryKeeps q) }

end Url

end Registrar

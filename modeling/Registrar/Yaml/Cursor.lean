/-!
# A place in a text

Readers of indented text need to know where they are: a `Cursor` is what is left of the text with the line and the
column of its first character.
-/

namespace Registrar.Yaml

/-! ## Classes of characters -/

/-- A space or a tab. -/
def isBlank (c : Char) : Bool := c = ' ' || c = '\t'

/-- The end of a line. -/
def isBreak (c : Char) : Bool := c = '\n' || c = '\r' || c = '\u0085' || c = '\u2028' || c = '\u2029'

/-- The characters of names: ASCII letters and digits, `_` and `-`. -/
def isNameChar (c : Char) : Bool := c.isAlphanum || c = '_' || c = '-'

/-- The characters that a text may hold at all. -/
def isPrintable (c : Char) : Bool :=
  c = '\t' || c = '\n' || c = '\r' || c = '\u0085' || ' ' ≤ c && c ≤ '~' || '\xa0' ≤ c && c ≤ '\ufffd' ||
    '\uffff' < c

/-- The characters that open, close and separate inside brackets and braces. -/
def isFlowMark (c : Char) : Bool := c = ',' || c = '[' || c = ']' || c = '{' || c = '}'

/-! ## Cursors -/

/-- What is left of a text, and where it starts. -/
structure Cursor where
  rest : List Char
  /-- The number of characters before. -/
  index : Nat := 0
  line : Nat := 0
  column : Nat := 0

namespace Cursor

/-- The character `n` places ahead. -/
def ahead (p : Cursor) (n : Nat) : Option Char := p.rest[n]?

/-- The next character. -/
def head (p : Cursor) : Option Char := p.rest.head?

/-- Whether the next character is this one. -/
def isAt (p : Cursor) (c : Char) : Bool := p.head == some c

/-- Whether the line is over `n` places ahead. -/
def endsAt (p : Cursor) (n : Nat) : Bool := (p.ahead n).all isBreak

/-- Whether there is a blank, or the line is over, `n` places ahead. -/
def clearAt (p : Cursor) (n : Nat) : Bool := (p.ahead n).all fun c => isBlank c || isBreak c

/-- Whether the next character is a blank. -/
def isAtBlank (p : Cursor) : Bool := p.head.any isBlank

/-- Whether the next character ends a line. -/
def isAtBreak (p : Cursor) : Bool := p.head.any isBreak

/-- Goes on by characters of the same line. -/
def skip (p : Cursor) (n : Nat) : Cursor :=
  { p with rest := p.rest.drop n, index := p.index + n, column := p.column + n }

/-- Goes on while the characters of the line are of a class. -/
def skipWhile (p : Cursor) (f : Char → Bool) : Cursor := p.skip (p.rest.takeWhile f).length

/-- The characters of a class in front, and where they end. -/
def takeWhile (p : Cursor) (f : Char → Bool) : List Char × Cursor :=
  let cs := p.rest.takeWhile f
  (cs, p.skip cs.length)

/-- Goes on to the next line; a carriage return and the line feed behind it end one line. -/
def skipLine (p : Cursor) : Cursor :=
  match p.rest with
  | '\r' :: '\n' :: rest => ⟨rest, p.index + 2, p.line + 1, 0⟩
  | _ :: rest => ⟨rest, p.index + 1, p.line + 1, 0⟩
  | [] => p

/-- How the end of the line counts in a text. -/
def breakText (p : Cursor) : List Char :=
  match p.head with
  | some c => [if c = '\u2028' || c = '\u2029' then c else '\n']
  | none => []

/-- Whether a line starts here with three times this character, standing alone. -/
def isRule (p : Cursor) (c : Char) : Bool :=
  p.column == 0 && p.rest.take 3 == [c, c, c] && p.clearAt 3

/-- Whether a line starts here that begins or ends a document. -/
def isDocumentRule (p : Cursor) : Bool := p.isRule '-' || p.isRule '.'

/-- Goes past blanks, and past a comment behind them, up to the end of the line. -/
def skipComment (p : Cursor) : Cursor :=
  let p := p.skipWhile isBlank
  if p.isAt '#' then p.skipWhile fun c => !isBreak c else p

end Cursor

end Registrar.Yaml

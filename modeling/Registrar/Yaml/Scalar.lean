import Registrar.Text.Hexadecimal
import Registrar.Yaml.Cursor

/-!
# Scalars

A scalar is a text that stands plainly, between quotes, or as a block of indented lines. Line breaks inside plain and
quoted scalars are folded: one break is a space, further ones are kept (`Fold.text`). In a block, the lines of `|` are
kept and those of `>` folded.

The readers here start at the first character of a scalar and end behind its last; nothing is read where the text is
malformed. Each takes a bound on its steps, for which the length of the text is enough.
-/

namespace Registrar.Yaml

/-- How a scalar is written. -/
inductive Style where
  | plain | quoted
  /-- A block of lines that are kept. -/
  | literal
  /-- A block of lines that are folded. -/
  | folded
  deriving DecidableEq

/-! ## Folding -/

/-- The blanks and line breaks between two parts of a scalar. -/
structure Fold where
  /-- Blanks, as long as there is no break. -/
  blanks : List Char := []
  /-- The first break. -/
  first : List Char := []
  /-- The further breaks. -/
  further : List Char := []
  /-- There was a break. -/
  broken : Bool := false

namespace Fold

/-- What stands for the blanks and breaks. -/
def text (f : Fold) : List Char :=
  if !f.broken then f.blanks
  else if f.first = ['\n'] then (if f.further.isEmpty then [' '] else f.further)
  else f.first ++ f.further

/-- Goes past blanks and breaks. Where `least` is given, tabs must not indent a line by less. -/
def gather (least : Option Int) : Nat → Fold → Cursor → Option (Fold × Cursor)
  | 0, _, _ => none
  | fuel + 1, f, p =>
    match p.head with
    | none => some (f, p)
    | some c =>
      if isBlank c then
        if f.broken && c = '\t' && least.any ((p.column : Int) < ·) then none
        else gather least fuel (if f.broken then f else { f with blanks := f.blanks ++ [c] }) (p.skip 1)
      else if isBreak c then
        let f := if f.broken then { f with further := f.further ++ p.breakText }
          else { f with blanks := [], first := p.breakText, broken := true }
        gather least fuel f p.skipLine
      else some (f, p)

end Fold

/-! ## Plain scalars -/

/-- Whether a plain scalar ends before the next character; `none` where it must not go on like this. -/
def plainEnds? (inFlow : Bool) (p : Cursor) : Option Bool :=
  let colon := p.isAt ':'
  if inFlow && colon && (p.ahead 1).any (fun c => isFlowMark c || c = '?') then none
  else some (p.clearAt 0 || colon && p.clearAt 1 || inFlow && p.head.any isFlowMark)

/-- The characters up to the next blank, break or end of a plain scalar. -/
def plainPart (inFlow : Bool) : Nat → List Char → Cursor → Option (List Char × Cursor)
  | 0, _, _ => none
  | fuel + 1, rev, p =>
    match plainEnds? inFlow p, p.head with
    | some false, some c => plainPart inFlow fuel (c :: rev) (p.skip 1)
    | some _, _ => some (rev.reverse, p)
    | none, _ => none

/-- A plain scalar; also says whether a line break follows it. Its lines must be indented by `indent`. -/
def plain (inFlow : Bool) (indent : Int) : Nat → List Char → Fold → Cursor → Option (List Char × Bool × Cursor)
  | 0, _, _, _ => none
  | fuel + 1, text, fold, p =>
    if p.isDocumentRule || p.isAt '#' then some (text, fold.broken, p)
    else
      match plainPart inFlow (p.rest.length + 1) [] p with
      | none => none
      | some (part, q) =>
        let text := if part.isEmpty then text else text ++ fold.text ++ part
        let fold := if part.isEmpty then fold else {}
        if q.isAtBlank || q.isAtBreak then
          match Fold.gather (some indent) (q.rest.length + 1) fold q with
          | none => none
          | some (fold, q) =>
            if !inFlow && (q.column : Int) < indent then some (text, fold.broken, q)
            else plain inFlow indent fuel text fold q
        else some (text, fold.broken, q)

/-! ## Quoted scalars -/

/-- The character of an escape of one letter. -/
def escaped? : Char → Option Char
  | '0' => some '\x00'
  | 'a' => some '\x07'
  | 'b' => some '\x08'
  | 't' => some '\t'
  | '\t' => some '\t'
  | 'n' => some '\n'
  | 'v' => some '\x0b'
  | 'f' => some '\x0c'
  | 'r' => some '\r'
  | 'e' => some '\x1b'
  | ' ' => some ' '
  | '"' => some '"'
  | '/' => some '/'
  | '\\' => some '\\'
  | 'N' => some '\u0085'
  | '_' => some '\xa0'
  | 'L' => some '\u2028'
  | 'P' => some '\u2029'
  | _ => none

/-- The number of hexadecimal digits behind the letter of an escape. -/
def codeWidth? : Char → Option Nat
  | 'x' => some 2
  | 'u' => some 4
  | 'U' => some 8
  | _ => none

/-- The character with a code; halves of pairs are none. -/
def coded? (digits : List Char) : Option Char := do
  let n ← digits.foldlM (fun n c => (Text.hexValue? c).map (16 * n + ·)) 0
  if h : n.isValidChar then some (Char.ofNatAux n h) else none

/-- The escape behind a backslash, and where it ends. -/
def escape? (p : Cursor) : Option (Char × Cursor) := do
  let letter ← p.ahead 1
  match codeWidth? letter with
  | none => return (← escaped? letter, p.skip 2)
  | some width =>
    let digits := (p.rest.drop 2).take width
    if digits.length < width then none
    return (← coded? digits, p.skip (2 + width))

/-- The characters of a quoted scalar up to the next blank, break or closing quote. Also says whether an escaped break
ended the part. -/
def quotedPart (quote : Char) : Nat → List Char → Cursor → Option (List Char × Bool × Cursor)
  | 0, _, _ => none
  | fuel + 1, rev, p =>
    match p.head with
    | none => some (rev.reverse, false, p)
    | some c =>
      if isBlank c || isBreak c then some (rev.reverse, false, p)
      else if c = quote then
        if quote = '\'' && p.ahead 1 = some '\'' then quotedPart quote fuel ('\'' :: rev) (p.skip 2)
        else some (rev.reverse, false, p)
      else if quote = '"' && c = '\\' then
        if (p.ahead 1).any isBreak then some (rev.reverse, true, (p.skip 1).skipLine)
        else match escape? p with
          | none => none
          | some (d, p) => quotedPart quote fuel (d :: rev) p
      else quotedPart quote fuel (c :: rev) (p.skip 1)

/-- A quoted scalar behind its opening quote. -/
def quoted (quote : Char) : Nat → List Char → Cursor → Option (List Char × Cursor)
  | 0, _, _ => none
  | fuel + 1, text, p =>
    if p.isDocumentRule || p.rest.isEmpty then none
    else
      match quotedPart quote (p.rest.length + 1) [] p with
      | none => none
      | some (part, broken, q) =>
        if q.isAt quote then some (text ++ part, q.skip 1)
        else
          match Fold.gather none (q.rest.length + 1) { broken } q with
          | none => none
          | some (fold, q) => quoted quote fuel (text ++ part ++ fold.text) q

/-! ## Block scalars -/

/-- What becomes of the breaks at the end of a block. -/
inductive Chomping where
  | strip | clip | keep

/-- The head of a block scalar: an indentation and a chomping in either order. -/
def blockHead? (p : Cursor) : Option (Chomping × Nat × Cursor) :=
  let chomping (p : Cursor) : Option (Chomping × Cursor) :=
    if p.isAt '+' then some (.keep, p.skip 1) else if p.isAt '-' then some (.strip, p.skip 1) else none
  let indent (p : Cursor) : Option (Nat × Cursor) :=
    match p.head with
    | some c => if c.isDigit then (if c = '0' then none else some (c.toNat - '0'.toNat, p.skip 1)) else some (0, p)
    | none => some (0, p)
  match chomping p with
  | some (k, p) => (indent p).map fun (n, p) => (k, n, p)
  | none => (indent p).map fun (n, q) =>
    match if n = 0 then none else chomping q with
    | some (k, q) => (k, n, q)
    | none => (.clip, n, q)

/-- Goes past empty lines and the indentation of the next line. Gives the breaks, the widest indentation and the place;
without a known indentation (zero), all spaces indent. Tabs do not. -/
def blockBreaks (indent : Nat) : Nat → List Char → Nat → Cursor → Option (List Char × Nat × Cursor)
  | 0, _, _, _ => none
  | fuel + 1, breaks, widest, p =>
    let spaces := (p.rest.takeWhile (· = ' ')).length
    let p := p.skip (if indent = 0 then spaces else min spaces (indent - p.column))
    let widest := max widest p.column
    if (indent = 0 || p.column < indent) && p.isAt '\t' then none
    else if p.isAtBreak then blockBreaks indent fuel (breaks ++ p.breakText) widest p.skipLine
    else some (breaks, widest, p)

/-- The lines of a block scalar. `first` is the break behind the text so far, `further` the empty lines behind it. -/
def blockLines (keeps : Bool) (indent : Nat) :
    Nat → List Char → List Char → List Char → Bool → Cursor → Option (List Char × List Char × List Char × Cursor)
  | 0, _, _, _, _, _ => none
  | fuel + 1, text, first, further, afterBlank, p =>
    if p.column ≠ indent || p.rest.isEmpty then some (text, first, further, p)
    else
      let blank := p.isAtBlank
      let joint := if !keeps && first = ['\n'] && !afterBlank && !blank then (if further.isEmpty then [' '] else [])
        else first
      let (line, q) := p.takeWhile fun c => !isBreak c
      let text := text ++ joint ++ further ++ line
      match blockBreaks indent (q.rest.length + 1) [] 0 q.skipLine with
      | none => none
      | some (further, _, r) => blockLines keeps indent fuel text q.breakText further blank r

/-- A block scalar behind its mark, inside a block that is indented by `parent`. -/
def block (keeps : Bool) (parent : Int) (p : Cursor) : Option (List Char × Cursor) := do
  let (chomping, increment, p) ← blockHead? p
  let p := p.skipComment
  if !p.endsAt 0 then none
  let p := p.skipLine
  let given := if increment = 0 then 0 else (max parent 0).toNat + increment
  let (further, widest, p) ← blockBreaks given (p.rest.length + 1) [] 0 p
  let indent := if given = 0 then max widest (max (parent + 1) 1).toNat else given
  let (text, first, further, p) ← blockLines keeps indent (p.rest.length + 1) [] [] further false p
  let tail := match chomping with
    | .strip => []
    | .clip => first
    | .keep => first ++ further
  return (text ++ tail, p)

end Registrar.Yaml

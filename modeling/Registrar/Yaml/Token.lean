import Registrar.Yaml.Scalar

/-!
# Tokens

The tokens of an indented document. Indentation becomes tokens of its own: a `Scanner` keeps the indentations that are
open and closes those that a line falls short of. A key without a mark in front is recognised at its colon, so the
scanner remembers where a key may have begun (`KeyPlace`) and puts the key's token there afterwards; such a key stands
on one line and is not longer than `keyLimit`.
-/

namespace Registrar.Yaml

/-- A token. -/
inductive Token where
  | version (major minor : Nat)
  /-- What a handle stands for in tags. -/
  | tagRule (handle lead : String)
  | documentStart
  | documentEnd
  | blockList
  | blockMap
  | blockEnd
  | openList
  | closeList
  | openMap
  | closeMap
  /-- The dash in front of an item. -/
  | item
  | comma
  | key
  | colon
  | alias (name : String)
  | anchor (name : String)
  | tag (handle suffix : String)
  | scalar (text : String) (style : Style)
  deriving DecidableEq

/-- Where a key may have begun. -/
structure KeyPlace where
  /-- The number of tokens before it. -/
  position : Nat
  /-- A key it must be, for it stands where the entries of a block begin. -/
  required : Bool
  index : Nat
  line : Nat
  column : Nat

/-- The most characters of a key without a mark in front. -/
def keyLimit : Nat := 1024

/-- Where the scanner stands. -/
structure Scanner where
  cursor : Cursor
  tokens : Array Token := #[]
  /-- The indentation of the innermost block; -1 outside. -/
  indent : Int := -1
  /-- The indentations of the blocks around it. -/
  outer : List Int := []
  /-- A key may begin here. -/
  keysAllowed : Bool := true
  /-- Where a key may have begun, on this level of brackets and outside it. -/
  keys : List (Option KeyPlace) := [none]

namespace Scanner

/-- Inside brackets or braces. -/
def inFlow (s : Scanner) : Bool := 1 < s.keys.length

/-- Adds a token. -/
def push (s : Scanner) (t : Token) : Scanner := { s with tokens := s.tokens.push t }

/-- Goes on by characters of the line. -/
def skip (s : Scanner) (n : Nat) : Scanner := { s with cursor := s.cursor.skip n }

/-! ## Indentation -/

/-- Opens a block at a column, unless it is open already; its token goes before the given position or comes last. -/
def openBlock (s : Scanner) (column : Nat) (position : Option Nat) (t : Token) : Scanner :=
  if s.inFlow || (column : Int) ≤ s.indent then s
  else { s with
    outer := s.indent :: s.outer, indent := column
    tokens := s.tokens.insertIdxIfInBounds (position.getD s.tokens.size) t }

/-- Closes the blocks that are indented by more than a column. -/
def closeBlocks (s : Scanner) (column : Int) : Scanner :=
  if s.inFlow then s
  else
    let deeper := (s.indent :: s.outer).takeWhile (column < ·)
    match (s.indent :: s.outer).drop deeper.length with
    | indent :: outer => { s with indent, outer, tokens := s.tokens ++ deeper.toArray.map fun _ => Token.blockEnd }
    | [] => s

/-! ## Keys -/

/-- Whether the key of a place would reach too far by now. -/
def isStale (s : Scanner) (k : KeyPlace) : Bool := k.line < s.cursor.line || k.index + keyLimit < s.cursor.index

/-- Gives up keys that would reach too far; a required one must not be given up. -/
def dropStaleKeys? (s : Scanner) : Option Scanner := do
  let keys ← s.keys.mapM fun
    | some k => if s.isStale k then (if k.required then none else some none) else some (some k)
    | none => some none
  return { s with keys }

/-- Gives up the key of this level; a required one must not be given up. -/
def dropKey? (s : Scanner) : Option Scanner :=
  match s.keys with
  | some k :: rest => if k.required then none else some { s with keys := none :: rest }
  | _ => some s

/-- Remembers that a key may begin here. -/
def saveKey? (s : Scanner) : Option Scanner :=
  if s.keysAllowed then do
    let k : KeyPlace := ⟨s.tokens.size, !s.inFlow && s.indent = s.cursor.column, s.cursor.index, s.cursor.line,
      s.cursor.column⟩
    let s ← s.dropKey?
    return { s with keys := some k :: s.keys.drop 1 }
  else some s

/-! ## Marks -/

/-- What ends every block: the end of the text and the lines that are no content. -/
def leaveContent? (s : Scanner) : Option Scanner := do
  let s ← (s.closeBlocks (-1)).dropKey?
  return { s with keysAllowed := false }

/-- A bracket or brace that opens. -/
def openFlow? (s : Scanner) (t : Token) : Option Scanner := do
  let s ← s.saveKey?
  return { (s.push t).skip 1 with keys := none :: s.keys, keysAllowed := true }

/-- A bracket or brace that closes. -/
def closeFlow? (s : Scanner) (t : Token) : Option Scanner := do
  let s ← s.dropKey?
  let keys := match s.keys with
    | _ :: outer :: rest => outer :: rest
    | keys => keys
  return { (s.push t).skip 1 with keys, keysAllowed := false }

/-- A comma. -/
def comma? (s : Scanner) : Option Scanner := do
  let s ← s.dropKey?
  return { (s.push .comma).skip 1 with keysAllowed := true }

/-- Opens a block where a dash or a mark of a key stands outside brackets; it must stand where a key may. -/
def enterBlock? (s : Scanner) (t : Token) : Option Scanner :=
  if s.inFlow then some s else if s.keysAllowed then some (s.openBlock s.cursor.column none t) else none

/-- The dash of an item. -/
def item? (s : Scanner) : Option Scanner := do
  let s ← (← s.enterBlock? .blockList).dropKey?
  return { (s.push .item).skip 1 with keysAllowed := true }

/-- The mark of a key. -/
def key? (s : Scanner) : Option Scanner := do
  let s ← (← s.enterBlock? .blockMap).dropKey?
  return { (s.push .key).skip 1 with keysAllowed := !s.inFlow }

/-- A colon: what stands before it on the line is a key after all, or the key is empty. -/
def colon? (s : Scanner) : Option Scanner :=
  match s.keys with
  | some k :: rest =>
    let s := { s with keys := none :: rest, tokens := s.tokens.insertIdxIfInBounds k.position .key }
    let s := s.openBlock k.column (some k.position) .blockMap
    some { (s.push .colon).skip 1 with keysAllowed := false }
  | _ => do
    let s ← s.enterBlock? .blockMap
    return { (s.push .colon).skip 1 with keysAllowed := !s.inFlow }

/-! ## Anchors and tags -/

/-- An anchor or an alias. -/
def anchor? (s : Scanner) (t : String → Token) : Option Scanner := do
  let s ← s.saveKey?
  let (name, p) := (s.cursor.skip 1).takeWhile isNameChar
  let ends := p.clearAt 0 || p.head.any fun c => ['?', ':', ',', ']', '}', '%', '@', '\x60'].contains c
  if name.isEmpty || !ends then none
  return { s.push (t (String.ofList name)) with cursor := p, keysAllowed := false }

/-- A character of a tag. -/
def isTagChar (wide : Bool) (c : Char) : Bool :=
  isNameChar c || [';', '/', '?', ':', '@', '&', '=', '+', '$', '.', '%', '!', '~', '*', '\'', '(', ')'].contains c ||
    wide && [',', '[', ']'].contains c

/-- The bytes of a text whose percent signs stand for bytes. -/
def decodeBytes? : List Char → Option (List UInt8)
  | [] => some []
  | '%' :: a :: b :: rest => do
    return .ofNat (16 * (← Text.hexValue? a) + (← Text.hexValue? b)) :: (← decodeBytes? rest)
  | '%' :: _ => none
  | c :: rest => do return (String.singleton c).toUTF8.toList ++ (← decodeBytes? rest)

/-- A text whose percent signs stand for bytes. -/
def decode? (cs : List Char) : Option String := do
  String.fromUTF8? ⟨(← decodeBytes? cs).toArray⟩

/-- The handle of a tag, from its exclamation mark to the next if there is one. -/
def tagHandle (p : Cursor) : List Char × Cursor :=
  let (name, q) := (p.skip 1).takeWhile isNameChar
  if q.isAt '!' then ('!' :: name ++ ['!'], q.skip 1) else ('!' :: name, q)

/-- The handle and the rest of a tag. -/
def tagParts? (p : Cursor) : Option (String × String × Cursor) :=
  if p.ahead 1 = some '<' then do
    let (cs, q) := (p.skip 2).takeWhile (isTagChar true)
    if cs.isEmpty || !q.isAt '>' then none
    return ("", ← decode? cs, q.skip 1)
  else do
    let (handle, q) := tagHandle p
    let (cs, r) := q.takeWhile (isTagChar false)
    if 1 < handle.length && handle.getLast? = some '!' then
      if cs.isEmpty then none
      return (String.ofList handle, ← decode? cs, r)
    else if handle.length = 1 && cs.isEmpty then return ("", "!", r)
    else return ("!", ← decode? (handle.drop 1 ++ cs), r)

/-- A tag. -/
def tag? (s : Scanner) : Option Scanner := do
  let s ← s.saveKey?
  let (handle, suffix, p) ← tagParts? s.cursor
  if !(p.clearAt 0 || s.inFlow && p.isAt ',') then none
  return { s.push (.tag handle suffix) with cursor := p, keysAllowed := false }

/-! ## Scalars -/

/-- A block scalar. -/
def block? (s : Scanner) (style : Style) : Option Scanner := do
  let s ← s.dropKey?
  let (text, p) ← block (style = .literal) s.indent (s.cursor.skip 1)
  return { s.push (.scalar (String.ofList text) style) with cursor := p, keysAllowed := true }

/-- A quoted scalar. -/
def quoted? (s : Scanner) (quote : Char) : Option Scanner := do
  let s ← s.saveKey?
  let (text, p) ← quoted quote (s.cursor.rest.length + 1) [] (s.cursor.skip 1)
  return { s.push (.scalar (String.ofList text) .quoted) with cursor := p, keysAllowed := false }

/-- A plain scalar; a key may begin on the line behind it. -/
def plain? (s : Scanner) : Option Scanner := do
  let s ← s.saveKey?
  let (text, broken, p) ← plain s.inFlow (s.indent + 1) (s.cursor.rest.length + 1) [] {} s.cursor
  return { s.push (.scalar (String.ofList text) .plain) with cursor := p, keysAllowed := broken }

/-! ## Directives -/

/-- The number in a version. -/
def versionPart? (p : Cursor) : Option (Nat × Cursor) :=
  let (digits, q) := p.takeWhile Char.isDigit
  if digits.isEmpty || 9 < digits.length then none
  else some (digits.foldl (fun n c => 10 * n + (c.toNat - '0'.toNat)) 0, q)

/-- What a directive says. -/
def directiveToken? (name : String) (p : Cursor) : Option (Token × Cursor) := do
  let p := p.skipWhile isBlank
  match name with
  | "YAML" =>
    let (major, p) ← versionPart? p
    if !p.isAt '.' then none
    let (minor, p) ← versionPart? (p.skip 1)
    return (.version major minor, p)
  | "TAG" =>
    if !p.isAt '!' then none
    let (handle, p) := tagHandle p
    if !p.isAtBlank || 1 < handle.length && handle.getLast? ≠ some '!' then none
    let (cs, p) := (p.skipWhile isBlank).takeWhile (isTagChar true)
    if cs.isEmpty || !p.clearAt 0 then none
    return (.tagRule (String.ofList handle) (← decode? cs), p)
  | _ => none

/-- A directive. -/
def directive? (s : Scanner) : Option Scanner := do
  let s ← s.leaveContent?
  let (name, p) := (s.cursor.skip 1).takeWhile isNameChar
  if name.isEmpty || !p.clearAt 0 then none
  let (t, p) ← directiveToken? (String.ofList name) p
  let p := p.skipComment
  if !p.endsAt 0 then none
  return { s.push t with cursor := p.skipLine }

/-! ## Scanning -/

/-- Goes past blanks, comments and line ends to the next token. Tabs count as blanks only where no key may begin. -/
def toNextToken : Nat → Scanner → Scanner
  | 0, s => s
  | fuel + 1, s =>
    let p := if s.cursor.column = 0 && s.cursor.isAt '\ufeff' then s.cursor.skip 1 else s.cursor
    let p := p.skipWhile fun c => c = ' ' || (s.inFlow || !s.keysAllowed) && c = '\t'
    let p := if p.isAt '#' then p.skipWhile fun c => !isBreak c else p
    if p.isAtBreak then toNextToken fuel { s with cursor := p.skipLine, keysAllowed := s.keysAllowed || !s.inFlow }
    else { s with cursor := p }

/-- The characters that no plain scalar begins with, unless something follows that makes it one. -/
def isIndicator (c : Char) : Bool :=
  isFlowMark c || ['-', '?', ':', '#', '&', '*', '!', '|', '>', '\'', '"', '%', '@', '\x60'].contains c

/-- Whether a plain scalar begins here. -/
def isAtPlain (s : Scanner) (c : Char) : Bool :=
  !isBlank c && !isIndicator c || c = '-' && !(s.cursor.ahead 1).any isBlank ||
    !s.inFlow && (c = '?' || c = ':') && !s.cursor.clearAt 1

/-- Scans the token that begins with a character. -/
def token? (s : Scanner) (c : Char) : Option Scanner :=
  let p := s.cursor
  if p.column = 0 && c = '%' then s.directive?
  else if p.isRule '-' then do return ((← s.leaveContent?).push .documentStart).skip 3
  else if p.isRule '.' then do return ((← s.leaveContent?).push .documentEnd).skip 3
  else if c = '[' then s.openFlow? .openList
  else if c = '{' then s.openFlow? .openMap
  else if c = ']' then s.closeFlow? .closeList
  else if c = '}' then s.closeFlow? .closeMap
  else if c = ',' then s.comma?
  else if c = '-' && p.clearAt 1 then s.item?
  else if c = '?' && (s.inFlow || p.clearAt 1) then s.key?
  else if c = ':' && (s.inFlow || p.clearAt 1) then s.colon?
  else if c = '*' then s.anchor? .alias
  else if c = '&' then s.anchor? .anchor
  else if c = '!' then s.tag?
  else if c = '|' && !s.inFlow then s.block? .literal
  else if c = '>' && !s.inFlow then s.block? .folded
  else if c = '\'' || c = '"' then s.quoted? c
  else if s.isAtPlain c then s.plain?
  else none

/-- Scans up to the end of the text. -/
def scan? : Nat → Scanner → Option (List Token)
  | 0, _ => none
  | fuel + 1, s => do
    let s := s.toNextToken (s.cursor.rest.length + 1)
    let s ← s.dropStaleKeys?
    let s := s.closeBlocks s.cursor.column
    match s.cursor.head with
    | none => return (← s.leaveContent?).tokens.toList
    | some c => scan? fuel (← s.token? c)

end Scanner

/-- The tokens of a text. -/
def tokens? (text : String) : Option (List Token) :=
  let cs := text.toList
  if cs.all isPrintable then Scanner.scan? (cs.length + 1) { cursor := { rest := cs } } else none

end Registrar.Yaml

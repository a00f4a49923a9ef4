import Registrar.Document.Value
import Registrar.Text.Digit
import Registrar.Text.Hexadecimal
import Registrar.Text.Split

/-!
# JSON

Reading and writing values in the JSON notation. A machine cuts the text into tokens, one character at a time
(`Lexer.step`); a second one puts the tokens together, with the containers that are still open on a stack
(`Builder.step`). Both refuse the text at the first thing that is not JSON.

A number that is not an integer is kept as it is written.
-/

namespace Registrar

namespace Json

/-! ## Tokens -/

/-- A token. -/
inductive Token where
  | openList | closeList | openRecord | closeRecord | colon | comma
  | text (s : String)
  /-- A literal or a number. -/
  | scalar (v : Value)

/-- The tokens that are one character. -/
def mark? : Char → Option Token
  | '[' => some .openList
  | ']' => some .closeList
  | '{' => some .openRecord
  | '}' => some .closeRecord
  | ':' => some .colon
  | ',' => some .comma
  | _ => none

/-- The characters between tokens. -/
def isGap (c : Char) : Bool := c = ' ' || c = '\t' || c = '\n' || c = '\r'

/-- The characters of literals and numbers. -/
def isWordChar (c : Char) : Bool := c.isAlphanum || c = '+' || c = '-' || c = '.'

/-- Cuts the digits off the front; there must be at least one. -/
def digits? (cs : List Char) : Option (List Char) :=
  if (cs.takeWhile Char.isDigit).isEmpty then none else some (cs.dropWhile Char.isDigit)

/-- Cuts off the digits before the point: a leading zero stands alone. -/
def whole? : List Char → Option (List Char)
  | '0' :: rest => some rest
  | cs => digits? cs

/-- Cuts off the part after the point. -/
def places? : List Char → Option (List Char)
  | '.' :: rest => digits? rest
  | cs => some cs

/-- Whether the text is an exponent or empty. -/
def isExponent : List Char → Bool
  | [] => true
  | e :: rest =>
    let rest := match rest with
      | s :: more => if s = '+' || s = '-' then more else rest
      | [] => []
    (e = 'e' || e = 'E') && digits? rest = some []

/-- A number; minus zero is not an integer. -/
def number? (cs : List Char) : Option Value :=
  let unsigned := (Text.dropLead? ['-'] cs).getD cs
  let negative := unsigned.length < cs.length
  match whole? unsigned with
  | none => none
  | some [] =>
    let n := Text.readNat unsigned
    if negative then some (if n = 0 then .fraction (String.ofList cs) else .number (-n)) else some (.number n)
  | some rest =>
    match places? rest with
    | none => none
    | some rest => if isExponent rest then some (.fraction (String.ofList cs)) else none

/-- A literal or a number. -/
def word? (cs : List Char) : Option Value :=
  match String.ofList cs with
  | "null" => some .null
  | "true" => some (.bool true)
  | "false" => some (.bool false)
  | _ => number? cs

/-- Where the lexer stands. The characters of a token that is not complete are kept latest first. -/
inductive Lexer where
  | gap
  | word (rev : List Char)
  | text (rev : List Char)
  /-- After a backslash. -/
  | escape (rev : List Char)
  /-- In a code unit of four digits, some of which are still missing; `high` is the first half of a pair. -/
  | unit (rev : List Char) (high : Option Nat) (missing value : Nat)
  /-- After the first half of a pair. -/
  | pair (rev : List Char) (high : Nat)
  /-- After the first half of a pair and a backslash. -/
  | pairEscape (rev : List Char) (high : Nat)

/-- The character behind a backslash, apart from code units. -/
def escaped? : Char → Option Char
  | '"' => some '"'
  | '\\' => some '\\'
  | '/' => some '/'
  | 'b' => some '\x08'
  | 'f' => some '\x0c'
  | 'n' => some '\n'
  | 'r' => some '\r'
  | 't' => some '\t'
  | _ => none

/-- Goes on after a complete code unit: a first half waits for its second, and neither half stands alone. -/
def Lexer.afterUnit? (rev : List Char) (high : Option Nat) (value : Nat) : Option Lexer :=
  let isHigh := 0xD800 ≤ value ∧ value < 0xDC00
  let isLow := 0xDC00 ≤ value ∧ value < 0xE000
  match high with
  | none => if isHigh then some (.pair rev value) else if isLow then none else some (.text (Char.ofNat value :: rev))
  | some high =>
    if isLow then some (.text (Char.ofNat (0x10000 + (high - 0xD800) * 0x400 + (value - 0xDC00)) :: rev)) else none

/-- Between tokens. -/
def Lexer.stepGap? (c : Char) : Option (Lexer × Option Token) :=
  if isGap c then some (.gap, none)
  else if c = '"' then some (.text [], none)
  else if isWordChar c then some (.word [c], none)
  else (mark? c).map fun t => (.gap, some t)

/-- Takes one character and gives the tokens that it completes. -/
def Lexer.step (c : Char) : Lexer → Option (Lexer × List Token)
  | .gap => (stepGap? c).map fun (l, t) => (l, t.toList)
  | .word rev =>
    if isWordChar c then some (.word (c :: rev), [])
    else do
      let v ← word? rev.reverse
      let (l, t) ← stepGap? c
      return (l, .scalar v :: t.toList)
  | .text rev =>
    if c = '"' then some (.gap, [.text (String.ofList rev.reverse)])
    else if c = '\\' then some (.escape rev, [])
    else if c < ' ' then none
    else some (.text (c :: rev), [])
  | .escape rev =>
    if c = 'u' then some (.unit rev none 4 0, []) else (escaped? c).map fun d => (.text (d :: rev), [])
  | .unit rev high missing value => do
    let value := value * 16 + (← Text.hexValue? c)
    if missing ≤ 1 then (afterUnit? rev high value).map fun l => (l, [])
    else some (.unit rev high (missing - 1) value, [])
  | .pair rev high => if c = '\\' then some (.pairEscape rev high, []) else none
  | .pairEscape rev high => if c = 'u' then some (.unit rev (some high) 4 0, []) else none

/-- What is left at the end of the text. -/
def Lexer.finish? : Lexer → Option (List Token)
  | .gap => some []
  | .word rev => (word? rev.reverse).map fun v => [.scalar v]
  | _ => none

/-- The tokens of a text, behind those that are complete already, latest first. -/
def tokensFrom? (l : Lexer) (rev : List Token) : List Char → Option (List Token)
  | [] => l.finish?.map fun ts => rev.reverse ++ ts
  | c :: rest =>
    match l.step c with
    | none => none
    | some (l, ts) => tokensFrom? l (ts.reverse ++ rev) rest

/-- The tokens of a text. -/
def tokens? (cs : List Char) : Option (List Token) := tokensFrom? .gap [] cs

/-! ## Values -/

/-- A container that is still open, its parts latest first. -/
inductive Frame where
  | list (rev : List Value)
  | record (rev : List (String × Value)) (name : String)

/-- What may come next. -/
inductive Builder where
  | value (stack : List Frame)
  /-- After the opening of a list. -/
  | valueOrClose (stack : List Frame)
  /-- After a comma of a record whose fields so far are given. -/
  | key (rev : List (String × Value)) (stack : List Frame)
  /-- After the opening of a record. -/
  | keyOrClose (stack : List Frame)
  | colon (rev : List (String × Value)) (name : String) (stack : List Frame)
  /-- After a part of a container. -/
  | commaOrClose (top : Frame) (stack : List Frame)
  | complete (v : Value)

/-- Puts a complete value where it belongs. -/
def Builder.place (v : Value) : List Frame → Builder
  | [] => .complete v
  | .list rev :: stack => .commaOrClose (.list (v :: rev)) stack
  | .record rev name :: stack => .commaOrClose (.record ((name, v) :: rev) name) stack

/-- A value or the opening of one. -/
def Builder.open? (stack : List Frame) : Token → Option Builder
  | .scalar v => some (place v stack)
  | .text s => some (place (.text s) stack)
  | .openList => some (.valueOrClose stack)
  | .openRecord => some (.keyOrClose stack)
  | _ => none

/-- Takes one token. -/
def Builder.step (t : Token) : Builder → Option Builder
  | .value stack => open? stack t
  | .valueOrClose stack =>
    match t with
    | .closeList => some (place (.list []) stack)
    | t => open? (.list [] :: stack) t
  | .key rev stack =>
    match t with
    | .text name => some (.colon rev name stack)
    | _ => none
  | .keyOrClose stack =>
    match t with
    | .text name => some (.colon [] name stack)
    | .closeRecord => some (place (.record []) stack)
    | _ => none
  | .colon rev name stack =>
    match t with
    | .colon => some (.value (.record rev name :: stack))
    | _ => none
  | .commaOrClose (.list rev) stack =>
    match t with
    | .comma => some (.value (.list rev :: stack))
    | .closeList => some (place (.list rev.reverse) stack)
    | _ => none
  | .commaOrClose (.record rev _) stack =>
    match t with
    | .comma => some (.key rev stack)
    | .closeRecord => some (place (.record rev.reverse) stack)
    | _ => none
  | .complete _ => none

/-- Puts tokens together. -/
def build? (b : Builder) : List Token → Option Value
  | [] => match b with
    | .complete v => some v
    | _ => none
  | t :: rest => do build? (← b.step t) rest

/-- The value that a text says. -/
def read? (text : String) : Option Value := do build? (.value []) (← tokens? text.toList)

/-! ## Writing -/

/-- Whether a character is written as its code. -/
def isCoded (c : Char) : Bool :=
  c < ' ' || '~' < c && (c < '\xa0' || c = '\u2028' || c = '\u2029' || c = '\ufeff' || c = '\ufffe' || c = '\uffff')

/-- One character of a text. -/
def escape (c : Char) : List Char :=
  if c = '"' || c = '\\' then ['\\', c]
  else if isCoded c then '\\' :: 'u' :: Text.hexDigits 4 c.toNat
  else [c]

/-- A text between quotes. -/
def writeText (s : String) : String := "\"" ++ String.ofList (s.toList.flatMap escape) ++ "\""

mutual

/-- Writes a value on one line. -/
def write : Value → String
  | .null => "null"
  | .bool b => if b then "true" else "false"
  | .number n => toString n
  | .fraction written => written
  | .text s => writeText s
  | .list items => "[" ++ String.intercalate ", " (writeItems items) ++ "]"
  | .record fields => "\x7b" ++ String.intercalate ", " (writeFields fields) ++ "\x7d"

/-- Writes the items of a list. -/
def writeItems : List Value → List String
  | [] => []
  | v :: rest => write v :: writeItems rest

/-- Writes the fields of a record. -/
def writeFields : List (String × Value) → List String
  | [] => []
  | (name, v) :: rest => (writeText name ++ ": " ++ write v) :: writeFields rest

end

end Json

end Registrar

/-!
# Delimited text

A delimited text is a list of records, a record a list of fields. Fields are parted by commas and records by line ends
(`\n`, `\r\n` or `\r`); empty lines are no records. A quote that opens a field makes commas and line ends part of it
until the next quote that is not doubled; what follows the closing quote is kept as it stands.

The reader is a machine that takes one character at a time (`Delimited.step`).
-/

namespace Registrar.Delimited

/-- A record: its fields from left to right. -/
abbrev Record := List String

/-- Where in a text the reader stands. -/
inductive Place where
  /-- Before a record. -/
  | between
  /-- Before a field of a record. -/
  | fieldStart
  /-- In a field, outside quotes. -/
  | bare
  /-- In a field, inside quotes. -/
  | inQuotes
  /-- After a quote that closes the quotes unless another quote follows. -/
  | quoteSeen
  deriving DecidableEq

/-- What the reader has read of the current record. -/
structure State where
  place : Place
  /-- The current field, last character first. -/
  field : List Char
  /-- The finished fields, last one first. -/
  fields : List String
  deriving DecidableEq

/-- The state before the first record. -/
def State.start : State := ⟨.between, [], []⟩

/-- The current record as it stands. -/
def State.record (s : State) : Record := (String.ofList s.field.reverse :: s.fields).reverse

/-- Goes on to the next field. -/
def State.nextField (s : State) : State := ⟨.fieldStart, [], String.ofList s.field.reverse :: s.fields⟩

/-- Takes a character into the current field. -/
def State.take (s : State) (place : Place) (c : Char) : State := ⟨place, c :: s.field, s.fields⟩

/-- Moves on without taking a character. -/
def State.goTo (s : State) (place : Place) : State := ⟨place, s.field, s.fields⟩

/-- A character that ends a line. -/
def isLineEnd (c : Char) : Bool := c = '\n' || c = '\r'

/-- Takes one character outside quotes: a comma ends the field, a line end the record. -/
def stepOutside (s : State) (c : Char) : State × Option Record :=
  if c = ',' then (s.nextField, none)
  else if isLineEnd c then (.start, some s.record)
  else (s.take .bare c, none)

/-- Takes one character; yields the record that it ends. -/
def step (s : State) (c : Char) : State × Option Record :=
  match s.place with
  | .between =>
    if isLineEnd c then (s, none) else if c = '"' then (s.goTo .inQuotes, none) else stepOutside s c
  | .fieldStart => if c = '"' then (s.goTo .inQuotes, none) else stepOutside s c
  | .bare => stepOutside s c
  | .inQuotes => if c = '"' then (s.goTo .quoteSeen, none) else (s.take .inQuotes c, none)
  | .quoteSeen => if c = '"' then (s.take .inQuotes c, none) else stepOutside s c

/-- The state after a text. -/
def after (s : State) (cs : List Char) : State := cs.foldl (fun s c => (step s c).1) s

/-- The records from a state on; the end of the text ends the last one. -/
def readFrom (s : State) : List Char → List Record
  | [] => if s.place = .between then [] else [s.record]
  | c :: cs =>
    match step s c with
    | (s', none) => readFrom s' cs
    | (s', some record) => record :: readFrom s' cs

/-- The records of a text; a byte-order mark in front is dropped. -/
def read (text : String) : List Record :=
  match text.toList with
  | '\uFEFF' :: cs => readFrom .start cs
  | cs => readFrom .start cs

/-! ## Writing -/

/-- A character that only a quoted field can hold. -/
def needsQuotes (c : Char) : Bool := c = ',' || c = '"' || isLineEnd c

/-- The characters with every quote doubled. -/
def doubleQuotes : List Char → List Char
  | [] => []
  | c :: cs => if c = '"' then '"' :: '"' :: doubleQuotes cs else c :: doubleQuotes cs

/-- The written form of a field, quoted only where it must be. -/
def writeField (field : String) : List Char :=
  let cs := field.toList
  if cs.any needsQuotes then '"' :: doubleQuotes cs ++ ['"'] else cs

/-- The written fields with a comma between each and the next. -/
def writeFields : Record → List Char
  | [] => []
  | [field] => writeField field
  | field :: rest => writeField field ++ ',' :: writeFields rest

/-- The written form of a record, line end included; a line that would be empty gets a pair of quotes. -/
def writeRecord (record : Record) : List Char :=
  match writeFields record with
  | [] => ['"', '"', '\n']
  | line => line ++ ['\n']

/-- The written form of a list of records. -/
def write (records : List Record) : String := String.ofList (records.map writeRecord).flatten

end Registrar.Delimited

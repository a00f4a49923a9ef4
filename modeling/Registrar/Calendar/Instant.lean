import Registrar.Calendar.Date

/-!
# Instants

An `Instant` is a point in universal time. `Instant.parse?` reads a date, a time and an offset and moves to universal
time; `Instant.text` writes the instant with offset `+00:00`, `Instant.shortText` with `Z`. Stamps for file names hold
the minute (`Instant.minuteStamp`) or the second (`Instant.secondStamp`).
-/

namespace Registrar

/-- A point in universal time. -/
structure Instant where
  date : Date
  /-- Seconds since midnight. -/
  second : Nat
  /-- Billionths of a second; a leap second counts on beyond one billion. -/
  nano : Nat
  second_lt : second < 86400
  deriving DecidableEq

namespace Instant

/-- The hour of the day. -/
def hour (t : Instant) : Nat := t.second / 3600

/-- The minute of the hour. -/
def minute (t : Instant) : Nat := t.second / 60 % 60

/-- The second of the minute, 60 in a leap second. -/
def secondOfMinute (t : Instant) : Nat := t.second % 60 + t.nano / 1000000000

/-- The fraction of a second in three, six or nine digits, nothing for a whole second. -/
def fractionText (t : Instant) : String :=
  let n := t.nano % 1000000000
  if n = 0 then ""
  else if n % 1000000 = 0 then "." ++ Text.padded 3 (n / 1000000)
  else if n % 1000 = 0 then "." ++ Text.padded 6 (n / 1000)
  else "." ++ Text.padded 9 n

/-- Date and time, without an offset. -/
def localText (t : Instant) : String :=
  t.date.isoText ++ "T" ++ Text.padded 2 t.hour ++ ":" ++ Text.padded 2 t.minute ++ ":" ++
    Text.padded 2 t.secondOfMinute ++ t.fractionText

/-- Date, time and the offset `+00:00`. -/
def text (t : Instant) : String := t.localText ++ "+00:00"

/-- Date, time and `Z`. -/
def shortText (t : Instant) : String := t.localText ++ "Z"

/-- `YYYY-MM-DD-hh-mm`, the stamp in the names of stashed files. -/
def minuteStamp (t : Instant) : String :=
  t.date.isoText ++ "-" ++ Text.padded 2 t.hour ++ "-" ++ Text.padded 2 t.minute

/-- `YYYYMMDD_hhmmss`, the stamp of a publication folder. -/
def secondStamp (t : Instant) : String :=
  t.date.stamp ++ "_" ++ Text.padded 2 t.hour ++ Text.padded 2 t.minute ++ Text.padded 2 t.secondOfMinute

/-- `YYYY-MM-DDThh-mm-ss`, the stamp of a recording folder. -/
def recordingStamp (t : Instant) : String :=
  t.date.isoText ++ "T" ++ Text.padded 2 t.hour ++ "-" ++ Text.padded 2 t.minute ++ "-" ++
    Text.padded 2 t.secondOfMinute

/-- The instant a number of seconds and billionths after the beginning of 1970. -/
def sinceEpoch (seconds nano : Nat) : Instant where
  date := (seconds / 86400).repeat Date.next Date.epoch
  second := seconds % 86400
  nano := nano % 1000000000
  second_lt := by omega

/-! ## Reading -/

/-- One to `width` digits, and what follows them. -/
def takeNumber? (width : Nat) (cs : List Char) : Option (Nat × List Char) :=
  let digits := (cs.take width).takeWhile Text.isAsciiDigit
  if digits.isEmpty then none else some (Text.readNat digits, cs.drop digits.length)

/-- A number after optional blanks. -/
def takePart? (width : Nat) (cs : List Char) : Option (Nat × List Char) :=
  takeNumber? width (cs.dropWhile Text.isBlank)

/-- A year: four digits at most, or any number of them after a sign. -/
def takeYear? (cs : List Char) : Option (Int × List Char) :=
  match cs.dropWhile Text.isBlank with
  | '-' :: rest => (takeNumber? rest.length rest).map fun (n, rest) => (-(n : Int), rest)
  | '+' :: rest => (takeNumber? rest.length rest).map fun (n, rest) => ((n : Int), rest)
  | rest => (takeNumber? 4 rest).map fun (n, rest) => ((n : Int), rest)

/-- What follows a separator that optional blanks precede. -/
def skipMark? (mark : Char) (cs : List Char) : Option (List Char) :=
  match cs.dropWhile Text.isBlank with
  | c :: rest => if c = mark then some rest else none
  | [] => none

/-- A fraction of a second in billionths; digits after the ninth are dropped. -/
def takeFraction? (cs : List Char) : Option (Nat × List Char) :=
  match cs with
  | '.' :: rest =>
    let digits := (rest.take 9).takeWhile Text.isAsciiDigit
    if digits.isEmpty then none
    else some (Text.readNat digits * Nat.pow 10 (9 - digits.length),
      (rest.drop digits.length).dropWhile Text.isAsciiDigit)
  | _ => some (0, cs)

/-- Exactly two digits. -/
def takePair? (cs : List Char) : Option (Nat × List Char) :=
  match cs with
  | a :: b :: rest =>
    if Text.isAsciiDigit a && Text.isAsciiDigit b then some (Text.readNat [a, b], rest) else none
  | _ => none

/-- The seconds of an offset: `Z`, `UTC`, or a sign, hours, an optional colon and minutes. -/
def takeOffset? (cs : List Char) : Option (Int × List Char) :=
  match cs with
  | 'Z' :: rest | 'z' :: rest => some (0, rest)
  | sign :: rest =>
    if (cs.take 3).map Char.toUpper = ['U', 'T', 'C'] then some (0, cs.drop 3)
    else if sign = '+' ∨ sign = '-' ∨ sign = '−' then do
      let (hours, rest) ← takePair? rest
      let (minutes, rest) ← takePair? (rest.dropWhile fun c => c = ':' || Text.isBlank c)
      let seconds : Int := hours * 3600 + minutes * 60
      if minutes < 60 ∧ seconds < 86400 then some (if sign = '+' then seconds else -seconds, rest) else none
    else none
  | [] => none

/-- The instant at a local date and second of the day, `offset` seconds ahead of universal time. -/
def ofLocal (date : Date) (second nano : Nat) (offset : Int) : Instant :=
  let universal := (second : Int) - offset
  let day := if universal < 0 then date.previous else if 86400 ≤ universal then date.next else date
  ⟨day, (universal % 86400).toNat, nano, by omega⟩

/-- Reads an instant with a date, a time of day and an offset. -/
def parse? (s : String) : Option Instant := do
  let (year, cs) ← takeYear? s.toList
  let cs ← skipMark? '-' cs
  let (month, cs) ← takePart? 2 cs
  let cs ← skipMark? '-' cs
  let (day, cs) ← takePart? 2 cs
  let cs ← match cs with
    | 'T' :: rest | 't' :: rest | ' ' :: rest => some rest
    | _ => none
  let (hour, cs) ← takePart? 2 cs
  let cs ← skipMark? ':' cs
  let (minute, cs) ← takePart? 2 cs
  let cs ← skipMark? ':' cs
  let (second, cs) ← takePart? 2 cs
  let (nano, cs) ← takeFraction? cs
  let (offset, cs) ← takeOffset? (cs.dropWhile Text.isBlank)
  let date ← Date.of? year month day
  if hour < 24 ∧ minute < 60 ∧ second ≤ 60 ∧ cs.all Text.isBlank ∧ -262143 ≤ year ∧ year ≤ 262142 then
    some (ofLocal date (hour * 3600 + minute * 60 + min second 59)
      (nano + if second = 60 then 1000000000 else 0) offset)
  else none

end Instant

end Registrar

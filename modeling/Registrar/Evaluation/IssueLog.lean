import Registrar.Keyed
import Registrar.Ordered
import Registrar.Text.Blank
import Registrar.World.Log

/-!
# The issue log

What is found wrong with rows is recorded under the name of a sheet and the key of a row, and never stops a run.
Repeated messages are counted. The log is sorted by sheet and key, so logs that hold the same issues in the same order
for every row are equal.
-/

namespace Registrar

/-- Where an issue was found. -/
structure Place where
  sheet : String
  key : String
  deriving DecidableEq

namespace Place

/-- Places are ordered by sheet, then by key. -/
instance : LT Place := ⟨fun a b => a.sheet < b.sheet ∨ a.sheet = b.sheet ∧ a.key < b.key⟩

instance : DecidableLT Place := fun a b =>
  inferInstanceAs (Decidable (a.sheet < b.sheet ∨ a.sheet = b.sheet ∧ a.key < b.key))

theorem lt_trans {a b c : Place} (h₁ : a < b) (h₂ : b < c) : a < c := by
  rcases h₁ with h₁ | ⟨e₁, h₁⟩ <;> rcases h₂ with h₂ | ⟨e₂, h₂⟩
  · exact .inl (String.lt_trans h₁ h₂)
  · exact .inl (e₂ ▸ h₁)
  · exact .inl (e₁ ▸ h₂)
  · exact .inr ⟨e₁.trans e₂, String.lt_trans h₁ h₂⟩

instance : Trans (α := Place) (· < ·) (· < ·) (· < ·) := ⟨lt_trans⟩

end Place

/-- Messages with how often each was recorded, by place. -/
structure IssueLog where
  places : Ordered Place (Keyed Nat)
  deriving DecidableEq

namespace IssueLog

/-- Nothing recorded. -/
def empty : IssueLog := ⟨Ordered.empty⟩

instance : EmptyCollection IssueLog := ⟨empty⟩

instance : Inhabited IssueLog := ⟨empty⟩

/-- Counts a message `times` more. -/
def bump (message : String) (times : Nat) (messages : Option (Keyed Nat)) : Keyed Nat :=
  let messages := messages.getD Keyed.empty
  messages.insert message ((messages.get? message).getD 0 + times)

/-- Records a message that was found `times`. -/
def recordTimes (log : IssueLog) (place : Place) (message : String) (times : Nat) : IssueLog :=
  ⟨log.places.update place (bump message times)⟩

/-- Records a message. -/
def record (log : IssueLog) (sheet key message : String) : IssueLog := log.recordTimes ⟨sheet, key⟩ message 1

/-- Records messages of one row. -/
def recordAll (log : IssueLog) (sheet key : String) (messages : List String) : IssueLog :=
  messages.foldl (fun log message => log.record sheet key message) log

/-- The places with their messages and counts, in order. -/
def issues (log : IssueLog) : List (Place × List (String × Nat)) :=
  log.places.entries.map fun (place, messages) => (place, messages.entries)

/-- The messages of one row, in the order of recording. -/
def messages (log : IssueLog) (sheet key : String) : List String :=
  ((log.places.get? ⟨sheet, key⟩).map Keyed.keys).getD []

/-- How often a message was recorded. -/
def count (log : IssueLog) (sheet key message : String) : Nat :=
  (((log.places.get? ⟨sheet, key⟩).bind fun messages => messages.get? message)).getD 0

/-- The keys of a sheet with messages. -/
def keys (log : IssueLog) (sheet : String) : List String :=
  (log.places.keys.filter fun place => place.sheet = sheet).map Place.key

/-- The number of distinct messages. -/
def size (log : IssueLog) : Nat := (log.places.entries.map fun (_, messages) => messages.size).foldr (· + ·) 0

/-- Nothing was recorded. -/
def isEmpty (log : IssueLog) : Bool := log.places.isEmpty

/-- The log with everything that another one holds recorded after it. -/
def extend (log other : IssueLog) : IssueLog :=
  other.issues.foldl (fun log (place, messages) =>
    messages.foldl (fun log (message, times) => log.recordTimes place message times) log) log

/-- A message with its count, where it was recorded more than once. -/
def messageText (message : String) (times : Nat) : String :=
  if 1 < times then s!"    {message} ({times} times)\n" else s!"    {message}\n"

/-- The lines of one row. -/
def placeText (key : String) (messages : List (String × Nat)) : String :=
  s!"  {key}\n" ++ String.join (messages.map fun (message, times) => messageText message times)

/-- The report of the places; a sheet is named before its first row. -/
def reportFrom (sheet : Option String) : List (Place × List (String × Nat)) → String
  | [] => ""
  | (place, messages) :: rest =>
    (if sheet = some place.sheet then "" else s!"{place.sheet}\n") ++ placeText place.key messages ++
      reportFrom (some place.sheet) rest

/-- The indented report. -/
def report (log : IssueLog) : String := reportFrom none log.issues

/-- The report as one log line, when there is something to report. -/
def notes (log : IssueLog) : List LogLine :=
  if log.isEmpty then [] else [.warn ("Validation errors:\n" ++ Text.trimEnd log.report)]

end IssueLog

end Registrar

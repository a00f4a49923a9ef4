import Registrar.Batches
import Registrar.Failure
import Registrar.Keyed
import Registrar.Sheet.Row
import Registrar.World.Service

/-!
# Filling in SIS IDs

Rows without a SIS ID get the one that the campus feed gives their instructor. Campus IDs are looked up in batches, each
once; a failed lookup is logged and its rows stay blank.
-/

namespace Registrar.Backfill

/-- The campus ID of a row. -/
def uidOf (r : Row .sisImport) : String := Text.trim (r.get .ldapUid)

/-- The campus IDs of rows without a SIS ID, each once. -/
def missing (rows : List (Row .sisImport)) : List String :=
  distinct ((rows.filter fun r => r.isBlankAt .sisId && !r.isBlankAt .ldapUid).map uidOf)

/-- Takes up the SIS IDs of people; a later person with the same campus ID counts. -/
def learn (ids : Keyed String) (people : List Person) : Keyed String :=
  ids.insertAll (people.map fun p => (Text.trim p.uid, p.sisId))

/-- Looks up one batch of campus IDs. -/
def lookupStep (ids : Keyed String) (uids : List String) : Action (Keyed String) := do
  match ← Action.people uids with
  | .ok people => return learn ids people
  | .error reason =>
    Action.log (.error (Failure.callFailed .backfillLookup reason).message)
    return ids

/-- The SIS ID that a row takes, if it lacks one that is known. -/
def filling? (ids : Keyed String) (r : Row .sisImport) : Option String :=
  if r.isBlankAt .sisId then ids.get? (uidOf r) else none

/-- The row with its SIS ID filled in. -/
def fill (ids : Keyed String) (r : Row .sisImport) : Row .sisImport :=
  match filling? ids r with
  | some id => r.set .sisId id
  | none => r

/-- Fills in SIS IDs and counts the rows that took one. -/
def run (batchSize : Nat) (rows : List (Row .sisImport)) : Action (List (Row .sisImport) × Nat) := do
  let uids := missing rows
  if uids.isEmpty then return (rows, 0)
  let ids ← Program.foldList lookupStep Keyed.empty (batches batchSize uids)
  let filled := rows.countP fun r => (filling? ids r).isSome
  Action.log (.info s!"Back-filled {filled} SIS IDs for {uids.length} instructors")
  return (rows.map (fill ids), filled)

end Registrar.Backfill

import Registrar.Directory.Account
import Registrar.Sheet.Basic

/-!
# Changes for the directory

A run collects changes of account IDs and users whose email addresses are to be purged. A user has at most one ID
change, the latest in the place of the first (`Changes.record`), and is flagged once (`Changes.flag`).
-/

namespace Registrar

/-- A new SIS ID for a directory user. -/
structure IdChange where
  /-- How the directory finds the user: `sis_login_id:` and the login. -/
  user : String
  oldId : String
  newId : String
  deriving DecidableEq

/-- The change as log lines show it. -/
def IdChange.shown (c : IdChange) : String :=
  "SisIdChange \x7b user_ref: " ++ Text.quoted c.user ++ ", old_id: " ++ Text.quoted c.oldId ++ ", new_id: " ++
    Text.quoted c.newId ++ " \x7d"

/-- What a run has decided beside account updates. -/
structure Changes where
  /-- ID changes in the order in which users came first. -/
  renames : List IdChange := []
  /-- Directory IDs of the users whose email addresses are purged. -/
  purges : List String := []
  deriving DecidableEq

namespace Changes

/-- No changes. -/
def empty : Changes := {}

/-- Nothing is to be applied. -/
def isEmpty (c : Changes) : Bool := c.renames.isEmpty && c.purges.isEmpty

/-- The changes with one replaced by user, or added at the end. -/
def putRename (change : IdChange) : List IdChange → List IdChange
  | [] => [change]
  | c :: rest => if c.user = change.user then change :: rest else c :: putRename change rest

/-- Records an ID change. -/
def record (c : Changes) (change : IdChange) : Changes := { c with renames := putRename change c.renames }

/-- Flags a user for an email purge. -/
def flag (c : Changes) (user : String) : Changes :=
  if user ∈ c.purges then c else { c with purges := c.purges ++ [user] }

/-- The ID changes as a sheet for the directory. -/
def toSheet (c : Changes) : Sheet .sisIdChanges :=
  c.renames.foldl (fun s change =>
    s.insert change.user (.ofPairs _ [(.oldId, change.oldId), (.newId, change.newId), (.changeType, "user")]))
    (Sheet.empty _)

end Changes

end Registrar

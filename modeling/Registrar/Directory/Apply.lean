import Registrar.Directory.Changes
import Registrar.Failure
import Registrar.World.Service

/-!
# Applying changes to the directory

Every change is tried once, on its own: a failure is logged and the next change is tried. A user's SIS ID is changed
through the single login that names a campus person (`Apply.rename`); only channels of type `email` are purged
(`Apply.purge`).
-/

namespace Registrar

/-- How many changes went through. -/
structure Tally where
  applied : Nat := 0
  failed : Nat := 0
  deriving DecidableEq

namespace Tally

/-- One more change went through. -/
def succeed (t : Tally) : Tally := { t with applied := t.applied + 1 }

/-- One more change failed. -/
def fail (t : Tally) : Tally := { t with failed := t.failed + 1 }

end Tally

namespace Apply

/-- Changes the SIS ID of a user's single campus login; `false` when there is none, or more than one. -/
def rename (user newId : String) : Action (Except Failure Bool) := do
  match ← Action.logins user with
  | .error reason => return .error (.callFailed (.listLogins user) reason)
  | .ok logins =>
    match logins.filter fun login => (CampusLogin.parse? login.uniqueId).isSome with
    | [login] =>
      Action.log (.debug s!"Changing SIS ID for user {user} to {newId}")
      match ← Action.assignSisId login.id newId with
      | .error reason => return .error (.callFailed (.changeSisId login.id) reason)
      | .ok () => return .ok true
    | [] =>
      Action.log (.warn s!"No LDAP UID login found for user {user}; will skip")
      return .ok false
    | _ =>
      Action.log (.error s!"Multiple numeric logins found for user {user}; will skip")
      return .ok false

/-- Tries one ID change and counts it. -/
def renameStep (tally : Tally) (change : IdChange) : Action Tally := do
  let outcome ← rename change.user change.newId
  match outcome with
  | .ok true => return tally.succeed
  | .ok false => pure ()
  | .error failure => Action.log (.error failure.message)
  Action.log (.error (s!"User {change.user} did not successfully have its SIS ID changed to {change.newId}! " ++
    "Check for duplicated LDAP UIDs in the directory."))
  return tally.fail

/-- Applies ID changes one by one. -/
def renames (dryRun : Bool) (changes : List IdChange) : Action Tally := do
  if changes.isEmpty then return {}
  if dryRun then
    Action.log (.warn (s!"DRY RUN MODE: Would change {changes.length} SIS user IDs " ++
      Text.bracketed IdChange.shown changes))
    return {}
  Action.log (.warn s!"About to change {changes.length} SIS user IDs")
  Program.foldList renameStep {} changes

/-- Deletes one channel and counts it. -/
def deleteStep (dryRun : Bool) (user : String) (tally : Tally) (channel : Channel) : Action Tally := do
  if dryRun then
    Action.log (.warn s!"DRY RUN MODE: Would delete communication channel {channel.shown}")
    return tally
  Action.log (.warn s!"Deleting communication channel {channel.shown}")
  match ← Action.deleteChannel user channel.id with
  | .ok () => return tally.succeed
  | .error reason =>
    Action.log (.error (Failure.callFailed (.deleteChannel channel.id) reason).message)
    return tally.fail

/-- Deletes the email channels of one user. -/
def purgeStep (dryRun : Bool) (tally : Tally) (user : String) : Action Tally := do
  match ← Action.channels user with
  | .error reason =>
    Action.log (.error (Failure.callFailed (.listChannels user) reason).message)
    return tally.fail
  | .ok channels => Program.foldList (deleteStep dryRun user) tally (channels.filter Channel.isEmail)

/-- Deletes the email channels of departed users. -/
def purge (dryRun : Bool) (users : List String) : Action Tally := do
  Action.log (.warn (s!"About to delete email addresses for {users.length} inactive users: " ++
    Text.bracketed Text.quoted users))
  Program.foldList (purgeStep dryRun) {} users

/-- Deletes the email channels of departed users where that is enabled, and says what would be deleted otherwise. -/
def purgeIfEnabled (enabled dryRun : Bool) (users : List String) : Action Tally := do
  if users.isEmpty then return {}
  if enabled then purge dryRun users
  else
    Action.log (.warn (s!"EMAIL DELETION BLOCKED: Would delete email addresses for {users.length} inactive users: " ++
      Text.bracketed Text.quoted users))
    return {}

end Apply

end Registrar

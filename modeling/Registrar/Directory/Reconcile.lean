import Registrar.Directory.Changes
import Registrar.Failure
import Registrar.World.Service

/-!
# Reconciling accounts with the campus feed

Each account whose login names a campus person is judged once: its owner is current, kept by the whitelist, or departed
(`Standing`). The verdict is the row that the directory should hold and whether the user's email addresses go
(`Verdict`). `Reconciliation.take` enters a verdict: an ID change where the SIS ID differs, the ID that the person is
known by, and an account update where submitting the row would change something.

Accounts come in batches with one lookup each (`Reconciliation.batch`); a failed lookup leaves the state untouched.
-/

namespace Registrar

/-- How verdicts are reached. -/
structure SyncPolicy where
  /-- Inactivate the accounts of people who left the feed. -/
  inactivateExpired : Bool := false
  /-- Count a differing display name as a difference. -/
  maintainNames : Bool := false
  preferAlternateEmail : Bool := false
  /-- Campus IDs that are never inactivated. -/
  whitelist : List String := []
  deriving DecidableEq

/-- What earlier runs have submitted. -/
structure KnownIds where
  /-- The SIS ID that a campus ID was last given. -/
  users : Keyed String := Keyed.empty
  /-- The new SIS ID for an old one. -/
  renames : Keyed String := Keyed.empty
  deriving DecidableEq

namespace KnownIds

/-- Whether a campus ID has been given a SIS ID. -/
def hasUser (known : KnownIds) (uid : String) : Bool := (known.users.get? uid).any fun id => !id.isEmpty

/-- Whether an old SIS ID has been replaced. -/
def hasRename (known : KnownIds) (oldId : String) : Bool := (known.renames.get? oldId).any fun id => !id.isEmpty

end KnownIds

/-- How the feed and the whitelist see the owner of an account. -/
inductive Standing where
  /-- Found, and either unexpired or on the whitelist. -/
  | current (person : Person)
  /-- Unknown to the feed, and on the whitelist. -/
  | kept
  /-- Expired or unknown, and not on the whitelist. -/
  | departed

/-- The first person of the feed with a campus ID. -/
def findPerson (people : List Person) (uid : String) : Option Person := people.find? fun p => Text.trim p.uid = uid

/-- The standing of a campus ID. -/
def Standing.of (policy : SyncPolicy) (people : List Person) (uid : String) : Standing :=
  match findPerson people uid with
  | some person => if !person.expired || policy.whitelist.contains uid then .current person else .departed
  | none => if policy.whitelist.contains uid then .kept else .departed

/-- The row that the directory should hold for a person. -/
def accountOf (policy : SyncPolicy) (person : Person) : Row .userImport :=
  let alternate := if policy.preferAlternateEmail then person.alternateEmail else none
  .ofPairs _ [(.userId, person.sisId), (.loginId, Text.trim person.uid), (.givenName, person.firstName),
    (.familyName, person.lastName), (.email, (alternate <|> person.email).getD ""), (.status, "active")]

/-- What is decided about one account. -/
structure Verdict where
  /-- The row that the directory should hold. -/
  target : Row .userImport
  /-- The user's email addresses are to be purged. -/
  purge : Bool := false
  notes : List LogLine := []

/-- Decides about an account with a campus login. -/
def Verdict.of (policy : SyncPolicy) (people : List Person) (account : Row .provisionedUsers) (login : CampusLogin) :
    Verdict :=
  let held := account.project .userImport
  match Standing.of policy people login.uid with
  | .current person =>
    { target := accountOf policy person
      notes := if login.inactive then [.warn s!"Reactivating account for LDAP UID {login.uid}"] else [] }
  | .kept =>
    if login.inactive then
      { target := held.set .loginId login.uid
        notes := [.warn s!"Reactivating account for unknown LDAP UID {login.uid}"] }
    else { target := held }
  | .departed =>
    let purge := !account.isBlankAt .email && (login.inactive || policy.inactivateExpired)
    if policy.inactivateExpired then
      { target := ((held.set .loginId (inactiveMark ++ login.uid)).set .userId (uidReference login.uid)).set .email ""
        purge
        notes := if login.inactive then [] else [.warn s!"Inactivating account for LDAP UID {login.uid}"] }
    else { target := held, purge }

/-- Whether submitting a row would leave the account as it is; a blank email leaves the email alone. -/
def isUnchanged (policy : SyncPolicy) (account : Row .provisionedUsers) (target : Row .userImport) : Bool :=
  account.get .loginId = target.get .loginId &&
    (target.isBlankAt .email || account.get .email = target.get .email) &&
    (!policy.maintainNames || account.get .fullName = target.get .givenName ++ " " ++ target.get .familyName)

/-- The state of a reconciliation. -/
structure Reconciliation where
  known : KnownIds := {}
  changes : Changes := {}
  /-- Account updates under the campus IDs of their owners. -/
  updates : Sheet .userImport := {}
  deriving DecidableEq

namespace Reconciliation

/-- A reconciliation that starts from what is known. -/
def start (known : KnownIds) : Reconciliation := { known }

/-- How the directory finds the user of an account. -/
def userOf (account : Row .provisionedUsers) : String := "sis_login_id:" ++ account.get .loginId

/-- Records an ID change where the SIS IDs of account and target differ, unless the old one is known to be replaced. -/
def recordRename (s : Reconciliation) (account : Row .provisionedUsers) (target : Row .userImport) :
    Reconciliation × List LogLine :=
  let oldId := account.get .userId
  let newId := target.get .userId
  if oldId = newId then (s, [])
  else if s.known.hasRename oldId then
    (s, [.debug s!"SIS ID change from {oldId} to {newId} already processed, will not attempt to re-process."])
  else
    let user := userOf account
    ({ s with changes := s.changes.record ⟨user, oldId, newId⟩ },
      [.warn s!"Will change SIS ID for user {user} from {oldId} to {newId}"])

/-- Enters a verdict about an account of a campus ID. -/
def enter (policy : SyncPolicy) (s : Reconciliation) (account : Row .provisionedUsers) (uid : String)
    (verdict : Verdict) : Reconciliation × List LogLine :=
  let s := if verdict.purge then { s with changes := s.changes.flag (account.get .canvasUserId) } else s
  let (s, notes) := s.recordRename account verdict.target
  let s := { s with known.users := s.known.users.insert uid (verdict.target.get .userId) }
  let s := if isUnchanged policy account verdict.target then s
    else { s with updates := s.updates.insert uid verdict.target }
  (s, verdict.notes ++ notes)

/-- Judges one account, once for each campus ID. -/
def take (policy : SyncPolicy) (people : List Person) (s : Reconciliation) (account : Row .provisionedUsers) :
    Reconciliation × List LogLine :=
  match CampusLogin.parse? (account.get .loginId) with
  | none => (s, [])
  | some login =>
    if s.known.hasUser login.uid then
      (s, [.debug s!"User account for UID {login.uid} already processed, will not attempt to re-process."])
    else s.enter policy account login.uid (.of policy people account login)

/-- Judges accounts in order. -/
def takeAll (policy : SyncPolicy) (people : List Person) (s : Reconciliation) :
    List (Row .provisionedUsers) → Reconciliation × List LogLine
  | [] => (s, [])
  | account :: rest =>
    let (s, notes) := s.take policy people account
    let (s, more) := s.takeAll policy people rest
    (s, notes ++ more)

/-- Judges a batch of accounts after one lookup of their owners. -/
def batch (policy : SyncPolicy) (s : Reconciliation) (accounts : List (Row .provisionedUsers)) :
    Action (Except Failure Reconciliation) := do
  match ← Action.people (accounts.map fun account => CampusLogin.bare (account.get .loginId)) with
  | .error reason => return .error (.callFailed .attributesLookup reason)
  | .ok people =>
    let (s, notes) := s.takeAll policy people accounts
    Action.logAll notes
    return .ok s

/-- Hands over the changes and goes on without any. -/
def takeChanges (s : Reconciliation) : Changes × Reconciliation := (s.changes, { s with changes := {} })

end Reconciliation

end Registrar

import Registrar.Text.Digit
import Registrar.Text.Quoted
import Registrar.Text.Split

/-!
# Directory accounts

A user of the directory has logins and contact channels. A login that names a campus person is the campus ID, with
`inactive-` in front once the account has been inactivated (`CampusLogin.parse?`); all other logins belong to services
and guests.
-/

namespace Registrar

/-- A login object of a directory user. -/
structure DirectoryLogin where
  id : UInt64
  /-- The text that the user logs in with. -/
  uniqueId : String
  sisUserId : Option String := none
  deriving DecidableEq

/-- A contact method of a directory user. -/
structure Channel where
  id : UInt64
  /-- `email`, `sms`, `push`, … -/
  type : String
  address : String
  deriving DecidableEq

/-- An email address. -/
def Channel.isEmail (c : Channel) : Bool := c.type = "email"

/-- The channel as log lines show it. -/
def Channel.shown (c : Channel) : String :=
  "CommunicationChannel \x7b id: " ++ toString c.id ++ ", channel_type: " ++ Text.quoted c.type ++ ", address: " ++
    Text.quoted c.address ++ " \x7d"

/-- What an inactivated login starts with. -/
def inactiveMark : String := "inactive-"

/-- A login that names a campus person. -/
structure CampusLogin where
  uid : String
  inactive : Bool
  deriving DecidableEq

namespace CampusLogin

/-- Reads a login that is a campus ID, inactivated or not. -/
def parse? (login : String) : Option CampusLogin :=
  match Text.stripLead? inactiveMark login with
  | some uid => if Text.isNumeral uid then some ⟨uid, true⟩ else none
  | none => if Text.isNumeral login then some ⟨login, false⟩ else none

/-- A login without the mark of inactivation. -/
def bare (login : String) : String := (Text.stripLead? inactiveMark login).getD login

end CampusLogin

end Registrar

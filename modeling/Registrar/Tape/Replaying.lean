import Registrar.Tape.Recording

/-!
# Replaying

Tapes answer calls in place of the services: each call takes the next outcome of its method from the tape of its family,
whatever it asks for. Where a tape is used up or an outcome cannot be read, a service that may refuse refuses, and any
other halts the run. So does every call of a family without a tape.
-/

namespace Registrar

/-- A tape for each family that has one. -/
abbrev Playback := PerFamily (Option Tape)

namespace Playback

/-- The wording for a family without a tape. -/
def unloaded (p : Family) : String := s!"{p.name} port not configured in CassetteConfig: no cassette loaded for it"

/-- Answers a call from a tape. -/
def serve (c : Service) (tape : Tape) : Except String c.Reply × Tape :=
  match tape.next c.family.name c.method with
  | (.ok output, rest) => (Service.reply output c, rest)
  | (.error reason, rest) => (Service.refuse reason c, rest)

/-- Answers calls from tapes. -/
def handler : Handler services Playback := fun c tapes =>
  match tapes.get c.family with
  | none => (.error (unloaded c.family), tapes)
  | some tape =>
    let (reply, rest) := serve c tape
    (reply, tapes.set c.family (some rest))

/-- Tapes for all families. -/
def ofTapes (tapes : Tapes) : Playback := .ofFn fun p => some (tapes.get p)

end Playback

end Registrar

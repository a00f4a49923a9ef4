import Registrar.Tape.Basic
import Registrar.Tape.Encoding

/-!
# Recording

`Program.recorded` makes the calls that a program makes and puts each on the tape of its family. Recording changes
nothing else: a recorded run ends like a plain one, in the same state and with the same log (`run_recorded`).
-/

namespace Registrar

/-- The interaction of a call and its reply. -/
def Interaction.of (c : Service) (r : c.Reply) : Interaction := ⟨c.family.name, c.method, c.input, c.output r⟩

/-- A tape for each family. -/
abbrev Tapes := PerFamily Tape

namespace Tapes

/-- Nothing recorded yet. -/
def blank : Tapes := .const []

/-- Puts a call on the tape of its family. -/
def record (tapes : Tapes) (c : Service) (r : c.Reply) : Tapes :=
  tapes.set c.family (tapes.get c.family ++ [Interaction.of c r])

end Tapes

namespace Program

variable {α σ : Type}

/-- A program that also gives its calls, behind those of the given tapes. -/
def recorded (p : Action α) (tapes : Tapes) : Action (α × Tapes) :=
  match p with
  | done a => done (a, tapes)
  | call c next => call c fun r => (next r).recorded (tapes.record c r)
  | note line next => note line (next.recorded tapes)

theorem run_recorded (p : Action α) (tapes : Tapes) (h : Handler services σ) (s : σ) :
    (((p.recorded tapes).run h s).result.map Prod.fst, ((p.recorded tapes).run h s).state,
      ((p.recorded tapes).run h s).log) = ((p.run h s).result, (p.run h s).state, (p.run h s).log) := by
  induction p generalizing tapes s with
  | done a => rfl
  | call c next ih =>
    simp only [recorded, run]
    split
    · exact ih _ _ _
    · rfl
  | note line next ih =>
    have := ih tapes s
    simp only [recorded, run, Prod.mk.injEq] at this ⊢
    exact ⟨this.1, this.2.1, by rw [this.2.2]⟩

end Program

end Registrar

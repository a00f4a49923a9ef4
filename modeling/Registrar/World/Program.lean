import Registrar.World.Log

/-!
# Programs

A program talks to the outside world through an `Interface`: calls, and a type of replies for each call. It is a tree
that ends in a result, makes a call and goes on with the reply, or logs a line. A `Handler` answers calls from a state;
`Program.run` runs a program against it. A handler may refuse to answer, which halts the run. `Program.lower` carries
out the calls of one interface by programs over another.

Running a sequence is running its parts one after the other (`run_bind`).
-/

namespace Registrar

/-- Calls and the types of their replies. -/
structure Interface where
  Call : Type
  Reply : Call → Type

/-- A computation that makes calls, logs lines and ends. -/
inductive Program (I : Interface) (α : Type) : Type where
  | done (result : α)
  | call (c : I.Call) (next : I.Reply c → Program I α)
  | note (line : LogLine) (next : Program I α)

namespace Program

variable {I J : Interface} {α β σ : Type}

/-- Goes on with the result. -/
def bind (p : Program I α) (f : α → Program I β) : Program I β :=
  match p with
  | done a => f a
  | call c next => call c fun r => (next r).bind f
  | note line next => note line (next.bind f)

instance : Monad (Program I) where
  pure := done
  bind := bind

/-- Makes one call. -/
def ask (c : I.Call) : Program I (I.Reply c) := call c done

/-- Logs one line. -/
def log (line : LogLine) : Program I Unit := note line (done ())

/-- Logs lines in order. -/
def logAll : List LogLine → Program I Unit
  | [] => done ()
  | line :: rest => note line (logAll rest)

/-- Goes through a list from the left, carrying a state. -/
def foldList (f : σ → α → Program I σ) : σ → List α → Program I σ
  | s, [] => done s
  | s, a :: rest => (f s a).bind fun s => foldList f s rest

/-- Goes on with a result, unless there is none. -/
def andThen {ε : Type} (p : Program I (Except ε α)) (f : α → Program I (Except ε β)) : Program I (Except ε β) :=
  p.bind fun
    | .ok a => f a
    | .error e => done (.error e)

/-- Carries out the calls by programs over another interface. -/
def lower (p : Program I α) (carryOut : (c : I.Call) → Program J (I.Reply c)) : Program J α :=
  match p with
  | done a => done a
  | call c next => (carryOut c).bind fun r => (next r).lower carryOut
  | note line next => note line (next.lower carryOut)

end Program

/-- Answers the calls of an interface from a state; a text instead of a reply halts the run. -/
abbrev Handler (I : Interface) (σ : Type) := (c : I.Call) → σ → Except String (I.Reply c) × σ

/-- What a run leaves. -/
structure Run (σ α : Type) where
  /-- The result, or why the run was halted. -/
  result : Except String α
  state : σ
  log : List LogLine

namespace Program

variable {I : Interface} {α β σ : Type}

/-- Runs a program from a state. -/
def run (p : Program I α) (h : Handler I σ) (s : σ) : Run σ α :=
  match p with
  | done a => ⟨.ok a, s, []⟩
  | call c next =>
    match h c s with
    | (.ok reply, s) => (next reply).run h s
    | (.error halt, s) => ⟨.error halt, s, []⟩
  | note line next =>
    let r := next.run h s
    { r with log := line :: r.log }

theorem run_bind (p : Program I α) (f : α → Program I β) (h : Handler I σ) (s : σ) :
    (p.bind f).run h s =
      match (p.run h s).result with
      | .ok a =>
        let r := (f a).run h (p.run h s).state
        { r with log := (p.run h s).log ++ r.log }
      | .error halt => ⟨.error halt, (p.run h s).state, (p.run h s).log⟩ := by
  induction p generalizing s with
  | done a => rfl
  | call c next ih =>
    simp only [bind, run]
    split
    · exact ih _ _
    · rfl
  | note line next ih =>
    simp only [bind, run, ih]
    split <;> rfl

end Program

end Registrar

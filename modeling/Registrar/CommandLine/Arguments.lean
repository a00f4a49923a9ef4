import Registrar.Text.Split

/-!
# Arguments

How a command reads its arguments. An option stands as `--name`, `--name=value` or `--name value`; every other argument
takes the next place of the command. Behind a lone `--` all arguments take places, whatever they look like.

An option or place whose value is complete is entered only when the next one begins or the arguments end (`settle`), so
of two faults the later one may count.
-/

namespace Registrar.CommandLine

/-- Why arguments are not understood, or what is asked for instead of a command. -/
inductive UsageError where
  | helpWanted
  | versionWanted
  /-- No command is given. -/
  | noCommand
  | unknownCommand
  | unknownArgument
  /-- A flag is given a value. -/
  | unwantedValue
  /-- A value is missing or not one of those that are possible. -/
  | badValue
  /-- What may be given once is given twice. -/
  | repeated
  /-- Something that must be given is not. -/
  | missing
  deriving DecidableEq

/-- How often an option may be given, and whether it has a value. -/
inductive Arity where
  | flag | once | many
  deriving DecidableEq

/-- An option or a place of a command. -/
structure Parameter where
  name : String
  arity : Arity := .once
  required : Bool := false
  /-- The values that are possible. -/
  accepts : String → Bool := fun _ => true

/-- What a command takes. -/
structure Signature where
  options : List Parameter := []
  places : List Parameter := []

/-- What has been given: the values by name, in order. -/
abbrev Given := List (String × String)

namespace Given

/-- The values of a name. -/
def all (g : Given) (name : String) : List String := (g.filter fun given => given.1 == name).map Prod.snd

/-- Whether a name has been given. -/
def has (g : Given) (name : String) : Bool := g.any fun given => given.1 == name

/-- The value of a name that is given once at most. -/
def value? (g : Given) (name : String) : Option String := g.lookup name

end Given

/-- How far arguments have been read. -/
structure Reading where
  given : Given := []
  /-- The parameter that is not entered yet, with its value if there is one. -/
  pending : Option (Parameter × Option String) := none
  /-- The next argument is the value of the pending option. -/
  awaiting : Bool := false
  /-- The places that are left. -/
  places : List Parameter
  /-- A lone `--` went before. -/
  placesOnly : Bool := false

/-- Enters a value. -/
def Given.enter (g : Given) (p : Parameter) (value : String) : Except UsageError Given :=
  if p.arity ≠ .many && g.has p.name then .error .repeated
  else if !p.accepts value then .error .badValue
  else .ok (g ++ [(p.name, value)])

namespace Reading

/-- Enters what is pending; it must have a value by now. -/
def settle (r : Reading) : Except UsageError Reading :=
  match r.pending with
  | none => .ok r
  | some (_, none) => .error .badValue
  | some (p, some value) => do return { r with given := ← r.given.enter p value, pending := none }

/-- An argument that begins with two dashes. -/
def long (s : Signature) (r : Reading) (name : String) (value : Option String) : Except UsageError Reading :=
  if name = "help" then
    if value.isSome then .error .unwantedValue else do
      let _ ← r.settle
      .error .helpWanted
  else match s.options.find? fun p => p.name == name with
    | none => .error .unknownArgument
    | some p =>
      match p.arity, value with
      | .flag, some _ => .error .unwantedValue
      | .flag, none => do
        let r ← r.settle
        return { r with given := ← r.given.enter p "", awaiting := false }
      | _, some value => do
        let r ← r.settle
        return { r with given := ← r.given.enter p value, awaiting := false }
      | _, none => do
        let r ← r.settle
        return { r with pending := some (p, none), awaiting := true }

/-- An argument that begins with one dash: only `-h` is known. -/
def short (r : Reading) (letters : List Char) : Except UsageError Reading :=
  if letters.head? = some 'h' then do
    let _ ← r.settle
    .error .helpWanted
  else .error .unknownArgument

/-- An argument that takes a place. -/
def place (r : Reading) (argument : String) : Except UsageError Reading :=
  match r.places with
  | [] => .error .unknownArgument
  | p :: places => do
    let r ← r.settle
    return { r with pending := some (p, some argument), places, awaiting := false }

end Reading

/-- What an argument looks like. -/
inductive Shape where
  /-- A lone `--`. -/
  | rule
  | long (name : String) (value : Option String)
  | short (letters : List Char)
  | plain

/-- What an argument looks like; a lone dash looks like nothing. -/
def Shape.of (argument : String) : Shape :=
  match argument.toList with
  | ['-', '-'] => rule
  | '-' :: '-' :: cs =>
    match Text.cutFirst '=' cs with
    | some (name, value) => long (String.ofList name) (some (String.ofList value))
    | none => long (String.ofList cs) none
  | '-' :: c :: cs => short (c :: cs)
  | _ => plain

namespace Reading

/-- Takes one argument. -/
def step (s : Signature) (r : Reading) (argument : String) : Except UsageError Reading :=
  if r.placesOnly then r.place argument
  else match Shape.of argument with
    | .rule => .ok { r with placesOnly := true }
    | .long name value => r.long s name value
    | .short letters => r.short letters
    | .plain =>
      match r.awaiting, r.pending with
      | true, some (p, _) => .ok { r with pending := some (p, some argument), awaiting := false }
      | _, _ => r.place argument

end Reading

/-- Reads the arguments of a command; all that is required must be there. -/
def Signature.read (s : Signature) (arguments : List String) : Except UsageError Given := do
  let r ← arguments.foldlM (Reading.step s) { places := s.places }
  let r ← r.settle
  if (s.options ++ s.places).any fun p => p.required && !r.given.has p.name then .error .missing
  return r.given

end Registrar.CommandLine

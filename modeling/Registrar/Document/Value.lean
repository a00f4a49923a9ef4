/-!
# Values

A `Value` is a piece of structured data: what a document says, whatever it is written in. Reading data out of a value
gives an `Option`: a part that is missing or of the wrong shape is nobody's default.

A record may be given by name or, as a list, by position (`Value.fields?`). Fields nobody asked for do not matter.
-/

namespace Registrar

/-- A piece of structured data. -/
inductive Value where
  | null
  | bool (b : Bool)
  | number (n : Int)
  /-- A number that is not written as an integer. -/
  | fraction (written : String)
  | text (s : String)
  | list (items : List Value)
  /-- Fields in the order in which they were written, perhaps one name twice. -/
  | record (fields : List (String × Value))
  deriving Inhabited

namespace Value

/-! ## Scalars -/

/-- A truth value. -/
def bool? : Value → Option Bool
  | bool b => some b
  | _ => none

/-- A text. -/
def text? : Value → Option String
  | text s => some s
  | _ => none

theorem text?_text (s : String) : text? (text s) = some s := rfl

/-- The absence of data. -/
def unit? : Value → Option Unit
  | null => some ()
  | _ => none

theorem unit?_null (u : Unit) : unit? null = some u := rfl

/-- An identifier: a number that 64 bits can hold. -/
def id? : Value → Option UInt64
  | number n =>
    let id := UInt64.ofNat n.toNat
    if id.toNat = n then some id else none
  | _ => none

/-- An identifier as a number. -/
def ofId (id : UInt64) : Value := number id.toNat

@[simp] theorem id?_ofId (id : UInt64) : id? (ofId id) = some id := by
  simp only [id?, ofId, Int.toNat_natCast, UInt64.ofNat_toNat, if_true]

/-- Data that may be absent. -/
def optional? {α : Type} (f : Value → Option α) : Value → Option (Option α)
  | null => some none
  | v => (f v).map some

/-! ## Lists -/

/-- Every item of a list. -/
def items? {α : Type} (f : Value → Option α) : Value → Option (List α)
  | list items => items.mapM f
  | _ => none

@[simp] theorem items?_list_map {α : Type} {f : Value → Option α} {g : α → Value} {l : List α}
    (h : ∀ a, f (g a) = some a) : items? f (list (l.map g)) = some l := by
  simp only [items?]
  induction l with
  | nil => rfl
  | cons a l ih =>
    simp [List.mapM_cons, h, ih]

/-! ## Records -/

/-- The field of a record with a name. -/
def get? (v : Value) (name : String) : Option Value :=
  match v with
  | record fields => fields.lookup name
  | _ => none

/-- Whether a name is given more than once. -/
def repeats (fields : List (String × Value)) (name : String) : Bool :=
  1 < fields.countP fun field => field.1 == name

/-- The fields with these names: those of a record that gives none of them twice, or the items of a list in the order of
the names. -/
def fields? (names : List String) : Value → Option (String → Option Value)
  | record fields => if names.any (repeats fields) then none else some (fields.lookup ·)
  | list items => if items.length ≤ names.length then some ((names.zip items).lookup ·) else none
  | _ => none

/-- A field that must be there. -/
def required {α : Type} (f : Value → Option α) (field : Option Value) : Option α := field.bind f

/-- A field that may be missing. -/
def withDefault {α : Type} (default : α) (f : Value → Option α) : Option Value → Option α
  | none => some default
  | some v => f v

/-- A text that may be missing. -/
def textField : Option Value → Option String := withDefault "" text?

/-- A text that may be missing or absent. -/
def optionalTextField : Option Value → Option (Option String) := withDefault none (optional? text?)

/-- A flag that may be missing. -/
def flagField : Option Value → Option Bool := withDefault false bool?

/-- A text or its absence. -/
def ofOptionalText : Option String → Value
  | some s => text s
  | none => null

@[simp] theorem optional?_ofOptionalText (s : Option String) : optional? text? (ofOptionalText s) = some s := by
  cases s <;> rfl

end Value

end Registrar

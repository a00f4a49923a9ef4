import Registrar.Yaml.Node

/-!
# What nodes say

A node is read as what its place calls for: a plain scalar `1001` is a number where a number is wanted and a text where
a text is. Quoted scalars are texts only. Where a list or a map is wanted, nothing written is an empty one.
-/

namespace Registrar.Yaml.Node

/-! ## Scalars -/

/-- A text. -/
def text? : Node → Option String
  | scalar text _ _ => some text
  | _ => none

/-- The text of a scalar that need not be a text: a plain one, or lines under a tag that says what they are. -/
def bare? (tag : String) : Node → Option String
  | scalar text .plain _ => some text
  | scalar text .literal t => if t = some ("tag:yaml.org,2002:" ++ tag) then some text else none
  | _ => none

/-- A truth value. -/
def bool? (n : Node) : Option Bool :=
  match n.bare? "bool" with
  | some "true" | some "True" | some "TRUE" => some true
  | some "false" | some "False" | some "FALSE" => some false
  | _ => none

/-- The ways to write nothing. -/
def isNullText (text : String) : Bool := ["null", "Null", "NULL", "~"].contains text

/-- A text that may be absent: an empty plain scalar, or one that says so. -/
def optionalText? : Node → Option (Option String)
  | scalar text .plain none => some (if text.isEmpty || isNullText text then none else some text)
  | scalar text .plain (some "tag:yaml.org,2002:null") => if isNullText text then some none else none
  | scalar text _ _ => some (some text)
  | _ => none

/-! ## Numbers -/

/-- One or more digits in a base. -/
def digits? (base : Nat) (cs : List Char) : Option Nat :=
  if cs.isEmpty then none
  else cs.foldlM (fun n c => (Text.hexValue? c).bind fun d => if d < base then some (base * n + d) else none) 0

/-- A number without a sign, in base ten or with a mark of its base. A zero in front marks nothing. -/
def magnitude? : List Char → Option Nat
  | '0' :: 'x' :: rest => digits? 16 rest
  | '0' :: 'o' :: rest => digits? 8 rest
  | '0' :: 'b' :: rest => digits? 2 rest
  | '0' :: _ :: _ => none
  | cs => digits? 10 cs

/-- A number with or without a sign. -/
def signed? : List Char → Option Int
  | '-' :: rest => (magnitude? rest).map fun n => -(n : Int)
  | '+' :: rest => (magnitude? rest).map Int.ofNat
  | cs => (magnitude? cs).map Int.ofNat

/-- A whole number between bounds. -/
def between? (least most : Int) (n : Node) : Option Int := do
  let i ← signed? (← n.bare? "int").toList
  if least ≤ i ∧ i ≤ most then some i else none

/-- A whole number of 64 bits. -/
def int? (n : Node) : Option Int := n.between? (-9223372036854775808) 9223372036854775807

/-- A count of 64 bits; it has no sign but a plus. -/
def nat? (n : Node) : Option Nat := do
  if (← n.bare? "int").toList.head? = some '-' then none
  return (← n.between? 0 18446744073709551615).toNat

/-! ## Lists and maps -/

/-- Whether nothing is written. -/
def isEmpty : Node → Bool
  | scalar "" .plain _ => true
  | _ => false

/-- A list of texts. -/
def texts? (n : Node) : Option (List String) :=
  match n with
  | list items => items.mapM text?
  | n => if n.isEmpty then some [] else none

/-- The entries of a map whose keys are texts. -/
def entries? (n : Node) : Option (List (String × Node)) :=
  match n with
  | map entries => entries.mapM fun (k, v) => k.text?.map fun k => (k, v)
  | n => if n.isEmpty then some [] else none

/-- The fields with these names; none of them may be given twice. -/
def fields? (names : List String) (n : Node) : Option (String → Option Node) := do
  let entries ← n.entries?
  if names.any fun name => 1 < entries.countP fun entry => entry.1 == name then none
  return (entries.lookup ·)

end Registrar.Yaml.Node

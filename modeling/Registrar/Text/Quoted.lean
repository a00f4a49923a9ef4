import Registrar.Text.Hidden

/-!
# Quoted texts

Log lines show a text between double quotes. Quotes, backslashes and line controls are escaped by a backslash, hidden
characters by their hexadecimal code point.
-/

namespace Registrar.Text

/-- A number in lower-case hexadecimal digits. -/
def hexText (n : Nat) : String := String.ofList (Nat.toDigits 16 n)

/-- What stands for a character inside quotes. -/
def escapeChar (c : Char) : String :=
  match c with
  | '"' => "\\\""
  | '\\' => "\\\\"
  | '\n' => "\\n"
  | '\r' => "\\r"
  | '\t' => "\\t"
  | '\x00' => "\\0"
  | c => if isHidden c then "\\u\x7b" ++ hexText c.toNat ++ "\x7d" else c.toString

/-- The text between quotes. -/
def quoted (s : String) : String := "\"" ++ String.join (s.toList.map escapeChar) ++ "\""

/-- A list in brackets, its items shown by `f`. -/
def bracketed {α : Type} (f : α → String) (l : List α) : String := "[" ++ ", ".intercalate (l.map f) ++ "]"

end Registrar.Text

import RuleEngine.Text.Printable

set_option autoImplicit false

/-! # Quoted texts in messages

Messages show a text in double quotes. A quote, a backslash and the common controls have short
escapes; any other character without a visible form of its own is shown as its code point. -/

namespace RuleEngine.Text

/-- The code point in lower-case hexadecimal digits. -/
def hexOf (n : Nat) : List Char := Nat.toDigits 16 n

/-- A character inside double quotes. -/
def shownChar (c : Char) : List Char :=
  match c with
  | '"' => ['\\', '"']
  | '\\' => ['\\', '\\']
  | '\n' => ['\\', 'n']
  | '\t' => ['\\', 't']
  | '\x0d' => ['\\', 'r']
  | '\x00' => ['\\', '0']
  | c => if isPrintable c then [c] else ['\\', 'u', '\x7b'] ++ hexOf c.toNat ++ ['\x7d']

def quoted (s : String) : String := "\"" ++ String.ofList (s.toList.flatMap shownChar) ++ "\""

/-- The texts in double quotes, in square brackets. -/
def quotedList (ss : List String) : String := "[" ++ ", ".intercalate (ss.map quoted) ++ "]"

end RuleEngine.Text

import ControlPlane.Text.Printable

/-!
Quoted text for messages: the text between double quotes, with everything escaped that a reader
could not see or could mistake for the end.
-/

namespace ControlPlane.Text

/-- The digits of a code point in base sixteen, without leading zeros. -/
def hexDigits (n : Nat) : String := String.ofList (Nat.toDigits 16 n)

/-- The escape of a code point. -/
def codePointEscape (c : Char) : String := "\\u\x7b" ++ hexDigits c.toNat ++ "\x7d"

/-- A character as it stands inside quotes. -/
def quotedChar (c : Char) : String :=
  match c with
  | '\x00' => "\\0"
  | '\t' => "\\t"
  | '\r' => "\\r"
  | '\n' => "\\n"
  | '\\' => "\\\\"
  | '"' => "\\\""
  | c => if isExtending c || !isPrintable c then codePointEscape c else c.toString

/-- The text in quotes. -/
def quoted (s : String) : String :=
  "\"" ++ s.foldl (fun acc c => acc ++ quotedChar c) "" ++ "\""

end ControlPlane.Text

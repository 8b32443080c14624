import Prepared.Text.Unprintable

/-! Quoted text, for descriptions of objects.

The text stands between double quotes. Quotes and backslashes in it get a
backslash, four control characters have a short form, and any other character that is
not printable is given by its code point in hexadecimal. -/
namespace Prepared.Text

/-- The hexadecimal digits of a number, in lower case. -/
def hex (n : Nat) : List Char :=
  Nat.toDigits 16 n

/-- A character as it stands inside quoted text. -/
def quoteChar (c : Char) : List Char :=
  match c with
  | '"' => ['\\', '"']
  | '\\' => ['\\', '\\']
  | '\n' => ['\\', 'n']
  | '\r' => ['\\', 'r']
  | '\t' => ['\\', 't']
  | '\x00' => ['\\', '0']
  | c => if isPrintable c then [c] else ['\\', 'u', '\x7b'] ++ hex c.toNat ++ ['\x7d']

/-- A text between quotes. -/
def quote (s : String) : String :=
  String.ofList (['"'] ++ s.toList.flatMap quoteChar ++ ['"'])

end Prepared.Text

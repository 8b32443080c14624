import Prepared.Json.Basic

/-! The compact text of a JSON value: no blanks, members in their order, quotes,
backslashes and control characters escaped and every other character as it is. -/
namespace Prepared.Json

/-- A hexadecimal digit in lower case. -/
def hexDigit (n : Nat) : Char :=
  Nat.digitChar n

/-- A character as it stands inside a JSON text. -/
def escapeChar (c : Char) : List Char :=
  match c with
  | '"' => ['\\', '"']
  | '\\' => ['\\', '\\']
  | '\x08' => ['\\', 'b']
  | '\x0c' => ['\\', 'f']
  | '\n' => ['\\', 'n']
  | '\r' => ['\\', 'r']
  | '\t' => ['\\', 't']
  | c =>
    if c.toNat < 0x20 then
      ['\\', 'u', '0', '0', hexDigit (c.toNat / 16), hexDigit (c.toNat % 16)]
    else [c]

/-- A text between quotes. What is no text is written like an empty one. -/
def writeText (s : Option String) : List Char :=
  ['"'] ++ (s.getD "").toList.flatMap escapeChar ++ ['"']

/-- A number with the digits it has; an exponent has its sign, whatever it is. -/
def writeNumeral (n : Numeral) : List Char :=
  (if n.negative then ['-'] else []) ++ n.whole
    ++ (match n.fraction with | some ds => '.' :: ds | none => [])
    ++ (match n.exponent with
        | some (negative, ds) => 'e' :: (if negative then '-' else '+') :: ds
        | none => [])

mutual

/-- The text of a value. -/
def write : Json → List Char
  | null => ['n', 'u', 'l', 'l']
  | bool true => ['t', 'r', 'u', 'e']
  | bool false => ['f', 'a', 'l', 's', 'e']
  | number n => writeNumeral n
  | text s => writeText s
  | list items => ['['] ++ writeItems items ++ [']']
  | record members => ['\x7b'] ++ writeMembers members ++ ['\x7d']

/-- The items of a list with commas between them. -/
def writeItems : List Json → List Char
  | [] => []
  | [j] => write j
  | j :: js => write j ++ [','] ++ writeItems js

/-- The members of a record with commas between them. -/
def writeMembers : List (Option String × Json) → List Char
  | [] => []
  | [(name, j)] => writeText name ++ [':'] ++ write j
  | (name, j) :: ms => writeText name ++ [':'] ++ write j ++ [','] ++ writeMembers ms

end

/-- The text of a value, as a string. -/
def render (j : Json) : String :=
  String.ofList (write j)

end Prepared.Json

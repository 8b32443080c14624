import Prepared.Sql.Token

/-! Names of databases in the form of a URI.

Such a name starts with `file:`. The name of a file follows, perhaps behind an empty or
local host, then options behind a question mark, and something after a hash that counts
for nothing. A percent sign with two hexadecimal digits stands for a byte; a zero byte
ends the part that it stands in. -/
namespace Prepared.Sql

/-- The parts of a URI. -/
structure Uri where
  name : String
  /-- The options by name, in their order. -/
  options : List (String × String) := []
  deriving DecidableEq, Repr, Inhabited

namespace Uri

/-- The bytes that a part of a URI stands for. -/
def decode : List Char → List UInt8
  | [] => []
  | '%' :: a :: b :: cs =>
    match Lexeme.hexDigit? a, Lexeme.hexDigit? b with
    | some 0, some 0 => []
    | some high, some low => UInt8.ofNat (high * 16 + low) :: decode cs
    | _, _ => '%'.toUInt8 :: decode (a :: b :: cs)
  | c :: cs => String.utf8EncodeChar c ++ decode cs

/-- The text of bytes. Bytes that are none of a text become a text that no path holds. -/
def textOf (bs : List UInt8) : String :=
  (String.fromUTF8? ⟨bs.toArray⟩).getD
    (String.ofList ('\x00' :: bs.map fun b => Char.ofNat b.toNat))

/-- The text of a part of a URI, each name between slashes on its own. -/
def text (cs : List Char) : String :=
  String.intercalate "/" (((decode cs).splitOn '/'.toUInt8).map textOf)

/-- An option: its name and its value, which is empty without an equals sign. -/
def option (cs : List Char) : String × String :=
  let (name, value) := cs.span (· != '=')
  (text name, text (value.drop 1))

/-- Leaves out a host, which must be empty or local. -/
def withoutHost? : List Char → Option (List Char)
  | '/' :: '/' :: cs =>
    let (host, rest) := cs.span (· != '/')
    if host = [] ∨ host = "localhost".toList then some rest else none
  | cs => some cs

/-- The parts of a URI, from what follows its scheme. Options without a name count for
nothing. -/
def ofList? (cs : List Char) : Option Uri := do
  let cs ← withoutHost? cs
  let (name, query) := (cs.takeWhile (· != '#')).span (· != '?')
  let options := ((query.drop 1).splitOn '&').map option
  return { name := text name, options := options.filter (·.1 != "") }

/-- Whether a word says yes: `on`, `yes`, `true` or a number whose last byte is not
zero. -/
def isYes (word : String) : Bool :=
  match word.toList with
  | c :: cs =>
    if c.isDigit then
      let n := Nat.ofDigitChars 10 ((c :: cs).takeWhile Char.isDigit) 0
      decide (n < Nat.pow 2 31) && n % 256 != 0
    else ["ON", "YES", "TRUE"].contains (String.ofList ((c :: cs).map Char.toUpper))
  | [] => false

/-- Whether the first option of a name says yes. -/
def allows (u : Uri) (name : String) : Bool :=
  ((u.options.lookup name).map isYes).getD false

end Uri

end Prepared.Sql

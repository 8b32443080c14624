import Prepared.Json.Basic

/-! Reading JSON texts.

The grammar is the strict one: four blanks, no leading zeros, a digit on either
side of a point, no comma at the end, no control characters in a text, nothing but
blanks after the value. -/
namespace Prepared.Json

/-- The four blanks between tokens. -/
def isSpace (c : Char) : Bool :=
  c == ' ' || c == '\n' || c == '\t' || c == '\r'

/-- The characters from the first one that is not a blank. -/
def skipSpace (cs : List Char) : List Char :=
  cs.dropWhile isSpace

/-- The digits in front, and the rest. -/
def digits (cs : List Char) : List Char × List Char :=
  cs.span Char.isDigit

/-- At least one digit, and the rest. -/
def someDigits? (cs : List Char) : Option (List Char × List Char) :=
  match digits cs with
  | ([], _) => none
  | (ds, rest) => some (ds, rest)

/-- Whole digits: a zero alone, or digits that do not start with one. -/
def wholeDigits? (cs : List Char) : Option (List Char × List Char) :=
  match someDigits? cs with
  | some ('0' :: _ :: _, _) => none
  | r => r

/-- The fraction, if there is one. -/
def fraction? : List Char → Option (Option (List Char) × List Char)
  | '.' :: cs => (someDigits? cs).map fun (ds, rest) => (some ds, rest)
  | cs => some (none, cs)

/-- The sign and digits after the mark of an exponent. -/
def exponentPart? : List Char → Option ((Bool × List Char) × List Char)
  | '+' :: cs => (someDigits? cs).map fun (ds, rest) => ((false, ds), rest)
  | '-' :: cs => (someDigits? cs).map fun (ds, rest) => ((true, ds), rest)
  | cs => (someDigits? cs).map fun (ds, rest) => ((false, ds), rest)

/-- The exponent, if there is one. -/
def exponent? : List Char → Option (Option (Bool × List Char) × List Char)
  | 'e' :: cs | 'E' :: cs => (exponentPart? cs).map fun (e, rest) => (some e, rest)
  | cs => some (none, cs)

/-- A number after its sign. -/
def unsigned? (negative : Bool) (cs : List Char) : Option (Numeral × List Char) := do
  let (whole, cs) ← wholeDigits? cs
  let (fraction, cs) ← fraction? cs
  let (exponent, cs) ← exponent? cs
  return ({ negative, whole, fraction, exponent }, cs)

/-- A number. -/
def numeral? : List Char → Option (Numeral × List Char)
  | '-' :: cs => unsigned? true cs
  | cs => unsigned? false cs

/-- A part of a text: a character, or a 16-bit unit named by an escape. -/
inductive Piece where
  | char (c : Char)
  | unit (n : Nat)
  deriving DecidableEq, Repr

/-- The value of a hexadecimal digit of either case. -/
def hexValue? (c : Char) : Option Nat :=
  if '0' ≤ c ∧ c ≤ '9' then some (c.toNat - '0'.toNat)
  else if 'a' ≤ c ∧ c ≤ 'f' then some (c.toNat - 'a'.toNat + 10)
  else if 'A' ≤ c ∧ c ≤ 'F' then some (c.toNat - 'A'.toNat + 10)
  else none

/-- The unit with these four hexadecimal digits. -/
def unit? (a b c d : Char) : Option Piece := do
  return .unit ((((← hexValue? a) * 16 + (← hexValue? b)) * 16 + (← hexValue? c)) * 16
    + (← hexValue? d))

/-- The character that a short escape stands for. -/
def shortEscape? : Char → Option Char
  | '"' => some '"'
  | '\\' => some '\\'
  | '/' => some '/'
  | 'b' => some '\x08'
  | 'f' => some '\x0c'
  | 'n' => some '\n'
  | 'r' => some '\r'
  | 't' => some '\t'
  | _ => none

/-- The parts of a text up to its closing quote, in reverse behind those given, and
the rest. -/
def pieces? (before : List Piece) : List Char → Option (List Piece × List Char)
  | [] => none
  | '"' :: cs => some (before, cs)
  | '\\' :: 'u' :: a :: b :: c :: d :: cs =>
    match unit? a b c d with
    | some p => pieces? (p :: before) cs
    | none => none
  | '\\' :: c :: cs =>
    match shortEscape? c with
    | some c => pieces? (.char c :: before) cs
    | none => none
  | c :: cs => if c.toNat < 0x20 then none else pieces? (.char c :: before) cs

/-- Puts the parts of a text, in reverse order, in front of characters. Two units
that make a surrogate pair are one character, half a pair is none. -/
def assemble? (after : List Char) : List Piece → Option (List Char)
  | [] => some after
  | .char c :: ps => assemble? (c :: after) ps
  | .unit low :: ps =>
    if 0xDC00 ≤ low ∧ low < 0xE000 then
      match ps with
      | .unit high :: ps =>
        if 0xD800 ≤ high ∧ high < 0xDC00 then
          let n := 0x10000 + (high - 0xD800) * 0x400 + (low - 0xDC00)
          assemble? (Char.ofNat n :: after) ps
        else none
      | _ => none
    else if 0xD800 ≤ low ∧ low < 0xDC00 then none
    else assemble? (Char.ofNat low :: after) ps

/-- A text after its opening quote. -/
def text? (cs : List Char) : Option (Option String × List Char) := do
  let (ps, cs) ← pieces? [] cs
  return ((assemble? [] ps).map String.ofList, cs)

/-- A word that stands for a value, and the rest. -/
def word? : List Char → Option (Json × List Char)
  | 'n' :: 'u' :: 'l' :: 'l' :: cs => some (null, cs)
  | 't' :: 'r' :: 'u' :: 'e' :: cs => some (bool true, cs)
  | 'f' :: 'a' :: 'l' :: 's' :: 'e' :: cs => some (bool false, cs)
  | _ => none

/-- A value without parts. -/
def scalar? : List Char → Option (Json × List Char)
  | '"' :: cs => (text? cs).map fun (s, rest) => (text s, rest)
  | cs =>
    match word? cs with
    | some r => some r
    | none => (numeral? cs).map fun (n, rest) => (number n, rest)

mutual

/-- A value after blanks, and the rest; `fuel` bounds how far it may reach. -/
def value? : Nat → List Char → Option (Json × List Char)
  | 0, _ => none
  | fuel + 1, cs =>
    match skipSpace cs with
    | '[' :: cs =>
      match skipSpace cs with
      | ']' :: cs => some (list [], cs)
      | cs => (items? fuel cs).map fun (js, rest) => (list js, rest)
    | '\x7b' :: cs =>
      match skipSpace cs with
      | '\x7d' :: cs => some (record [], cs)
      | cs => (members? fuel cs).map fun (ms, rest) => (record ms, rest)
    | cs => scalar? cs

/-- The items of a list that is not empty, up to and with its end. -/
def items? : Nat → List Char → Option (List Json × List Char)
  | 0, _ => none
  | fuel + 1, cs => do
    let (j, cs) ← value? fuel cs
    match skipSpace cs with
    | ',' :: cs => do
      let (js, cs) ← items? fuel cs
      return (j :: js, cs)
    | ']' :: cs => return ([j], cs)
    | _ => none

/-- The members of a record that is not empty, up to and with its end. -/
def members? : Nat → List Char → Option (List (Option String × Json) × List Char)
  | 0, _ => none
  | fuel + 1, cs => do
    match skipSpace cs with
    | '"' :: cs => do
      let (name, cs) ← text? cs
      match skipSpace cs with
      | ':' :: cs => do
        let (j, cs) ← value? fuel cs
        match skipSpace cs with
        | ',' :: cs => do
          let (ms, cs) ← members? fuel cs
          return ((name, j) :: ms, cs)
        | '\x7d' :: cs => return ([(name, j)], cs)
        | _ => none
      | _ => none
    | _ => none

end

/-- The value that a text stands for; every value is shorter than its text. -/
def parse? (s : String) : Option Json :=
  let cs := s.toList
  match value? (2 * cs.length + 2) cs with
  | some (j, rest) => if (skipSpace rest).isEmpty then some j else none
  | none => none

end Prepared.Json

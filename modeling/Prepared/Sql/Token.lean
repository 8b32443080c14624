import Prepared.Sql.Numeral
import Prepared.Statement.Value

/-! The words of a SQL text.

Every lexeme keeps the characters it was read from and the filler behind it, so that the
source of a part of a text can be given back: it names a result column. -/
namespace Prepared.Sql

/-- What a lexeme stands for. -/
inductive Token where
  /-- A keyword or a name, as it is written. -/
  | word (s : String)
  /-- A name between quotes, which may be quotes that can hold a text as well. -/
  | quoted (s : String) (isText : Bool)
  /-- A value, and what a minus sign in front makes of it, if there is such a value. -/
  | literal (v : Value) (opposite : Option Value)
  /-- A parameter; the name is empty for a lone question mark. -/
  | marker (name : String)
  | symbol (c : Char)
  deriving DecidableEq, Repr, Inhabited

/-- A token with its source. -/
structure Lexeme where
  source : List Char
  token : Token
  /-- Blanks and comments up to the next lexeme. -/
  filler : List Char
  deriving DecidableEq, Repr, Inhabited

namespace Lexeme

/-- A blank between lexemes. -/
def isSpace (c : Char) : Bool :=
  c == ' ' || c == '\t' || c == '\n' || c == '\x0c' || c == '\r'

/-- A blank behind another blank. -/
def isLaterSpace (c : Char) : Bool :=
  isSpace c || c == '\x0b'

/-- A character a name can start with. -/
def isNameStart (c : Char) : Bool :=
  c.isAlpha || c == '_' || decide (0x80 ≤ c.toNat)

/-- A character inside a name. -/
def isNamePart (c : Char) : Bool :=
  isNameStart c || c.isDigit || c == '$'

/-- The characters of a comment after its opening, in reverse order behind those given,
and the rest. A comment that is not closed reaches to the end. -/
def comment (before : List Char) : List Char → List Char × List Char
  | '*' :: '/' :: cs => ('/' :: '*' :: before, cs)
  | c :: cs => comment (c :: before) cs
  | [] => (before, [])

/-- Blanks and comments in front, in reverse order behind those given, and the rest. A
mark for the order of bytes is a blank. -/
def skipFiller : Nat → List Char → List Char → List Char × List Char
  | 0, before, cs => (before, cs)
  | fuel + 1, before, cs =>
    match cs with
    | '-' :: '-' :: cs =>
      let (line, rest) := cs.span (· != '\n')
      skipFiller fuel (line.reverse ++ '-' :: '-' :: before) rest
    | '/' :: '*' :: c :: cs =>
      let (before, rest) := comment ('*' :: '/' :: before) (c :: cs)
      skipFiller fuel before rest
    | '\ufeff' :: cs => skipFiller fuel ('\ufeff' :: before) cs
    | c :: cs =>
      if isSpace c then
        let (blanks, rest) := cs.span isLaterSpace
        skipFiller fuel (blanks.reverse ++ c :: before) rest
      else (before, c :: cs)
    | [] => (before, [])

/-- The characters of a quoted text after its opening quote, in reverse order behind
those given, and the rest; a quote inside is written twice. -/
def quoted? (quote : Char) (before : List Char) : List Char → Option (List Char × List Char)
  | [] => none
  | [c] => if c = quote then some (before, []) else none
  | c :: d :: cs =>
    if c = quote then
      if d = quote then quoted? quote (quote :: before) cs else some (before, d :: cs)
    else quoted? quote (c :: before) (d :: cs)

/-- The value of a hexadecimal digit. -/
def hexDigit? (c : Char) : Option Nat :=
  if '0' ≤ c ∧ c ≤ '9' then some (c.toNat - '0'.toNat)
  else if 'a' ≤ c ∧ c ≤ 'f' then some (c.toNat - 'a'.toNat + 10)
  else if 'A' ≤ c ∧ c ≤ 'F' then some (c.toNat - 'A'.toNat + 10)
  else none

/-- The bytes that pairs of hexadecimal digits stand for. -/
def bytes? : List Char → Option (List UInt8)
  | [] => some []
  | [_] => none
  | a :: b :: cs => do
    return UInt8.ofNat ((← hexDigit? a) * 16 + (← hexDigit? b)) :: (← bytes? cs)

/-- The exponent in front, with its sign, and the rest; without digits there is none. -/
def exponent (isDigit : Char → Bool) (cs : List Char) : (Bool × List Char) × List Char :=
  let digits (negative : Bool) (ds : List Char) : (Bool × List Char) × List Char :=
    match ds with
    | d :: _ =>
      if d.isDigit then
        let (e, rest) := ds.span isDigit
        ((negative, e), rest)
      else ((false, []), cs)
    | [] => ((false, []), cs)
  match cs with
  | 'e' :: '+' :: ds | 'E' :: '+' :: ds => digits false ds
  | 'e' :: '-' :: ds | 'E' :: '-' :: ds => digits true ds
  | 'e' :: ds | 'E' :: ds => digits false ds
  | _ => ((false, []), cs)

/-- Removes underscores from digits; each has to stand between two digits. -/
def ungrouped? (ds : List Char) : Option (List Char) :=
  if ds.isEmpty || (ds.splitOn '_').all (!·.isEmpty) then some (ds.filter (· != '_')) else none

/-- The literal of an integer without a sign: one that does not fit in 64 bits is a real
number. -/
def integer (digits : List Char) : Token :=
  let n := Nat.ofDigitChars 10 digits 0
  let x := Numeral.toBinary64 { whole := digits }
  if n < Nat.pow 2 63 then .literal (.integer (Int64.ofInt n)) (some (.integer (Int64.ofInt (-n))))
  else if n = Nat.pow 2 63 then .literal (.real x) (some (.integer Int64.minValue))
  else .literal (.real x) (some (.real x.negate))

/-- The literal of sixteen hexadecimal digits at most, read as 64 bits. The least integer
cannot have a minus sign. -/
def hexadecimal? (digits : List Char) : Option Token := do
  let digits := digits.dropWhile (· == '0')
  if 16 < digits.length then none
  else
    let n ← digits.foldlM (fun (n : Nat) c => (hexDigit? c).map (n * 16 + ·)) 0
    let i := Int64.ofInt n
    return .literal (.integer i) (if i = Int64.minValue then none else some (.integer (-i)))

/-- The literal of a number in front that is not hexadecimal, and the rest. -/
def decimal? (cs : List Char) : Option (Token × List Char) := do
  let isDigit (c : Char) : Bool := c.isDigit || c == '_'
  let (whole, afterWhole) := cs.span isDigit
  let (fraction, hasPoint, afterFraction) :=
    match afterWhole with
    | '.' :: ds =>
      let (f, rest) := ds.span isDigit
      (f, true, rest)
    | _ => ([], false, afterWhole)
  let ((negative, e), rest) := exponent isDigit afterFraction
  let whole ← ungrouped? whole
  let fraction ← ungrouped? fraction
  let digits ← ungrouped? e
  if !hasPoint && e.isEmpty then return (integer whole, rest)
  else
    let x := Numeral.toBinary64 { whole, fraction, exponent := (negative, digits) }
    return (.literal (.real x) (some (.real x.negate)), rest)

/-- The literal of a number in front, and the rest. -/
def number? (cs : List Char) : Option (Token × List Char) :=
  match cs with
  | '0' :: x :: d :: ds =>
    if (x == 'x' || x == 'X') && (hexDigit? d).isSome then do
      let (digits, rest) := (d :: ds).span fun c => (hexDigit? c).isSome || c == '_'
      return (← hexadecimal? (← ungrouped? digits), rest)
    else decimal? cs
  | _ => decimal? cs

/-- The characters of a parameter's name, in reverse order behind those given, and the
rest. A name can hold double colons and end with something in brackets. -/
def markerName? : Nat → List Char → List Char → Option (List Char × List Char)
  | 0, _, _ => none
  | fuel + 1, before, cs =>
    match cs with
    | ':' :: ':' :: cs => markerName? fuel (':' :: ':' :: before) cs
    | '(' :: cs =>
      if before.any isNamePart then
        match cs.span fun c => c != ')' && !isLaterSpace c with
        | (inner, ')' :: rest) => some (')' :: inner.reverse ++ '(' :: before, rest)
        | _ => none
      else none
    | c :: cs =>
      if isNamePart c then markerName? fuel (c :: before) cs
      else if before.any isNamePart then some (before, c :: cs)
      else none
    | [] => if before.any isNamePart then some (before, []) else none

/-- The first token, and the rest. -/
def token? (cs : List Char) : Option (Token × List Char) :=
  match cs with
  | [] => none
  | '\'' :: cs => (quoted? '\'' [] cs).map fun (s, rest) =>
      (.literal (.text (String.ofList s.reverse)) none, rest)
  | '"' :: cs => (quoted? '"' [] cs).map fun (s, rest) =>
      (.quoted (String.ofList s.reverse) true, rest)
  | '\x60' :: cs => (quoted? '\x60' [] cs).map fun (s, rest) =>
      (.quoted (String.ofList s.reverse) false, rest)
  | '[' :: cs =>
    match cs.span (· != ']') with
    | (name, _ :: rest) => some (.quoted (String.ofList name) false, rest)
    | _ => none
  | '?' :: cs =>
    let (ds, rest) := cs.span Char.isDigit
    some (.marker (String.ofList ds), rest)
  | c :: cs =>
    let next := cs.headD ' '
    if (c == 'x' || c == 'X') && next == '\'' then do
      let (ds, rest) := cs.tail.span fun c => (hexDigit? c).isSome
      match rest with
      | '\'' :: rest => return (.literal (.binary (← bytes? ds)) none, rest)
      | _ => none
    else if c == ':' || c == '@' || c == '$' || c == '#' then do
      let (name, rest) ← markerName? (cs.length + 1) [] cs
      if c == '#' && next.isDigit then none
      else return (.marker (String.ofList (c :: name.reverse)), rest)
    else if isNameStart c then
      let (name, rest) := (c :: cs).span isNamePart
      some (.word (String.ofList name), rest)
    else if c.isDigit || (c == '.' && next.isDigit) then do
      let (t, rest) ← number? (c :: cs)
      if isNamePart (rest.headD ' ') then none else return (t, rest)
    else some (.symbol c, cs)

/-- The lexemes of a text that starts with one. -/
def scan? : Nat → List Char → Option (List Lexeme)
  | 0, _ => none
  | _, [] => some []
  | fuel + 1, cs => do
    let (token, rest) ← token? cs
    let (filler, after) := skipFiller rest.length [] rest
    let lexeme : Lexeme :=
      { source := cs.take (cs.length - rest.length), token, filler := filler.reverse }
    return lexeme :: (← scan? fuel after)

/-- The lexemes of a SQL text, if it has no part that is none. The text ends at its
first NUL. -/
def ofString? (sql : String) : Option (List Lexeme) :=
  let cs := sql.toList.takeWhile (· != '\x00')
  scan? (cs.length + 1) (skipFiller cs.length [] cs).2

/-- The source of lexemes that follow each other, with the filler behind them but
without blanks at its end. -/
def span (ls : List Lexeme) : String :=
  let cs := ls.flatMap fun l => l.source ++ l.filler
  String.ofList (cs.reverse.dropWhile isLaterSpace).reverse

end Lexeme

end Prepared.Sql

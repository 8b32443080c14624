/-! Texts, as TOML writes them: basic or literal, on one line or on several. -/
namespace Prepared.Toml

/-- Whether a character may not stand in a text or a comment. -/
def isControl (c : Char) : Bool :=
  (decide (c.toNat < 0x20) && c != '\t') || c.toNat == 0x7F

/-- The value of hexadecimal digits. -/
def hex? : List Char → Option Nat
  | cs =>
    cs.foldl (fun acc c => acc.bind fun n =>
      if '0' ≤ c ∧ c ≤ '9' then some (n * 16 + (c.toNat - '0'.toNat))
      else if 'a' ≤ c ∧ c ≤ 'f' then some (n * 16 + (c.toNat - 'a'.toNat + 10))
      else if 'A' ≤ c ∧ c ≤ 'F' then some (n * 16 + (c.toNat - 'A'.toNat + 10))
      else none) (some 0)

/-- The character with a code point given by `count` hexadecimal digits, and the
rest. -/
def codePoint? (count : Nat) (cs : List Char) : Option (Char × List Char) :=
  let ds := cs.take count
  if ds.length = count then
    match hex? ds with
    | some n => if n.isValidChar then some (Char.ofNat n, cs.drop count) else none
    | none => none
  else none

/-- The character that an escape stands for, after its backslash, and the rest. -/
def escape? : List Char → Option (Char × List Char)
  | 'b' :: cs => some ('\x08', cs)
  | 't' :: cs => some ('\t', cs)
  | 'n' :: cs => some ('\n', cs)
  | 'f' :: cs => some ('\x0c', cs)
  | 'r' :: cs => some ('\r', cs)
  | 'e' :: cs => some ('\x1b', cs)
  | '"' :: cs => some ('"', cs)
  | '\\' :: cs => some ('\\', cs)
  | 'x' :: cs => codePoint? 2 cs
  | 'u' :: cs => codePoint? 4 cs
  | 'U' :: cs => codePoint? 8 cs
  | _ => none

/-- The finished text of characters in reverse order. -/
def finishText (before : List Char) : String :=
  String.ofList before.reverse

/-- A basic text on one line, after its opening quote; `before` holds the characters
read so far in reverse order. -/
def basic? : Nat → List Char → List Char → Option (String × List Char)
  | 0, _, _ => none
  | fuel + 1, before, cs =>
    match cs with
    | [] => none
    | '"' :: cs => some (finishText before, cs)
    | '\\' :: cs =>
      match escape? cs with
      | some (c, cs) => basic? fuel (c :: before) cs
      | none => none
    | c :: cs => if isControl c then none else basic? fuel (c :: before) cs

/-- A literal text on one line, after its opening quote. -/
def literal? (before : List Char) : List Char → Option (String × List Char)
  | [] => none
  | '\'' :: cs => some (finishText before, cs)
  | c :: cs => if isControl c then none else literal? (c :: before) cs

/-- A blank on a line. -/
def isTab (c : Char) : Bool :=
  c == ' ' || c == '\t'

/-- What follows a line break, if there is one. -/
def afterBreak? : List Char → Option (List Char)
  | '\n' :: cs => some cs
  | '\r' :: '\n' :: cs => some cs
  | _ => none

/-- The characters from the first one that is neither a blank nor a line break. -/
def skipBreaks : Nat → List Char → List Char
  | 0, cs => cs
  | fuel + 1, cs =>
    match cs with
    | ' ' :: cs | '\t' :: cs | '\n' :: cs => skipBreaks fuel cs
    | '\r' :: '\n' :: cs => skipBreaks fuel cs
    | cs => cs

/-- The end of a text on several lines: three quotes, before which up to two more
belong to the text. -/
def closing? (quote : Char) (cs : List Char) : Option (List Char × List Char) :=
  let (quotes, rest) := cs.span (· == quote)
  let n := quotes.length
  if n < 3 then none
  else if n ≤ 5 then some (List.replicate (n - 3) quote, rest)
  else some (List.replicate 2 quote, List.replicate (n - 5) quote ++ rest)

/-- A basic text on several lines, after its opening quotes. Line breaks stay as they
are written; a backslash at the end of a line joins it with the next text. -/
def longBasic? : Nat → List Char → List Char → Option (String × List Char)
  | 0, _, _ => none
  | fuel + 1, before, cs =>
    match closing? '"' cs with
    | some (quotes, rest) => some (finishText (quotes ++ before), rest)
    | none =>
      match cs with
      | [] => none
      | '\\' :: cs =>
        match afterBreak? (cs.dropWhile isTab) with
        | some cs => longBasic? fuel before (skipBreaks cs.length cs)
        | none =>
          match escape? cs with
          | some (c, cs) => longBasic? fuel (c :: before) cs
          | none => none
      | '\n' :: cs => longBasic? fuel ('\n' :: before) cs
      | '\r' :: '\n' :: cs => longBasic? fuel ('\n' :: '\r' :: before) cs
      | c :: cs => if isControl c then none else longBasic? fuel (c :: before) cs

/-- A literal text on several lines, after its opening quotes. -/
def longLiteral? : Nat → List Char → List Char → Option (String × List Char)
  | 0, _, _ => none
  | fuel + 1, before, cs =>
    match closing? '\'' cs with
    | some (quotes, rest) => some (finishText (quotes ++ before), rest)
    | none =>
      match cs with
      | [] => none
      | '\n' :: cs => longLiteral? fuel ('\n' :: before) cs
      | '\r' :: '\n' :: cs => longLiteral? fuel ('\n' :: '\r' :: before) cs
      | c :: cs => if isControl c then none else longLiteral? fuel (c :: before) cs

/-- A line break right after the opening quotes does not count. -/
def afterOpening (cs : List Char) : List Char :=
  (afterBreak? cs).getD cs

/-- A text on one line, or none. -/
def shortText? : List Char → Option (String × List Char)
  | '"' :: cs => basic? (cs.length + 1) [] cs
  | '\'' :: cs => literal? [] cs
  | _ => none

/-- A text of any of the four sorts, or none. -/
def text? : List Char → Option (String × List Char)
  | '"' :: '"' :: '"' :: cs => longBasic? (cs.length + 1) [] (afterOpening cs)
  | '\'' :: '\'' :: '\'' :: cs => longLiteral? (cs.length + 1) [] (afterOpening cs)
  | cs => shortText? cs

end Prepared.Toml

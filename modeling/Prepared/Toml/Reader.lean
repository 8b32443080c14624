import Prepared.Toml.Basic
import Prepared.Toml.Scalar
import Prepared.Toml.Text

/-! Reading TOML documents. -/
namespace Prepared.Toml

/-- The characters from the first one that is not a blank. -/
def skipTabs (cs : List Char) : List Char :=
  cs.dropWhile isTab

/-- What follows a comment, if the characters start with one that is well-formed. -/
def afterComment? : List Char → Option (List Char)
  | '#' :: cs =>
    let rest := cs.dropWhile fun c => !isControl c
    match rest with
    | [] => some []
    | '\n' :: _ | '\r' :: '\n' :: _ => some rest
    | _ => none
  | cs => some cs

/-- What follows blanks, comments and line breaks. -/
def skipFiller? : Nat → List Char → Option (List Char)
  | 0, cs => some cs
  | fuel + 1, cs =>
    match afterComment? (skipTabs cs) with
    | none => none
    | some cs =>
      match afterBreak? cs with
      | some cs => skipFiller? fuel cs
      | none => some cs

/-- A character of a key without quotes. -/
def isBare (c : Char) : Bool :=
  c.isAlphanum || c == '_' || c == '-'

/-- One part of a key. -/
def keyPart? (cs : List Char) : Option (String × List Char) :=
  match cs with
  | '"' :: _ | '\'' :: _ => shortText? cs
  | _ =>
    let (name, rest) := cs.span isBare
    if name.isEmpty then none else some (String.ofList name, rest)

/-- A key of at most so many parts: its parts but the last, and the last. -/
def parts? : Nat → List Char → Option ((List String × String) × List Char)
  | 0, _ => none
  | count + 1, cs => do
    let (part, cs) ← keyPart? (skipTabs cs)
    match skipTabs cs with
    | '.' :: cs =>
      let ((path, key), cs) ← parts? count cs
      return ((part :: path, key), cs)
    | cs => return (([], part), cs)

/-- How many parts a key may have. -/
def maxParts : Nat := 80

/-- A key: its parts but the last, and the last. -/
def key? (cs : List Char) : Option ((List String × String) × List Char) :=
  parts? maxParts cs

/-- A character of a value without quotes and brackets. -/
def isWord (c : Char) : Bool :=
  c.isAlphanum || c == '_' || c == '-' || c == '+' || c == '.' || c == ':'

/-- The characters of a value without quotes and brackets, and the rest. A blank
between a date and a time belongs to the value. -/
def word (cs : List Char) : List Char × List Char :=
  let (first, rest) := cs.span isWord
  if afterDate? first == some [] then
    match rest with
    | ' ' :: after =>
      let (second, rest') := after.span isWord
      match second with
      | c :: _ => if c.isDigit then (first ++ ' ' :: second, rest') else (first, rest)
      | [] => (first, rest)
    | _ => (first, rest)
  else (first, rest)

/-- The value of a word. -/
def ofWord? (cs : List Char) : Option Toml :=
  if cs == ['t', 'r', 'u', 'e'] then some (.bool true)
  else if cs == ['f', 'a', 'l', 's', 'e'] then some (.bool false)
  else
    match integer? cs with
    | some i => some (.integer i)
    | none =>
      if isFloat cs then some (.float cs)
      else if isMoment cs then some (.moment cs)
      else none

/-- A value without brackets. -/
def scalar? (cs : List Char) : Option (Toml × List Char) :=
  match cs with
  | '"' :: _ | '\'' :: _ => (text? cs).map fun (s, rest) => (.text s, rest)
  | _ =>
    let (w, rest) := word cs
    (ofWord? w).map fun v => (v, rest)

/-- How deep lists and tables in braces may stand inside each other. -/
def maxDepth : Nat := 80

mutual

/-- A value; `fuel` bounds how far it may reach, and `depth` how many brackets may still
be opened. -/
def value? : Nat → Nat → List Char → Option (Toml × List Char)
  | 0, _, _ => none
  | fuel + 1, depth, cs =>
    match cs, depth with
    | '[' :: _, 0 | '\x7b' :: _, 0 => none
    | '[' :: cs, depth + 1 => (items? fuel depth cs).map fun (vs, rest) => (.list vs, rest)
    | '\x7b' :: cs, depth + 1 => do
      let (es, rest) ← entries? fuel depth cs
      return (← ofInline? es, rest)
    | cs, _ => scalar? cs

/-- The items of a list, after its opening bracket, up to and with its end. -/
def items? : Nat → Nat → List Char → Option (List Toml × List Char)
  | 0, _, _ => none
  | fuel + 1, depth, cs => do
    match ← skipFiller? fuel cs with
    | ']' :: cs => return ([], cs)
    | cs => do
      let (v, cs) ← value? fuel depth cs
      match ← skipFiller? fuel cs with
      | ',' :: cs => do
        let (vs, cs) ← items? fuel depth cs
        return (v :: vs, cs)
      | ']' :: cs => return ([v], cs)
      | _ => none

/-- The entries of a table in braces, after its opening brace, up to and with its
end. Line breaks and comments may stand between a key, its sign and its value. -/
def entries? : Nat → Nat → List Char → Option (List (List String × String × Toml) × List Char)
  | 0, _, _ => none
  | fuel + 1, depth, cs => do
    match ← skipFiller? fuel cs with
    | '\x7d' :: cs => return ([], cs)
    | cs => do
      let ((path, key), cs) ← key? cs
      match ← skipFiller? fuel cs with
      | '=' :: cs => do
        let (v, cs) ← value? fuel depth (← skipFiller? fuel cs)
        match ← skipFiller? fuel cs with
        | ',' :: cs => do
          let (es, cs) ← entries? fuel depth cs
          return ((path, key, v) :: es, cs)
        | '\x7d' :: cs => return ([(path, key, v)], cs)
        | _ => none
      | _ => none

end

/-- The key of a header and what follows its brackets. -/
def header? (cs : List Char) : Option (Line × List Char) :=
  match cs with
  | '[' :: cs => do
    let ((path, key), cs) ← key? cs
    match cs with
    | ']' :: ']' :: cs => return (.arrayHeader path key, cs)
    | _ => none
  | cs => do
    let ((path, key), cs) ← key? cs
    match cs with
    | ']' :: cs => return (.header path key, cs)
    | _ => none

/-- A header or an entry, at the start of a line after its blanks. -/
def line? (cs : List Char) : Option (Line × List Char) :=
  match cs with
  | '[' :: cs => header? cs
  | cs => do
    let ((path, key), cs) ← key? cs
    match cs with
    | '=' :: cs =>
      let cs := skipTabs cs
      let (v, rest) ← value? (2 * cs.length + 2) maxDepth cs
      return (.entry path key v, rest)
    | _ => none

/-- The lines of a document, behind those given in reverse order. -/
def lines? : Nat → List Line → List Char → Option (List Line)
  | 0, _, _ => none
  | fuel + 1, before, cs =>
    match skipFiller? cs.length cs with
    | none => none
    | some [] => some before.reverse
    | some cs =>
      match line? cs with
      | none => none
      | some (line, rest) =>
        match afterComment? (skipTabs rest) with
        | none => none
        | some [] => some (line :: before).reverse
        | some rest =>
          match afterBreak? rest with
          | some rest => lines? fuel (line :: before) rest
          | none => none

/-- The table that a document describes. A mark for the order of bytes in front of it
does not count. -/
def parse? (s : String) : Option Toml :=
  let cs :=
    match s.toList with
    | '\ufeff' :: cs => cs
    | cs => cs
  (lines? (cs.length + 1) [] cs).bind ofLines?

end Prepared.Toml

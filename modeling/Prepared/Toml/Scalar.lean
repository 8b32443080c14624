import Prepared.Number.Binary64

/-! Numbers, truth values and moments in time, as TOML writes them. -/
namespace Prepared.Toml

/-- A digit of a base up to sixteen. -/
def digitValue? (base : Nat) (c : Char) : Option Nat :=
  let v? :=
    if '0' ≤ c ∧ c ≤ '9' then some (c.toNat - '0'.toNat)
    else if 'a' ≤ c ∧ c ≤ 'f' then some (c.toNat - 'a'.toNat + 10)
    else if 'A' ≤ c ∧ c ≤ 'F' then some (c.toNat - 'A'.toNat + 10)
    else none
  v?.bind fun v => if v < base then some v else none

/-- The value of digits, where one underscore may stand between two of them. -/
def groupedFrom? (base : Nat) : Nat → List Char → Option Nat
  | acc, [] => some acc
  | acc, '_' :: c :: cs =>
    match digitValue? base c with
    | some v => groupedFrom? base (acc * base + v) cs
    | none => none
  | acc, c :: cs =>
    match digitValue? base c with
    | some v => groupedFrom? base (acc * base + v) cs
    | none => none

/-- The value of at least one digit. -/
def grouped? (base : Nat) : List Char → Option Nat
  | [] => none
  | c :: cs =>
    match digitValue? base c with
    | some v => groupedFrom? base v cs
    | none => none

/-- A sign and what follows it. -/
def splitSign : List Char → Bool × List Char
  | '+' :: cs => (false, cs)
  | '-' :: cs => (true, cs)
  | cs => (false, cs)

/-- Decimal digits without a zero in front. -/
def decimal? : List Char → Option Nat
  | ['0'] => some 0
  | '0' :: _ => none
  | cs => grouped? 10 cs

/-- Whether an integer is one that readers are bound to know. -/
def fits (i : Int) : Bool :=
  decide (-Int.pow 2 127 ≤ i) && decide (i < Int.pow 2 128)

/-- An integer: decimal with an optional sign, or one of three other bases. -/
def integer? (cs : List Char) : Option Int := do
  let i ← match cs with
    | '0' :: 'x' :: ds => (grouped? 16 ds).map Int.ofNat
    | '0' :: 'o' :: ds => (grouped? 8 ds).map Int.ofNat
    | '0' :: 'b' :: ds => (grouped? 2 ds).map Int.ofNat
    | cs =>
      let (negative, ds) := splitSign cs
      (decimal? ds).map fun n => if negative then -(n : Int) else n
  if fits i then some i else none

/-- Whether a decimal is too large for a double precision number. -/
def overflows (significand : Nat) (exponent : Int) : Bool :=
  let top : Int := (Nat.toDigits 10 significand).length + exponent
  if significand = 0 ∨ top < -400 then false
  else if 400 < top then true
  else !(Binary64.ofDecimal false significand exponent).isFinite

/-- Whether the characters are a float that is not too large. -/
def isFloat (cs : List Char) : Bool :=
  let (_, cs) := splitSign cs
  if cs == ['i', 'n', 'f'] || cs == ['n', 'a', 'n'] then true
  else
    let (mantissa, rest) := cs.span fun c => c != 'e' && c != 'E'
    let (whole, point) := mantissa.span (· != '.')
    let fraction? : Option (List Char) :=
      match point with
      | [] => some []
      | _ :: ds => (grouped? 10 ds).map fun _ => ds.filter (· != '_')
    let exponent? : Option Int :=
      match rest with
      | [] => some 0
      | _ :: es =>
        let (negative, ds) := splitSign es
        (grouped? 10 ds).map fun n => if negative then -(n : Int) else n
    match decimal? whole, fraction?, exponent? with
    | some w, some ds, some e =>
      !(point.isEmpty && rest.isEmpty)
        && !overflows (Nat.ofDigitChars 10 ds w) (e - ds.length)
    | _, _, _ => false

/-- Two digits as a number, and the rest. -/
def pair? : List Char → Option (Nat × List Char)
  | a :: b :: cs =>
    if a.isDigit && b.isDigit then some (Nat.ofDigitChars 10 [a, b] 0, cs) else none
  | _ => none

/-- The number of days in a month. -/
def daysIn (year month : Nat) : Nat :=
  if month = 2 then
    if (year % 4 = 0 ∧ year % 100 ≠ 0) ∨ year % 400 = 0 then 29 else 28
  else if month = 4 ∨ month = 6 ∨ month = 9 ∨ month = 11 then 30
  else 31

/-- What follows a date. -/
def afterDate? (cs : List Char) : Option (List Char) := do
  let (century, cs) ← pair? cs
  let (year, cs) ← pair? cs
  match cs with
  | '-' :: cs =>
    let (month, cs) ← pair? cs
    match cs with
    | '-' :: cs =>
      let (day, cs) ← pair? cs
      if 1 ≤ month ∧ month ≤ 12 ∧ 1 ≤ day ∧ day ≤ daysIn (century * 100 + year) month then some cs
      else none
    | _ => none
  | _ => none

/-- What follows the fraction of a second, if there is one. -/
def afterFraction? : List Char → Option (List Char)
  | '.' :: cs =>
    let (ds, rest) := cs.span Char.isDigit
    if ds.isEmpty then none else some rest
  | cs => some cs

/-- What follows a time of day, whose seconds may be left out. -/
def afterTime? (cs : List Char) : Option (List Char) := do
  let (hour, cs) ← pair? cs
  match cs with
  | ':' :: cs =>
    let (minute, cs) ← pair? cs
    if 24 ≤ hour ∨ 60 ≤ minute then none
    else
      match cs with
      | ':' :: cs =>
        let (second, cs) ← pair? cs
        if second ≤ 60 then afterFraction? cs else none
      | cs => some cs
  | _ => none

/-- Whether the characters are a distance to universal time, or nothing. -/
def isOffset : List Char → Bool
  | [] => true
  | ['Z'] | ['z'] => true
  | c :: cs =>
    if c == '+' || c == '-' then
      match pair? cs with
      | some (hour, ':' :: cs) =>
        match pair? cs with
        | some (minute, []) => decide (hour < 24) && decide (minute < 60)
        | _ => false
      | _ => false
    else false

/-- Whether the characters are a date, a time of day or both. -/
def isMoment (cs : List Char) : Bool :=
  match afterDate? cs with
  | some [] => true
  | some (c :: cs) =>
    if c == 'T' || c == 't' || c == ' ' then
      match afterTime? cs with
      | some rest => isOffset rest
      | none => false
    else false
  | none => afterTime? cs == some []

end Prepared.Toml

import Prepared.Sql.Token

/-! The commands of the SQL dialect, and how they are read.

Parameters are numbered from one: a numbered one has its number, a lone one follows
the highest so far, and a named one has the number of its first use. -/
namespace Prepared.Sql

/-- An expression without columns. -/
inductive Expr where
  | literal (v : Value)
  | parameter (index : Nat)
  | absolute (e : Expr)
  deriving DecidableEq, Repr, Inhabited

/-- A column as it is declared. -/
structure Column where
  name : String
  isUnique : Bool := false
  deriving DecidableEq, Repr, Inhabited

/-- Which rows a command is about: all, or those where a column equals something. -/
abbrev Filter := Option (String × Expr)

/-- What a query on a table gives for each row, or for all of them. -/
inductive Selection where
  | all
  /-- Columns, perhaps under another title. -/
  | columns (names : List (String × Option String))
  | count (title : String)
  deriving DecidableEq, Repr, Inhabited

/-- How much a transaction claims when it begins. -/
inductive Claim where
  /-- Nothing before it needs it. -/
  | deferred
  /-- To be the one that writes. -/
  | immediate
  /-- To be alone. -/
  | exclusive
  deriving DecidableEq, Repr, Inhabited

/-- A question that a link answers about itself. -/
inductive Pragma where
  | foreignKeys | journalMode | synchronous | busyTimeout
  deriving DecidableEq, Repr, Inhabited

/-- A command of the dialect. -/
inductive Command where
  /-- No command at all. -/
  | empty
  | createTable (table : String) (columns : List Column) (unlessExists : Bool)
  | dropTable (table : String) (ifExists : Bool)
  | insert (table : String) (columns : Option (List String)) (values : List Expr)
      (replaces : Bool)
  | delete (table : String) (filter : Filter)
  | update (table : String) (column : String) (value : Expr) (filter : Filter)
  /-- Expressions with their titles. -/
  | compute (items : List (Expr × String))
  | query (selection : Selection) (table : String) (filter : Filter)
  | begin (claim : Claim)
  | commit
  | rollback
  | pragma (question : Pragma)
  deriving DecidableEq, Repr, Inhabited

/-- The largest number of a parameter. -/
def maxParameter : Nat := 32766

/-- The most columns that a table or the rows of a query have. -/
def maxColumns : Nat := 2000

/-- How deep an expression is at most, a literal on its own being one deep. -/
def maxDepth : Nat := 1000

/-- The number of a parameter, with the highest number and the named ones so far. -/
def numberOf? (highest : Nat) (named : List (String × Nat)) (marker : String) :
    Option (Nat × List (String × Nat)) :=
  match marker.toList with
  | [] => some (highest + 1, named)
  | c :: cs =>
    if c.isDigit then some (Nat.ofDigitChars 10 (c :: cs) 0, named)
    else
      match named.lookup marker with
      | some n => some (n, named)
      | none => some (highest + 1, (marker, highest + 1) :: named)

/-- A lexeme with its parameter numbered. -/
structure Numbered where
  lexeme : Lexeme
  index : Nat := 0
  deriving DecidableEq, Repr, Inhabited

/-- Numbers the parameters of lexemes; gives back the highest number too. -/
def numberAll? : Nat → List (String × Nat) → List Lexeme → Option (List Numbered × Nat)
  | highest, _, [] => some ([], highest)
  | highest, named, l :: ls =>
    match l.token with
    | .marker m => do
      let (n, named) ← numberOf? highest named m
      if 1 ≤ n ∧ n ≤ maxParameter then
        let (rest, count) ← numberAll? (max highest n) named ls
        return ({ lexeme := l, index := n } :: rest, count)
      else none
    | _ => do
      let (rest, count) ← numberAll? highest named ls
      return ({ lexeme := l } :: rest, count)

namespace Command

/-- Reading takes lexemes from the front and gives back the rest. -/
abbrev Reading (α : Type) := List Numbered → Option (α × List Numbered)

/-- Upper case, for keywords. -/
def upper (s : String) : String :=
  String.ofList (s.toList.map Char.toUpper)

/-- The question of a name. -/
def question? (name : String) : Option Pragma :=
  match upper name with
  | "FOREIGN_KEYS" => some .foreignKeys
  | "JOURNAL_MODE" => some .journalMode
  | "SYNCHRONOUS" => some .synchronous
  | "BUSY_TIMEOUT" => some .busyTimeout
  | _ => none

/-- Takes a keyword. -/
def keyword (k : String) : Reading Unit
  | n :: ns =>
    match n.lexeme.token with
    | .word w => if upper w = k then some ((), ns) else none
    | _ => none
  | [] => none

/-- Takes keywords one after the other. -/
def keywords : List String → Reading Unit
  | [], ns => some ((), ns)
  | k :: ks, ns => do
    let (_, ns) ← keyword k ns
    keywords ks ns

/-- Takes a symbol. -/
def symbol (c : Char) : Reading Unit
  | n :: ns => if n.lexeme.token = .symbol c then some ((), ns) else none
  | [] => none

/-- Words that are no names. -/
def reserved : List String :=
  ["ADD", "ALL", "ALTER", "AND", "AS", "AUTOINCREMENT", "BETWEEN", "CASE", "CHECK", "COLLATE",
   "COMMIT", "CONSTRAINT", "CREATE", "DEFAULT", "DEFERRABLE", "DELETE", "DISTINCT", "DROP", "ELSE",
   "ESCAPE", "EXCEPT", "EXISTS", "FOREIGN", "FROM", "GROUP", "HAVING", "IN", "INDEX", "INSERT",
   "INTERSECT", "INTO", "IS", "ISNULL", "JOIN", "LIMIT", "NOT", "NOTHING", "NOTNULL", "NULL", "ON",
   "OR", "ORDER", "PRIMARY", "REFERENCES", "RETURNING", "SELECT", "SET", "TABLE", "THEN", "TO",
   "TRANSACTION", "UNION", "UNIQUE", "UPDATE", "USING", "VALUES", "WHEN", "WHERE"]

/-- Words that are names, but do not give another title on their own. -/
def joining : List String :=
  ["CROSS", "FULL", "GLOB", "INDEXED", "INNER", "LEFT", "LIKE", "MATCH", "NATURAL", "OUTER",
   "REGEXP", "RIGHT"]

/-- Takes a name. -/
def name : Reading String
  | n :: ns =>
    match n.lexeme.token with
    | .word w => if reserved.contains (upper w) then none else some (w, ns)
    | .quoted s _ => some (s, ns)
    | _ => none
  | [] => none

/-- Takes a name where it can be written as a text as well. -/
def label : Reading String
  | n :: ns =>
    match n.lexeme.token with
    | .literal (.text s) _ => some (s, ns)
    | _ => name (n :: ns)
  | [] => none

/-- Takes one or more items with commas between them. -/
def commaSeparated (item : Reading α) : Nat → Reading (List α)
  | 0, _ => none
  | fuel + 1, ns => do
    let (a, ns) ← item ns
    match symbol ',' ns with
    | some (_, ns) => do
      let (as, ns) ← commaSeparated item fuel ns
      return (a :: as, ns)
    | none => return ([a], ns)

/-- Takes a list of items with commas between them. -/
def items (item : Reading α) : Reading (List α) := fun ns =>
  commaSeparated item ns.length ns

/-- Takes a list of items that are not more than there can be columns. -/
def row (item : Reading α) : Reading (List α) := fun ns => do
  let (as, ns) ← items item ns
  if as.length ≤ maxColumns then return (as, ns) else none

/-- Takes an expression that is not deeper than this. -/
def expr : Nat → Reading Expr
  | 0, _ => none
  | _, [] => none
  | fuel + 1, n :: ns =>
    match n.lexeme.token with
    | .literal v _ => some (.literal v, ns)
    | .quoted s true => some (.literal (.text s), ns)
    | .quoted _ false => none
    | .marker _ => some (.parameter n.index, ns)
    | .symbol '+' => expr fuel ns
    | .symbol '-' =>
      match ns with
      | m :: ns =>
        match m.lexeme.token with
        | .literal _ (some v) => if 1 ≤ fuel then some (.literal v, ns) else none
        | _ => none
      | [] => none
    | .symbol _ => none
    | .word w =>
      match upper w with
      | "NULL" => some (.literal .null, ns)
      | "TRUE" => some (.literal (.integer 1), ns)
      | "FALSE" => some (.literal (.integer 0), ns)
      | "ABS" => do
        let (_, ns) ← symbol '(' ns
        let (e, ns) ← expr fuel ns
        let (_, ns) ← symbol ')' ns
        return (.absolute e, ns)
      | _ => none

/-- Takes what may follow a table's name in order to choose rows. -/
def filter (ns : List Numbered) : Option (Filter × List Numbered) :=
  match keyword "WHERE" ns with
  | none => some (none, ns)
  | some (_, ns) => do
    let (column, ns) ← name ns
    let (_, ns) ← symbol '=' ns
    let (e, ns) ← expr maxDepth ns
    return (some (column, e), ns)

/-- The source of what was taken between two points. -/
def taken (before after : List Numbered) : String :=
  Lexeme.span ((before.take (before.length - after.length)).map (·.lexeme))

/-- Takes another title, if there is one; the word in front of it may be left out. -/
def title? (ns : List Numbered) : Option (Option String × List Numbered) :=
  match keyword "AS" ns with
  | some (_, ns) => (label ns).map fun (s, ns) => (some s, ns)
  | none =>
    match label ns with
    | some (s, rest) =>
      if joining.any fun k => (keyword k ns).isSome then none else some (some s, rest)
    | none => some (none, ns)

/-- Takes an expression with its title: the one it is given, or its source. -/
def titled (ns : List Numbered) : Option ((Expr × String) × List Numbered) := do
  let (e, rest) ← expr maxDepth ns
  let (title, after) ← title? rest
  return ((e, title.getD (taken ns rest)), after)

/-- Takes a column with another title, if it is given one. -/
def titledColumn (ns : List Numbered) : Option ((String × Option String) × List Numbered) := do
  let (column, ns) ← name ns
  let (title, ns) ← title? ns
  return ((column, title), ns)

/-- Takes a declaration of a column. -/
def column (ns : List Numbered) : Option (Column × List Numbered) := do
  let (name, ns) ← label ns
  match keyword "UNIQUE" ns with
  | some (_, ns) => return ({ name, isUnique := true }, ns)
  | none => return ({ name }, ns)

/-- Takes something in brackets. -/
def bracketed (inner : Reading α) : Reading α := fun ns => do
  let (_, ns) ← symbol '(' ns
  let (a, ns) ← inner ns
  let (_, ns) ← symbol ')' ns
  return (a, ns)

/-- Takes what a query on a table selects. -/
def selection (ns : List Numbered) : Option (Selection × List Numbered) :=
  match symbol '*' ns with
  | some (_, ns) => some (.all, ns)
  | none =>
    match keyword "COUNT" ns with
    | some (_, rest) => do
      let (_, rest) ← symbol '(' rest
      let (_, rest) ← symbol '*' rest
      let (_, rest) ← symbol ')' rest
      let (title, after) ← title? rest
      return (.count (title.getD (taken ns rest)), after)
    | none => do
      let (cs, ns) ← row titledColumn ns
      return (.columns cs, ns)

/-- Takes a query, after its first word. -/
def select (ns : List Numbered) : Option (Command × List Numbered) :=
  let onTable : Option (Command × List Numbered) := do
    let (s, ns) ← selection ns
    let (_, ns) ← keyword "FROM" ns
    let (table, ns) ← label ns
    let (f, ns) ← filter ns
    return (.query s table f, ns)
  match onTable with
  | some r => some r
  | none => do
    let (items, ns) ← row titled ns
    return (.compute items, ns)

/-- Takes the rest of an insertion, after its first words. -/
def insertion (replaces : Bool) (ns : List Numbered) : Option (Command × List Numbered) := do
  let (_, ns) ← keyword "INTO" ns
  let (table, ns) ← label ns
  let (columns, ns) :=
    match bracketed (items label) ns with
    | some (cs, ns) => (some cs, ns)
    | none => (none, ns)
  let (_, ns) ← keyword "VALUES" ns
  let (values, ns) ← bracketed (items (expr maxDepth)) ns
  return (.insert table columns values replaces, ns)

/-- Takes words that may stand before a name, and tells whether they did. The first one
does not stand there without the others. -/
def optional (first : String) (ks : List String) : Reading Bool := fun ns =>
  match keyword first ns with
  | some (_, ns) => (keywords ks ns).map fun (_, ns) => (true, ns)
  | none => some (false, ns)

/-- Takes what may follow the first word of a command about transactions. -/
def transactionName (ns : List Numbered) : List Numbered :=
  match keyword "TRANSACTION" ns with
  | some (_, ns) =>
    match label ns with
    | some (_, ns) => ns
    | none => ns
  | none => ns

/-- Takes how much a transaction claims. -/
def claim (ns : List Numbered) : Claim × List Numbered :=
  match keyword "DEFERRED" ns, keyword "IMMEDIATE" ns, keyword "EXCLUSIVE" ns with
  | some (_, ns), _, _ => (.deferred, ns)
  | _, some (_, ns), _ => (.immediate, ns)
  | _, _, some (_, ns) => (.exclusive, ns)
  | _, _, _ => (.deferred, ns)

/-- Takes a command by its first word. -/
def command : Reading Command
  | [] => some (.empty, [])
  | n :: ns =>
    match n.lexeme.token with
    | .word w =>
      match upper w with
      | "SELECT" => select ns
      | "INSERT" =>
        match keywords ["OR", "REPLACE"] ns with
        | some (_, ns) => insertion true ns
        | none => insertion false ns
      | "REPLACE" => insertion true ns
      | "DELETE" => do
        let (_, ns) ← keyword "FROM" ns
        let (table, ns) ← label ns
        let (f, ns) ← filter ns
        return (.delete table f, ns)
      | "UPDATE" => do
        let (table, ns) ← label ns
        let (_, ns) ← keyword "SET" ns
        let (column, ns) ← label ns
        let (_, ns) ← symbol '=' ns
        let (e, ns) ← expr maxDepth ns
        let (f, ns) ← filter ns
        return (.update table column e f, ns)
      | "CREATE" => do
        let (_, ns) ← keyword "TABLE" ns
        let (unlessExists, ns) ← optional "IF" ["NOT", "EXISTS"] ns
        let (table, ns) ← label ns
        let (columns, ns) ← bracketed (row column) ns
        return (.createTable table columns unlessExists, ns)
      | "DROP" => do
        let (_, ns) ← keyword "TABLE" ns
        let (ifExists, ns) ← optional "IF" ["EXISTS"] ns
        let (table, ns) ← label ns
        return (.dropTable table ifExists, ns)
      | "BEGIN" =>
        let (c, ns) := claim ns
        some (.begin c, transactionName ns)
      | "COMMIT" | "END" => some (.commit, transactionName ns)
      | "ROLLBACK" => some (.rollback, transactionName ns)
      | "PRAGMA" => do
        let (name, ns) ← label ns
        return (.pragma (← question? name), ns)
      | _ => none
    | _ => none

/-- Drops semicolons in front. -/
def skipSemicolons (ns : List Numbered) : List Numbered :=
  ns.dropWhile fun n => n.lexeme.token == .symbol ';'

/-- The command of a SQL text and its number of parameters. There may be semicolons
around it, but no second command after it. -/
def ofString? (sql : String) : Option (Command × Nat) := do
  let lexemes ← Lexeme.ofString? sql
  let (ns, count) ← numberAll? 0 [] lexemes
  let (c, rest) ← command (skipSemicolons ns)
  match rest with
  | [] => return (c, count)
  | n :: _ =>
    if n.lexeme.token = .symbol ';' ∧ (skipSemicolons rest).isEmpty then return (c, count)
    else none

end Command

end Prepared.Sql

import Prepared.Text.Blank

/-! Statement kinds.

A text is classified by its first three bytes after leading blanks, compared
without regard to ASCII case; every keyword of the table is told apart by three
ASCII letters. The kind alone decides whether programs with the same text share
one compiled statement. -/
namespace Prepared

/-- What a SQL text does, as far as its leading keyword tells. -/
inductive Kind where
  | select | insert | update | delete | replace | attach | begin | commit | abort
  | pragma | ddl | unprepared | other
  deriving DecidableEq, Repr, Inhabited

namespace Kind

/-- The leading letters of each keyword, in upper case. -/
def keywords : List (String × Kind) :=
  [("SEL", .select), ("INS", .insert), ("UPD", .update), ("DEL", .delete),
   ("REP", .replace), ("ATT", .attach), ("BEG", .begin), ("COM", .commit),
   ("END", .commit), ("ROL", .abort), ("PRA", .pragma), ("CRE", .ddl),
   ("DRO", .ddl), ("ALT", .ddl), ("ANA", .unprepared), ("DET", .unprepared)]

/-- The characters that make up the first `n` bytes of a text, if the text has
that many and the last of them ends a character. -/
def leadingBytes : Nat → List Char → Option (List Char)
  | 0, _ => some []
  | _ + 1, [] => none
  | n + 1, c :: cs =>
    if c.utf8Size ≤ n + 1 then (leadingBytes (n + 1 - c.utf8Size) cs).map (c :: ·) else none

/-- The kind whose keyword starts with these three letters. -/
def ofLetters (letters : List Char) : Kind :=
  (keywords.lookup (String.ofList (letters.map Char.toUpper))).getD .other

/-- The kind of a SQL text. -/
def classify (sql : String) : Kind :=
  match leadingBytes 3 (Text.trimLeft sql.toList) with
  | some letters => ofLetters letters
  | none => .other

/-- Whether programs with the same text may share a compiled statement. -/
def isShared : Kind → Bool
  | .select | .update => false
  | _ => true

/-- The stable label of a kind. -/
def label : Kind → String
  | .select => "select"
  | .insert => "insert"
  | .update => "update"
  | .delete => "delete"
  | .replace => "replace"
  | .attach => "attach"
  | .begin => "begin"
  | .commit => "commit"
  | .abort => "abort"
  | .pragma => "pragma"
  | .ddl => "ddl"
  | .unprepared => "unprepared"
  | .other => "other"

/-- Every kind, in the order of declaration. -/
def all : List Kind :=
  [.select, .insert, .update, .delete, .replace, .attach, .begin, .commit, .abort,
   .pragma, .ddl, .unprepared, .other]

/-- The kind with a given label. -/
def ofLabel? (label : String) : Option Kind :=
  all.find? fun k => k.label == label

theorem mem_all (k : Kind) : k ∈ all := by cases k <;> decide

theorem ofLabel?_label (k : Kind) : ofLabel? k.label = some k := by
  cases k <;> rfl

end Kind

end Prepared

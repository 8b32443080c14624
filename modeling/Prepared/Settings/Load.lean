import Prepared.File.Tree
import Prepared.Settings.Basic
import Prepared.Toml.Reader

/-! Settings from a TOML text or from a file.

A text may name the two settings and nothing else. A file is looked at only if its
path is not too long; it has a largest size and must be UTF-8. -/
namespace Prepared.Settings

/-- The largest settings file, in bytes. -/
def maxFileSize : Nat := 1048576

/-- The settings of a table, not yet checked for validity. -/
def ofToml? (t : Toml) : Option Settings := do
  if t.keys.all ["max_sql_cache_size", "log_statement_lifecycle"].contains then
    return {
      capacity := ← match t.member? "max_sql_cache_size" with
        | some v => v.toUInt64?
        | none => some 250
      logsLifecycle := ← match t.member? "log_statement_lifecycle" with
        | some v => v.toBool?
        | none => some false }
  else none

/-- Valid settings from a text. -/
def ofText (text : String) : Except SettingsError Settings :=
  match (Toml.parse? text).bind ofToml? with
  | some s => s.validate
  | none => .error (.parse "not a settings text")

/-- Valid settings from a file. -/
def load (tree : Tree) (path : String) : Except SettingsError Settings :=
  match Path.excess? path with
  | some .path => .error (.invalid .pathTooLong)
  | some .component => .error (.invalid .componentTooLong)
  | none =>
    match tree.read? path with
    | none => .error (.io "the file cannot be read")
    | some content =>
      if maxFileSize < content.size then .error (.invalid .fileTooLarge)
      else
        match String.fromUTF8? content with
        | some text => ofText text
        | none => .error (.invalid .notUtf8)

end Prepared.Settings

/-! Settings of a connection's cache, and what can be wrong with settings. -/
namespace Prepared

/-- The largest capacity a cache may have. -/
def maxCapacity : Nat := 250

/-- The settings of a connection's cache. -/
structure Settings where
  /-- The capacity; zero turns the cache off. -/
  capacity : UInt64 := 250
  /-- Whether steps in the life of a statement are reported. -/
  logsLifecycle : Bool := false
  deriving DecidableEq, Repr, Inhabited

/-- What makes settings unacceptable. -/
inductive SettingsFault where
  | pathTooLong
  | componentTooLong
  | fileTooLarge
  | notUtf8
  | capacityTooLarge
  /-- A fault in somebody else's words. -/
  | stated (fault : String)
  deriving DecidableEq, Repr, Inhabited

/-- Why settings were not obtained. -/
inductive SettingsError where
  /-- The file could not be read. -/
  | io (reason : String)
  /-- The text is not a settings text. -/
  | parse (reason : String)
  | invalid (fault : SettingsFault)
  deriving DecidableEq, Repr, Inhabited

namespace SettingsFault

/-- The text of a fault. -/
def message : SettingsFault → String
  | pathTooLong => "config path exceeds max length"
  | componentTooLong => "config path component too long"
  | fileTooLarge => "config file exceeds size limit"
  | notUtf8 => "config file must be utf-8"
  | capacityTooLarge => "max_sql_cache_size must be at most " ++ toString maxCapacity
  | stated fault => fault

end SettingsFault

namespace SettingsError

/-- The text of an error. -/
def message : SettingsError → String
  | io reason => "config io error: " ++ reason
  | parse reason => "config parse error: " ++ reason
  | invalid fault => "invalid config: " ++ fault.message

end SettingsError

namespace Settings

/-- Settings are valid when the capacity is within its bound. -/
def IsValid (s : Settings) : Prop :=
  s.capacity.toNat ≤ maxCapacity

instance (s : Settings) : Decidable s.IsValid :=
  inferInstanceAs (Decidable (_ ≤ _))

/-- Accepts valid settings only. -/
def validate (s : Settings) : Except SettingsError Settings :=
  if s.IsValid then .ok s else .error (.invalid .capacityTooLarge)

theorem isValid_default : IsValid {} := by decide

end Settings

end Prepared

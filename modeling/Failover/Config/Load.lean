import Failover.Config.Check
import Failover.Config.Toml.File
import Failover.Endpoint.Set
import Failover.Text.Utf8

/-! Settings from a TOML file: read as they are, or read and checked. -/
namespace Failover

/-- Why there are no settings, or no engine of them. -/
inductive ConfigError where
  | notFound
  | notText
  | unreadable
  | faults (found : List SettingsFault)
  | endpoints (error : SelectionError)

def ConfigError.message : ConfigError → String
  | .notFound => "NotFound"
  | .notText => "InvalidData"
  | .unreadable => "Parse"
  | .faults found => "Validation failed: " ++ ", ".intercalate (found.map SettingsFault.message)
  | .endpoints error => "Invalid endpoints: " ++ error.message

namespace Settings

/-- The settings if they have no fault. -/
def checked (s : Settings) : Except ConfigError Settings :=
  match s.faults with
  | [] => .ok s
  | found => .error (.faults found)

/-- The settings that a text holds, whatever their faults. -/
def ofText (text : String) : Except ConfigError Settings :=
  match (Toml.read? text).bind (Document.settings? .file) with
  | some s => .ok s
  | none => .error .unreadable

/-- The settings that a text holds, if they have no fault. -/
def ofCheckedText (text : String) : Except ConfigError Settings := ofText text >>= checked

/-- The text of a file, of which `none` says that it is not there. -/
def fileText (file : Option (List UInt8)) : Except ConfigError String :=
  match file with
  | none => .error .notFound
  | some bytes =>
    match Utf8.strict? bytes with
    | some text => .ok text
    | none => .error .notText

/-- The settings in a file, whatever their faults. -/
def ofFile (file : Option (List UInt8)) : Except ConfigError Settings := fileText file >>= ofText

/-- The settings in a file, if they have no fault. -/
def ofCheckedFile (file : Option (List UInt8)) : Except ConfigError Settings :=
  fileText file >>= ofCheckedText

end Settings
end Failover

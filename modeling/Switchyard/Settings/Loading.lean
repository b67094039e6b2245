import Switchyard.Settings.Decoding
import Switchyard.Settings.Validation
import Switchyard.Text.Utf8
import Switchyard.Toml.Reader

/-!
# Loading settings

Settings are read from the text of a document or from the bytes of a file, and checked.
-/

namespace Switchyard

/-- Why settings could not be loaded. -/
inductive LoadFault where
  /-- there is no file -/
  | missing
  /-- the file is no text -/
  | notText
  /-- the text is no document, or the document holds no settings -/
  | malformed
  | invalid (faults : List SettingFault)
  deriving DecidableEq

namespace Settings

/-- The settings, if nothing is wrong with them. -/
def checked (s : Settings) : Except LoadFault Settings :=
  match s.faults with
  | [] => .ok s
  | faults => .error (.invalid faults)

/-- The settings in the text of a document. -/
def ofText (text : String) : Except LoadFault Settings :=
  match (Toml.read? text).bind ofToml? with
  | none => .error .malformed
  | some s => s.checked

/-- The settings in a file with these bytes, if there is one. -/
def ofFile : Option ByteArray → Except LoadFault Settings
  | none => .error .missing
  | some bytes =>
    match Text.Utf8.decode bytes with
    | .error _ => .error .notText
    | .ok text => ofText text

end Settings

end Switchyard

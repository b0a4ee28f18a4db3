/-
# Files as they are found

What may be found under the name of a file, and its text.
-/

import SettingsBroker.Error
import SettingsBroker.Text.Utf8

namespace SettingsBroker

/-- What is found under the name of a file. -/
inductive FileContent where
  | missing
  | directory
  | file (bytes : Text.Bytes)
  deriving DecidableEq, Inhabited, Repr

/-- The text of a file. -/
def FileContent.text : FileContent → Except Failure String
  | .missing => .error (.io .notFound)
  | .directory => .error (.io .isDirectory)
  | .file bytes =>
    match Text.ofUtf8? bytes with
    | some text => .ok text
    | none => .error (.io .notText)

end SettingsBroker

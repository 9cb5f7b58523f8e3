/-
The settings in a file.

What the text of a file says is a matter of its format. The settings that come
of it are checked, whatever the format is.
-/
import ProofBatch.FileTree
import ProofBatch.Settings

namespace ProofBatch

/-- A format for settings: what a text says, whatever the values are, or why it
says nothing. -/
abbrev SettingsFormat := String → Except String FileSettings

namespace FileSettings

/-- The settings in a text. -/
def ofText (format : SettingsFormat) (text : String) :
    Except SettingsError FileSettings :=
  match format text with
  | .error problem => .error (.malformed problem)
  | .ok file =>
    match file.validate with
    | .ok () => .ok file
    | .error e => .error e

/-- The settings in a file. -/
def load (format : SettingsFormat) (t : FileTree) (file : Path) :
    Except SettingsError FileSettings :=
  match t.readText file with
  | .error e => .error (.unreadable e)
  | .ok text => ofText format text

end FileSettings

end ProofBatch

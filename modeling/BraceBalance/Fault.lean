import BraceBalance.FileTree.Error
import BraceBalance.Settings.Decode
import BraceBalance.Settings.Validation
import BraceBalance.Text.Packed

/-!
# Faults

What stops a run: a file that cannot be read, settings that cannot be used, or a path that
cannot be written as JSON. An unbalanced text never does; it is what a run tells.
-/

namespace BraceBalance

/-- Why a settings file is no layer. -/
inductive LayerFault where
  /-- The file, by the path that messages show, cannot be read or is not UTF-8. -/
  | unreadable (path : Text) (error : FileError)
  | notToml
deriving DecidableEq

def LayerFault.message : LayerFault → Text
  | unreadable path error => error.message ++ "\n in " ++ path ++ " TOML file"
  | notToml => "TOML parse error"

/-- What stops a run. -/
inductive Fault where
  | file (path : Packed) (error : FileError)
  /-- A path is to be written as JSON and is no text. -/
  | pathNotText
  | invalidSettings (fault : SettingsFault)
  /-- Settings files cannot be read; the file of the lowest layer comes first. -/
  | unreadableLayers (faults : List LayerFault)
  /-- A value in the settings does not fit. -/
  | undecodable (error : DecodeError)
  /-- A variable of the environment would be cut inside a character. -/
  | unusableVariable
  /-- There is no place for settings that all projects share. -/
  | noGlobalDirectory
  | settings (message : Text)
deriving DecidableEq

namespace Fault

/-- The fault lies in a file, not in settings. -/
def isFileError : Fault → Bool
  | file _ _ => true
  | _ => false

/-- The exit status of a run that stops with the fault. -/
def status : Fault → Nat
  | unusableVariable => 101
  | _ => 1

def message : Fault → Text
  | file path .notText => path.shown ++ " is not valid UTF-8 text"
  | file path error => "Cannot read " ++ path.shown ++ ": " ++ error.message
  | pathNotText => "JSON error: path contains invalid UTF-8 characters"
  | invalidSettings fault => "Config error: " ++ fault.message
  | unreadableLayers faults =>
      "Config error: Configuration error: " ++ Text.join "\n" (faults.map LayerFault.message)
  | undecodable error => "Config error: Configuration error: " ++ error.message
  | unusableVariable => "a variable of the environment would be cut inside a character"
  | noGlobalDirectory => "Config error: Cannot determine global config directory"
  | settings message => "Config error: " ++ message

end Fault

end BraceBalance

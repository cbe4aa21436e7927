import BraceBalance.Glob.Pattern
import BraceBalance.Settings.Basic
import BraceBalance.Text.Quoted

/-!
# Valid settings

Settings of the right types may still make no sense. The checks come in a fixed order and
the first that fails is told.
-/

namespace BraceBalance

inductive SettingsFault where
  | emptyMarker
  | braceInMarker (marker : Text)
  /-- No file is small enough. -/
  | zeroMaxFileSize
  /-- An exclude pattern cannot be read. -/
  | excludePattern (pattern : Text) (error : Glob.PatternError)
deriving DecidableEq

def SettingsFault.message : SettingsFault → Text
  | emptyMarker => "analysis.comment_marker must not be empty"
  | braceInMarker marker =>
      "analysis.comment_marker must not contain a brace, got " ++ marker.quoted
  | zeroMaxFileSize => "scan.max_file_size must be greater than 0"
  | excludePattern pattern error =>
      "Invalid exclude pattern '" ++ pattern ++ "': " ++ error.message

/-- Reads exclude patterns; the first that cannot be read is at fault. -/
def ScanSettings.excludePatterns (scan : ScanSettings) :
    Except SettingsFault (List Glob.Pattern) :=
  scan.exclude.mapM fun pattern =>
    (Glob.Pattern.parse pattern).mapError (.excludePattern pattern)

/-- Stops at the first exclude pattern that cannot be read, as `excludePatterns` does, and
keeps none of the others. -/
def ScanSettings.checkExclude (scan : ScanSettings) : Except SettingsFault Unit := do
  for pattern in scan.exclude do
    let _ ← (Glob.Pattern.parse pattern).mapError (SettingsFault.excludePattern pattern)

namespace Settings

def validate (settings : Settings) : Except SettingsFault Unit := do
  let marker := settings.analysis.commentMarker
  if marker.isEmpty then throw .emptyMarker
  if marker.contains '{' || marker.contains '}' then throw (.braceInMarker marker)
  if settings.scan.maxFileSize = 0 then throw .zeroMaxFileSize
  settings.scan.checkExclude

end Settings

end BraceBalance

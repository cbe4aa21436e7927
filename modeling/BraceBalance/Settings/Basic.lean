import BraceBalance.Text.Basic

/-!
# Settings

The settings of a run, in sections, and their built-in values.
-/

namespace BraceBalance

inductive OutputFormat where
  | text
  | json
deriving DecidableEq

namespace OutputFormat

def name : OutputFormat → Text
  | text => "text"
  | json => "json"

/-- The format with a given name; capital and small letters are the same. -/
def ofName? (name : Text) : Option OutputFormat :=
  if name.asciiLower = "text" then some text
  else if name.asciiLower = "json" then some json
  else none

/-- What is said of a name that no format has. -/
def unknownMessage (name : Text) : Text :=
  "Unknown output format: " ++ name ++ ". Valid values: text, json"

end OutputFormat

structure AnalysisSettings where
  commentMarker : Text
deriving DecidableEq

structure ScanSettings where
  extensions : List Text
  /-- Patterns for paths below the directory that are not scanned. -/
  exclude : List Text
  /-- The largest size in bytes of a file that is scanned. -/
  maxFileSize : Nat
deriving DecidableEq

structure OutputSettings where
  format : OutputFormat
  trace : Bool
deriving DecidableEq

structure CheckSettings where
  failOnImbalance : Bool
deriving DecidableEq

structure Settings where
  version : Text
  analysis : AnalysisSettings
  scan : ScanSettings
  output : OutputSettings
  check : CheckSettings
deriving DecidableEq

namespace ScanSettings

def defaultExtensions : List Text :=
  ["rs", "ts", "tsx", "js", "jsx", "mjs", "cjs", "c", "h", "cpp", "hpp", "cc", "cs", "java",
    "kt", "go", "swift", "scala", "php", "dart"]

/-- Patterns for what lies below the directories of dependencies, build products and
repositories. -/
def defaultExclude : List Text :=
  ["**/node_modules/**", "**/target/**", "**/dist/**", "**/build/**", "**/.git/**",
    "**/vendor/**"]

/-- One mebibyte. -/
def defaultMaxFileSize : Nat := 1048576

end ScanSettings

def Settings.default : Settings where
  version := "1.0"
  analysis := { commentMarker := "//" }
  scan :=
    { extensions := ScanSettings.defaultExtensions
      exclude := ScanSettings.defaultExclude
      maxFileSize := ScanSettings.defaultMaxFileSize }
  output := { format := .text, trace := true }
  check := { failOnImbalance := false }

end BraceBalance

import BraceBalance.Settings.Basic
import BraceBalance.Text.Packed
import BraceBalance.Toml.Writer

/-!
# Settings as TOML

Settings are written as a document with one table for each section. A settings file
begins with a comment above the built-in settings.
-/

namespace BraceBalance

/-- The name of the settings file of a project, as it is written. -/
def projectFileText : Text := ".bracecheck.toml"

def projectFileName : Packed := .ofText projectFileText

namespace Settings

/-- The entries before all tables of settings. -/
def tomlEntries (settings : Settings) : List (Text × Toml.Scalar) :=
  [("version", .string settings.version)]

/-- The entries of the tables that settings are written as. -/
def tomlTables (settings : Settings) : List (Text × List (Text × Toml.Scalar)) :=
  [("analysis", [("comment_marker", .string settings.analysis.commentMarker)]),
    ("scan",
      [("extensions", .strings settings.scan.extensions),
        ("exclude", .strings settings.scan.exclude),
        ("max_file_size", .integer settings.scan.maxFileSize)]),
    ("output",
      [("format", .string settings.output.format.name),
        ("trace", .boolean settings.output.trace)]),
    ("check", [("fail_on_imbalance", .boolean settings.check.failOnImbalance)])]

def renderToml (settings : Settings) : Text :=
  Toml.renderDocument settings.tomlEntries settings.tomlTables

/-- Settings as TOML, if their numbers can be written. -/
def renderToml? (settings : Settings) : Option Text :=
  Toml.renderDocument? settings.tomlEntries settings.tomlTables

def initialFile : Text :=
  "# bracecheck configuration\n"
    ++ "# Project settings in " ++ projectFileText ++ " override the global file.\n"
    ++ "# [scan] applies only when a directory is passed to `bracecheck check`.\n\n"
    ++ default.renderToml

end Settings

end BraceBalance

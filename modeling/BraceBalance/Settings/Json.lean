import BraceBalance.Json.Basic
import BraceBalance.Settings.Basic

/-!
# Settings as JSON
-/

namespace BraceBalance

/-- Settings as an object with one member for each section. -/
def Settings.toJson (settings : Settings) : Json :=
  .object
    [("version", .string settings.version),
      ("analysis", .object [("comment_marker", .string settings.analysis.commentMarker)]),
      ("scan", .object
        [("extensions", .array (settings.scan.extensions.map .string)),
          ("exclude", .array (settings.scan.exclude.map .string)),
          ("max_file_size", .number settings.scan.maxFileSize)]),
      ("output", .object
        [("format", .string settings.output.format.name),
          ("trace", .bool settings.output.trace)]),
      ("check", .object [("fail_on_imbalance", .bool settings.check.failOnImbalance)])]

def Settings.renderJson (settings : Settings) : Text :=
  settings.toJson.render

/-- Settings as JSON, if their numbers can be written. -/
def Settings.renderJson? (settings : Settings) : Option Text :=
  settings.toJson.render?

end BraceBalance

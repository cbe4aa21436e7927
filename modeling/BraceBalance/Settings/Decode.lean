import BraceBalance.Settings.Basic
import BraceBalance.Settings.Tree

/-!
# Decoding settings

A tree of values is decoded into settings. What no layer sets has its built-in value, and
unknown keys are skipped. A section may be given as a table, or as a list of its values in
their order. The values of a table are decoded in the order of their keys, and the first
that does not fit is at fault.
-/

namespace BraceBalance

/-- Why a value does not fit. -/
inductive DecodeCause where
  | wrongType (found expected : Text)
  /-- The value has the right type and is out of range. -/
  | outOfRange (found expected : Text)
  | unknownFormat (name : Text)
deriving DecidableEq

/-- A value that does not fit, its path, and where it comes from. -/
structure DecodeError where
  cause : DecodeCause
  path : List Text
  origin : Origin
deriving DecidableEq

def DecodeCause.message : DecodeCause → Text
  | wrongType found expected => "invalid type: found " ++ found ++ ", expected " ++ expected
  | outOfRange found expected => "invalid value " ++ found ++ ", expected " ++ expected
  | unknownFormat name =>
      "unknown variant: found `" ++ name ++ "`, expected ``text` or `json``"

/-- A path as the place that an origin gives it. -/
def Origin.renderPath (path : List Text) : Origin → Text
  | file _ => Text.join "." ("default" :: path)
  | environment => Text.asciiUpper (Text.join "." path)

def Origin.message : Origin → Text
  | file path => path ++ " TOML file"
  | environment => "`BRACECHECK_` environment variable(s)"

def DecodeError.message (error : DecodeError) : Text :=
  error.cause.message ++ " for key " ++ Text.quoted (error.origin.renderPath error.path)
    ++ " in " ++ error.origin.message

/-- What a value is called when another type is expected. -/
def Tree.describe : Tree → Text
  | scalar _ (.text value) => "string " ++ value.quoted
  | scalar _ (.character value) => "string " ++ Text.quoted [value]
  | scalar _ (.boolean true) => "bool true"
  | scalar _ (.boolean false) => "bool false"
  | scalar _ (.unsigned value) => "unsigned int `" ++ Text.ofNat value ++ "`"
  | scalar _ (.signed value) => "signed int `" ++ Text.ofInt value ++ "`"
  | scalar _ (.float value) => "float `" ++ value.render ++ "`"
  | sequence _ _ => "sequence"
  | table _ _ => "map"

namespace Decode

def within (key : Text) (error : DecodeError) : DecodeError :=
  { error with path := key :: error.path }

def refuse {α : Type} (expected : Text) (tree : Tree) : Except DecodeError α :=
  .error ⟨.wrongType tree.describe expected, [], tree.origin⟩

def text (tree : Tree) : Except DecodeError Text :=
  match tree with
  | .scalar _ (.text value) => .ok value
  | .scalar _ (.character value) => .ok [value]
  | _ => refuse "a string" tree

def boolean (tree : Tree) : Except DecodeError Bool :=
  match tree with
  | .scalar _ (.boolean value) => .ok value
  | _ => refuse "a boolean" tree

def natural (tree : Tree) : Except DecodeError Nat :=
  match tree with
  | .scalar _ (.unsigned value) => .ok value
  | .scalar _ (.signed (.ofNat value)) => .ok value
  | .scalar origin (.signed (.negSucc _)) =>
      .error ⟨.outOfRange tree.describe "u64", [], origin⟩
  | _ => refuse "u64" tree

/-- Strings, the first of which has a given number. -/
def textsFrom (number : Nat) : List Tree → Except DecodeError (List Text)
  | [] => .ok []
  | element :: rest => do
      let first ← (text element).mapError (within (Text.ofNat number))
      return first :: (← textsFrom (number + 1) rest)

def texts (tree : Tree) : Except DecodeError (List Text) :=
  match tree with
  | .sequence _ elements => textsFrom 0 elements
  | _ => refuse "a sequence" tree

def formatOfName? (name : Text) : Option OutputFormat :=
  if name = OutputFormat.text.name then some .text
  else if name = OutputFormat.json.name then some .json
  else none

/-- An output format. A table with a format as its first key fits as little as any other
table, but only what the key holds is at fault. -/
def format (tree : Tree) : Except DecodeError OutputFormat :=
  match tree with
  | .scalar origin (.text name) =>
      match formatOfName? name with
      | some format => .ok format
      | none => .error ⟨.unknownFormat name, [], origin⟩
  | .table origin [] => .error ⟨.wrongType tree.describe "enum", [], origin⟩
  | .table _ ((name, value) :: _) =>
      match formatOfName? name with
      | some _ => (refuse "unit" value).mapError (within name)
      | none => .error ⟨.unknownFormat name, [name], value.origin⟩
  | _ => refuse "enum OutputFormat" tree

/-- Where the values of a section stand: at keys or at places. -/
inductive Section where
  | byKey (members : List (Text × Tree))
  | byPlace (elements : List Tree)

def sectionOf (expected : Text) (tree : Tree) : Except DecodeError Section :=
  match tree with
  | .table _ members => .ok (.byKey members)
  | .sequence _ elements => .ok (.byPlace elements)
  | _ => refuse expected tree

/-- The value at a key, or else at a place, of a section; without it the default. -/
def Section.field {α : Type} (content : Section) (key : Text) (place : Nat)
    (decode : Tree → Except DecodeError α) (default : α) : Except DecodeError α :=
  match content with
  | .byKey members =>
      match members.lookup key with
      | some value => (decode value).mapError (within key)
      | none => .ok default
  | .byPlace elements =>
      match elements[place]? with
      | some value => (decode value).mapError (within (Text.ofNat place))
      | none => .ok default

def analysis (tree : Tree) : Except DecodeError AnalysisSettings := do
  let content ← sectionOf "struct AnalysisConfig" tree
  return { commentMarker :=
    ← content.field "comment_marker" 0 text Settings.default.analysis.commentMarker }

def check (tree : Tree) : Except DecodeError CheckSettings := do
  let content ← sectionOf "struct CheckConfig" tree
  return { failOnImbalance :=
    ← content.field "fail_on_imbalance" 0 boolean Settings.default.check.failOnImbalance }

def output (tree : Tree) : Except DecodeError OutputSettings := do
  let content ← sectionOf "struct OutputConfig" tree
  let format ← content.field "format" 0 format Settings.default.output.format
  let trace ← content.field "trace" 1 boolean Settings.default.output.trace
  return { format, trace }

/-- Which files of a directory are scanned. The places of the values are not in the order
of their keys, so that lists are decoded in another order than tables. -/
def scan (tree : Tree) : Except DecodeError ScanSettings := do
  let content ← sectionOf "struct ScanConfig" tree
  let start := Settings.default.scan
  match content with
  | .byKey _ =>
      let exclude ← content.field "exclude" 1 texts start.exclude
      let extensions ← content.field "extensions" 0 texts start.extensions
      let maxFileSize ← content.field "max_file_size" 2 natural start.maxFileSize
      return { extensions, exclude, maxFileSize }
  | .byPlace _ =>
      let extensions ← content.field "extensions" 0 texts start.extensions
      let exclude ← content.field "exclude" 1 texts start.exclude
      let maxFileSize ← content.field "max_file_size" 2 natural start.maxFileSize
      return { extensions, exclude, maxFileSize }

end Decode

def Settings.decode (layer : Layer) : Except DecodeError Settings := do
  let content := Decode.Section.byKey layer
  let start := Settings.default
  let analysis ← content.field "analysis" 1 Decode.analysis start.analysis
  let check ← content.field "check" 4 Decode.check start.check
  let output ← content.field "output" 3 Decode.output start.output
  let scan ← content.field "scan" 2 Decode.scan start.scan
  let version ← content.field "version" 0 Decode.text start.version
  return { version, analysis, scan, output, check }

end BraceBalance

import BraceBalance.Proofs.FileTree.WorkingDirectory
import BraceBalance.Proofs.Toml.DocumentRoundTrip

/-!
# Written settings are loaded back

Settings that are written to a file are loaded from it as they were, for all texts in them, and
if they are not valid the same fault is found. The one exception is the size of files: it is a
natural number of 64 bits, and the writer writes all of them, but the integers that the reader
takes have a sign. Settings with a larger size make a file that is not TOML.
-/

namespace BraceBalance

/-! ## Layers -/

namespace Tree

theorem elementsOfToml?_strings (origin : Origin) (texts : List Text) :
    elementsOfToml? origin (texts.map .string) =
      some (texts.map fun text => .scalar origin (.text text)) := by
  induction texts with
  | nil => rfl
  | cons text texts ih =>
      rw [List.map_cons, elementsOfToml?, ih, ofToml?]
      rfl

end Tree

namespace Settings

/-- Settings as the members of a document. -/
def tomlMembers (settings : Settings) : List (Text × Toml.Value) :=
  [("version", .string settings.version),
    ("analysis", .table [("comment_marker", .string settings.analysis.commentMarker)]),
    ("scan", .table
      [("extensions", .array (settings.scan.extensions.map .string)),
        ("exclude", .array (settings.scan.exclude.map .string)),
        ("max_file_size", .integer settings.scan.maxFileSize)]),
    ("output", .table
      [("format", .string settings.output.format.name),
        ("trace", .boolean settings.output.trace)]),
    ("check", .table [("fail_on_imbalance", .boolean settings.check.failOnImbalance)])]

/-- Settings as a layer, whose keys are in order. -/
def toLayer (origin : Origin) (settings : Settings) : Layer :=
  let text (value : Text) : Tree := .scalar origin (.text value)
  let boolean (value : Bool) : Tree := .scalar origin (.boolean value)
  let texts (values : List Text) : Tree := .sequence origin (values.map text)
  [("analysis", .table origin [("comment_marker", text settings.analysis.commentMarker)]),
    ("check", .table origin [("fail_on_imbalance", boolean settings.check.failOnImbalance)]),
    ("output", .table origin
      [("format", text settings.output.format.name), ("trace", boolean settings.output.trace)]),
    ("scan", .table origin
      [("exclude", texts settings.scan.exclude),
        ("extensions", texts settings.scan.extensions),
        ("max_file_size", .scalar origin (.signed settings.scan.maxFileSize))]),
    ("version", text settings.version)]

theorem ofToml?_tomlMembers (origin : Origin) (settings : Settings) :
    Layer.ofToml? origin settings.tomlMembers = some (settings.toLayer origin) := by
  rw [Layer.ofToml?, tomlMembers]
  simp only [Tree.membersOfToml?, Tree.ofToml?, Tree.elementsOfToml?_strings, Option.bind_eq_bind,
    Option.bind_some, Option.map_some]
  rfl

theorem stack_toLayer (origin : Origin) (settings : Settings) :
    Layer.stack [settings.toLayer origin] = settings.toLayer origin := by
  rfl

end Settings

/-! ## Decoding -/

namespace Decode

theorem text_scalar (origin : Origin) (value : Text) :
    text (.scalar origin (.text value)) = .ok value :=
  rfl

theorem natural_signed (origin : Origin) (number : Nat) :
    natural (.scalar origin (.signed number)) = .ok number :=
  rfl

theorem textsFrom_texts (origin : Origin) (texts : List Text) (number : Nat) :
    textsFrom number (texts.map fun text => .scalar origin (.text text)) = .ok texts := by
  induction texts generalizing number with
  | nil => rfl
  | cons text texts ih =>
      rw [List.map_cons, textsFrom, ih]
      rfl

theorem field_byKey {α : Type} {members : List (Text × Tree)} {key : Text} {value : Tree}
    {decode : Tree → Except DecodeError α} {result : α} (found : members.lookup key = some value)
    (decoded : decode value = .ok result) (place : Nat) (default : α) :
    (Section.byKey members).field key place decode default = .ok result := by
  rw [Section.field, found]
  simp only
  rw [decoded]
  rfl

theorem analysis_table (origin : Origin) (analysis : AnalysisSettings) :
    Decode.analysis
      (.table origin [("comment_marker", .scalar origin (.text analysis.commentMarker))]) =
      .ok analysis :=
  rfl

theorem check_table (origin : Origin) (check : CheckSettings) :
    Decode.check
      (.table origin [("fail_on_imbalance", .scalar origin (.boolean check.failOnImbalance))]) =
      .ok check :=
  rfl

theorem output_table (origin : Origin) (output : OutputSettings) :
    Decode.output
      (.table origin
        [("format", .scalar origin (.text output.format.name)),
          ("trace", .scalar origin (.boolean output.trace))]) =
      .ok output := by
  rcases output with ⟨format, trace⟩
  cases format <;> rfl

theorem scan_table (origin : Origin) (scan : ScanSettings) :
    Decode.scan
      (.table origin
        [("exclude", .sequence origin (scan.exclude.map fun text => .scalar origin (.text text))),
          ("extensions",
            .sequence origin (scan.extensions.map fun text => .scalar origin (.text text))),
          ("max_file_size", .scalar origin (.signed scan.maxFileSize))]) =
      .ok scan := by
  let members : List (Text × Tree) :=
    [("exclude", .sequence origin (scan.exclude.map fun text => .scalar origin (.text text))),
      ("extensions",
        .sequence origin (scan.extensions.map fun text => .scalar origin (.text text))),
      ("max_file_size", .scalar origin (.signed scan.maxFileSize))]
  have exclude : ∀ default,
      (Section.byKey members).field "exclude" 1 texts default = .ok scan.exclude :=
    field_byKey rfl (textsFrom_texts origin scan.exclude 0) 1
  have extensions : ∀ default,
      (Section.byKey members).field "extensions" 0 texts default = .ok scan.extensions :=
    field_byKey rfl (textsFrom_texts origin scan.extensions 0) 0
  have maxFileSize : ∀ default,
      (Section.byKey members).field "max_file_size" 2 natural default = .ok scan.maxFileSize :=
    field_byKey rfl (natural_signed origin scan.maxFileSize) 2
  change (do
    let exclude ← (Section.byKey members).field "exclude" 1 texts _
    let extensions ← (Section.byKey members).field "extensions" 0 texts _
    let maxFileSize ← (Section.byKey members).field "max_file_size" 2 natural _
    return { extensions, exclude, maxFileSize } : Except DecodeError ScanSettings) = _
  rw [exclude, extensions, maxFileSize]
  rfl

end Decode

namespace Settings

/-- Every setting is decoded from its own key, so that no built-in value is left. -/
theorem decode_toLayer (origin : Origin) (settings : Settings) :
    decode (settings.toLayer origin) = .ok settings := by
  rw [decode, Decode.field_byKey rfl (Decode.analysis_table origin settings.analysis),
    Decode.field_byKey rfl (Decode.check_table origin settings.check),
    Decode.field_byKey rfl (Decode.output_table origin settings.output),
    Decode.field_byKey rfl (Decode.scan_table origin settings.scan),
    Decode.field_byKey rfl (Decode.text_scalar origin settings.version)]
  rfl

/-! ## Loading -/

theorem bareEntries (settings : Settings) :
    ∀ entry ∈ settings.tomlEntries, Toml.IsBareName entry.1 := by
  simp only [tomlEntries, List.forall_mem_cons, List.not_mem_nil, false_imp_iff, implies_true,
    and_true]
  decide

theorem bareTables (settings : Settings) : ∀ table ∈ settings.tomlTables,
    Toml.IsBareName table.1 ∧ ∀ entry ∈ table.2, Toml.IsBareName entry.1 := by
  simp only [tomlTables, List.forall_mem_cons, List.not_mem_nil, false_imp_iff, implies_true,
    and_true]
  decide

theorem distinctWithinTables (settings : Settings) :
    ∀ table ∈ settings.tomlTables, (table.2.map Prod.fst).Nodup := by
  simp only [tomlTables, List.forall_mem_cons, List.not_mem_nil, false_imp_iff, implies_true,
    and_true, List.map_cons, List.map_nil]
  decide

/-- Written settings are read back, unless the size of files has more than 63 bits. -/
theorem parse?_renderToml (settings : Settings) :
    Toml.parse? settings.renderToml =
      if Text.fitsSigned settings.scan.maxFileSize then some settings.tomlMembers else none := by
  have distinct : ([(("version" : Text), Toml.Scalar.string settings.version)].map Prod.fst ++
      settings.tomlTables.map Prod.fst).Nodup := by
    change [("version" : Text), "analysis", "scan", "output", "check"].Nodup
    decide
  have read := Toml.parse?_renderDocument (bareEntries settings) (bareTables settings) distinct
    (distinctWithinTables settings)
  have readable : (Toml.entriesAreReadable settings.tomlEntries &&
      settings.tomlTables.all (Toml.entriesAreReadable ·.2)) =
      Text.fitsSigned settings.scan.maxFileSize := by
    simp [tomlEntries, tomlTables, Toml.entriesAreReadable, Toml.Scalar.isReadable]
  rw [readable] at read
  exact read

end Settings

namespace Workspace

/-- The layer of the text that is found for a path. -/
theorem fileLayer_of_isFound {workspace : Workspace} {path file : Packed} {text : Text}
    (isFound : workspace.findSettingsFile? path = some file)
    (content : workspace.fileContent? file = some text.toBytes) :
    workspace.fileLayer path =
      ((Toml.parse? text).bind
        (Layer.ofToml? (.file (Path.shownFrom workspace.directory file)))).elim
          (.error .notToml) .ok := by
  rw [fileLayer, isFound]
  simp only [readText_of_fileContent? content]
  cases (Toml.parse? text).bind _ <;> rfl

/-- The layer of the text that a path leads to. -/
theorem exists_fileLayer_eq {workspace : Workspace} {path : Packed} {text : Text}
    (reaches : workspace.ReachesFromRoot path) (isFile : workspace.isFile path)
    (holds : workspace.fileContent? path = some text.toBytes) :
    ∃ origin, workspace.fileLayer path =
      ((Toml.parse? text).bind (Layer.ofToml? origin)).elim (.error .notToml) .ok := by
  rcases exists_findSettingsFile? reaches isFile with ⟨file, isFound, same⟩
  refine ⟨_, fileLayer_of_isFound isFound ?_⟩
  rw [fileContent?, same]
  exact holds

/-- A written file is a layer with all settings, or no layer at all. -/
theorem fileLayers_renderToml {workspace : Workspace} {path : Packed} {settings : Settings}
    (reaches : workspace.ReachesFromRoot path) (isFile : workspace.isFile path)
    (holds : workspace.fileContent? path = some settings.renderToml.toBytes) :
    ∃ origin, workspace.fileLayers [path] =
      if Text.fitsSigned settings.scan.maxFileSize then .ok [settings.toLayer origin]
      else .error (.unreadableLayers [.notToml]) := by
  rcases exists_fileLayer_eq reaches isFile holds with ⟨origin, layer⟩
  refine ⟨origin, ?_⟩
  rw [Settings.parse?_renderToml] at layer
  rw [fileLayers, List.map_singleton]
  by_cases fits : Text.fitsSigned settings.scan.maxFileSize
  · rw [if_pos fits, Option.bind_some, Settings.ofToml?_tomlMembers, Option.elim_some] at layer
    rw [if_pos fits, layer]
    rfl
  · rw [if_neg fits, Option.bind_none, Option.elim_none] at layer
    rw [if_neg fits, layer]
    rfl

end Workspace

namespace Settings

theorem ofLayers_toLayer (origin : Origin) (settings : Settings) :
    ofLayers [settings.toLayer origin] =
      match settings.validate with
      | .ok () => .ok settings
      | .error fault => .error (.invalidSettings fault) := by
  have checked : ofLayers [settings.toLayer origin] =
      (settings.validate.mapError Fault.invalidSettings).bind fun _ => .ok settings := by
    rw [ofLayers, stack_toLayer, decode_toLayer]
    rfl
  rw [checked]
  cases settings.validate <;> rfl

theorem loadFile_eq_bind {workspace : Workspace} {path : Packed}
    (isFile : workspace.isFile path) :
    loadFile workspace path = (workspace.fileLayers [path]).bind ofLayers := by
  rw [loadFile]
  simp only [isFile, if_true]
  rfl

theorem fitsSigned_iff (number : Nat) : Text.fitsSigned number ↔ number ≤ Text.maxSigned := by
  have notBelow : Text.minSigned ≤ number := Int.le_trans (by decide) (Int.natCast_nonneg number)
  simp [Text.fitsSigned, notBelow]

/-- A file with written settings is loaded as these settings if they are valid, and tells their
fault if they are not, exactly as long as the size of files is no larger than a signed integer
of 64 bits. With a larger size the file is refused, whether the settings are valid or not. -/
theorem loadFile_renderToml {workspace : Workspace} {path : Packed} {settings : Settings}
    (reaches : workspace.ReachesFromRoot path) (isFile : workspace.isFile path)
    (holds : workspace.fileContent? path = some settings.renderToml.toBytes) :
    loadFile workspace path =
      if settings.scan.maxFileSize ≤ Text.maxSigned then
        match settings.validate with
        | .ok () => .ok settings
        | .error fault => .error (.invalidSettings fault)
      else .error (.unreadableLayers [.notToml]) := by
  rcases Workspace.fileLayers_renderToml reaches isFile holds with ⟨origin, layers⟩
  rw [loadFile_eq_bind isFile, layers]
  by_cases fits : Text.fitsSigned settings.scan.maxFileSize
  · rw [if_pos fits, if_pos ((fitsSigned_iff _).mp fits)]
    exact ofLayers_toLayer origin settings
  · rw [if_neg fits, if_neg (mt (fitsSigned_iff _).mpr fits)]
    rfl

/-- Settings whose texts go through all forms of strings: quotation marks and apostrophes in
rows, backslashes, line ends of all kinds, control characters, and a size at the limit. -/
def manyForms : Settings where
  version := "'''\"\"\"\\"
  analysis := { commentMarker := "\n\r\"\"\"'" }
  scan :=
    { extensions := ["", "C:\\", "it's", "\x00\x7f\u0085", "\"\"''\n"]
      exclude := ["\"quoted\"", "\tend\r\n"]
      maxFileSize := 0x7FFFFFFFFFFFFFFF }
  output := { format := .json, trace := false }
  check := { failOnImbalance := true }

theorem loadFile_renderToml_manyForms :
    let workspace := Workspace.ofProjectFile manyForms.renderToml.toBytes
    workspace.ReachesFromRoot projectFileName ∧ workspace.isFile projectFileName ∧
      workspace.fileContent? projectFileName = some manyForms.renderToml.toBytes ∧
      loadFile workspace projectFileName = .ok manyForms := by
  have reaches := Workspace.reachesFromRoot_ofProjectFile manyForms.renderToml.toBytes
  have isFile := Workspace.isFile_ofProjectFile manyForms.renderToml.toBytes
  have holds := Workspace.fileContent?_ofProjectFile manyForms.renderToml.toBytes
  have valid : manyForms.validate = .ok () := by cbv
  refine ⟨reaches, isFile, holds, ?_⟩
  rw [loadFile_renderToml reaches isFile holds, if_pos (by decide), valid]

/-- The built-in settings with a size of files that needs all 64 bits. -/
def wideSize : Settings :=
  { default with scan := { default.scan with maxFileSize := 0x8000000000000000 } }

/-- Settings that are valid and not loaded back from the file that they are written to. -/
theorem loadFile_renderToml_wideSize :
    let workspace := Workspace.ofProjectFile wideSize.renderToml.toBytes
    wideSize.validate = .ok () ∧ Text.fitsUnsigned wideSize.scan.maxFileSize ∧
      workspace.isFile projectFileName ∧
      workspace.fileContent? projectFileName = some wideSize.renderToml.toBytes ∧
      loadFile workspace projectFileName ≠ .ok wideSize := by
  have reaches := Workspace.reachesFromRoot_ofProjectFile wideSize.renderToml.toBytes
  have isFile := Workspace.isFile_ofProjectFile wideSize.renderToml.toBytes
  have holds := Workspace.fileContent?_ofProjectFile wideSize.renderToml.toBytes
  have valid : wideSize.validate = .ok () := by cbv
  have tooWide : ¬Text.fitsSigned wideSize.scan.maxFileSize = true := by decide
  rcases Workspace.fileLayers_renderToml reaches isFile holds with ⟨origin, layers⟩
  refine ⟨valid, rfl, isFile, holds, ?_⟩
  rw [loadFile_eq_bind isFile, layers, if_neg tooWide]
  intro loaded
  exact absurd loaded (by simp [Except.bind])

end Settings

end BraceBalance

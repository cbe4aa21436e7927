import Mathlib
import BraceBalance.Proofs.FileTree.WorkingDirectory
import BraceBalance.Proofs.Settings.Decoding
import BraceBalance.Proofs.Settings.Sources
import BraceBalance.Proofs.Text.Basic

/-!
# The precedence of layers

The settings of a run are decided setting by setting. For each of them the highest layer that
has it counts, where variables lie over the file of the project, this over the shared file, and
this over the built-in values. If all these values are of their types, they are the settings, which
are loaded if they are valid. If one is not, loading fails. What lower layers hold for the
setting is never looked at, and neither are keys that belong to no setting.

Two things stand outside of this rule. The reader of files keeps two keys for itself: a table with
`Tree.contentKey` is read as the value at this key, and a file with `Tree.markKey` below its top
is no layer. And a variable whose value would be cut inside a character stops the run.
-/

namespace BraceBalance

namespace Workspace

/-- What a settings file adds: nothing if the path leads to nothing, or else the layer of the
TOML text that is found for the path. -/
inductive GivesLayer (workspace : Workspace) (path : Packed) : Layer → Prop where
  | missing (absent : workspace.pathExists path = false) : GivesLayer workspace path []
  | file {found : Packed} {text : Text} {members : List (Text × Toml.Value)} {layer : Layer}
      (present : workspace.pathExists path = true)
      (isFound : workspace.findSettingsFile? path = some found)
      (holds : workspace.fileContent? found = some text.toBytes)
      (isToml : Toml.parse? text = some members)
      (isLayer : Layer.ofToml? (.file (Path.shownFrom workspace.directory found)) members =
        some layer) : GivesLayer workspace path layer

/-- What the settings file adds that all projects share. -/
def GivesSharedLayer (workspace : Workspace) (layer : Layer) : Prop :=
  match workspace.globalFile? with
  | some path => workspace.GivesLayer path layer
  | none => layer = []

/-- What each variable of the environment adds. -/
def GivesVariables (workspace : Workspace) (layers : List Layer) : Prop :=
  List.Forall₂ (fun binding layer => EnvironmentLayer.ofVariable? binding.1 binding.2 = some layer)
    workspace.environment layers

theorem fileLayers_eq_ok {workspace : Workspace} {paths : List Packed} {layers : List Layer}
    (each : List.Forall₂ (fun path layer => workspace.fileLayer path = .ok layer) paths layers) :
    workspace.fileLayers paths = .ok layers := by
  have mapped : paths.map workspace.fileLayer = layers.map .ok := by
    induction each with
    | nil => rfl
    | cons first _ ih => rw [List.map_cons, List.map_cons, first, ih]
  rw [fileLayers, mapped]
  simp [List.filterMap_map, Function.comp_def, Except.toOption]

/-- The files at a place are read as the layer that the place gives, or none is there. -/
structure ReadsLayer (workspace : Workspace) (paths : List Packed) (layer : Layer)
    (layers : List Layer) : Prop where
  read : List.Forall₂ (fun path layer => workspace.fileLayer path = .ok layer)
    (paths.filter workspace.pathExists) layers
  same : layers = [layer] ∨ layers = [] ∧ layer = []

theorem ReadsLayer.eq_of_mem {workspace : Workspace} {paths : List Packed} {layer : Layer}
    {layers : List Layer} (reads : workspace.ReadsLayer paths layer layers) {other : Layer}
    (otherMem : other ∈ layers) : other = layer := by
  rcases reads.same with rfl | ⟨rfl, _⟩
  · exact List.mem_singleton.mp otherMem
  · exact absurd otherMem List.not_mem_nil

theorem ReadsLayer.highest?_eq {workspace : Workspace} {paths : List Packed} {layer : Layer}
    {layers : List Layer} (reads : workspace.ReadsLayer paths layer layers) (setting : Setting) :
    Layer.highest? layers setting = layer.setting? setting := by
  rcases reads.same with rfl | ⟨rfl, rfl⟩
  · exact Layer.highest?_singleton layer setting
  · exact (Layer.setting?_nil setting).symm

theorem GivesLayer.exists_readsLayer {workspace : Workspace} {path : Packed} {layer : Layer}
    (gives : workspace.GivesLayer path layer) :
    ∃ layers, workspace.ReadsLayer [path] layer layers := by
  cases gives with
  | missing absent =>
      refine ⟨[], ?_, Or.inr ⟨rfl, rfl⟩⟩
      simp [absent]
  | file present isFound holds isToml isLayer =>
      refine ⟨[layer], ?_, Or.inl rfl⟩
      have read : workspace.fileLayer path = .ok layer := by
        simp only [fileLayer, isFound, readText_of_fileContent? holds, isToml, Option.bind_some,
          isLayer]
      simp [present, read]

theorem GivesSharedLayer.exists_readsLayer {workspace : Workspace} {layer : Layer}
    (gives : workspace.GivesSharedLayer layer) :
    ∃ layers, workspace.ReadsLayer workspace.globalFile?.toList layer layers := by
  unfold GivesSharedLayer at gives
  split at gives
  · rename_i path isGlobal
    rw [isGlobal]
    exact GivesLayer.exists_readsLayer gives
  · rename_i noGlobal
    rw [noGlobal]
    exact ⟨[], .nil, Or.inr ⟨rfl, gives⟩⟩

theorem GivesLayer.ordered {workspace : Workspace} {path : Packed} {layer : Layer}
    (gives : workspace.GivesLayer path layer) : layer.Ordered := by
  cases gives with
  | missing absent => exact .nil
  | file present isFound holds isToml isLayer => exact Layer.ordered_of_ofToml? isLayer

theorem GivesSharedLayer.ordered {workspace : Workspace} {layer : Layer}
    (gives : workspace.GivesSharedLayer layer) : layer.Ordered := by
  unfold GivesSharedLayer at gives
  split at gives
  · exact GivesLayer.ordered gives
  · exact gives ▸ .nil

/-- The files of a run are read as layers that amount to the shared one and the one of the
project. -/
structure ReadsFiles (workspace : Workspace) (shared project : Layer) (layers : List Layer) :
    Prop where
  read : workspace.fileLayers workspace.settingsFiles = .ok layers
  known : ∀ layer ∈ layers, layer = shared ∨ layer = project
  highest : ∀ setting : Setting,
    Layer.highest? layers setting = Layer.highest? [shared, project] setting

theorem exists_readsFiles {workspace : Workspace} {shared project : Layer}
    (sharedGiven : workspace.GivesSharedLayer shared)
    (projectGiven : workspace.GivesLayer projectFileName project) :
    ∃ layers, workspace.ReadsFiles shared project layers := by
  rcases sharedGiven.exists_readsLayer with ⟨sharedLayers, sharedRead⟩
  rcases projectGiven.exists_readsLayer with ⟨projectLayers, projectRead⟩
  refine ⟨sharedLayers ++ projectLayers, ?_, ?_, ?_⟩
  · apply fileLayers_eq_ok
    rw [settingsFiles, List.filter_append]
    exact List.rel_append sharedRead.read projectRead.read
  · intro layer layerMem
    rcases List.mem_append.mp layerMem with sharedMem | projectMem
    · exact Or.inl (sharedRead.eq_of_mem sharedMem)
    · exact Or.inr (projectRead.eq_of_mem projectMem)
  · intro setting
    change _ = Layer.highest? ([shared] ++ [project]) setting
    simp only [Layer.highest?_append, Layer.highest?_singleton, sharedRead.highest?_eq,
      projectRead.highest?_eq]

theorem GivesVariables.ofVariables?_eq {workspace : Workspace} {layers : List Layer}
    (gives : workspace.GivesVariables layers) :
    EnvironmentLayer.ofVariables? workspace.environment = some (Layer.stack layers) := by
  have each : (workspace.environment.mapM fun binding =>
      EnvironmentLayer.ofVariable? binding.1 binding.2) = some layers := by
    unfold GivesVariables at gives
    generalize workspace.environment = bindings at gives ⊢
    induction gives with
    | nil => rfl
    | cons first _ ih => rw [List.mapM_cons, first, ih]; rfl
  exact congrArg (Option.map Layer.stack) each

theorem GivesVariables.ordered {workspace : Workspace} {layers : List Layer}
    (gives : workspace.GivesVariables layers) : ∀ layer ∈ layers, layer.Ordered := by
  unfold GivesVariables at gives
  generalize workspace.environment = bindings at gives
  induction gives with
  | nil => simp
  | cons first _ ih =>
      intro layer layerMem
      rcases List.mem_cons.mp layerMem with rfl | laterMem
      · exact EnvironmentLayer.ordered_of_ofVariable? first
      · exact ih layer laterMem

end Workspace

namespace Settings

/-- Decoding a stack amounts to asking, setting by setting, the highest of its layers. -/
theorem decode_stack_eq_ok_iff {lower upper : List Layer}
    (sections : ∀ layer ∈ lower ++ upper, layer.SectionsAreTables)
    (ordered : ∀ layer ∈ lower ++ upper, layer.Ordered) {settings : Settings} :
    decode (Layer.stack (lower ++ [Layer.stack upper])) = .ok settings ↔
      ∀ setting : Setting,
        setting.Gives (Layer.highest? (lower ++ upper) setting) (settings.get setting) := by
  have stackSections := Layer.SectionsAreTables.stack
    (Layer.SectionsAreTables.append_stack sections ordered) (Layer.Ordered.append_stack ordered)
  rw [decode_eq_ok_iff stackSections]
  apply forall_congr'
  intro setting
  have agree := Layer.setting?_stack_stack sections ordered setting
  exact ⟨fun gives => gives.of_agrees agree, fun gives => gives.of_agrees (Tree.agrees_symm agree)⟩

theorem ofLayers_of_decode {layers : List Layer} {settings : Settings}
    (decoded : decode (Layer.stack layers) = .ok settings) :
    ofLayers layers =
      match settings.validate with
      | .ok () => .ok settings
      | .error fault => .error (.invalidSettings fault) := by
  have checked : ofLayers layers =
      (settings.validate.mapError Fault.invalidSettings).bind fun _ => .ok settings := by
    rw [ofLayers, decoded]
    rfl
  rw [checked]
  cases settings.validate <;> rfl

theorem ofLayers_of_decode_error {layers : List Layer} {error : DecodeError}
    (refused : decode (Layer.stack layers) = .error error) :
    ofLayers layers = .error (.undecodable error) := by
  rw [ofLayers, refused]
  rfl

/-- Settings that have a value of its type at every place. -/
theorem exists_gives {highest : Setting → Option Tree}
    (fit : ∀ setting tree, highest setting = some tree → setting.Fits tree) :
    ∃ settings : Settings, ∀ setting : Setting,
      setting.Gives (highest setting) (settings.get setting) := by
  have each : ∀ setting : Setting, ∃ value, setting.Gives (highest setting) value := by
    intro setting
    cases found : highest setting with
    | none => exact ⟨Settings.default.get setting, rfl⟩
    | some tree => exact fit setting tree found
  choose value gives using each
  refine ⟨{
    version := value .version
    analysis := ⟨value .commentMarker⟩
    scan := ⟨value .extensions, value .exclude, value .maxFileSize⟩
    output := ⟨value .format, value .trace⟩
    check := ⟨value .failOnImbalance⟩ }, ?_⟩
  intro setting
  cases setting <;> exact gives _

theorem eq_of_gives {highest : Setting → Option Tree} {left right : Settings}
    (givesLeft : ∀ setting : Setting, setting.Gives (highest setting) (left.get setting))
    (givesRight : ∀ setting : Setting, setting.Gives (highest setting) (right.get setting)) :
    left = right := by
  have same : ∀ setting : Setting, left.get setting = right.get setting := by
    intro setting
    exact Decode.eq_of_gives (givesLeft setting) (givesRight setting)
  rcases left with ⟨version, ⟨marker⟩, ⟨extensions, exclude, size⟩, ⟨format, trace⟩, ⟨fail⟩⟩
  rcases right with ⟨version', ⟨marker'⟩, ⟨extensions', exclude', size'⟩, ⟨format', trace'⟩, ⟨fail'⟩⟩
  cases same .version
  cases same .commentMarker
  cases same .extensions
  cases same .exclude
  cases same .maxFileSize
  cases same .format
  cases same .trace
  cases same .failOnImbalance
  rfl

/-- The layers of a run are decoded as what the highest of them have. -/
theorem exists_load_eq {workspace : Workspace} {shared project : Layer} {bound : List Layer}
    (sharedGiven : workspace.GivesSharedLayer shared)
    (projectGiven : workspace.GivesLayer projectFileName project)
    (boundGiven : workspace.GivesVariables bound)
    (sections : ∀ layer ∈ shared :: project :: bound, layer.SectionsAreTables) :
    ∃ layers, load workspace = ofLayers layers ∧
      ∀ settings : Settings, decode (Layer.stack layers) = .ok settings ↔
        ∀ setting : Setting, setting.Gives
          (Layer.highest? (shared :: project :: bound) setting) (settings.get setting) := by
  rcases Workspace.exists_readsFiles sharedGiven projectGiven with ⟨files, reads⟩
  have known : ∀ layer ∈ files ++ bound, layer ∈ shared :: project :: bound := by
    intro layer layerMem
    rcases List.mem_append.mp layerMem with fileMem | boundMem
    · rcases reads.known layer fileMem with rfl | rfl <;> simp
    · simp [boundMem]
  have ordered : ∀ layer ∈ shared :: project :: bound, layer.Ordered := by
    simp only [List.forall_mem_cons]
    exact ⟨sharedGiven.ordered, projectGiven.ordered, boundGiven.ordered⟩
  have same : ∀ setting : Setting, Layer.highest? (files ++ bound) setting =
      Layer.highest? (shared :: project :: bound) setting := by
    intro setting
    change _ = Layer.highest? ([shared, project] ++ bound) setting
    rw [Layer.highest?_append, Layer.highest?_append, reads.highest]
  refine ⟨files ++ [Layer.stack bound], ?_, ?_⟩
  · rw [load, boundGiven.ofVariables?_eq]
    simp only [reads.read]
    rfl
  · intro settings
    simp only [← same]
    apply decode_stack_eq_ok_iff
    · exact fun layer layerMem => sections layer (known layer layerMem)
    · exact fun layer layerMem => ordered layer (known layer layerMem)

/-- The settings of a run are, one by one, those of the highest layer that has them. -/
theorem load_eq_of_highest {workspace : Workspace} {shared project : Layer}
    {bound : List Layer} (sharedGiven : workspace.GivesSharedLayer shared)
    (projectGiven : workspace.GivesLayer projectFileName project)
    (boundGiven : workspace.GivesVariables bound)
    (sections : ∀ layer ∈ shared :: project :: bound, layer.SectionsAreTables) :
    let highest := Layer.highest? (shared :: project :: bound)
    ((∀ setting tree, highest setting = some tree → setting.Fits tree) →
      ∃ settings : Settings,
        (∀ setting : Setting, setting.Gives (highest setting) (settings.get setting)) ∧
        load workspace =
          match settings.validate with
          | .ok () => .ok settings
          | .error fault => .error (.invalidSettings fault)) ∧
    ((∃ setting tree, highest setting = some tree ∧ ¬setting.Fits tree) →
      ∃ error, load workspace = .error (.undecodable error)) := by
  intro highest
  rcases exists_load_eq sharedGiven projectGiven boundGiven sections with
    ⟨layers, loaded, decodes⟩
  rw [loaded]
  refine ⟨?_, ?_⟩
  · intro fit
    rcases exists_gives fit with ⟨settings, gives⟩
    exact ⟨settings, gives, ofLayers_of_decode ((decodes settings).mpr gives)⟩
  · rintro ⟨setting, tree, isHighest, noFit⟩
    cases decoded : decode (Layer.stack layers) with
    | error error => exact ⟨error, ofLayers_of_decode_error decoded⟩
    | ok settings =>
        have gives := (decodes settings).mp decoded setting
        change setting.Gives (highest setting) _ at gives
        rw [isHighest] at gives
        exact absurd ⟨_, gives⟩ noFit

/-! ### A shared file, a file of the project and a variable -/

def sharedPath : Packed := "/home/bracecheck/config.toml"

/-- Its version is no text and its size is not valid. -/
def sharedText : Text :=
  "version = 3\n[scan]\nextensions = [\"a\", \"b\"]\nmax_file_size = 0\n[output]\ntrace = false\n"

def sharedMembers : List (Text × Toml.Value) :=
  [("version", .integer 3),
    ("scan", .table [("extensions", .array [.string "a", .string "b"]),
      ("max_file_size", .integer 0)]),
    ("output", .table [("trace", .boolean false)])]

def sharedLayer (origin : Origin) : Layer :=
  [("output", .table origin [("trace", .scalar origin (.boolean false))]),
    ("scan", .table origin
      [("extensions", .sequence origin [.scalar origin (.text "a"), .scalar origin (.text "b")]),
        ("max_file_size", .scalar origin (.signed 0))]),
    ("version", .scalar origin (.signed 3))]

def projectPath : Packed := "/home/.bracecheck.toml"

def projectText : Text := "version = \"2\"\n[scan]\nextensions = []\nmax_file_size = 5\nother = 1\n"

def projectMembers : List (Text × Toml.Value) :=
  [("version", .string "2"),
    ("scan", .table [("extensions", .array []), ("max_file_size", .integer 5),
      ("other", .integer 1)])]

def projectLayer (origin : Origin) : Layer :=
  [("scan", .table origin
      [("extensions", .sequence origin []), ("max_file_size", .scalar origin (.signed 5)),
        ("other", .scalar origin (.signed 1))]),
    ("version", .scalar origin (.text "2"))]

def variableLayer : Layer :=
  [("output", .table .environment [("format", .scalar .environment (.text "json"))])]

/-- A workspace with all layers. -/
def layered : Workspace where
  tree := ⟨[(["home"], .directory), (["home", "bracecheck"], .directory),
    (["home", "bracecheck", "config.toml"], .plain sharedText.toBytes),
    (["home", projectFileName], .plain projectText.toBytes)]⟩
  directory := ["home"]
  environment := [("XDG_CONFIG_HOME", "/home"), ("BRACECHECK_OUTPUT__FORMAT", "json")]

def layeredSettings : Settings where
  version := "2"
  analysis := default.analysis
  scan := { default.scan with extensions := [], maxFileSize := 5 }
  output := { format := .json, trace := false }
  check := default.check

theorem layered_givesSharedLayer : ∃ origin, layered.GivesSharedLayer (sharedLayer origin) := by
  have isGlobal : layered.globalFile? = some sharedPath := by cbv
  have present : layered.pathExists sharedPath = true := by cbv
  have isFound : layered.findSettingsFile? sharedPath = some sharedPath := by cbv
  have holds : layered.fileContent? sharedPath = some sharedText.toBytes := by cbv
  have isToml : Toml.parse? sharedText = some sharedMembers := by cbv
  refine ⟨.file (Path.shownFrom layered.directory sharedPath), ?_⟩
  rw [Workspace.GivesSharedLayer, isGlobal]
  exact .file present isFound holds isToml rfl

theorem layered_givesLayer :
    ∃ origin, layered.GivesLayer projectFileName (projectLayer origin) := by
  have present : layered.pathExists projectFileName = true := by cbv
  have isFound : layered.findSettingsFile? projectFileName = some projectPath := by cbv
  have holds : layered.fileContent? projectPath = some projectText.toBytes := by cbv
  have isToml : Toml.parse? projectText = some projectMembers := by cbv
  exact ⟨_, .file present isFound holds isToml rfl⟩

theorem layered_givesVariables : layered.GivesVariables [[], variableLayer] := by
  have noSetting : EnvironmentLayer.ofVariable? "XDG_CONFIG_HOME" "/home" = some [] := by cbv
  have isFormat : EnvironmentLayer.ofVariable? "BRACECHECK_OUTPUT__FORMAT" "json" =
    some variableLayer := by cbv
  exact .cons noSetting (.cons isFormat .nil)

theorem load_layered :
    ∃ shared project bound,
      layered.GivesSharedLayer shared ∧ layered.GivesLayer projectFileName project ∧
      layered.GivesVariables bound ∧
      (∀ layer ∈ shared :: project :: bound, layer.SectionsAreTables) ∧
      load layered = .ok layeredSettings := by
  rcases layered_givesSharedLayer with ⟨origin, sharedGiven⟩
  rcases layered_givesLayer with ⟨nearer, projectGiven⟩
  have boundGiven := layered_givesVariables
  have sections : ∀ layer ∈ [sharedLayer origin, projectLayer nearer, [], variableLayer],
      layer.SectionsAreTables := by
    simp only [List.forall_mem_cons]
    refine ⟨?_, ?_, .nil, ?_, by simp⟩ <;> intro setting name isSection tree isTree <;>
      cases setting <;> cases isSection <;> cases isTree <;> exact .table _ _
  have decided : ∀ setting : Setting, setting.Gives
      (Layer.highest? [sharedLayer origin, projectLayer nearer, [], variableLayer] setting)
      (layeredSettings.get setting) := by
    intro setting
    cases setting with
    | version => exact .text nearer "2"
    | commentMarker => rfl
    | extensions => exact .sequence nearer .nil
    | exclude => rfl
    | maxFileSize => exact .signed nearer 5
    | format => exact .text .environment .json
    | trace => exact .boolean origin false
    | failOnImbalance => rfl
  have fit : ∀ setting tree,
      Layer.highest? [sharedLayer origin, projectLayer nearer, [], variableLayer] setting =
        some tree → setting.Fits tree := by
    intro setting tree isHighest
    have gives := decided setting
    rw [isHighest] at gives
    exact ⟨_, gives⟩
  refine ⟨_, _, _, sharedGiven, projectGiven, boundGiven, sections, ?_⟩
  rcases (load_eq_of_highest sharedGiven projectGiven boundGiven sections).1 fit with
    ⟨settings, gives, loaded⟩
  have valid : layeredSettings.validate = .ok () := by cbv
  rw [loaded, eq_of_gives gives decided, valid]

/-! ### What stands outside of the rule -/

theorem load_ofProjectFile (text : Text) :
    ∃ origin, load (Workspace.ofProjectFile text.toBytes) =
      match (Toml.parse? text).bind (Layer.ofToml? origin) with
      | none => .error (.unreadableLayers [.notToml])
      | some layer => ofLayers [layer, []] := by
  have isFile := Workspace.isFile_ofProjectFile text.toBytes
  rcases Workspace.exists_findSettingsFile?
    (Workspace.reachesFromRoot_ofProjectFile text.toBytes) isFile with ⟨file, isFound, same⟩
  refine ⟨.file (Path.shownFrom (Workspace.ofProjectFile text.toBytes).directory file), ?_⟩
  have holds : (Workspace.ofProjectFile text.toBytes).fileContent? file = some text.toBytes := by
    rw [Workspace.fileContent?, same]
    exact Workspace.fileContent?_ofProjectFile text.toBytes
  have noVariables :
      EnvironmentLayer.ofVariables? (Workspace.ofProjectFile text.toBytes).environment =
        some [] := rfl
  have noGlobal : (Workspace.ofProjectFile text.toBytes).globalFile? = none := rfl
  have paths : (Workspace.ofProjectFile text.toBytes).settingsFiles = [projectFileName] := by
    rw [Workspace.settingsFiles, noGlobal]
    exact List.filter_cons_of_pos (Workspace.pathExists_of_isFile isFile)
  rw [load, noVariables]
  simp only [paths, Workspace.fileLayers, List.map_singleton, Workspace.fileLayer, isFound,
    Workspace.readText_of_fileContent? holds]
  cases (Toml.parse? text).bind (Layer.ofToml?
    (.file (Path.shownFrom (Workspace.ofProjectFile text.toBytes).directory file))) <;> rfl

/-- A file whose only table has no key but the one for the mark of a value. -/
def markText : Text := "[analysis]\n___figment_value_id = 1\n"

def markMembers : List (Text × Toml.Value) :=
  [("analysis", .table [(Tree.markKey, .integer 1)])]

/-- A file with a table where a text should be, which is read as the text that it holds. -/
def contentText : Text := "[analysis.comment_marker]\n___figment_value_value = \"#\"\n"

def contentMembers : List (Text × Toml.Value) :=
  [("analysis", .table [("comment_marker", .table [(Tree.contentKey, .string "#")])])]

def contentLayer (origin : Origin) : Layer :=
  [("analysis", .table origin [("comment_marker", .scalar origin (.text "#"))])]

def contentSettings : Settings :=
  { default with analysis := { commentMarker := "#" } }

/-- A quoted text in which a letter of two bytes comes before an escaped character. -/
def cutValue : Text := "\"\u00e9\\n\""

/-- A file without any setting may be refused, a table may give a text its value, and the value
of a variable may stop the run. -/
theorem load_outside_of_rule :
    (Toml.parse? markText = some markMembers ∧ default.validate = .ok () ∧
      load (Workspace.ofProjectFile markText.toBytes) = .error (.unreadableLayers [.notToml])) ∧
    (Toml.parse? contentText = some contentMembers ∧
      load (Workspace.ofProjectFile contentText.toBytes) = .ok contentSettings) ∧
    load { tree := .empty, directory := [], environment := [("BRACECHECK_VERSION", cutValue)] } =
      .error .unusableVariable := by
  have markToml : Toml.parse? markText = some markMembers := by cbv
  have contentToml : Toml.parse? contentText = some contentMembers := by cbv
  rcases load_ofProjectFile markText with ⟨markOrigin, markLoaded⟩
  rcases load_ofProjectFile contentText with ⟨contentOrigin, contentLoaded⟩
  refine ⟨⟨markToml, by cbv, ?_⟩, ⟨contentToml, ?_⟩, ?_⟩
  · rw [markLoaded, markToml]
    rfl
  · have isLayer : Layer.ofToml? contentOrigin contentMembers =
        some (contentLayer contentOrigin) := rfl
    have decoded : decode (Layer.stack [contentLayer contentOrigin, []]) =
        .ok contentSettings := rfl
    have valid : contentSettings.validate = .ok () := by cbv
    rw [contentLoaded, contentToml, Option.bind_some, isLayer]
    simp only [ofLayers_of_decode decoded, valid]
  · have cut : EnvironmentLayer.ofVariables? [("BRACECHECK_VERSION", cutValue)] = none := by
      cbv
    simp only [load, cut]

end Settings

end BraceBalance

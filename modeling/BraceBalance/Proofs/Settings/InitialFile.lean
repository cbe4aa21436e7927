import Mathlib
import BraceBalance.Proofs.Settings.Covering
import BraceBalance.Proofs.Settings.Precedence
import BraceBalance.Proofs.Toml.Heading

/-!
# The text of a new settings file

A new settings file is a document with all the built-in settings below some comments. It is read
as the layer of these settings. The only settings that are loaded from the file are the built-in
ones then, and so it is for a run whose project has the file, if there are no variables with
settings: whatever the file that all projects share holds, it lies below.
-/

namespace BraceBalance

/-! ## What is written -/

namespace Settings

/-- The lines above the built-in settings in a new file. -/
def initialRemarks : List (Option Text) :=
  [some " bracecheck configuration",
    some " Project settings in .bracecheck.toml override the global file.",
    some " [scan] applies only when a directory is passed to `bracecheck check`.",
    none]

theorem initialFile_eq :
    initialFile = initialRemarks.flatMap Toml.renderRemark ++ default.renderToml := by
  have heading : "# bracecheck configuration\n"
      ++ "# Project settings in " ++ projectFileText ++ " override the global file.\n"
      ++ "# [scan] applies only when a directory is passed to `bracecheck check`.\n\n" =
      initialRemarks.flatMap Toml.renderRemark := by cbv
  exact congrArg (· ++ default.renderToml) heading

theorem initialRemarks_areRemarks : ∀ remark ∈ initialRemarks, Toml.IsRemark remark := by
  have plain : initialRemarks.all (fun remark => (remark.getD []).all Text.isPlain) := by cbv
  intro remark remarkMem comment isComment
  have each := List.all_eq_true.mp plain remark remarkMem
  rw [isComment] at each
  exact List.all_eq_true.mp each

theorem parse?_initialRemarks_append (settings : Settings) :
    Toml.parse? (initialRemarks.flatMap Toml.renderRemark ++ settings.renderToml) =
      Toml.parse? settings.renderToml :=
  Toml.parse?_remarks_append initialRemarks_areRemarks (bareEntries settings) (bareTables settings)

theorem parse?_initialFile : Toml.parse? initialFile = some default.tomlMembers := by
  have fits : Text.fitsSigned default.scan.maxFileSize = true := rfl
  rw [initialFile_eq, parse?_initialRemarks_append, parse?_renderToml, if_pos fits]

end Settings

/-! ## Loading what was written -/

theorem Layer.foldl_overlay_of_empty {layers : List Layer} (empty : ∀ layer ∈ layers, layer = [])
    (base : Layer) : layers.foldl Layer.overlay base = base := by
  induction layers generalizing base with
  | nil => rfl
  | cons layer layers ih =>
      rw [List.foldl_cons, empty layer List.mem_cons_self]
      exact ih (fun other otherMem => empty other (List.mem_cons_of_mem _ otherMem)) base

namespace Settings

theorem validate_default : default.validate = .ok () := by
  cbv

/-- The built-in settings are all that is seen of the layers, whatever lies below them. -/
theorem ofLayers_default (lower : List Layer) (origin : Origin) (upper : List Layer)
    (empty : ∀ layer ∈ upper, layer = []) :
    ofLayers (lower ++ default.toLayer origin :: upper) = .ok default := by
  have stacked : Layer.stack (lower ++ default.toLayer origin :: upper) =
      (Layer.stack lower).overlay (default.toLayer origin) := by
    rw [Layer.stack, List.foldl_append, List.foldl_cons, Layer.foldl_overlay_of_empty empty]
    rfl
  have decoded : decode (Layer.stack (lower ++ default.toLayer origin :: upper)) = .ok default := by
    rw [stacked, decode_overlay_toLayer]
  rw [ofLayers_of_decode decoded, validate_default]

end Settings

namespace Workspace

/-- A new settings file is the layer of the built-in settings. -/
theorem exists_fileLayer_eq_default {workspace : Workspace} {path : Packed}
    (reaches : workspace.ReachesFromRoot path) (isFile : workspace.isFile path)
    (holds : workspace.fileContent? path = some (Text.toBytes Settings.initialFile)) :
    ∃ origin, workspace.fileLayer path = .ok (Settings.default.toLayer origin) := by
  rcases exists_fileLayer_eq reaches isFile holds with ⟨origin, isLayer⟩
  refine ⟨origin, ?_⟩
  rw [isLayer, Settings.parse?_initialFile, Option.bind_some, Settings.ofToml?_tomlMembers,
    Option.elim_some]

/-- No variable is one of those that hold settings. -/
def HasNoSettings (workspace : Workspace) : Prop :=
  ∀ binding ∈ workspace.environment,
    ¬EnvironmentLayer.mark <+: (Text.trim binding.1).asciiUpper

theorem HasNoSettings.ofVariables?_eq {workspace : Workspace}
    (noSettings : workspace.HasNoSettings) :
    EnvironmentLayer.ofVariables? workspace.environment = some [] := by
  have gives : workspace.GivesVariables (workspace.environment.map fun _ => []) := by
    rw [GivesVariables, List.forall₂_map_right_iff, List.forall₂_same]
    intro binding bindingMem
    have noPath : EnvironmentLayer.path? binding.1 = none := by
      rw [EnvironmentLayer.path?, Text.dropBeginning?,
        if_neg fun found => noSettings binding bindingMem (List.isPrefixOf_iff_prefix.mp found)]
      rfl
    rw [EnvironmentLayer.ofVariable?, noPath]
  have empty : Layer.stack (workspace.environment.map fun _ => []) = [] :=
    Layer.foldl_overlay_of_empty (by simp) []
  rw [gives.ofVariables?_eq, empty]

/-- The file that all projects share, if it is there and is found, is a TOML document, and no
table below its top has the key for the mark of a value. -/
def SharedFileIsUsable (workspace : Workspace) : Prop :=
  ∀ path file, workspace.globalFile? = some path → workspace.pathExists path = true →
    workspace.findSettingsFile? path = some file →
    ∃ (text : Text) (members : List (Text × Toml.Value)),
      workspace.fileContent? file = some text.toBytes ∧ Toml.parse? text = some members ∧
        ∀ member ∈ members, member.2.IsUnmarked

theorem SharedFileIsUsable.exists_layers {workspace : Workspace}
    (usable : workspace.SharedFileIsUsable) :
    ∃ layers, List.Forall₂ (fun path layer => workspace.fileLayer path = .ok layer)
      (workspace.globalFile?.toList.filter workspace.pathExists) layers := by
  cases isGlobal : workspace.globalFile? with
  | none => exact ⟨[], .nil⟩
  | some path =>
      by_cases stands : workspace.pathExists path = true
      · rw [Option.toList_some, List.filter_cons_of_pos stands, List.filter_nil]
        cases isFound : workspace.findSettingsFile? path with
        | none => exact ⟨[[]], .cons (by rw [fileLayer, isFound]) .nil⟩
        | some file =>
            rcases usable path file isGlobal stands isFound with
              ⟨text, members, content, isToml, unmarked⟩
            have isLayer : ∃ layer, Layer.ofToml? (.file (Path.shownFrom workspace.directory file))
                members = some layer := Layer.exists_ofToml? unmarked
            rcases isLayer with ⟨layer, isLayer⟩
            refine ⟨[layer], .cons ?_ .nil⟩
            rw [fileLayer_of_isFound isFound content, isToml, Option.bind_some, isLayer,
              Option.elim_some]
      · rw [Option.toList_some, List.filter_cons_of_neg stands]
        exact ⟨[], .nil⟩

end Workspace

namespace Settings

open Workspace

theorem loadFile_eq_default {workspace : Workspace} {path : Packed}
    (reaches : workspace.ReachesFromRoot path) (isFile : workspace.isFile path)
    (holds : workspace.fileContent? path = some (Text.toBytes initialFile)) :
    loadFile workspace path = .ok default := by
  rcases exists_fileLayer_eq_default reaches isFile holds with ⟨origin, isLayer⟩
  rw [loadFile_eq_bind isFile, fileLayers_eq_ok (.cons isLayer .nil)]
  exact ofLayers_default [] origin [] (by simp)

/-- A run with a new settings file loads the built-in settings, whatever the shared file holds. -/
theorem load_eq_default {workspace : Workspace}
    (reaches : workspace.ReachesFromRoot projectFileName)
    (isFile : workspace.isFile projectFileName)
    (holds : workspace.fileContent? projectFileName = some (Text.toBytes initialFile))
    (noSettings : workspace.HasNoSettings) (usable : workspace.SharedFileIsUsable) :
    load workspace = .ok default := by
  have stands := pathExists_of_isFile isFile
  rcases exists_fileLayer_eq_default reaches isFile holds with ⟨origin, isLayer⟩
  rcases usable.exists_layers with ⟨lower, areLayers⟩
  have read : workspace.fileLayers workspace.settingsFiles =
      .ok (lower ++ [default.toLayer origin]) := by
    apply fileLayers_eq_ok
    rw [settingsFiles, List.filter_append, List.filter_cons_of_pos stands]
    exact List.rel_append areLayers (.cons isLayer .nil)
  have loaded : load workspace = ofLayers (lower ++ [default.toLayer origin] ++ [[]]) := by
    rw [load, noSettings.ofVariables?_eq]
    simp only [read]
    rfl
  rw [loaded, List.append_assoc]
  exact ofLayers_default lower origin [[]] (by simp)

end Settings

end BraceBalance

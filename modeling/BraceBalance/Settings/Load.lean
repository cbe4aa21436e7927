import BraceBalance.Fault
import BraceBalance.FileTree.Workspace
import BraceBalance.Settings.EnvironmentLayer
import BraceBalance.Settings.Toml
import BraceBalance.Toml.Reader

/-!
# Loading settings

Settings come in layers: over the built-in values lie the file that all projects share,
the file of the project, and the environment. A file that is missing is an empty layer. A
file may also be named; then it is the only layer.

Files are read first, then all values are decoded, and then the settings are checked; the
first of these steps that fails is told. A variable whose value cannot be used goes before
all of them.
-/

namespace BraceBalance

namespace Path

open Packed (slash)

def ofLocation (location : Location) : Packed :=
  slash :: Text.join [slash] location

def ofComponent : Component → Packed
  | .root => "/"
  | .here => "."
  | .parent => ".."
  | .name name => name

/-- The components that lead from a directory to a target, both given by their
components from the root. -/
def relative : List Component → List Component → List Component
  | base :: baseRest, target :: targetRest =>
      if base = target then relative baseRest targetRest
      else List.replicate (baseRest.length + 1) .parent ++ target :: targetRest
  | base, [] => List.replicate base.length .parent
  | [], target => target

/-- A path from the root as it is seen from a directory. -/
def relativeTo (directory : Location) (path : Packed) : Packed :=
  appendNames [] ((relative (components (ofLocation directory)) (components path)).map ofComponent)

/-- A path from the root as messages show it: as it is seen from a directory if it has fewer
components so. -/
def shownFrom (directory : Location) (path : Packed) : Text :=
  let seen := relativeTo directory path
  Packed.shown (if (components seen).length < (components path).length then seen else path)

end Path

namespace Workspace

/-- The directories whose files a relative path may name: the working directory and those
above it, the nearest first. -/
def searchDirectories (workspace : Workspace) : List Location :=
  (List.range (workspace.directory.length + 1)).map fun count =>
    workspace.directory.take (workspace.directory.length - count)

/-- The file that a path names in the working directory or the nearest directory above it
that has such a file, as a path from the root. -/
def findSettingsFile? (workspace : Workspace) (path : Packed) : Option Packed :=
  if Path.isAbsolute path then if workspace.isFile path then some path else none
  else
    (workspace.searchDirectories.map fun directory =>
      Path.append (Path.ofLocation directory) path).find? workspace.isFile

/-- The layer of a settings file; without the file it is empty. -/
def fileLayer (workspace : Workspace) (path : Packed) : Except LayerFault Layer :=
  match workspace.findSettingsFile? path with
  | none => .ok []
  | some file =>
      let shown := Path.shownFrom workspace.directory file
      match workspace.readText file with
      | .error error => .error (.unreadable shown error)
      | .ok text =>
          match (Toml.parse? text).bind (Layer.ofToml? (.file shown)) with
          | none => .error .notToml
          | some layer => .ok layer

/-- The directory for settings that all projects share. -/
def globalDirectory? (workspace : Workspace) : Option Packed :=
  let base :=
    match workspace.environmentPath? "XDG_CONFIG_HOME" with
    | some directory => some directory
    | none => (workspace.environmentPath? "HOME").map (Path.append · ".config")
  base.map (Path.append · "bracecheck")

/-- The settings file that all projects share. -/
def globalFile? (workspace : Workspace) : Option Packed :=
  workspace.globalDirectory?.map (Path.append · "config.toml")

/-- The settings files of a run that exist, the lowest layer first. -/
def settingsFiles (workspace : Workspace) : List Packed :=
  (workspace.globalFile?.toList ++ [projectFileName]).filter workspace.pathExists

/-- The layers of some files, or the faults of those that are none. -/
def fileLayers (workspace : Workspace) (paths : List Packed) : Except Fault (List Layer) :=
  let layers := paths.map workspace.fileLayer
  match layers.filterMap fun layer => match layer with
    | .error fault => some fault
    | .ok _ => none with
  | [] => .ok (layers.filterMap Except.toOption)
  | faults => .error (.unreadableLayers faults)

end Workspace

namespace Settings

/-- Decodes and checks settings, the lowest layer first. -/
def ofLayers (layers : List Layer) : Except Fault Settings := do
  let settings ← (decode (Layer.stack layers)).mapError .undecodable
  settings.validate.mapError .invalidSettings
  return settings

def load (workspace : Workspace) : Except Fault Settings :=
  match EnvironmentLayer.ofVariables? workspace.environment with
  | none => .error .unusableVariable
  | some environment => do
      let layers ← workspace.fileLayers workspace.settingsFiles
      ofLayers (layers ++ [environment])

def loadFile (workspace : Workspace) (path : Packed) : Except Fault Settings := do
  unless workspace.isFile path do throw (.file path .missingSettingsFile)
  ofLayers (← workspace.fileLayers [path])

end Settings

end BraceBalance

import BraceBalance.Settings.Load

/-!
# New settings files

A settings file is written with the built-in settings, and the directories above it are
created. A file that exists is replaced only on demand. If it cannot be written to its end,
what it held is lost.
-/

namespace BraceBalance

namespace Workspace

/-- Writes a settings file and says whether it did; what exists is kept unless `force`.
Directories that were created before a failure stay, and so does a file that was opened. -/
def writeSettingsFile (workspace : Workspace) (path : Packed) (force : Bool) :
    Except Fault Bool × Workspace :=
  if workspace.pathExists path && !force then (.ok false, workspace)
  else
    let parent := (Path.parent? path).getD []
    let (prepared, ready) :=
      if parent.isEmpty then (.ok (), workspace) else workspace.createDirectoryAndParents parent
    match prepared with
    | .error error => (.error (.file parent (.system error)), ready)
    | .ok () =>
        let (written, left) := ready.writeFile path (Text.toBytes Settings.initialFile)
        match written with
        | .error error => (.error (.file path (.system error)), left)
        | .ok () => (.ok true, left)

/-- Writes the settings file of the project, or the one that all projects share, and gives
its path. -/
def initSettings (workspace : Workspace) (shared force : Bool) :
    Except Fault (Packed × Bool) × Workspace :=
  let path? := if shared then workspace.globalFile? else some projectFileName
  match path? with
  | none => (.error .noGlobalDirectory, workspace)
  | some path =>
      let (written, changed) := workspace.writeSettingsFile path force
      (written.map fun created => (path, created), changed)

end Workspace

end BraceBalance

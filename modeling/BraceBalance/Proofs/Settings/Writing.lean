import BraceBalance.Proofs.FileTree.Creating
import BraceBalance.Settings.Init

/-!
# Writing settings files

Writing a settings file leaves everything else as it was, but for directories above the file that
were missing. The file is emptied before it is filled. If it is not filled to its end, what it held
is lost. And what is written to a device is gone.
-/

namespace BraceBalance

/-- The paths of the directories above a path, as they are spelled in it, the nearest first. -/
def Path.parents (path : Packed) : List Packed :=
  let parent := (parent? path).getD []
  selfAndParents parent (parent.length + 1)

namespace Workspace

/-- A file that is not touched is opened in the grown workspace as it was before. -/
theorem Grows.fileHolding_eq {before after : Workspace} {paths : List Packed}
    (grows : before.Grows after none paths) (location : Location) (content : ByteArray) :
    after.fileHolding location content = before.fileHolding location content := by
  unfold fileHolding
  rw [grows.disk]
  cases stood : before.tree.node? location with
  | some node => rw [grows.kept location node (by simp) stood]
  | none =>
      cases stands : after.tree.node? location with
      | none => rfl
      | some node =>
          rcases grows.gained location node (by simp) stood stands with ⟨rfl, -⟩
          rfl

/-- What is left when a settings file was written. What goes to a device is not kept. -/
inductive LeavesWritten (before : Workspace) (path : Packed) (after : Workspace) : Prop where
  | file {location : Location}
      (found : after.find? path = some (location,
        .file (before.fileHolding location (Text.toBytes Settings.initialFile))))
      (grows : before.Grows after (some location) (Path.parents path)) :
      LeavesWritten before path after
  | device {location : Location} {body : FileBody}
      (found : after.find? path = some (location, .device body))
      (grows : before.Grows after none (Path.parents path)) : LeavesWritten before path after

/-- What is left when writing a settings file failed. A file that was opened holds a beginning of
what was to be written, and nothing of what it held. -/
inductive LeavesUnwritten (before : Workspace) (path : Packed) (after : Workspace) : Prop where
  | unopened (grows : before.Grows after none (Path.parents path)) :
      LeavesUnwritten before path after
  | unfilled {location : Location} {count : Nat}
      (less : count < (Text.toBytes Settings.initialFile).size)
      (found : after.find? path = some (location,
        .file (before.fileHolding location ((Text.toBytes Settings.initialFile).extract 0 count))))
      (grows : before.Grows after (some location) (Path.parents path)) :
      LeavesUnwritten before path after

/-- All that writing a settings file can come to. -/
inductive WritesSettings (workspace : Workspace) (path : Packed) (force : Bool) :
    Except Fault Bool × Workspace → Prop where
  | kept (stands : (workspace.pathExists path && !force) = true) :
      WritesSettings workspace path force (.ok false, workspace)
  | failed (fault : Fault) {after : Workspace} (leaves : workspace.LeavesUnwritten path after) :
      WritesSettings workspace path force (.error fault, after)
  | written {after : Workspace} (leaves : workspace.LeavesWritten path after) :
      WritesSettings workspace path force (.ok true, after)

theorem writesSettings (workspace : Workspace) (path : Packed) (force : Bool) :
    workspace.WritesSettings path force (workspace.writeSettingsFile path force) := by
  rw [writeSettingsFile]
  cases stands : workspace.pathExists path && !force with
  | true =>
      rw [if_pos rfl]
      exact .kept stands
  | false =>
      rw [if_neg (by simp)]
      have prepared : workspace.Grows
          (if ((Path.parent? path).getD []).isEmpty then (.ok (), workspace)
            else workspace.createDirectoryAndParents ((Path.parent? path).getD [])).2 none
          (Path.parents path) := by
        split
        · exact .refl workspace _
        · exact createDirectories_grows workspace (Path.parents path)
      dsimp only
      generalize (if ((Path.parent? path).getD []).isEmpty then (.ok (), workspace)
        else workspace.createDirectoryAndParents ((Path.parent? path).getD [])) = preparation
        at prepared ⊢
      rcases preparation with ⟨error | _, ready⟩
      · exact .failed _ (.unopened prepared)
      · dsimp only
        have outcome := ready.writesFile path (Text.toBytes Settings.initialFile)
        generalize ready.writeFile path (Text.toBytes Settings.initialFile) = written at outcome ⊢
        cases outcome with
        | refused error => exact .failed _ (.unopened prepared)
        | written free found =>
            rw [prepared.fileHolding_eq] at found
            exact .written (.file found (prepared.trans (grows_insert_file free _ _)))
        | cut error less free found =>
            rw [prepared.fileHolding_eq] at found
            exact .failed _ (.unfilled less found (prepared.trans (grows_insert_file free _ _)))
        | sent found => exact .written (.device found prepared)

theorem leavesWritten_of_written {workspace after : Workspace} {path : Packed} {force : Bool}
    (isWritten : workspace.writeSettingsFile path force = (.ok true, after)) :
    workspace.LeavesWritten path after := by
  have outcome := workspace.writesSettings path force
  rw [isWritten] at outcome
  cases outcome with
  | written leaves => exact leaves

namespace LeavesWritten

variable {before after : Workspace} {path : Packed} (leaves : before.LeavesWritten path after)
include leaves

theorem exists_grows : ∃ written?, before.Grows after written? (Path.parents path) := by
  cases leaves with
  | file found grows => exact ⟨_, grows⟩
  | device found grows => exact ⟨_, grows⟩

theorem pathExists : after.pathExists path = true := by
  cases leaves with
  | file found grows => exact pathExists_of_find? found
  | device found grows => exact pathExists_of_find? found

/-- A regular file at the path has the initial content. -/
theorem content_eq {body : FileBody} (isFile : after.file? path = some body) :
    body.content = Text.toBytes Settings.initialFile := by
  rcases file?_eq_some_iff.mp isFile with ⟨place, stands⟩
  cases leaves with
  | file found grows =>
      rw [found] at stands
      cases stands
      exact fileHolding_content _ _ _
  | device found grows =>
      rw [found] at stands
      cases stands

end LeavesWritten

theorem writeSettingsFile_of_initSettings {workspace after : Workspace} {force created : Bool}
    {named : Packed} (isDone : workspace.initSettings false force = (.ok (named, created), after)) :
    workspace.writeSettingsFile projectFileName force = (.ok created, after) := by
  change ((workspace.writeSettingsFile projectFileName force).1.map fun created =>
    (projectFileName, created), (workspace.writeSettingsFile projectFileName force).2) = _ at isDone
  generalize workspace.writeSettingsFile projectFileName force = outcome at isDone ⊢
  rcases outcome with ⟨fault | result, changed⟩
  · cases isDone
  · cases isDone
    rfl

/-! ## Runs of one outcome -/

theorem writeSettingsFile_of_written {workspace ready left : Workspace} {path : Packed}
    {force : Bool} (free : (workspace.pathExists path && !force) = false)
    (prepared : (if ((Path.parent? path).getD []).isEmpty then (.ok (), workspace)
      else workspace.createDirectoryAndParents ((Path.parent? path).getD [])) = (.ok (), ready))
    (written : ready.writeFile path (Text.toBytes Settings.initialFile) = (.ok (), left)) :
    workspace.writeSettingsFile path force = (.ok true, left) := by
  rw [writeSettingsFile, free, if_neg (by simp)]
  simp only [prepared, written]

theorem writeSettingsFile_of_cut {workspace ready left : Workspace} {path : Packed}
    {force : Bool} {error : SystemError} (free : (workspace.pathExists path && !force) = false)
    (prepared : (if ((Path.parent? path).getD []).isEmpty then (.ok (), workspace)
      else workspace.createDirectoryAndParents ((Path.parent? path).getD [])) = (.ok (), ready))
    (cut : ready.writeFile path (Text.toBytes Settings.initialFile) = (.error error, left)) :
    workspace.writeSettingsFile path force = (.error (.file path (.system error)), left) := by
  rw [writeSettingsFile, free, if_neg (by simp)]
  simp only [prepared, cut]

theorem writeFile_of_vacant {workspace : Workspace} {path : Packed} {location : Location}
    (located : workspace.locateForWriting path = .ok (.vacant location))
    (usual : workspace.disk = {}) (content : ByteArray) :
    workspace.writeFile path content = (.ok (), workspace.insert location (.plain content)) := by
  rw [writeFile, located]
  simp only [fillFile, usual]
  rfl

end Workspace

end BraceBalance

import BraceBalance.FileTree.Workspace
import BraceBalance.Proofs.Text.Basic

/-!
# Reading files

A text is read from a path exactly if the path leads to bytes that are its UTF-8. Otherwise the
reading fails: for the system if it does not give the bytes, and for the encoding alone if it does.
-/

namespace BraceBalance

namespace FileTree

/-- What a path is followed to stands in the tree. -/
theorem node?_of_follow {tree : FileTree} {creating : Bool} {links : Nat}
    {location place : Location} {names : List Packed} {node : FileNode}
    (reached : tree.follow creating links location names = .ok (.found place node)) :
    tree.node? place = some node := by
  fun_induction follow tree creating links location names <;> simp_all

theorem node?_of_locate {tree : FileTree} {creating : Bool} {working place : Location}
    {path : Packed} {node : FileNode}
    (located : tree.locate creating working path = .ok (.found place node)) :
    tree.node? place = some node := by
  unfold locate at located
  split at located
  · contradiction
  split at located
  · contradiction
  split at located
  · contradiction
  exact node?_of_follow located

theorem find?_eq_some_iff {tree : FileTree} {working place : Location} {path : Packed}
    {node : FileNode} :
    tree.find? working path = some (place, node) ↔
      tree.locate false working path = .ok (.found place node) := by
  unfold find?
  cases tree.locate false working path with
  | error error => simp
  | ok reached => cases reached <;> simp

theorem node?_of_find? {tree : FileTree} {working place : Location} {path : Packed}
    {node : FileNode} (found : tree.find? working path = some (place, node)) :
    tree.node? place = some node :=
  node?_of_locate (find?_eq_some_iff.mp found)

end FileTree

namespace Workspace

variable {workspace : Workspace} {path : Packed}

theorem file?_eq_some_iff {body : FileBody} :
    workspace.file? path = some body ↔
      ∃ location, workspace.find? path = some (location, .file body) := by
  unfold file?
  rcases workspace.find? path with _ | ⟨location, _ | _ | _ | _⟩ <;> simp

theorem readBytes_of_find? {location : Location} {node : FileNode}
    (found : workspace.find? path = some (location, node)) :
    workspace.readBytes path = node.read := by
  rw [readBytes, locate, FileTree.find?_eq_some_iff.mp found]
  rfl

theorem readBytes_of_file? {body : FileBody} (isFile : workspace.file? path = some body) :
    workspace.readBytes path = body.read := by
  rcases file?_eq_some_iff.mp isFile with ⟨location, found⟩
  exact readBytes_of_find? found

theorem pathExists_of_isFile (isFile : workspace.isFile path) : workspace.pathExists path := by
  rcases Option.isSome_iff_exists.mp isFile with ⟨body, holds⟩
  rcases file?_eq_some_iff.mp holds with ⟨location, found⟩
  exact Option.isSome_iff_exists.mpr ⟨_, found⟩

theorem fileContent?_eq_some_iff {bytes : ByteArray} :
    workspace.fileContent? path = some bytes ↔ workspace.readBytes path = .ok bytes := by
  rw [fileContent?]
  cases workspace.readBytes path <;> simp [Except.toOption]

theorem readText_of_fileContent? {text : Text}
    (holds : workspace.fileContent? path = some text.toBytes) :
    workspace.readText path = .ok text := by
  simp [readText, fileContent?_eq_some_iff.mp holds, Text.ofBytes?_toBytes, bind, Except.bind,
    Except.mapError, pure, Except.pure]

/-- A path from which no text is read leads to bytes that are no UTF-8, or the system gives none. -/
theorem exists_readText_eq_error
    (noText : ∀ text : Text, workspace.fileContent? path ≠ some text.toBytes) :
    ∃ error, workspace.readText path = .error error ∧
      (error = .notText ↔ ∃ bytes, workspace.readBytes path = .ok bytes) ∧
      ∀ cause, workspace.readBytes path = .error cause → error = .system cause := by
  cases isRead : workspace.readBytes path with
  | error cause =>
      refine ⟨.system cause, ?_, by simp, by simp⟩
      simp [readText, isRead, bind, Except.bind, Except.mapError]
  | ok bytes =>
      have undecoded : Text.ofBytes? bytes = none := by
        cases decoded : Text.ofBytes? bytes with
        | none => rfl
        | some text =>
            rw [← Text.toBytes_of_ofBytes? decoded] at isRead
            exact absurd (fileContent?_eq_some_iff.mpr isRead) (noText text)
      refine ⟨.notText, ?_, by simp, by simp⟩
      simp [readText, isRead, undecoded, bind, Except.bind, Except.mapError, throw, throwThe,
        MonadExceptOf.throw]

end Workspace

end BraceBalance

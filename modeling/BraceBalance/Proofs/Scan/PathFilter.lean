import BraceBalance.Proofs.FileTree.PathSpelling
import BraceBalance.Scan

/-!
# Filtering by paths

A scan filters its files by the names that lead to them from the walked directory. The filter of a
path has only the path and the root of the walk: it takes the root off the front of the path, and
looks at the whole path if that fails. For the paths of a walk it never fails, whatever the spelling
of the root, and both filters agree.
-/

namespace BraceBalance

namespace Path

/-- The last component of a path, if it is a name. -/
def fileName? (path : Packed) : Option Packed :=
  match (components path).getLast? with
  | some (.name name) => some name
  | _ => none

end Path

namespace ScanFilter

open Packed (slash)

/-- Some pattern excludes a path. The patterns see what is behind the root, or else all of it. -/
def excludes (filter : ScanFilter) (root path : Packed) : Bool :=
  filter.exclude.any (·.isMatch (Packed.shown ((Path.behind? path root).getD path)))

/-- The file that a path leads to, and of this size, is wanted. -/
def acceptsPath (filter : ScanFilter) (root path : Packed) (size : Nat) : Bool :=
  !filter.excludes root path
    && (match ((Path.fileName? path).bind Path.extension?).bind Packed.text? with
      | some extension => filter.extensions.contains extension
      | none => false)
    && size ≤ filter.maxFileSize

variable {root : Packed} {names : List Packed}

theorem excludes_appendNames (filter : ScanFilter) (nonempty : root ≠ []) (more : names ≠ [])
    (areParts : ∀ name ∈ names, Path.IsPart name) :
    filter.excludes root (Path.appendNames root names) =
      filter.exclude.any (·.isMatch (Packed.shown (Text.join [slash] names))) := by
  simp only [excludes, Path.behind?_appendNames nonempty more areParts, Option.getD_some]

theorem extension?_fileName? (nonempty : root ≠ []) (more : names ≠ [])
    (areParts : ∀ name ∈ names, Path.IsPart name) :
    (Path.fileName? (Path.appendNames root names)).bind Path.extension? =
      names.getLast?.bind Path.extension? := by
  have last : (Path.components (Path.appendNames root names)).getLast? =
      some (Component.ofName (names.getLast more)) := by
    rw [Path.components_appendNames nonempty areParts, List.getLast?_append,
      List.getLast?_map, List.getLast?_eq_some_getLast more]
    rfl
  rw [Path.fileName?, last, List.getLast?_eq_some_getLast more]
  by_cases isParent : names.getLast more = ".."
  · simp [Component.ofName, isParent, Path.extension?]
  · have isName : Component.ofName (names.getLast more) = .name (names.getLast more) :=
      if_neg isParent
    rw [isName]

theorem acceptsPath_appendNames (filter : ScanFilter) (nonempty : root ≠ []) (more : names ≠ [])
    (areParts : ∀ name ∈ names, Path.IsPart name) (size : Nat) :
    filter.acceptsPath root (Path.appendNames root names) size = filter.accepts names size := by
  rw [acceptsPath, excludes_appendNames filter nonempty more areParts,
    extension?_fileName? nonempty more areParts]
  rfl

end ScanFilter

end BraceBalance

import BraceBalance.Text.Packed

/-!
# Paths

A path is a row of names that are separated by slashes. It is packed, for a name may be any
bytes. It is kept as it was spelled, for messages show it so; what it means is read off its
components, in which repeated slashes, inner dots and a slash at the end do not count. Paths
are ordered by their components.
-/

namespace BraceBalance

inductive Component where
  | root
  /-- A single dot at the beginning of a relative path. -/
  | here
  /-- Two dots. -/
  | parent
  | name (name : Packed)
deriving DecidableEq

namespace Component

def ofName (packed : Packed) : Component :=
  if packed = ".." then parent else name packed

/-- Components of different kinds come in the order of their constructors, and names in
the order of their bytes. -/
def compare : Component → Component → Ordering
  | root, root => .eq
  | root, _ => .lt
  | _, root => .gt
  | here, here => .eq
  | here, _ => .lt
  | _, here => .gt
  | parent, parent => .eq
  | parent, _ => .lt
  | _, parent => .gt
  | name left, name right => Packed.compare left right

end Component

namespace Path

open Packed (slash dot)

def isAbsolute (path : Packed) : Bool :=
  path.head? = some slash

def endsWithSlash (path : Packed) : Bool :=
  path.getLast? = some slash

/-- The parts of a path between slashes that are neither empty nor a single dot. -/
def names (path : Packed) : List Packed :=
  (Text.splitOn slash path).filter fun part => part ≠ [] ∧ part ≠ "."

def components (path : Packed) : List Component :=
  let first :=
    if isAbsolute path then [Component.root]
    else if (Text.splitOn slash path).head? = some [dot] then [Component.here]
    else []
  first ++ (names path).map Component.ofName

/-- Orders lists of components; the first difference decides, and a beginning comes
before the whole. -/
def compareComponents : List Component → List Component → Ordering
  | [], [] => .eq
  | [], _ :: _ => .lt
  | _ :: _, [] => .gt
  | left :: leftRest, right :: rightRest =>
      match left.compare right with
      | .eq => compareComponents leftRest rightRest
      | decided => decided

/-- The order of paths. Different spellings may be equal in it. -/
def compare (left right : Packed) : Ordering :=
  compareComponents (components left) (components right)

/-- The names that lead along a path. A slash at the end is one more, empty name, which
asks for a directory. -/
def steps (path : Packed) : List Packed :=
  (Text.splitOn slash path).filter (· ≠ []) ++ if endsWithSlash path then [[]] else []

/-- A path that goes on from another, unless it is absolute. -/
def append (path next : Packed) : Packed :=
  if isAbsolute next || path.isEmpty then next
  else if endsWithSlash path then path ++ next
  else path ++ slash :: next

def appendNames (path : Packed) (names : List Packed) : Packed :=
  names.foldl append path

/-- The path without slashes and dots at its end that do not count, for a path with its
bytes in reverse. -/
def trimReversedEnd : Packed → Packed
  | [slash] => [slash]
  | slash :: rest => trimReversedEnd rest
  | dot :: slash :: rest => if rest.isEmpty then [slash] else trimReversedEnd rest
  | path => path

/-- The path of the directory that holds what a path leads to, as it is spelled in the
path; the empty path and the root have none. -/
def parent? (path : Packed) : Option Packed :=
  match trimReversedEnd path.reverse with
  | [] => none
  | [slash] => none
  | trimmed => some (trimReversedEnd (trimmed.dropWhile (· ≠ slash))).reverse

/-- The directories above a path that its spelling names, the nearest first, and the
path itself before them. -/
def selfAndParents (path : Packed) : Nat → List Packed
  | 0 => []
  | steps + 1 =>
      match parent? path with
      | some parent => path :: if parent.isEmpty then [] else selfAndParents parent steps
      | none => [path]

/-- What follows the last dot of a name, unless the dot begins the name. -/
def extension? (name : Packed) : Option Packed :=
  if name = ".." || !name.contains dot then none
  else
    let reversed := name.reverse
    if ((reversed.dropWhile (· ≠ dot)).drop 1).isEmpty then none
    else some (reversed.takeWhile (· ≠ dot)).reverse

end Path

end BraceBalance

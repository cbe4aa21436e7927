import BraceBalance.FileTree.Error
import BraceBalance.FileTree.Path

/-!
# File trees

A file tree says what stands at each location below its root: a directory, a file with
its bytes, a device, or a link to another path. A path is followed from a directory name by
name, and through links, up to a limit of links. Directories are open to the user, and files
need not be.
-/

namespace BraceBalance

/-- The names that lead from the root of a tree to a place in it. -/
abbrev Location := List Packed

/-- What can be read at a place, and why the system refuses to have it read or written, if
it does. -/
structure FileBody where
  content : ByteArray
  readRefusal : Option SystemError := none
  writeRefusal : Option SystemError := none

def FileBody.read (body : FileBody) : Except SystemError ByteArray :=
  match body.readRefusal with
  | some error => .error error
  | none => .ok body.content

/-- What stands at a location. -/
inductive FileNode where
  | directory
  /-- A regular file, which keeps what is written to it. -/
  | file (body : FileBody)
  /-- Something else that is read and written, such as a terminal. It keeps nothing. -/
  | device (body : FileBody)
  | link (target : Packed)

namespace FileNode

/-- A regular file that the user may read and write. -/
abbrev plain (content : ByteArray) : FileNode :=
  file { content }

def isDirectory : FileNode → Bool
  | directory => true
  | _ => false

/-- Reads what a place holds, to which no link leads on. -/
def read : FileNode → Except SystemError ByteArray
  | file body | device body => body.read
  | directory | link _ => .error .isADirectory

end FileNode

/-- A tree of files, as the list of its locations below the root. -/
structure FileTree where
  nodes : List (Location × FileNode)

/-- Where a path leads. -/
inductive Place where
  /-- To something that is not a link. -/
  | found (location : Location) (node : FileNode)
  /-- To nothing, in a directory that exists. -/
  | vacant (location : Location)

namespace FileTree

def empty : FileTree := ⟨[]⟩

/-- What stands at a location. The root is a directory. -/
def node? (tree : FileTree) (location : Location) : Option FileNode :=
  if location = [] then some .directory
  else (tree.nodes.find? (·.1 = location)).map (·.2)

/-- The tree in which a node stands at a location and all else is as before. -/
def insert (tree : FileTree) (location : Location) (node : FileNode) : FileTree :=
  ⟨(location, node) :: tree.nodes.filter (·.1 ≠ location)⟩

/-- The tree in which nothing stands at a location and all else is as before. -/
def erase (tree : FileTree) (location : Location) : FileTree :=
  ⟨tree.nodes.filter (·.1 ≠ location)⟩

/-- What lies below a location, with the names that lead there from it. -/
def below (tree : FileTree) (location : Location) : List (List Packed × FileNode) :=
  tree.nodes.filterMap fun (place, node) =>
    if location.isPrefixOf place && place ≠ location then
      some (place.drop location.length, node)
    else none

/-- The longest name in bytes. -/
def maxNameLength : Nat := 255

/-- The longest path in bytes, with one more for its end. -/
def maxPathLength : Nat := 4096

/-- How many links are followed on the way along one path. -/
def maxLinks : Nat := 40

/-- Follows names from a location. Every name but the last must lead to a directory. Where
a file may be created, the last name must not have a slash behind it. -/
def follow (tree : FileTree) (creating : Bool) (links : Nat) (location : Location) :
    List Packed → Except SystemError Place
  | [] =>
      match tree.node? location with
      | some node => .ok (.found location node)
      | none => .error .notFound
  | name :: rest =>
      match tree.node? location with
      | some .directory =>
          if creating && rest = [[]] then .error .isADirectory
          else if name = [] || name = "." then follow tree creating links location rest
          else if name = ".." then follow tree creating links location.dropLast rest
          else if name.length > maxNameLength then .error .nameTooLong
          else
            match tree.node? (location ++ [name]) with
            | some (.link target) =>
                match links with
                | 0 => .error .tooManyLinks
                | links + 1 =>
                    follow tree creating links (if Path.isAbsolute target then [] else location)
                      (Path.steps target ++ rest)
            | some _ => follow tree creating links (location ++ [name]) rest
            | none => if rest = [] then .ok (.vacant (location ++ [name])) else .error .notFound
      | some _ => .error .notADirectory
      | none => .error .notFound
termination_by names => (links, names.length)

/-- Follows a path from a working directory, where a file may be created or not. -/
def locate (tree : FileTree) (creating : Bool) (working : Location) (path : Packed) :
    Except SystemError Place :=
  if path.contains 0 then .error .zeroInPath
  else if path.isEmpty then .error .notFound
  else if path.length ≥ maxPathLength then .error .nameTooLong
  else
    follow tree creating maxLinks (if Path.isAbsolute path then [] else working) (Path.steps path)

def find? (tree : FileTree) (working : Location) (path : Packed) : Option (Location × FileNode) :=
  match tree.locate false working path with
  | .ok (.found location node) => some (location, node)
  | _ => none

end FileTree

end BraceBalance

import BraceBalance.Command.Run
import BraceBalance.Command.Surroundings

/-!
# The command

The outer layer of the command: it gathers the workspace of a run from the system, runs
the command, and hands back what the run leaves.

Directories are not listed here. The entries below the checked directories are read from
standard input, one path a line, as `find` prints them. A path that is no text cannot be
asked for here, so nothing is gathered at it.
-/

namespace BraceBalance

namespace Command

def spelled (text : Text) : String :=
  String.ofList text

/-- A path for the system. -/
def pathOf (location : Location) : String :=
  spelled (Path.ofLocation location).shown

def readEnvironment : IO (List (Text × Text)) := do
  let bytes ← IO.FS.readBinFile "/proc/self/environ"
  let pieces := bytes.toList.splitBy fun left right => left ≠ 0 && right ≠ 0
  return pieces.filterMap fun piece => do
    let binding ← Text.ofBytes? ⟨piece.toArray⟩
    return (binding.takeWhile (· ≠ '='), ← (binding.dropWhile (· ≠ '=')).tail?)

def readDirectory : IO Location := do
  return Path.names (toString (← IO.currentDir))

/-- Where a location is, if all links on the way to it and the link at it are followed. -/
def realLocation? (location : Location) : IO (Option Location) := do
  match ← (IO.FS.realPath (pathOf location)).toBaseIO with
  | .ok path => return some (Path.names (toString path))
  | .error _ => return none

def refusing (error : SystemError) : FileNode :=
  .file { content := .empty, readRefusal := some error }

/-- The tree with what stands at a location that no link leads to, and the directories
above it. A file that cannot be read stands there all the same. The system is not asked
for kinds of files here, so a device is taken for a file with the bytes that it gives. -/
def addLocation (tree : FileTree) (location : Location) : IO FileTree := do
  if (tree.node? location).isSome then return tree
  let above := (List.range location.length).map location.take
  let tree := above.foldl
    (fun tree directory => if directory = [] then tree else tree.insert directory .directory) tree
  match ← (IO.FS.readBinFile (pathOf location)).toBaseIO with
  | .ok content => return tree.insert location (.plain content)
  | .error (.inappropriateType ..) => return tree.insert location .directory
  | .error (.permissionDenied ..) => return tree.insert location (refusing .permissionDenied)
  | .error (.hardwareFault ..) => return tree.insert location (refusing .inputOutput)
  | .error _ => return tree

/-- The workspace with what a path leads to, and all on the way there. -/
def addPath (workspace : Workspace) (path : Packed) : IO Workspace := do
  let mut tree := workspace.tree
  let mut location := if Path.isAbsolute path then [] else workspace.directory
  for name in Path.steps path do
    if name = ".." then location := location.dropLast
    else if name ≠ "." && name ≠ [] then
      let entry := location ++ [name]
      match ← realLocation? entry with
      | none => break
      | some real =>
          tree ← addLocation tree real
          if real ≠ entry then tree := tree.insert entry (.link (Path.ofLocation real))
          location := real
  return { workspace with tree }

def readListing : IO (List Packed) := do
  let input ← IO.getStdin
  if ← input.isTty then return []
  let mut listing := ByteArray.empty
  let mut piece ← input.read 65536
  while !piece.isEmpty do
    listing := listing ++ piece
    piece ← input.read 65536
  return (Text.splitOn 10 listing.toList).filter (· ≠ [])

def gather (workspace : Workspace) (invocation : Invocation) : IO Workspace := do
  let mut workspace := workspace
  for _ in List.range wantedRounds do
    for path in wantedPaths workspace invocation do
      workspace ← addPath workspace path
  if invocation.roots.any workspace.isDirectory then
    for path in ← readListing do
      workspace ← addPath workspace path
  return workspace

def sameNode : FileNode → FileNode → Bool
  | .directory, .directory => true
  | .file left, .file right => left.content.data == right.content.data
  | .link left, .link right => left == right
  | _, _ => false

/-- Writes what is new in a tree, directories before what they hold. -/
def writeChanges (before after : FileTree) : IO Unit := do
  let changed := after.nodes.filter fun (location, node) =>
    !(before.node? location).any (sameNode node)
  let ordered := changed.mergeSort fun left right => left.1.length ≤ right.1.length
  for (location, node) in ordered do
    match node with
    | .directory => IO.FS.createDir (pathOf location)
    | .file body => IO.FS.writeBinFile (pathOf location) body.content
    | .device _ | .link _ => pure ()

def complain (message : Text) : IO Unit := do
  IO.eprintln (spelled ("\x1b[31mError:\x1b[0m " ++ message))

/-- Runs the command in the workspace of the system and gives the exit status. -/
def execute (arguments : List Packed) : IO UInt32 := do
  let start : Workspace :=
    { tree := .empty, directory := ← readDirectory, environment := ← readEnvironment }
  let start ← addPath start (Path.ofLocation start.directory)
  let workspace ← match parseArguments start arguments with
    | .ok invocation => gather start invocation
    | .error _ => pure start
  let output ← IO.getStdout
  let colors := (← output.isTty) && terminalTakesColors workspace
  let execution := run workspace colors arguments
  match ← (writeChanges workspace.tree execution.workspace.tree).toBaseIO with
  | .error error =>
      complain (toString error).toList
      return 1
  | .ok () =>
      output.putStr (spelled execution.output)
      output.flush
      if let some fault := execution.fault then complain fault.message
      if execution.status = 2 then IO.eprint (spelled helpText)
      return execution.status.toUInt32

end Command

end BraceBalance

def main (arguments : List String) : IO UInt32 :=
  BraceBalance.Command.execute
    (arguments.map fun (argument : String) => (argument : BraceBalance.Packed))

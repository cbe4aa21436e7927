import BraceBalance.Command.Arguments

/-!
# Surroundings of a run

A run asks for paths that its arguments do not name: settings files, and ignore files at
and above what it checks. Whoever gathers the workspace of a run has to look there. What
stands at one of these paths may name further ones, so the answer grows with what is known
of the workspace; the entries below a directory are not part of it.
-/

namespace BraceBalance

namespace Command

def Invocation.roots (invocation : Invocation) : List Packed :=
  match invocation.action with
  | .check options => options.paths
  | _ => []

/-- The settings files of a run, and those above the working directory that may stand in
for them. -/
def settingsPaths (workspace : Workspace) (invocation : Invocation) : List Packed :=
  let files := invocation.settingsFile.toList ++ workspace.globalFile?.toList ++ [projectFileName]
  files.flatMap fun path =>
    if Path.isAbsolute path then [path]
    else workspace.searchDirectories.map fun directory =>
      Path.append (Path.ofLocation directory) path

/-- The files that name the global ignore file, and that file. -/
def globalIgnorePaths (workspace : Workspace) : List Packed :=
  Ignore.settingsFiles workspace ++ (Ignore.globalFile? workspace).toList

/-- The files that a file in the place of a repository leads to. -/
def linkedPaths (workspace : Workspace) (directory : Packed) : List Packed :=
  match workspace.fileContent? (Path.append directory ".git") with
  | none => []
  | some content =>
      ((Ignore.namedDirectory? content).map fun named =>
          Path.append (.ofText named) "commondir").toList
        ++ ((Ignore.linkedRepository? workspace content).map (Path.append · "info/exclude")).toList

def ignorePaths (workspace : Workspace) (directory : Packed) : List Packed :=
  let files : List Packed := [".ignore", ".gitignore", ".git", ".git/info/exclude", ".jj"]
  files.map (Path.append directory ·) ++ linkedPaths workspace directory

/-- The directories at and above what the checked paths lead to. -/
def checkedDirectories (workspace : Workspace) (invocation : Invocation) : List Packed :=
  (invocation.roots.filterMap workspace.find?).flatMap fun (location, _) =>
    (List.range (location.length + 1)).map fun count => Path.ofLocation (location.take count)

/-- The paths that a run asks for, as far as the workspace tells. -/
def wantedPaths (workspace : Workspace) (invocation : Invocation) : List Packed :=
  invocation.roots ++ settingsPaths workspace invocation ++ globalIgnorePaths workspace
    ++ (checkedDirectories workspace invocation).flatMap (ignorePaths workspace)

/-- How often the answer can grow: a checked path leads to a repository, which names a
directory, which names another. -/
def wantedRounds : Nat := 4

end Command

end BraceBalance

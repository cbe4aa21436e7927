import BraceBalance.Command.Arguments
import BraceBalance.Settings.Init
import BraceBalance.Settings.Json

/-!
# Running the command

A run of the command reads its arguments and its settings, does what it is asked for, and
ends with an exit status: zero, or that of a fault, or one for a strict check that fails,
or two for wrong arguments. What it has printed before a fault stays printed.
-/

namespace BraceBalance

namespace Command

open Printing (print orStop)

structure Execution where
  status : Nat
  output : Text
  fault : Option Fault
  workspace : Workspace

def versionLine : Text := "bracecheck 0.1.0\n"

/-- What the command says when it is asked for help. -/
def helpText : Text :=
  "Find unbalanced braces in source files, line by line\n\n"
    ++ "Usage: bracecheck check <PATHS>... [-f text|json] [--no-trace] [--strict]\n"
    ++ "       bracecheck config show [-f toml|json]\n"
    ++ "       bracecheck config path\n"
    ++ "       bracecheck config init [-g] [--force]\n\n"
    ++ "Everywhere: [-c <FILE>] [-q] [--verbose]\n"

/-- Settings as they are shown; the format `json` is JSON, and any other TOML. -/
def renderSettings (settings : Settings) (format : Text) : Text :=
  (if format = "json" then settings.renderJson else settings.renderToml) ++ "\n"

/-- Shows settings, unless a number in them cannot be written. -/
def showSettings (settings : Settings) (format : Text) : Except Fault Text :=
  match if format = "json" then settings.renderJson? else settings.renderToml? with
  | some text => .ok (text ++ "\n")
  | none => .error (.settings "number out of range")

/-- A mark that says whether a path leads to something. -/
def existenceMark (workspace : Workspace) (path : Packed) : Text :=
  if workspace.pathExists path then "✓" else "✗"

def renderPaths (workspace : Workspace) : Text :=
  let shared : Text :=
    match workspace.globalFile? with
    | some path => existenceMark workspace path ++ " " ++ path.shown
    | none => "(not available)"
  "Configuration paths:\n\n  Global:  " ++ shared ++ "\n  Project: "
    ++ existenceMark workspace projectFileName ++ " " ++ projectFileName.shown ++ "\n"

/-- What is said of a settings file that was written or kept. -/
def renderInit (path : Packed) (created : Bool) : Text :=
  if created then "✓ Initialized configuration\n  Config: " ++ path.shown ++ "\n"
  else "Config already exists: " ++ path.shown ++ "\nUse --force to overwrite.\n"

/-- The settings of a run: those of the named file, or those of all layers. -/
def settingsOf (workspace : Workspace) (invocation : Invocation) : Except Fault Settings :=
  match invocation.settingsFile with
  | some path => Settings.loadFile workspace path
  | none => Settings.load workspace

/-- What a run does as it was asked, with the exit status at its end and the workspace that
it leaves. -/
def perform (workspace : Workspace) (colors : Bool) (invocation : Invocation) :
    Printing Nat × Workspace :=
  match invocation.action with
  | .check options =>
      (do
        let settings ← orStop (settingsOf workspace invocation)
        let summary ← Check.run workspace settings options colors
        return if summary.fails then 1 else 0, workspace)
  | .showSettings format =>
      (do
        let settings ← orStop (settingsOf workspace invocation)
        print (← orStop (showSettings settings format))
        return 0, workspace)
  | .showPaths =>
      (do
        print (renderPaths workspace)
        return 0, workspace)
  | .initSettings shared force =>
      let (written, changed) := workspace.initSettings shared force
      (do
        let (path, created) ← orStop written
        print (renderInit path created)
        return 0, changed)

/-- A terminal takes colors, as far as the environment tells. -/
def terminalTakesColors (workspace : Workspace) : Bool :=
  (workspace.environmentValue? "NO_COLOR").isNone
    && (workspace.environmentValue? "CLICOLOR").getD "1" ≠ "0"
    && (workspace.environmentValue? "TERM").getD "dumb" ≠ "dumb"

def colorsForced (workspace : Workspace) : Bool :=
  match workspace.environmentValue? "CLICOLOR_FORCE" with
  | some value => value ≠ "0"
  | none => false

def run (workspace : Workspace) (colors : Bool) (arguments : List Packed) : Execution :=
  match parseArguments workspace arguments with
  | .error .usage => ⟨2, [], none, workspace⟩
  | .error .help => ⟨0, helpText, none, workspace⟩
  | .error .version => ⟨0, versionLine, none, workspace⟩
  | .ok invocation =>
      let (printing, changed) := perform workspace (colors || colorsForced workspace) invocation
      match printing.onConsole with
      | (.ok status, output) => ⟨status, output, none, changed⟩
      | (.error fault, output) => ⟨fault.status, output, some fault, changed⟩

end Command

end BraceBalance

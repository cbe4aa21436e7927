import BraceBalance.FileTree.Workspace
import BraceBalance.Ignore.Rule

/-!
# The global ignore file

A user may have one more ignore file for all repositories. The setting `excludesfile`
names it, in one of several settings files for repositories, of which the first that has
the setting counts; without that setting the ignore file has a usual place.
-/

namespace BraceBalance

namespace Ignore

/-- The directory that a variable names, if it names one. -/
def directoryNamed? (workspace : Workspace) (variableName : Text) : Option Text :=
  (workspace.environmentValue? variableName).filter fun path => !path.isEmpty

def home? (workspace : Workspace) : Option Text :=
  directoryNamed? workspace "HOME"

def homePath? (workspace : Workspace) : Option Packed :=
  (home? workspace).map Packed.ofText

def settingsDirectory? (workspace : Workspace) : Option Packed :=
  (directoryNamed? workspace "XDG_CONFIG_HOME").map Packed.ofText
    <|> (homePath? workspace).map (Path.append · ".config")

/-- The settings files for repositories, the one that counts first in front. -/
def settingsFiles (workspace : Workspace) : List Packed :=
  (workspace.environmentPath? "GIT_CONFIG_GLOBAL").toList
    ++ ((homePath? workspace).map (Path.append · ".gitconfig")).toList
    ++ ((settingsDirectory? workspace).map (Path.append · "git/config")).toList
    ++ [(workspace.environmentPath? "GIT_CONFIG_SYSTEM").getD "/etc/gitconfig"]

/-- A blank that may stand around the parts of a setting. -/
def isSettingBlank (char : Char) : Bool :=
  Text.isAsciiSpace char || char = '\x0b'

/-- Nothing but a quotation mark and blanks follows on the line. -/
def endsSetting (rest : Text) : Bool :=
  let endsLine (rest : Text) : Bool :=
    match rest.dropWhile fun char => isSettingBlank char && char ≠ '\n' with
    | [] => true
    | char :: _ => char = '\n'
  endsLine rest ||
    match rest.dropWhile isSettingBlank with
    | '"' :: rest => endsLine rest
    | _ => false

/-- The shortest value without blanks after which the setting ends; the characters so far
come with the latest first. -/
def settingValueFrom (read : Text) : Text → Option Text
  | [] => none
  | char :: rest =>
      if isSettingBlank char then none
      else if endsSetting rest then some (char :: read).reverse
      else settingValueFrom (char :: read) rest

/-- The value of the setting that the text begins with, if it is `excludesfile`. -/
def excludesFileAt? (text : Text) : Option Text := do
  let start := text.dropWhile isSettingBlank
  let key : Text := start.take "excludesfile".length
  if key.asciiLower ≠ "excludesfile" then none
  match (start.drop "excludesfile".length).dropWhile isSettingBlank with
  | '=' :: rest =>
      let value := rest.dropWhile isSettingBlank
      let quoted := match value with
        | '"' :: rest => settingValueFrom [] (rest.dropWhile isSettingBlank)
        | _ => none
      quoted <|> settingValueFrom [] value
  | _ => none

/-- The value of the first setting `excludesfile` in a text, of which every line may
begin one. -/
def excludesFile? (atLineStart : Bool) : Text → Option Text
  | [] => none
  | char :: rest =>
      let found := if atLineStart then excludesFileAt? (char :: rest) else none
      found <|> excludesFile? (char = '\n') rest

/-- The value of `excludesfile` in a settings file, if it has one in UTF-8. The file is read
byte by byte, so that the rest of it need not be UTF-8. -/
def excludesFileOf? (workspace : Workspace) (path : Packed) : Option Text := do
  let content ← workspace.fileContent? path
  let value ← excludesFile? true (content.toList.map fun byte => Char.ofNat byte.toNat)
  Text.ofBytes? ⟨(value.map fun char => UInt8.ofNat char.toNat).toArray⟩

/-- The path that a value names: a tilde stands for the directory of the user. If that is
not known, a path with a tilde leads nowhere. -/
def expandTilde? (workspace : Workspace) (value : Text) : Option Text :=
  match home? workspace with
  | some home => some (value.flatMap fun char => if char = '~' then home else [char])
  | none => if value.contains '~' then none else some value

def globalFile? (workspace : Workspace) : Option Packed :=
  match (settingsFiles workspace).findSome? (excludesFileOf? workspace) with
  | some value => (expandTilde? workspace value).map Packed.ofText
  | none => (settingsDirectory? workspace).map (Path.append · "git/ignore")

def globalRules (workspace : Workspace) : List Rule :=
  match (globalFile? workspace).bind workspace.fileContent? with
  | some content => rulesOfFile content
  | none => []

end Ignore

end BraceBalance

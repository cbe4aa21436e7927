import BraceBalance.Check.Run

/-!
# Arguments

The arguments of the command name a subcommand, its switches and its paths. They are packed,
for a path may be any bytes; the value of a format must be a text. Arguments are read from
left to right, and the first that is wrong, or that asks for help or the version,
ends the reading. A switch stands once at most on each level; the path of a settings file
may be given on every level, and the innermost counts.

Long switches begin with two hyphens and are written in full. Short ones begin with one
hyphen and may stand together. A value follows in the same argument or is the next one,
which may not begin with a hyphen unless it is nothing else.
-/

namespace BraceBalance

namespace Command

@[match_pattern]
abbrev hyphen : UInt8 := 45

@[match_pattern]
abbrev equals : UInt8 := 61

inductive Action where
  | check (options : CheckOptions)
  | showSettings (format : Text)
  | showPaths
  /-- Write a settings file, of the project or shared by all. -/
  | initSettings (shared force : Bool)

/-- What the command is asked to do, and the settings file to do it with. -/
structure Invocation where
  settingsFile : Option Packed
  action : Action

/-- Why there is nothing to do. -/
inductive Interruption where
  | usage
  | help
  | version
deriving DecidableEq

/-- Where in the command an argument stands. -/
inductive Level where
  | top
  | check
  | config
  | configShow
  | configPath
  | configInit
deriving DecidableEq

inductive Switch where
  | settingsFile
  | verbose
  | quiet
  | help
  | version
  | format
  | noTrace
  | strict
  | shared
  | force
deriving DecidableEq

def Switch.takesValue : Switch → Bool
  | settingsFile | format => true
  | _ => false

namespace Level

def subcommand? (level : Level) (name : Packed) : Option Level :=
  match level with
  | top => if name = "check" then some check else if name = "config" then some config else none
  | config =>
      if name = "show" then some configShow
      else if name = "path" then some configPath
      else if name = "init" then some configInit
      else none
  | _ => none

def hasSubcommands : Level → Bool
  | top | config => true
  | _ => false

/-- The switch that a long name stands for on a level. -/
def longSwitch? (level : Level) (name : Packed) : Option Switch :=
  if name = "config" then some .settingsFile
  else if name = "verbose" then some .verbose
  else if name = "quiet" then some .quiet
  else if name = "help" then some .help
  else match level with
    | top => if name = "version" then some .version else none
    | check =>
        if name = "format" then some .format
        else if name = "no-trace" then some .noTrace
        else if name = "strict" then some .strict
        else none
    | configShow => if name = "format" then some .format else none
    | configInit =>
        if name = "global" then some .shared
        else if name = "force" then some .force
        else none
    | config | configPath => none

/-- The switch that a letter stands for on a level. -/
def shortSwitch? (level : Level) (letter : UInt8) : Option Switch :=
  match Char.ofUInt8 letter with
  | 'c' => some .settingsFile
  | 'q' => some .quiet
  | 'h' => some .help
  | 'V' => if level = top then some .version else none
  | 'f' => if level = check || level = configShow then some .format else none
  | 'g' => if level = configInit then some .shared else none
  | _ => none

end Level

/-- What has been read: the level, the switches given on it, and the values so far. -/
structure Draft where
  level : Level
  given : List Switch
  settingsFile : Option Packed
  format : Option Text
  paths : List Packed

namespace Draft

def start : Draft := ⟨.top, [], none, none, []⟩

/-- Adds a switch and its value, if it has one. -/
def addSwitch (draft : Draft) (switch : Switch) (value : Packed) : Except Interruption Draft :=
  if switch = .help then .error .help
  else if switch = .version then .error .version
  else if draft.given.contains switch then .error .usage
  else
    let draft := { draft with given := switch :: draft.given }
    match switch with
    | .settingsFile =>
        if value.isEmpty then .error .usage else .ok { draft with settingsFile := some value }
    | .format =>
        match value.text? with
        | none => .error .usage
        | some value =>
            if draft.level = .check && (OutputFormat.ofName? value).isNone then .error .usage
            else .ok { draft with format := some value }
    | _ => .ok draft

def addWord (draft : Draft) (word : Packed) : Except Interruption Draft :=
  match draft.level.subcommand? word with
  | some level => .ok { draft with level, given := [] }
  | none =>
      if draft.level = .check && !word.isEmpty then
        .ok { draft with paths := draft.paths ++ [word] }
      else .error .usage

/-- Adds switches that stand together by their letters. Says whether the last of them
still wants a value. -/
def addLetters (draft : Draft) : Packed → Except Interruption (Draft × Option Switch)
  | [] => .ok (draft, none)
  | letter :: rest =>
      match draft.level.shortSwitch? letter with
      | none => .error .usage
      | some switch =>
          if switch.takesValue then
            match rest with
            | [] => .ok (draft, some switch)
            | equals :: value => do return (← draft.addSwitch switch value, none)
            | value => do return (← draft.addSwitch switch value, none)
          else do (← draft.addSwitch switch []).addLetters rest

/-- Adds a long switch, which begins after its hyphens. Says whether it still wants a
value. -/
def addLong (draft : Draft) (text : Packed) : Except Interruption (Draft × Option Switch) :=
  let name := text.takeWhile (· ≠ equals)
  let value? := (text.dropWhile (· ≠ equals)).tail?
  match draft.level.longSwitch? name with
  | none => .error .usage
  | some switch =>
      match value? with
      | some value =>
          if switch.takesValue then do return (← draft.addSwitch switch value, none)
          else .error .usage
      | none =>
          if switch.takesValue then .ok (draft, some switch)
          else do return (← draft.addSwitch switch [], none)

end Draft

def isSwitch (word : Packed) : Bool :=
  word.head? = some hyphen && word ≠ "-"

/-- The words name a subcommand of a subcommand of a level, and so on; the last may be the
one that tells of others. -/
def namesSubcommand (level : Level) : List Packed → Bool
  | [] => true
  | word :: rest =>
      match level.subcommand? word with
      | some inner => namesSubcommand inner rest
      | none => level.hasSubcommands && word = "help" && rest.isEmpty

/-- Adds the switches of one argument. Says whether the last of them still wants a value. -/
def Draft.addSwitches (draft : Draft) : Packed → Except Interruption (Draft × Option Switch)
  | hyphen :: hyphen :: long => draft.addLong long
  | word => draft.addLetters word.tail

/-- Reads arguments one after the other, where a switch may want the first as its value. After
two hyphens alone, all are words, and of these none is a subcommand. -/
def readWords (draft : Draft) (wordsOnly : Bool) (wanting : Option Switch) :
    List Packed → Except Interruption Draft
  | [] => if wanting.isSome then .error .usage else .ok draft
  | word :: rest =>
      match wanting with
      | some switch =>
          if isSwitch word then .error .usage
          else do readWords (← draft.addSwitch switch word) false none rest
      | none =>
          if wordsOnly then
            if draft.level.hasSubcommands then .error .usage
            else do readWords (← draft.addWord word) true none rest
          else if word = "--" then readWords draft true none rest
          else if isSwitch word then do
            let (draft, wanting) ← draft.addSwitches word
            readWords draft false wanting rest
          else if word = "help" && draft.level.hasSubcommands then
            .error (if namesSubcommand draft.level rest then .help else .usage)
          else do readWords (← draft.addWord word) false none rest

/-- Whether a check is strict by the environment. -/
def strictByEnvironment (workspace : Workspace) : Except Interruption Bool :=
  match workspace.environmentValue? "BRACECHECK_STRICT" with
  | none => .ok false
  | some value =>
      if value = "true" then .ok true
      else if value = "false" then .ok false
      else .error .usage

/-- Whether a check is strict; the environment is asked only if no switch says so. -/
def Draft.strict (draft : Draft) (workspace : Workspace) : Except Interruption Bool :=
  if draft.given.contains .strict then .ok true else strictByEnvironment workspace

def Draft.action (draft : Draft) (workspace : Workspace) : Except Interruption Action :=
  match draft.level with
  | .top | .config => .error .usage
  | .check => do
      let strict ← draft.strict workspace
      if draft.paths.isEmpty then .error .usage
      else .ok (.check
        { paths := draft.paths
          format := draft.format.bind OutputFormat.ofName?
          noTrace := draft.given.contains .noTrace
          strict })
  | .configShow => .ok (.showSettings (draft.format.getD "toml"))
  | .configPath => .ok .showPaths
  | .configInit => .ok (.initSettings (draft.given.contains .shared) (draft.given.contains .force))

def parseArguments (workspace : Workspace) (arguments : List Packed) :
    Except Interruption Invocation := do
  let draft ← readWords Draft.start false none arguments
  return { settingsFile := draft.settingsFile, action := ← draft.action workspace }

end Command

end BraceBalance

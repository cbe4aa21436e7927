import BraceBalance.Text.Basic

/-!
# System errors

What the system answers when a path or a file cannot be used, with its number and its words.
-/

namespace BraceBalance

/-- Why the system refuses a path, or what is to be done with the file there. -/
inductive SystemError where
  | notFound
  /-- The user has no right to do it. -/
  | permissionDenied
  /-- The device that holds the file fails. -/
  | inputOutput
  /-- Something stands where a directory is due and is none. -/
  | notADirectory
  /-- A directory stands where a file is due. -/
  | isADirectory
  | alreadyExists
  /-- The device that holds the file is full. -/
  | noSpace
  | tooManyLinks
  /-- The path or a name in it is too long. -/
  | nameTooLong
  | zeroInPath
deriving DecidableEq

def SystemError.message : SystemError → Text
  | notFound => "No such file or directory (os error 2)"
  | permissionDenied => "Permission denied (os error 13)"
  | inputOutput => "Input/output error (os error 5)"
  | notADirectory => "Not a directory (os error 20)"
  | isADirectory => "Is a directory (os error 21)"
  | alreadyExists => "File exists (os error 17)"
  | noSpace => "No space left on device (os error 28)"
  | tooManyLinks => "Too many levels of symbolic links (os error 40)"
  | nameTooLong => "File name too long (os error 36)"
  | zeroInPath => "file name contained an unexpected NUL byte"

/-- Why the content of a file cannot be had. -/
inductive FileError where
  | system (error : SystemError)
  | notText
  /-- A path to scan is neither a file nor a directory. -/
  | missingRoot
  /-- A settings file is named that is no file. -/
  | missingSettingsFile
  | other (message : Text)
deriving DecidableEq

def FileError.message : FileError → Text
  | system error => error.message
  | notText => "stream did not contain valid UTF-8"
  | missingRoot => "No such file or directory"
  | missingSettingsFile => "config file not found"
  | other message => message

end BraceBalance

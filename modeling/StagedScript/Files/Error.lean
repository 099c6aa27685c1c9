/-!
# Input and output errors

The ways in which reading, writing or storing can fail, and their texts.
-/

namespace StagedScript

/-- Why an input or output operation failed. -/
inductive IoError where
  | notFound
  | permissionDenied
  | notADirectory
  | isADirectory
  | noSpace
  | nameTooLong
  /-- A path holds the null character. -/
  | nullInPath
  /-- A text file holds bytes that are no text. -/
  | invalidText
  /-- A sink of limited capacity has no room left. -/
  | sinkFull
  | other (message : String)
deriving DecidableEq, Repr

namespace IoError

def message : IoError → String
  | .notFound => "No such file or directory (os error 2)"
  | .permissionDenied => "Permission denied (os error 13)"
  | .notADirectory => "Not a directory (os error 20)"
  | .isADirectory => "Is a directory (os error 21)"
  | .noSpace => "No space left on device (os error 28)"
  | .nameTooLong => "File name too long (os error 36)"
  | .nullInPath => "file name contained an unexpected NUL byte"
  | .invalidText => "stream did not contain valid UTF-8"
  | .sinkFull => "sink full"
  | .other message => message

end IoError
end StagedScript

/-!
What can go wrong with a stream or a file outside the formats themselves.
-/

namespace DenseMedium

/-- Refusals of the file system. -/
inductive SystemError where
  | notFound
  | permissionDenied
  | busy
  | notDirectory
  | isDirectory
  | invalidArgument
  | nameTooLong
  deriving DecidableEq, Repr

namespace SystemError

def code : SystemError → Nat
  | .notFound => 2
  | .permissionDenied => 13
  | .busy => 16
  | .notDirectory => 20
  | .isDirectory => 21
  | .invalidArgument => 22
  | .nameTooLong => 36

def description : SystemError → String
  | .notFound => "No such file or directory"
  | .permissionDenied => "Permission denied"
  | .busy => "Device or resource busy"
  | .notDirectory => "Not a directory"
  | .isDirectory => "Is a directory"
  | .invalidArgument => "Invalid argument"
  | .nameTooLong => "File name too long"

def message (e : SystemError) : String := s!"{e.description} (os error {e.code})"

end SystemError

inductive StreamError where
  /-- A fixed-size value was cut short by the end of the bytes. -/
  | endOfInput
  | system (e : SystemError)
  /-- A path holds a zero byte. -/
  | zeroInPath
  /-- A reader or writer stopped for a reason of its own. -/
  | stopped (reason : String)
  deriving DecidableEq, Repr

def StreamError.message : StreamError → String
  | .endOfInput => "failed to fill whole buffer"
  | .system e => e.message
  | .zeroInPath => "file name contained an unexpected NUL byte"
  | .stopped reason => reason

end DenseMedium

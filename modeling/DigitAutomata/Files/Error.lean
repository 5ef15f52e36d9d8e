/-! Why a file could not be read, written or made. -/
namespace DigitAutomata

inductive FileError
  | notFound
  | notADirectory
  | isADirectory
  | permissionDenied
  | alreadyExists
  | nameTooLong
  | nulInPath
  | invalidUtf8
  | device (message : String)
deriving DecidableEq

def FileError.message : FileError → String
  | .notFound => "No such file or directory (os error 2)"
  | .notADirectory => "Not a directory (os error 20)"
  | .isADirectory => "Is a directory (os error 21)"
  | .permissionDenied => "Permission denied (os error 13)"
  | .alreadyExists => "File exists (os error 17)"
  | .nameTooLong => "File name too long (os error 36)"
  | .nulInPath => "file name contained an unexpected NUL byte"
  | .invalidUtf8 => "stream did not contain valid UTF-8"
  | .device message => message

end DigitAutomata

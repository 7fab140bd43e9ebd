/-! Why a file or directory could not be read. -/
namespace LoopScript

inductive ReadFault
  | notFound
  | notADirectory
  | isADirectory
  | nameTooLong
  | notUtf8
  | nulInPath
  /-- Any other error, in the words it comes with. -/
  | other (reason : String)
  deriving DecidableEq, Repr

/-- The wording of the operating system, with its number of the error where it has one. -/
def ReadFault.reason : ReadFault → String
  | notFound => "No such file or directory (os error 2)"
  | notADirectory => "Not a directory (os error 20)"
  | isADirectory => "Is a directory (os error 21)"
  | nameTooLong => "File name too long (os error 36)"
  | notUtf8 => "stream did not contain valid UTF-8"
  | nulInPath => "file name contained an unexpected NUL byte"
  | other reason => reason

structure ReadError where
  path : String
  fault : ReadFault
  deriving DecidableEq, Repr

def ReadError.message (e : ReadError) : String :=
  "Failed to read " ++ e.path ++ ": " ++ e.fault.reason

end LoopScript
